import Stepwise.Condition.Test

namespace Stepwise.Condition

/-- The first key that is no operator is an error. -/
def checkKeys : List (String × Json) → Except WorkflowError Unit
  | [] => .ok ()
  | (key, _) :: rest =>
    match Operator.ofKey? key with
    | some _ => checkKeys rest
    | none => .error (.unknownCondition key)

def notAnObject (condition : Json) : WorkflowError :=
  .invalidCondition ("condition must be an object of operators, got " ++ condition.compact)

mutual

/-- Whether a value meets a condition, an object of operators that must all hold. Its keys are
checked before any of its operators is tested. -/
def eval (value : Option Json) : Json → Except WorkflowError Bool
  | .obj fields => (checkKeys fields).bind fun _ => evalAll value fields
  | condition => .error (notAnObject condition)

def evalOne (value : Option Json) (key : String) : Json → Except WorkflowError Bool
  | .arr branches =>
    match Operator.ofKey? key with
    | none => .error (.unknownCondition key)
    | some .or => evalAny value branches
    | some op => op.test value (.arr branches)
  | operand =>
    match Operator.ofKey? key with
    | none => .error (.unknownCondition key)
    | some op => op.test value operand

/-- Whether a value passes all operators, up to the first that it does not pass. -/
def evalAll (value : Option Json) : List (String × Json) → Except WorkflowError Bool
  | [] => .ok true
  | (key, operand) :: rest =>
    (evalOne value key operand).bind fun passed => if passed then evalAll value rest else .ok false

/-- Whether a value meets one of several conditions, up to the first that it meets. -/
def evalAny (value : Option Json) : List Json → Except WorkflowError Bool
  | [] => .ok false
  | branch :: rest =>
    (eval value branch).bind fun met => if met then .ok true else evalAny value rest

end

end Stepwise.Condition
