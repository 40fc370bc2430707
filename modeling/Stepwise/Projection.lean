import Stepwise.Vars

namespace Stepwise.Projection

inductive Operator where
  | element
  | eval
deriving DecidableEq, Repr

namespace Operator

def all : List Operator := [.element, .eval]

def key : Operator → String
  | .element => "$element"
  | .eval => "$eval"

def ofKey? (key : String) : Option Operator := all.find? fun op => op.key = key

@[simp] theorem ofKey?_key (op : Operator) : ofKey? op.key = some op := by
  cases op <;> rfl

end Operator

def resultName : String := "#"

/-- The criterion that is about an element itself and not about one of its fields. -/
def elementItself : String := "_"

def scopeOf (params : Entries Json) (result : Json) : Vars := ⟨params.insert resultName result⟩

/-- The value of `$eval`: what a path leads to, and every other operand itself. -/
def evaluate (scope : Vars) (operand : Json) : Json :=
  match operand with
  | .str path => (scope.get? (Text.trim path)).getD .null
  | other => other

/-- A criterion as a condition: anything but an object is to be equal. -/
def criterion (c : Json) : Json :=
  match c with
  | .obj fields => .obj fields
  | literal => .obj [(Condition.Operator.eq.key, literal)]

/-- Whether an element meets all criteria, up to the first that it does not meet. -/
def elementMeets (item : Json) : List (String × Json) → Except WorkflowError Bool
  | [] => .ok true
  | (key, c) :: rest =>
    let target := if key = elementItself then some item else item.atPath? key
    (Condition.eval target (criterion c)).bind fun met =>
      if met then elementMeets item rest else .ok false

/-- The first element that meets the criteria. -/
def firstMeeting (criteria : Entries Json) : List Json → Except WorkflowError (Option Json)
  | [] => .ok none
  | item :: rest =>
    (elementMeets item criteria).bind fun met =>
      if met then .ok (some item) else firstMeeting criteria rest

def source? (scope : Vars) : Option Json → Option (List Json)
  | some (.arr items) => some items
  | some (.str path) => (scope.get? (Text.trim path)).bind Json.items?
  | _ => none

/-- The criteria of `$element`; none at all stand for all elements. -/
def criteriaOf : Option Json → Except WorkflowError (Entries Json)
  | some (.obj criteria) => .ok criteria
  | none => .ok []
  | some .null => .ok []
  | some other =>
    .error (.invalidProjection ("$element.where must be an object, got " ++ other.compact))

def pick (args : Entries Json) (item : Json) : Json :=
  match (args.get? "field").bind Json.text? with
  | some path => (item.atPath? path).getD .null
  | none => item

def element (scope : Vars) (operand : Json) : Except WorkflowError Json := do
  match operand with
  | .obj args =>
    let fallback := (Entries.get? args "else").getD .null
    match source? scope (Entries.get? args "from") with
    | none => return fallback
    | some items =>
      let criteria ← criteriaOf (Entries.get? args "where")
      match ← firstMeeting criteria items with
      | some item => return pick args item
      | none => return fallback
  | other => throw (.invalidProjection ("$element expects an object, got " ++ other.compact))

def isOperatorKey (key : String) : Bool := Text.startsWith key "$"

/-- An object with an operator among its keys has to have that key only. -/
def tooManyKeys (fields : Entries Json) : String :=
  "expected a single operator, found keys [" ++ String.intercalate ", " fields.keys ++ "]"

def node (scope : Vars) (value : Json) : Except WorkflowError Json :=
  match value with
  | .obj fields =>
    if (Entries.keys fields).any isOperatorKey then
      match fields with
      | [(key, operand)] =>
        match Operator.ofKey? key with
        | none => .error (.unknownProjection key)
        | some .element => element scope operand
        | some .eval => .ok (evaluate scope operand)
      | _ => .error (.invalidProjection (tooManyKeys fields))
    else .ok value
  | other => .ok other

/-- Says in the message which field a projection failed at. -/
def inField (field : String) : WorkflowError → WorkflowError
  | .invalidProjection message => .invalidProjection ("field '" ++ field ++ "': " ++ message)
  | other => other

def fieldsIn (scope : Vars) : List (String × Json) → Except WorkflowError (Entries Json)
  | [] => .ok []
  | (field, spec) :: rest =>
    ((node scope (scope.resolve spec)).mapError (inField field)).bind fun value =>
      (fieldsIn scope rest).map fun values => (field, value) :: values

/-- Reshapes the result of an activity into the fields that a workflow keeps. A field is a literal
with templates, or an object with one operator; both look into a scope of the input of the activity,
with the result in it. -/
def project (spec params : Entries Json) (result : Json) : Except WorkflowError (Entries Json) :=
  fieldsIn (scopeOf params result) spec

end Stepwise.Projection
