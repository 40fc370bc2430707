import Stepwise.Condition.Operator
import Stepwise.Error
import Stepwise.Json.Equality
import Stepwise.Json.Printer
import Stepwise.Pattern.Match
import Stepwise.Pattern.Reading
import Stepwise.Text.Pieces

namespace Stepwise.Condition

/-- Order of two numbers or of two texts; none for anything else. -/
def compare (value : Option Json) (operand : Json) : Option Ordering :=
  match value, operand with
  | some (.num a), .num b => some (Ord.compare a.toDouble.scaled b.toDouble.scaled)
  | some (.str a), .str b => some (if a < b then .lt else if a = b then .eq else .gt)
  | _, _ => none

/-- Whether a value counts as true: not null, false, zero or the empty text. -/
def countsAsTrue : Json → Bool
  | .null => false
  | .bool value => value
  | .num n => !n.toDouble.isZero
  | .str s => s ≠ ""
  | .arr _ => true
  | .obj _ => true

/-- Whether the variable is there and like a value. -/
def isLike (value : Option Json) (operand : Json) : Bool := value.any (·.alike operand)

def isLikeAny (value : Option Json) (candidates : List Json) : Bool := candidates.any (isLike value)

def operandItems (op : Operator) (operand : Json) : Except WorkflowError (List Json) :=
  match operand with
  | .arr items => .ok items
  | _ => .error (.invalidCondition (op.key ++ " expects an array operand, got " ++ operand.compact))

def onTexts (test : String → String → Bool) (value : Option Json) (operand : Json) : Bool :=
  match value, operand with
  | some (.str v), .str o => test v o
  | _, _ => false

/-- Whether a text holds a part, or an array an item like the operand. -/
def holds (value : Option Json) (operand : Json) : Bool :=
  match value with
  | some (.str s) =>
    match operand with
    | .str o => Text.contains s o
    | _ => false
  | some (.arr items) => items.any (·.alike operand)
  | _ => false

/-- The pattern of an operand and the letters of its flags. -/
def patternOf : Json → Except WorkflowError (String × String)
  | .str pattern => .ok (pattern, "")
  | .obj fields =>
    match (Entries.get? fields "pattern").bind Json.text? with
    | some pattern => .ok (pattern, ((Entries.get? fields "flags").bind Json.text?).getD "")
    | none => .error (.invalidCondition "$regexp object operand requires a 'pattern' string")
  | other => .error (.invalidCondition ("$regexp expects a pattern, got " ++ other.compact))

/-- The letters that are flags of an operand. -/
def isPatternFlag (c : Char) : Bool := c == 'i' || c == 'm' || c == 's' || c == 'x'

def patternFlags (flags : Pattern.Flags) : List Char → Except WorkflowError Pattern.Flags
  | [] => .ok flags
  | c :: rest =>
    if isPatternFlag c then patternFlags ((flags.set? c true).getD flags) rest
    else .error (.invalidCondition ("unsupported $regexp flag '" ++ c.toString ++ "'"))

/-- The pattern is read before the value is looked at. -/
def matchesPattern (value : Option Json) (operand : Json) : Except WorkflowError Bool := do
  let (pattern, letters) ← patternOf operand
  let flags ← patternFlags {} letters.toList
  match Pattern.read flags pattern with
  | .error fault =>
    throw (.invalidCondition ("invalid $regexp pattern '" ++ pattern ++ "': " ++ fault.message))
  | .ok expr => return (value.bind Json.text?).any expr.occursIn

def Operator.test (op : Operator) (value : Option Json) (operand : Json) :
    Except WorkflowError Bool :=
  match op with
  | .eq => .ok (isLike value operand)
  | .ne => .ok (!isLike value operand)
  | .isIn => (operandItems op operand).map (isLikeAny value)
  | .notIn => (operandItems op operand).map fun candidates => !isLikeAny value candidates
  | .gt => .ok (compare value operand == some .gt)
  | .lt => .ok (compare value operand == some .lt)
  | .gte => .ok ((compare value operand).any (· != .lt))
  | .lte => .ok ((compare value operand).any (· != .gt))
  | .present => .ok (value.isSome == countsAsTrue operand)
  | .null => .ok ((value.map Json.isNull).getD true == countsAsTrue operand)
  | .regexp => matchesPattern value operand
  | .startsWith => .ok (onTexts Text.startsWith value operand)
  | .endsWith => .ok (onTexts Text.endsWith value operand)
  | .contains => .ok (holds value operand)
  | .or => (operandItems op operand).map fun _ => false

end Stepwise.Condition
