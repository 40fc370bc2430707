import Stepwise.Error
import Stepwise.Json.Printer
import Stepwise.Text.Quoted
import Stepwise.Workflow.Basic

namespace Stepwise.Activity

structure Invocation where
  activity : String
  params : Entries Json
  context : RunContext
deriving DecidableEq

/-- The types that a parameter can be asked for. -/
inductive ParamType where
  | text
  | texts
  | flag
  | float
  /-- A whole number below `2^32`. -/
  | count
  /-- A whole number of 64 bits with a sign. -/
  | integer
deriving DecidableEq, Repr

namespace ParamType

/-- What a message says that a type wants. -/
def wanted : ParamType → String
  | .text => "a string"
  | .texts => "a sequence"
  | .flag => "a boolean"
  | .float => "f64"
  | .count => "u32"
  | .integer => "i64"

def admits : ParamType → Int → Bool
  | .count, n => 0 ≤ n && n < Text.Numeral.halfWordBound
  | .integer, n => -(Text.Numeral.signedBound : Int) ≤ n && n < Text.Numeral.signedBound
  | _, _ => false

end ParamType

inductive Mismatch where
  | type (value : Json) (wanted : ParamType)
  | range (value : Int) (wanted : ParamType)
deriving DecidableEq

/-- What a message says that a value is. -/
def portrait : Json → String
  | .null => "null"
  | .bool value => "boolean `" ++ (if value then "true" else "false") ++ "`"
  | .num (.int n) => "integer `" ++ Text.Numeral.writeInt n ++ "`"
  | .num (.float d) => "floating point `" ++ d.write ++ "`"
  | .str s => "string " ++ Text.Quoted.write s
  | .arr _ => "sequence"
  | .obj _ => "map"

def Mismatch.message : Mismatch → String
  | .type value wanted => "invalid type: " ++ portrait value ++ ", expected " ++ wanted.wanted
  | .range value wanted =>
    "invalid value: " ++ portrait (.num (.int value)) ++ ", expected " ++ wanted.wanted

namespace ParamType

def readText (value : Json) : Except Mismatch Json :=
  match value with
  | .str s => .ok (.str s)
  | other => .error (.type other .text)

/-- A value as a value of a type; a number that is asked for as a float becomes one. -/
def convert : ParamType → Json → Except Mismatch Json
  | .text, value => readText value
  | .texts, .arr items => (items.mapM readText).map .arr
  | .flag, .bool value => .ok (.bool value)
  | .float, .num n => .ok (.num (.float n.toDouble))
  | .count, .num (.int n) =>
    if count.admits n then .ok (.num (.int n)) else .error (.range n .count)
  | .integer, .num (.int n) =>
    if integer.admits n then .ok (.num (.int n)) else .error (.range n .integer)
  | wanted, value => .error (.type value wanted)

end ParamType

namespace Invocation

/-- A parameter that is there and not null. -/
def param? (call : Invocation) (name : String) : Option Json :=
  (call.params.get? name).filter fun value => !value.isNull

def param (call : Invocation) (name : String) : Except WorkflowError Json :=
  match call.param? name with
  | some value => .ok value
  | none => .error (.paramNotFound call.activity name)

/-- A parameter that no other try can mend. -/
def invalidParam (call : Invocation) (name : String) (fault : Mismatch) : WorkflowError :=
  .activityFailed call.activity "InvalidParam" ("parameter '" ++ name ++ "': " ++ fault.message)
    true

def typedParam (call : Invocation) (name : String) (type : ParamType) : Except WorkflowError Json :=
  (call.param name).bind fun value => (type.convert value).mapError (call.invalidParam name)

end Invocation

end Stepwise.Activity
