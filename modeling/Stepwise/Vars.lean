import Stepwise.Condition.Evaluation
import Stepwise.Template

namespace Stepwise

/-- The variables of a run, which are read and written along dotted paths, spliced into templates,
imported into the input of a step and tested by its guard. -/
structure Vars where
  entries : Entries Json
deriving DecidableEq

namespace Vars

def empty : Vars := ⟨[]⟩

/-- The variable that holds the ids a run is about. -/
def objectIds : String := "objectIds"

/-- The variable that holds the first of them. -/
def objectId : String := "objectId"

def splitPath (path : String) : String × Option String :=
  let (head, rest) := Text.splitOnce '.' path.toList
  (String.ofList head, rest.map String.ofList)

def get? (vars : Vars) (path : String) : Option Json :=
  match splitPath path with
  | (head, none) => vars.entries.get? head
  | (head, some rest) => (vars.entries.get? head).bind (·.atPath? rest)

def contains (vars : Vars) (path : String) : Bool := (vars.get? path).isSome

/-- Writes a value along a path; none when an array would have to grow beyond every size. -/
def set? (vars : Vars) (path : String) (value : Json) : Option Vars :=
  match splitPath path with
  | (head, none) => some ⟨vars.entries.insert head value⟩
  | (head, some rest) =>
    (((vars.entries.get? head).getD .null).setAtPath? rest value).map fun root =>
      ⟨vars.entries.insert head root⟩

def toJson (vars : Vars) : Json := .obj vars.entries

/-- The variables a run starts with: defaults, the caller's values over them, and the ids. -/
def initial (defaults overrides : Entries Json) (ids : List String) : Vars :=
  let bound := defaults.overlay overrides
  let first :=
    match ids with
    | [] => bound.erase objectId
    | id :: _ => bound.insert objectId (.str id)
  ⟨first.insert objectIds (.arr (ids.map .str))⟩

def resolve (vars : Vars) (template : Json) : Json := Template.resolve vars.get? template

def resolveFields (vars : Vars) (fields : Entries Json) : Entries Json :=
  Template.resolveFields vars.get? fields

def resolveText (vars : Vars) (text : String) : String := Template.interpolate vars.get? text

/-- Whether every variable meets its condition, up to the first that does not. -/
def meets (vars : Vars) : List (String × Json) → Except WorkflowError Bool
  | [] => .ok true
  | (path, condition) :: rest =>
    (Condition.eval (vars.get? path) (vars.resolve condition)).bind fun met =>
      if met then meets vars rest else .ok false

end Vars

end Stepwise
