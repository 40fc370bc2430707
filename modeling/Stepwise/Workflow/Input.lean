import Stepwise.Vars
import Stepwise.Workflow.Basic

namespace Stepwise

/-- The imported parameters: variables that are there, or the defaults of those that are not. -/
def Vars.importing (vars : Vars) (imports : Imports) : Entries Json :=
  imports.entries.foldl (fun input entry =>
    match (vars.get? entry.path).or entry.default with
    | some value => input.insert entry.param value
    | none => input) []

structure RecordQuery where
  query : Entries Json := []
  limit : Option Nat := none
  select : Option String := none
deriving DecidableEq

/-- The query of a fetch with its templates resolved. -/
def Lookup.payload (spec : Lookup) (vars : Vars) : RecordQuery :=
  ⟨vars.resolveFields spec.query, spec.limit, spec.select⟩

end Stepwise
