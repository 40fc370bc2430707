import Stepwise.Reading.Options
import Stepwise.Toml.Document
import Stepwise.Toml.Source
import Stepwise.Workflow.Wire

namespace Stepwise

structure Settings where
  server : Services := {}
  defaults : ActivityOptions := {}
  overrides : Entries ActivityOptions := []

namespace Settings

inductive Fault where
  /-- A document is no settings document. -/
  | unreadable
  /-- The file is not there, or is no document. -/
  | notLoaded
  /-- The layers together are no settings. -/
  | malformed
deriving DecidableEq, Repr

def Fault.message : Fault → String
  | .unreadable => "Failed to parse configuration"
  | .notLoaded => "Failed to load configuration"
  | .malformed => "Invalid configuration"

def registry (s : Settings) : OptionsRegistry := ⟨s.overrides⟩

/-- The options that an activity runs with when its workflow sets none. -/
def optionsOf (s : Settings) (activity : String) : ActivityOptions :=
  s.registry.optionsFor activity s.defaults

variable {α : Type}

/-- The options of activities, as the settings without a server. -/
def readActivities? (S : Source α) (node : α) : Option Settings := do
  let r ← S.record? [⟨"defaults", []⟩, ⟨"overrides", []⟩] node
  return {
    defaults := ← Source.defaulted r "defaults" {} (ActivityOptions.read? S)
    overrides := ← Source.defaulted r "overrides" [] (S.map? (ActivityOptions.read? S)) }

def read? (S : Source α) (node : α) : Option Settings := do
  let r ← S.record? [⟨"server", []⟩, ⟨"activities", []⟩] node
  let server ← Source.defaulted r "server" {} (Services.read? S)
  let activities ← Source.defaulted r "activities" {} (readActivities? S)
  return { activities with server := server }

def parse (text : String) : Except Fault Settings :=
  match (Toml.parse? text).bind (read? Toml.source) with
  | some settings => .ok settings
  | none => .error .unreadable

def toJson (s : Settings) : Json :=
  Json.record [("server", s.server.write Json.record),
    ("activities", Json.record [("defaults", s.defaults.toJson),
      ("overrides", .obj (s.overrides.mapValues ActivityOptions.toJson))])]

end Settings

end Stepwise
