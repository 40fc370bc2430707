import Stepwise.Activity.Journal
import Stepwise.Reading.Options
import Stepwise.Workflow.Wire

namespace Stepwise

def RunContext.toJson (c : RunContext) : Json :=
  Json.record [("workflowName", .str c.workflowName), ("authToken", .str c.authToken),
    ("config", c.config.write Json.record), ("objectIds", .arr (c.objectIds.map .str)),
    ("debugMode", .bool c.debugMode)]

namespace Activity

inductive Behaviour where
  | constant (value : Json)
  /-- Answers with its input. -/
  | echo
  /-- Answers with what it is told about the run. -/
  | context
  | param (name : String)
  /-- A parameter, or a mark that it is absent. -/
  | optionalParam (name : String)
  | typedParam (name : String) (type : ParamType)
  | append (name suffix : String)
  /-- The value with the number of the invocation, null after the last one. -/
  | sequence (values : List Json)
  | pause (length : Duration) (value : Json)
  | fail (e : ActivityError)
deriving DecidableEq

namespace Behaviour

def absentMark : String := "<none>"

def appended (call : Invocation) (name suffix : String) : Except WorkflowError Json :=
  (call.typedParam name .text).map fun value => .str (value.display ++ suffix)

/-- The value of an invocation, counted from one. -/
def nth (values : List Json) (count : Nat) : Json := (values[count - 1]?).getD .null

/-- What a behaviour answers to an invocation that the journal already holds. -/
def answer (b : Behaviour) (call : Invocation) (j : Journal) : Except ActivityError Json :=
  match b with
  | .constant value => .ok value
  | .echo => .ok (.obj call.params)
  | .context => .ok call.context.toJson
  | .param name => (call.param name).mapError WorkflowError.toActivityError
  | .optionalParam name => .ok ((call.param? name).getD (.str absentMark))
  | .typedParam name type => (call.typedParam name type).mapError WorkflowError.toActivityError
  | .append name suffix => (appended call name suffix).mapError WorkflowError.toActivityError
  | .sequence values => .ok (nth values (j.timesInvoked call.activity))
  | .pause _ value => .ok value
  | .fail e => .error e

def elapsed : Behaviour → Duration
  | .pause length _ => length
  | _ => ⟨0⟩

def handler (b : Behaviour) : Handler Journal := fun call j => (⟨b.answer call j, b.elapsed⟩, j)

end Behaviour

def Registry.ofBehaviours (behaviours : Entries Behaviour) : Registry Journal :=
  behaviours.foldl (fun r e => r.register e.1 e.2.handler) {}

end Activity

end Stepwise
