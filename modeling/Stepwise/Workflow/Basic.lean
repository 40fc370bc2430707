import Stepwise.Json.Basic
import Stepwise.Options

namespace Stepwise

/-- Where an imported value comes from. -/
inductive ImportOrigin where
  | variable (path : String)
  | withDefault (path : String) (default : Option Json)
deriving DecidableEq

namespace ImportOrigin

def path : ImportOrigin → String
  | .variable path => path
  | .withDefault path _ => path

def default? : ImportOrigin → Option Json
  | .variable _ => none
  | .withDefault _ default => default

end ImportOrigin

/-- The variables that a step takes into its input. -/
inductive Imports where
  /-- Each under its own name. -/
  | names (names : List String)
  /-- Under the names of parameters. -/
  | mapping (sources : Entries ImportOrigin)
deriving DecidableEq

structure Import where
  param : String
  path : String
  default : Option Json
deriving DecidableEq

def Imports.entries : Imports → List Import
  | .names list => list.map fun name => ⟨name, name, none⟩
  | .mapping sources => sources.map fun e => ⟨e.1, e.2.path, e.2.default?⟩

inductive WhenMissing where
  | ignore
  | throw
deriving DecidableEq, Repr

/-- A query for records that become a parameter. -/
structure Lookup where
  provider : String
  query : Entries Json := []
  limit : Option Nat := none
  select : Option String := none
  whenMissing : WhenMissing := .ignore
deriving DecidableEq

structure Step where
  /-- The activity to run. -/
  name : String
  title : Option String := none
  description : Option String := none
  params : Entries Json := []
  /-- Where the result goes; without it the result is dropped. -/
  output : Option String := none
  /-- The guard: a condition for each of some variables. -/
  condition : Option (Entries Json) := none
  imports : Option Imports := none
  fetch : Entries Lookup := []
  projection : Option (Entries Json) := none
  /-- Without effect, as steps always run one after the other. -/
  parallel : Option Bool := none
  /-- Without effect, as steps always run one after the other. -/
  await : Option String := none
deriving DecidableEq

/-- The title, or the name of the activity. -/
def Step.label (step : Step) : String := step.title.getD step.name

/-- An ordered list of steps, each of which runs one activity on an input that it puts together from
variables, fetched records and parameters. -/
structure Workflow where
  name : String
  description : Option String := none
  steps : List Step
  vars : Entries Json := []
  /-- The variable that the workflow returns. -/
  result : Option String := none
  options : Option ActivityOptions := none
deriving DecidableEq

namespace Workflow

/-- The variable that a workflow returns when it names none. -/
def defaultResult : String := "result"

def resultPath (w : Workflow) : String := w.result.getD defaultResult

end Workflow

/-- Where the remote services are. -/
structure Services where
  studioUrl : String := ""
  storeUrl : String := ""
deriving DecidableEq

structure Payload where
  workflow : Workflow
  vars : Entries Json := []
  objectIds : Option (List String) := none
  authToken : String
  config : Services := {}
  debugMode : Bool := false
deriving DecidableEq

/-- What every activity and provider of a run is told about it. -/
structure RunContext where
  workflowName : String
  authToken : String
  config : Services := {}
  objectIds : List String := []
  debugMode : Bool := false
deriving DecidableEq

inductive StepOutcome where
  | executed
  | skipped
deriving DecidableEq, Repr

structure StepTrace where
  name : String
  output : Option String
  status : StepOutcome
deriving DecidableEq, Repr

end Stepwise
