import Stepwise.Error
import Stepwise.Workflow.Basic

namespace Stepwise.Validation

/-- A rule names itself, says what it is about, and finds what breaks it. -/
structure Rule where
  id : String
  description : String
  findings : Workflow → List Diagnostic

def placeOf (index : Nat) (step : Step) : String :=
  "activities[" ++ Text.Numeral.write index ++ "](" ++ step.name ++ ")"

def error (rule message location : String) : Diagnostic := ⟨some location, message, .error, rule⟩

def warning (rule message location : String) : Diagnostic :=
  ⟨some location, message, .warning, rule⟩

/-- What is found at each step, with the location of the step. -/
def atSteps (find : String → Step → List Diagnostic) (w : Workflow) : List Diagnostic :=
  w.steps.zipIdx.flatMap fun (step, index) => find (placeOf index step) step

def findings (rules : List Rule) (w : Workflow) : List Diagnostic :=
  rules.flatMap fun r => r.findings w

/-- The warnings about a workflow, unless there are errors. -/
def check (rules : List Rule) (w : Workflow) : Except WorkflowError (List Diagnostic) :=
  let found := findings rules w
  match found.filter Diagnostic.isError with
  | [] => .ok (found.filter fun d => !d.isError)
  | errors => .error (.validation errors)

end Stepwise.Validation
