import Stepwise.CommandLine.Arguments
import Stepwise.Engine
import Stepwise.Settings.Load

namespace Stepwise.CommandLine

inductive Failure where
  | settings (fault : Settings.Fault)
  | unreadableFile (file : String)
  | notAWorkflow (file : String) (cause : WorkflowError)
  | errorsFound (file : String) (count : Nat)
deriving DecidableEq, Repr

namespace Failure

def message : Failure → String
  | .settings fault => fault.message
  | .unreadableFile file => "Failed to read workflow file " ++ file
  | .notAWorkflow file _ => "Failed to parse workflow file " ++ file
  | .errorsFound file count => file ++ ": " ++ Text.Numeral.write count ++ " error(s) found"

def cause? : Failure → Option WorkflowError
  | .notAWorkflow _ cause => some cause
  | _ => none

def report (f : Failure) : String :=
  match f.cause? with
  | some cause => f.message ++ ": " ++ cause.message
  | none => f.message

end Failure

structure Reply where
  lines : List String := []
  failure : Option Failure := none
deriving DecidableEq, Repr

def Reply.output (r : Reply) : String := String.join (r.lines.map (· ++ "\n"))

def Reply.ofFailure (f : Failure) : Reply := ⟨[], some f⟩

/-- An engine that runs no activities. -/
def engineOf (settings : Settings) : Engine Unit where
  execute := ({} : Activity.Registry Unit).executor
  providers := .builtin
  store := Engine.noStore
  options := settings.registry
  defaults := settings.defaults

/-- The verdict on a workflow without errors. -/
def verdict (file : String) (w : Workflow) (warnings : Nat) : String :=
  file ++ ": workflow '" ++ w.name ++ "' is valid (" ++ Text.Numeral.write warnings ++
    " warning(s))"

/-- Shows all findings about a workflow; errors make the command fail. -/
def validate (engine : Engine Unit) (file : String) (w : Workflow) : Reply :=
  let findings := Validation.findings engine.rules w
  let lines := findings.map Diagnostic.text
  let errors := findings.countP Diagnostic.isError
  if errors = 0 then ⟨lines ++ [verdict file w (findings.countP Diagnostic.isWarning)], none⟩
  else ⟨lines, some (.errorsFound file errors)⟩

def showOptions (engine : Engine Unit) (activity : String) (w : Option Workflow) : Reply :=
  ⟨[((engine.optionsOf activity w).write Json.obj).pretty], none⟩

def ruleWidth : Nat := 22

def ruleLine (rule : Validation.Rule) : String :=
  rule.id ++ String.ofList (List.replicate (ruleWidth - rule.id.length) ' ') ++ " " ++
    rule.description

def listRules (engine : Engine Unit) : Reply := ⟨engine.rules.map ruleLine, none⟩

variable {m : Type → Type} [Monad m]

def loadWorkflow (s : Surroundings m) (file : String) : m (Except Failure Workflow) := do
  match ← s.readFile file with
  | none => return .error (.unreadableFile file)
  | some text => return (Workflow.parse text).mapError (.notAWorkflow file)

def withWorkflow (s : Surroundings m) (file : String) (reply : Workflow → Reply) : m Reply := do
  match ← loadWorkflow s file with
  | .error failure => return .ofFailure failure
  | .ok w => return reply w

def perform (s : Surroundings m) (engine : Engine Unit) : Command → m Reply
  | .validate file => withWorkflow s file (validate engine file)
  | .options activity none => pure (showOptions engine activity none)
  | .options activity (some file) =>
    withWorkflow s file fun w => showOptions engine activity (some w)
  | .rules => pure (listRules engine)

def run (s : Surroundings m) (request : Request) : m Reply := do
  match ← Settings.load s request.arguments with
  | .error fault => return .ofFailure (.settings fault)
  | .ok settings => perform s (engineOf settings) request.command

end Stepwise.CommandLine
