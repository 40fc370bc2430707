import Stepwise.Duration
import Stepwise.Json.Basic

namespace Stepwise

inductive Severity where
  /-- The workflow cannot run. -/
  | error
  /-- The workflow runs, perhaps not as meant. -/
  | warning
deriving DecidableEq, Repr

def Severity.name : Severity → String
  | .error => "error"
  | .warning => "warning"

structure Diagnostic where
  location : Option String
  message : String
  severity : Severity
  rule : String
deriving DecidableEq, Repr

namespace Diagnostic

def isError (d : Diagnostic) : Bool := d.severity == .error

def isWarning (d : Diagnostic) : Bool := d.severity == .warning

def text (d : Diagnostic) : String :=
  let place :=
    match d.location with
    | some location => " at " ++ location
    | none => ""
  d.severity.name ++ place ++ ": " ++ d.message ++ " [" ++ d.rule ++ "]"

end Diagnostic

inductive WorkflowError where
  | paramNotFound (activity param : String)
  | unknownCondition (key : String)
  | invalidCondition (message : String)
  | unknownProjection (key : String)
  | invalidProjection (message : String)
  | unknownProvider (provider : String)
  | unknownActivity (activity : String)
  | activityFailed (activity errorType message : String) (nonRetryable : Bool)
  | timeout (activity : String) (after : Duration)
  | fetchFailed (provider message : String)
  | validation (diagnostics : List Diagnostic)
  | invalidState (message : String)
deriving DecidableEq, Repr

namespace WorkflowError

/-- A workflow text that cannot be read. -/
def unreadable (message : String) : WorkflowError :=
  .validation [⟨none, message, .error, "parse"⟩]

def code : WorkflowError → String
  | .paramNotFound .. => "PARAM_NOT_FOUND"
  | .unknownCondition .. => "UNKNOWN_CONDITION"
  | .invalidCondition .. => "INVALID_CONDITION"
  | .unknownProjection .. => "UNKNOWN_PROJECTION"
  | .invalidProjection .. => "INVALID_PROJECTION"
  | .unknownProvider .. => "UNKNOWN_PROVIDER"
  | .unknownActivity .. => "UNKNOWN_ACTIVITY"
  | .activityFailed .. => "ACTIVITY_FAILED"
  | .timeout .. => "ACTIVITY_TIMEOUT"
  | .fetchFailed .. => "FETCH_FAILED"
  | .validation .. => "VALIDATION_ERROR"
  | .invalidState .. => "INVALID_STATE"

def message : WorkflowError → String
  | .paramNotFound activity param =>
    "Parameter '" ++ param ++ "' not found for activity '" ++ activity ++ "'"
  | .unknownCondition key => "Unknown condition operator '" ++ key ++ "'"
  | .invalidCondition message => "Invalid condition: " ++ message
  | .unknownProjection key => "Unknown projection operator '" ++ key ++ "'"
  | .invalidProjection message => "Invalid projection: " ++ message
  | .unknownProvider provider => "No fetch provider registered for type '" ++ provider ++ "'"
  | .unknownActivity activity => "No activity registered with name '" ++ activity ++ "'"
  | .activityFailed activity errorType message _ =>
    "Activity '" ++ activity ++ "' failed (" ++ errorType ++ "): " ++ message
  | .timeout activity after => "Activity '" ++ activity ++ "' timed out after " ++ after.describe
  | .fetchFailed provider message => "Fetch from provider '" ++ provider ++ "' failed: " ++ message
  | .validation diagnostics =>
    "Workflow validation failed: " ++ String.intercalate "; " (diagnostics.map Diagnostic.text)
  | .invalidState message => "Invalid interpreter state: " ++ message

/-- Whether the failed work may succeed when it is tried again. -/
def mayRetry : WorkflowError → Bool
  | .activityFailed _ _ _ nonRetryable => !nonRetryable
  | .timeout .. => true
  | .fetchFailed .. => true
  | _ => false

/-- The fields of a report about the failure; a timeout counts milliseconds in 64 bits. -/
def metadata : WorkflowError → Entries Json
  | .paramNotFound activity param =>
    Entries.ofList [("activity", .str activity), ("param", .str param)]
  | .unknownCondition key => [("operator", .str key)]
  | .unknownProjection key => [("operator", .str key)]
  | .unknownProvider provider => [("provider", .str provider)]
  | .fetchFailed provider _ => [("provider", .str provider)]
  | .unknownActivity activity => [("activity", .str activity)]
  | .activityFailed activity errorType _ _ =>
    Entries.ofList [("activity", .str activity), ("errorType", .str errorType)]
  | .timeout activity after =>
    Entries.ofList [("activity", .str activity),
      ("timeoutMs", .ofNat (after.milliseconds % Text.Numeral.wordBound))]
  | .validation diagnostics => [("rules", .arr (diagnostics.map fun d => .str d.rule))]
  | .invalidCondition _ => []
  | .invalidProjection _ => []
  | .invalidState _ => []

end WorkflowError

end Stepwise
