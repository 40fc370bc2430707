import Stepwise.Options
import Stepwise.Reading.Source

namespace Stepwise

variable {α : Type}

def Duration.read? (S : Source α) (node : α) : Option Duration :=
  match S.milliseconds? node with
  | some n => some ⟨n⟩
  | none => (S.literal? node).bind fun text => (Duration.parse text).toOption

def RetryPolicy.layout : List FieldName :=
  [⟨"initialInterval", ["initialinterval", "initial_interval"]⟩,
    ⟨"backoffCoefficient", ["backoffcoefficient", "backoff_coefficient"]⟩,
    ⟨"maximumAttempts", ["maximumattempts", "maximum_attempts"]⟩,
    ⟨"maximumInterval", ["maximuminterval", "maximum_interval"]⟩,
    ⟨"nonRetryableErrorTypes", ["nonretryableerrortypes", "non_retryable_error_types"]⟩]

def RetryPolicy.read? (S : Source α) (node : α) : Option RetryPolicy := do
  let r ← S.record? layout node
  return {
    initialInterval := ← S.optional r "initialInterval" (Duration.read? S)
    backoffCoefficient := ← S.optional r "backoffCoefficient" S.floating?
    maximumAttempts := ← S.optional r "maximumAttempts" S.attempts?
    maximumInterval := ← S.optional r "maximumInterval" (Duration.read? S)
    nonRetryableErrorTypes := ← S.optional r "nonRetryableErrorTypes" (S.list? S.text?) }

def ActivityOptions.layout : List FieldName :=
  [⟨"startToCloseTimeout", ["starttoclosetimeout", "start_to_close_timeout"]⟩, ⟨"retry", []⟩]

def ActivityOptions.read? (S : Source α) (node : α) : Option ActivityOptions := do
  let r ← S.record? layout node
  return {
    startToCloseTimeout := ← S.optional r "startToCloseTimeout" (Duration.read? S)
    retry := ← S.optional r "retry" (RetryPolicy.read? S) }

def Json.whenSet {β : Type} (name : String) (write : β → Json) : Option β → List (String × Json)
  | some value => [(name, write value)]
  | none => []

def Duration.toJson (d : Duration) : Json := .str d.format

/-- What is no number is written as null. -/
def Floating.toJson : Floating → Json
  | .finite d => .num (.float d)
  | _ => .null

/-- Writes a policy with the given way to make an object of fields in their order. -/
def RetryPolicy.write (record : List (String × Json) → Json) (p : RetryPolicy) : Json :=
  record (Json.whenSet "initialInterval" Duration.toJson p.initialInterval ++
    Json.whenSet "backoffCoefficient" Floating.toJson p.backoffCoefficient ++
    Json.whenSet "maximumAttempts" Json.ofNat p.maximumAttempts ++
    Json.whenSet "maximumInterval" Duration.toJson p.maximumInterval ++
    Json.whenSet "nonRetryableErrorTypes" (fun types => .arr (types.map .str))
      p.nonRetryableErrorTypes)

def ActivityOptions.write (record : List (String × Json) → Json) (o : ActivityOptions) : Json :=
  record (Json.whenSet "startToCloseTimeout" Duration.toJson o.startToCloseTimeout ++
    Json.whenSet "retry" (RetryPolicy.write record) o.retry)

def ActivityOptions.toJson (o : ActivityOptions) : Json := o.write Json.record

end Stepwise
