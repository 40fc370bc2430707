import Stepwise.Activity.Invocation
import Stepwise.Options

namespace Stepwise

/-- How an activity says that it failed. -/
structure ActivityError where
  errorType : String
  message : String
  /-- Set when no other try can succeed, whatever the options say. -/
  nonRetryable : Bool := false
deriving DecidableEq, Repr

namespace ActivityError

def text (e : ActivityError) : String := e.errorType ++ ": " ++ e.message

/-- The type of a failure that has none of its own. -/
def defaultType : String := "Error"

/-- A failure told by its causes, outermost first. -/
def ofCauses (causes : List String) : ActivityError :=
  ⟨defaultType, String.intercalate ": " causes, false⟩

end ActivityError

/-- A failure of a workflow as the failure of the activity that ran into it. -/
def WorkflowError.toActivityError (e : WorkflowError) : ActivityError :=
  ⟨e.code, e.message, !e.mayRetry⟩

namespace Activity

/-- What a handler answers, and how long it takes. -/
structure Outcome where
  result : Except ActivityError Json
  elapsed : Duration := ⟨0⟩

abbrev Handler (σ : Type) := Invocation → σ → Outcome × σ

abbrev Executor (σ : Type) := Invocation → ActivityOptions → σ → Except WorkflowError Json × σ

/-- The handlers by their names. The executor over them holds a handler to the timeout of the
options. -/
structure Registry (σ : Type) where
  handlers : Entries (Handler σ) := []

namespace Registry

variable {σ : Type}

def register (r : Registry σ) (activity : String) (handler : Handler σ) : Registry σ :=
  ⟨r.handlers.insert activity handler⟩

def contains (r : Registry σ) (activity : String) : Bool := r.handlers.contains activity

def names (r : Registry σ) : List String := r.handlers.keys

def get (r : Registry σ) (activity : String) : Except WorkflowError (Handler σ) :=
  match r.handlers.get? activity with
  | some handler => .ok handler
  | none => .error (.unknownActivity activity)

end Registry

/-- Whether a handler takes longer than the options allow. -/
def Outcome.expires (outcome : Outcome) (options : ActivityOptions) : Option Duration :=
  options.startToCloseTimeout.filter fun timeout =>
    timeout.milliseconds < outcome.elapsed.milliseconds

/-- The failure of an activity; it is final when the handler or the options say so. -/
def failure (activity : String) (options : ActivityOptions) (e : ActivityError) : WorkflowError :=
  .activityFailed activity e.errorType e.message
    (e.nonRetryable || options.forbidsRetry e.errorType)

/-- What becomes of an answer under the options. -/
def Outcome.settle (outcome : Outcome) (activity : String) (options : ActivityOptions) :
    Except WorkflowError Json :=
  match outcome.expires options with
  | some timeout => .error (.timeout activity timeout)
  | none => outcome.result.mapError (failure activity options)

def Registry.executor {σ : Type} (r : Registry σ) : Executor σ := fun call options s =>
  match r.get call.activity with
  | .error e => (.error e, s)
  | .ok handler =>
    let (outcome, t) := handler call s
    (outcome.settle call.activity options, t)

end Activity

end Stepwise
