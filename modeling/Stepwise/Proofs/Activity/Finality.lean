import Stepwise.Proofs.Machine.Retry
import Stepwise.Proofs.Options

namespace Stepwise

/-- The options list a type of error as final. -/
def ActivityOptions.Lists (options : ActivityOptions) (type : String) : Prop :=
  ∃ types, options.setting? .nonRetryableErrorTypes = some types ∧ type ∈ types

/-- The time that a handler takes is within the timeout of the options, if there is one. -/
def ActivityOptions.Allows (options : ActivityOptions) (elapsed : Duration) : Prop :=
  ∀ timeout, options.startToCloseTimeout = some timeout →
    elapsed.milliseconds ≤ timeout.milliseconds

/-- Marks an error as final. -/
def ActivityError.mark (e : ActivityError) : ActivityError := { e with nonRetryable := true }

namespace Activity

variable {σ : Type} {r : Registry σ} {call : Invocation} {options stricter : ActivityOptions}
  {s t : σ} {e : ActivityError} {report : WorkflowError} {activity : String}
  {marks : Invocation → ActivityError → Bool}

/-- The activity has a handler that answers in time, with an error. -/
def Registry.Raises (r : Registry σ) (call : Invocation) (options : ActivityOptions) (s : σ)
    (e : ActivityError) (t : σ) : Prop :=
  ∃ handler elapsed, r.get call.activity = .ok handler ∧
    handler call s = (⟨.error e, elapsed⟩, t) ∧ options.Allows elapsed

/-- A report of an activity that failed with an error of some type and message. The activity may be
tried again just if there is hope. -/
structure Tells (report : WorkflowError) (activity type message : String) (hope : Prop) : Prop where
  failed : ∃ final, report = .activityFailed activity type message final
  mayRetry_iff : report.mayRetry = true ↔ hope

/-- The error, marked as final if it is one of those to be marked. -/
def marked (marks : Invocation → ActivityError → Bool) (call : Invocation) (e : ActivityError) :
    ActivityError :=
  if marks call e then e.mark else e

/-- The handler that marks some of its errors. -/
def Handler.marking (marks : Invocation → ActivityError → Bool) (handler : Handler σ) :
    Handler σ := fun call s =>
  let (outcome, t) := handler call s
  ({ outcome with result := outcome.result.mapError (marked marks call) }, t)

/-- The registry whose handlers mark some of their errors. -/
def Registry.marking (r : Registry σ) (marks : Invocation → ActivityError → Bool) : Registry σ :=
  ⟨r.handlers.mapValues (Handler.marking marks)⟩

theorem forbidsRetry_iff_lists (options : ActivityOptions) (type : String) :
    options.forbidsRetry type = true ↔ options.Lists type := by
  obtain ⟨timeout, retry⟩ := options
  cases retry with
  | none => simp [ActivityOptions.forbidsRetry, ActivityOptions.Lists, ActivityOptions.setting?]
  | some policy =>
    simp [ActivityOptions.forbidsRetry, RetryPolicy.forbidsRetry, ActivityOptions.Lists,
      ActivityOptions.setting?, Option.any_eq_true]

instance (options : ActivityOptions) (type : String) : Decidable (options.Lists type) :=
  decidable_of_iff _ (forbidsRetry_iff_lists options type)

theorem tells_failure (activity : String) (options : ActivityOptions) (e : ActivityError) :
    Tells (failure activity options e) activity e.errorType e.message
      (e.nonRetryable = false ∧ ¬ options.Lists e.errorType) := by
  refine ⟨⟨_, rfl⟩, ?_⟩
  rw [← forbidsRetry_iff_lists]
  simp [failure, WorkflowError.mayRetry]

/-- Passing on a failure of a workflow turns its verdict into a mark, which is turned back. -/
theorem tells_failure_toActivityError (activity : String) (options : ActivityOptions)
    (e : WorkflowError) :
    Tells (failure activity options e.toActivityError) activity e.code e.message
      (e.mayRetry = true ∧ ¬ options.Lists e.code) := by
  have hm : e.toActivityError.nonRetryable = false ↔ e.mayRetry = true := by
    simp [WorkflowError.toActivityError]
  obtain ⟨hf, hr⟩ := tells_failure activity options e.toActivityError
  exact ⟨hf, hr.trans (and_congr_left' hm)⟩

/-- A final failure is told in the same way of a marked error and with a longer list. -/
theorem failure_marked (hl : ∀ type, options.Lists type → stricter.Lists type)
    (hf : (failure activity options e).mayRetry = false) :
    failure activity stricter (marked marks call e) = failure activity options e := by
  have ho : (e.nonRetryable || options.forbidsRetry e.errorType) = true := by
    rwa [failure, WorkflowError.mayRetry, Bool.not_eq_false'] at hf
  have hs : (e.nonRetryable || stricter.forbidsRetry e.errorType) = true := by
    rw [Bool.or_eq_true] at ho ⊢
    refine ho.imp_right fun h => ?_
    exact (forbidsRetry_iff_lists _ _).mpr (hl _ ((forbidsRetry_iff_lists _ _).mp h))
  unfold marked
  split
  next => simp [failure, ActivityError.mark, ho]
  next => simp [failure, ho, hs]

theorem expires_eq_none_iff (outcome : Outcome) (options : ActivityOptions) :
    outcome.expires options = none ↔ options.Allows outcome.elapsed := by
  simp [Outcome.expires, ActivityOptions.Allows, Option.filter_eq_none_iff]

theorem executor_of_raises (h : r.Raises call options s e t) :
    r.executor call options s = (.error (failure call.activity options e), t) := by
  obtain ⟨handler, elapsed, hg, ha, hi⟩ := h
  have he := (expires_eq_none_iff ⟨.error e, elapsed⟩ options).mpr hi
  simp only [Registry.executor, hg, ha, Outcome.settle, he]
  rfl

/-- An execution fails for want of a handler, by the timeout, or with an error of the handler. -/
theorem executor_error_cases (h : r.executor call options s = (.error report, t)) :
    (r.get call.activity = .error report ∧ t = s) ∨
      (∃ timeout, options.startToCloseTimeout = some timeout ∧
        report = .timeout call.activity timeout) ∨
      ∃ e, r.Raises call options s e t ∧ report = failure call.activity options e := by
  unfold Registry.executor at h
  cases hg : r.get call.activity with
  | error fault =>
    simp only [hg] at h
    cases h
    exact .inl ⟨rfl, rfl⟩
  | ok handler =>
    refine .inr ?_
    cases ha : handler call s with
    | mk outcome u =>
      simp only [hg, ha, Outcome.settle] at h
      obtain ⟨result, elapsed⟩ := outcome
      split at h
      next timeout he =>
        cases h
        exact .inl ⟨timeout, (Option.filter_eq_some_iff.mp he).1, rfl⟩
      next he =>
        cases result with
        | ok value => cases h
        | error e =>
          cases h
          exact .inr ⟨e, ⟨handler, elapsed, hg, ha, (expires_eq_none_iff _ _).mp he⟩, rfl⟩

theorem get_marking (r : Registry σ) (marks : Invocation → ActivityError → Bool)
    (activity : String) :
    (r.marking marks).get activity = (r.get activity).map (Handler.marking marks) := by
  simp only [Registry.get, Registry.marking, Entries.get?_mapValues]
  cases r.handlers.get? activity <;> rfl

theorem raises_marking (ht : stricter.startToCloseTimeout = options.startToCloseTimeout)
    (h : r.Raises call options s e t) :
    (r.marking marks).Raises call stricter s (marked marks call e) t := by
  obtain ⟨handler, elapsed, hg, ha, hi⟩ := h
  refine ⟨handler.marking marks, elapsed, ?_, ?_, ?_⟩
  · rw [get_marking, hg]
    rfl
  · simp only [Handler.marking, ha]
    rfl
  · intro timeout hs
    exact hi timeout (ht ▸ hs)

/-- A final failure, of whatever kind, is left as it is. -/
theorem executor_marking (ht : stricter.startToCloseTimeout = options.startToCloseTimeout)
    (hl : ∀ type, options.Lists type → stricter.Lists type)
    (h : r.executor call options s = (.error report, t)) (hf : report.mayRetry = false) :
    (r.marking marks).executor call stricter s = (.error report, t) := by
  rcases executor_error_cases h with ⟨hg, rfl⟩ | ⟨timeout, _, rfl⟩ | ⟨e, hr, rfl⟩
  · have hm := get_marking r marks call.activity
    rw [hg] at hm
    simp only [Registry.executor, hm]
    rfl
  · cases hf
  · rw [executor_of_raises (raises_marking ht hr), failure_marked hl hf]

end Activity

namespace Engine

variable {σ : Type} {m : Machine} {request : WorkCall} {s t : σ} {e : ActivityError}
  {r : Activity.Registry σ}

/-- The types of the first layer that has a list are the listed ones. -/
theorem lists_optionsOf_iff (engine : Engine σ) (activity : String) (w : Option Workflow)
    (type : String) :
    (engine.optionsOf activity w).Lists type ↔
      ∃ types, (engine.layers activity w).findSome? (·.setting? .nonRetryableErrorTypes) =
        some types ∧ type ∈ types := by
  rw [ActivityOptions.Lists, setting?_optionsOf]

/-- The drive of a machine that waits for a failing activity ends with the failure. -/
theorem drive_of_raises {engine : Engine σ} {context : RunContext}
    (hx : engine.execute = r.executor) (hc : m.control = .suspended (.activity request))
    (h : r.Raises ⟨request.activity, request.params, context⟩
      (engine.optionsOf request.activity (some m.workflow)) s e t) :
    engine.drive m context s =
      (.error (Activity.failure request.activity
        (engine.optionsOf request.activity (some m.workflow)) e), m, t) := by
  have he := Activity.executor_of_raises h
  rw [← hx] at he
  exact Machine.drive_of_rejected ⟨hc, .inl he⟩

end Engine

namespace Activity

/-- An error of a handler is told as the failure of its activity, with its type and its message; the
activity may be tried again unless the handler has marked the error or the options list its type. A
failure of a workflow that a handler passes on has its code for a type and keeps its verdict but for
the list, and in a drive the list is that of the first layer that has one. Final failures stay as
they are when handlers mark more errors and the options list more types. -/
theorem failures_keep_verdict :
    (∀ (σ : Type) (r : Registry σ) (call : Invocation) (options : ActivityOptions) (s t : σ)
      (e : WorkflowError), r.Raises call options s e.toActivityError t →
      ∃ report, r.executor call options s = (.error report, t) ∧
        Tells report call.activity e.code e.message
          (e.mayRetry = true ∧ ¬ options.Lists e.code)) ∧
    (∀ (σ : Type) (r : Registry σ) (call : Invocation) (options : ActivityOptions) (s t : σ)
      (e : ActivityError), r.Raises call options s e t →
      ∃ report, r.executor call options s = (.error report, t) ∧
        Tells report call.activity e.errorType e.message
          (e.nonRetryable = false ∧ ¬ options.Lists e.errorType)) ∧
    (∀ (σ : Type) (r : Registry σ) (marks : Invocation → ActivityError → Bool)
      (call : Invocation) (options stricter : ActivityOptions) (s t : σ) (report : WorkflowError),
      stricter.startToCloseTimeout = options.startToCloseTimeout →
      (∀ type, options.Lists type → stricter.Lists type) →
      r.executor call options s = (.error report, t) → report.mayRetry = false →
      (r.marking marks).executor call stricter s = (.error report, t)) ∧
    ∀ (σ : Type) (r : Registry σ) (engine : Engine σ) (m : Machine) (request : WorkCall)
      (context : RunContext) (s t : σ) (e : WorkflowError),
      engine.execute = r.executor → m.control = .suspended (.activity request) →
      r.Raises ⟨request.activity, request.params, context⟩
        (engine.optionsOf request.activity (some m.workflow)) s e.toActivityError t →
      ∃ report, engine.drive m context s = (.error report, m, t) ∧
        Tells report request.activity e.code e.message
          (e.mayRetry = true ∧
            ¬ ∃ types, (engine.layers request.activity (some m.workflow)).findSome?
                (·.setting? .nonRetryableErrorTypes) = some types ∧ e.code ∈ types) := by
  refine ⟨?_, ?_, ?_, ?_⟩
  · intro σ r call options s t e h
    exact ⟨_, executor_of_raises h, tells_failure_toActivityError _ _ _⟩
  · intro σ r call options s t e h
    exact ⟨_, executor_of_raises h, tells_failure _ _ _⟩
  · intro σ r marks call options stricter s t report
    exact executor_marking
  · intro σ r engine m request context s t e hx hc h
    refine ⟨_, Engine.drive_of_raises hx hc h, ?_⟩
    rw [← Engine.lists_optionsOf_iff]
    exact tells_failure_toActivityError _ _ _

/-- Gives up with an error after a while. -/
def givingUp (e : ActivityError) : Handler Unit := fun _ s => (⟨.error e, ⟨20⟩⟩, s)

def lineDown : WorkflowError := .fetchFailed "document" "line is down"

def quotaExceeded : ActivityError := ⟨"QuotaExceeded", "no tokens left", false⟩

/-- One activity passes on a failure of a workflow, the other has an error of its own. -/
def offices : Registry Unit :=
  ⟨[("carry", givingUp lineDown.toActivityError), ("weigh", givingUp quotaExceeded)]⟩

def listing (types : List String) : ActivityOptions where
  startToCloseTimeout := some ⟨30⟩
  retry := some { nonRetryableErrorTypes := some types }

def dispatch (activity : String) : Invocation :=
  ⟨activity, [("load", .arr [])], { workflowName := "errand", authToken := "t" }⟩

/-- The list of an activity stands in place of the list of the defaults. -/
def agency : Engine Unit where
  execute := offices.executor
  providers := .builtin
  store := Engine.noStore
  options := ⟨[("carry", listing ["QuotaExceeded"])]⟩
  defaults := listing ["FETCH_FAILED"]

theorem failures_keep_verdict_offices :
    (offices.Raises (dispatch "carry") (listing ["QuotaExceeded"]) () lineDown.toActivityError () ∧
      ∃ report, offices.executor (dispatch "carry") (listing ["QuotaExceeded"]) () =
        (.error report, ()) ∧ report.mayRetry = true) ∧
    (offices.Raises (dispatch "weigh") (listing ["QuotaExceeded"]) () quotaExceeded () ∧
      ∃ report, offices.executor (dispatch "weigh") (listing ["QuotaExceeded"]) () =
        (.error report, ()) ∧ report.mayRetry = false) ∧
    (offices.marking fun _ _ => true).executor (dispatch "weigh")
        (listing ["FETCH_FAILED", "QuotaExceeded"]) () =
      (.error (.activityFailed "weigh" "QuotaExceeded" "no tokens left" true), ()) ∧
    ∃ report, agency.drive .burdened (dispatch "carry").context () =
        (.error report, .burdened, ()) ∧ report.mayRetry = true := by
  obtain ⟨passed, raised, stays, driven⟩ := failures_keep_verdict
  have ha : ∀ types, (listing types).Allows ⟨20⟩ := by
    intro types timeout h
    cases h
    decide
  have hcarry : offices.Raises (dispatch "carry") (listing ["QuotaExceeded"]) ()
      lineDown.toActivityError () := ⟨_, _, rfl, rfl, ha _⟩
  have hweigh : offices.Raises (dispatch "weigh") (listing ["QuotaExceeded"]) ()
      quotaExceeded () := ⟨_, _, rfl, rfl, ha _⟩
  have hl : ∀ type, (listing ["QuotaExceeded"]).Lists type →
      (listing ["FETCH_FAILED", "QuotaExceeded"]).Lists type := by
    rintro type ⟨types, ht, hm⟩
    cases ht
    exact ⟨_, rfl, List.mem_cons_of_mem _ hm⟩
  refine ⟨?_, ?_, ?_, ?_⟩
  · obtain ⟨report, hr, ht⟩ := passed _ _ _ _ _ _ _ hcarry
    exact ⟨hcarry, report, hr, ht.mayRetry_iff.mpr ⟨rfl, by decide⟩⟩
  · obtain ⟨report, hr, ht⟩ := raised _ _ _ _ _ _ _ hweigh
    refine ⟨hweigh, report, hr, Bool.eq_false_iff.mpr fun hm => ?_⟩
    exact (ht.mayRetry_iff.mp hm).2 (by decide)
  · exact stays _ offices _ _ (listing ["QuotaExceeded"]) _ _ _ _ rfl hl rfl rfl
  · obtain ⟨report, hr, ht⟩ := driven _ offices agency .burdened _ (dispatch "carry").context
      _ _ lineDown rfl rfl hcarry
    refine ⟨report, hr, ht.mayRetry_iff.mpr ⟨rfl, ?_⟩⟩
    rw [← Engine.lists_optionsOf_iff]
    decide

end Activity

end Stepwise
