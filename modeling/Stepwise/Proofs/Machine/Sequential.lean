import Stepwise.Engine
import Stepwise.Proofs.Entries
import Stepwise.Proofs.Machine.Stepping

namespace Stepwise

/-- A computation that talks to an environment and may fail. -/
abbrev Dialogue (σ : Type) := ExceptT WorkflowError (StateM σ)

namespace Sequential

structure Outcome where
  result : Json
  trace : List StepTrace
  vars : Vars
deriving DecidableEq

variable {σ : Type}

def ask (environment : Machine.Environment σ) (call : Call) : Dialogue σ Json := environment call

def admits (vars : Vars) (step : Step) : Except WorkflowError Bool :=
  match step.condition with
  | none => .ok true
  | some condition => vars.meets condition

/-- The variables that a step imports, under the names of parameters. -/
def imports (vars : Vars) (step : Step) : Entries Json :=
  match step.imports with
  | none => []
  | some imports => vars.importing imports

/-- What a parameter is bound to: the first record or null under a limit of one, and otherwise the
array of all records. -/
def binding (step : Step) (param : String) (spec : Lookup) : Json → Except WorkflowError Json
  | .arr [] =>
    match spec.whenMissing with
    | .throw => .error (.paramNotFound step.name param)
    | .ignore => .ok (if spec.limit = some 1 then .null else .arr [])
  | .arr (first :: others) => .ok (if spec.limit = some 1 then first else .arr (first :: others))
  | other =>
    .error (.invalidState
      ("fetch '" ++ param ++ "' resumed with a non-array value " ++ other.compact))

/-- Binds the parameters of some fetches one after the other. -/
def gather (environment : Machine.Environment σ) (vars : Vars) (step : Step) :
    List (String × Lookup) → Entries Json → Dialogue σ (Entries Json)
  | [], input => return input
  | (param, spec) :: rest, input => do
    let query : RecordQuery := ⟨vars.resolveFields spec.query, spec.limit, spec.select⟩
    let records ← ask environment (.fetch ⟨step.name, param, spec.provider, query⟩)
    let value ← binding step param spec records
    gather environment vars step rest (input.insert param value)

def projected (step : Step) (params : Entries Json) (result : Json) : Except WorkflowError Json :=
  match step.projection with
  | none => .ok result
  | some projection => (Projection.project projection params result).map .obj

/-- The variables with the kept part of a result under the output of a step. -/
def keep (vars : Vars) (step : Step) (params : Entries Json) (result : Json) :
    Except WorkflowError Vars :=
  match step.output with
  | none => .ok vars
  | some path => do
    let value ← projected step params result
    match vars.set? path value with
    | some changed => .ok changed
    | none => .error (Machine.outOfSpace path)

def perform (environment : Machine.Environment σ) (vars : Vars) (index : Nat) (step : Step) :
    Dialogue σ Vars := do
  let input ← gather environment vars step step.fetch (imports vars step)
  let params := input.overlay (vars.resolveFields step.params)
  let result ← ask environment (.activity ⟨index, step.name, params⟩)
  keep vars step params result

/-- Runs the steps that are left, after those of the trace. -/
def follow (environment : Machine.Environment σ) (resultPath : String) :
    List Step → List StepTrace → Vars → Dialogue σ Outcome
  | [], trace, vars => return ⟨(vars.get? resultPath).getD .null, trace, vars⟩
  | step :: rest, trace, vars => do
    if ← admits vars step then
      let changed ← perform environment vars trace.length step
      follow environment resultPath rest (trace ++ [⟨step.name, step.output, .executed⟩]) changed
    else
      follow environment resultPath rest (trace ++ [⟨step.name, step.output, .skipped⟩]) vars

def evaluate (environment : Machine.Environment σ) (w : Workflow) (vars : Vars) :
    Dialogue σ Outcome :=
  follow environment w.resultPath w.steps [] vars

theorem bind_run {α β : Type} (x : Dialogue σ α) (f : α → Dialogue σ β) (s : σ) :
    (x >>= f) s =
      match x s with
      | (.ok a, t) => f a t
      | (.error e, t) => (.error e, t) := by
  change ExceptT.bind x f s = _
  simp only [ExceptT.bind, ExceptT.mk, bind, StateT.bind]
  cases x s with
  | mk answer t => cases answer <;> rfl

/-- What can be seen of a drive: the result with the trace and the variables of the machine. -/
def seen : Except WorkflowError Json × Machine × σ → Except WorkflowError Outcome × σ
  | (answer, m, s) => (answer.map fun result => ⟨result, m.trace, m.vars⟩, s)

def onward (environment : Machine.Environment σ) (m : Machine) : Dialogue σ Outcome :=
  fun s => seen (m.drive environment s)

variable {environment : Machine.Environment σ} {m next : Machine} {w : Workflow} {vars : Vars}
  {pc : Nat} {step : Step} {trace : List StepTrace} {params : Entries Json}

theorem onward_step {p : Progress} (h : Machine.Stepped m (.ok p, next)) :
    onward environment m = onward environment next :=
  funext fun _ => congrArg seen (Machine.drive_of_step (Machine.step_of_stepped h))

theorem onward_error {e : WorkflowError} (h : Machine.Stepped m (.error e, next)) :
    onward environment m = throw e :=
  funext fun _ => congrArg seen
    (Machine.drive_of_run_error (Machine.run_of_error (Machine.step_of_stepped h)))

theorem onward_suspended {call : Call} (h : m.control = .suspended call) :
    onward environment m = ask environment call >>= fun answer =>
      match m.resume answer with
      | (.ok (), next) => onward environment next
      | (.error e, _) => throw e := by
  funext s
  rw [bind_run]
  simp only [onward, Machine.drive_of_suspended h, ask]
  cases environment call s with
  | mk answer t =>
    cases answer with
    | error e => rfl
    | ok value =>
      simp only [Machine.answered]
      cases m.resume value with
      | mk taken next => cases taken <;> rfl

abbrev running (w : Workflow) (vars : Vars) (pc : Nat) (phase : Phase) (params : Entries Json)
    (trace : List StepTrace) : Machine :=
  ⟨w, vars, pc, phase, params, trace, .running⟩

/-- The records that answer a fetch of a step bind its parameter, or are refused. -/
theorem resume_asking {index : Nat} {param : String} {spec : Lookup}
    (hc : w.steps[pc]? = some step) (hi : index < step.fetch.length)
    (hf : step.fetch.get? param = some spec) (answer : Json) :
    ((running w vars pc (.fetch index) params trace).asking step param spec).resume answer =
      match binding step param spec answer with
      | .error e =>
        (.error e, (running w vars pc (.fetch index) params trace).asking step param spec)
      | .ok value =>
        (.ok (), running w vars pc (.fetch (index + 1)) (params.insert param value) trace) := by
  have hb : ((running w vars pc (.fetch index) params trace).asking step param spec).current? =
      some step := hc
  simp only [Machine.resume, Machine.asking, Machine.answer, Machine.takeRecords] at hb ⊢
  simp only [hb, Option.bind_some, hf, Option.map_some]
  cases answer with
  | arr records =>
    cases records with
    | nil =>
      cases hw : spec.whenMissing <;>
        simp [binding, hw, Machine.hydrate, Machine.indexAfter?_of_lt hi]
    | cons first others => simp [binding, Machine.hydrate, Machine.indexAfter?_of_lt hi]
  | _ => rfl

/-- The fetches from an index on are gathered one after the other. -/
theorem onward_fetch (hs : step.fetch.Sorted) (hc : w.steps[pc]? = some step) {index : Nat} :
    onward environment (running w vars pc (.fetch index) params trace) =
      gather environment vars step (step.fetch.drop index) params >>= fun input =>
        onward environment (running w vars pc .execute input trace) := by
  generalize hr : step.fetch.drop index = rest
  induction rest generalizing index params with
  | nil =>
    have hn : step.fetch[index]? = none := List.getElem?_eq_none (List.drop_eq_nil_iff.mp hr)
    have hm : Machine.Stepped (running w vars pc (.fetch index) params trace)
        (.ok .continue, running w vars pc .execute params trace) := .gathered rfl hc rfl hn
    rw [onward_step hm]
    rfl
  | cons entry rest ih =>
    obtain ⟨param, spec⟩ := entry
    have hf : step.fetch[index]? = some (param, spec) := by
      rw [← Nat.add_zero index, ← List.getElem?_drop, hr, List.getElem?_cons_zero]
    have hd : step.fetch.drop (index + 1) = rest := by
      rw [← List.tail_drop, hr, List.tail_cons]
    have hg := Entries.get?_of_mem hs (List.mem_of_getElem? hf)
    have hm : Machine.Stepped (running w vars pc (.fetch index) params trace)
        (.ok .suspended, (running w vars pc (.fetch index) params trace).asking step param spec) :=
      .asks rfl hc rfl hf
    rw [onward_step hm, onward_suspended rfl, gather, bind_assoc]
    refine congrArg _ (funext fun answer => ?_)
    rw [resume_asking hc (List.getElem?_eq_some_iff.mp hf).1 hg, bind_assoc]
    cases binding step param spec answer with
    | error e => rfl
    | ok value => exact ih hd

theorem varsAfter_eq_keep (m : Machine) (step : Step) (result : Json) :
    m.varsAfter step result = keep m.vars step m.params result := by
  unfold Machine.varsAfter keep projected Machine.outcome
  cases step.output with
  | none => rfl
  | some path => cases step.projection <;> rfl

/-- The activity of a step is asked for once, and its result is kept. -/
theorem onward_execute (hc : w.steps[pc]? = some step) :
    onward environment (running w vars pc .execute params trace) =
      ask environment
          (.activity ⟨pc, step.name, params.overlay (vars.resolveFields step.params)⟩) >>=
        fun result =>
          keep vars step (params.overlay (vars.resolveFields step.params)) result >>= fun changed =>
            onward environment (running w changed (pc + 1) .guard []
              (trace ++ [⟨step.name, step.output, .executed⟩])) := by
  have hm : Machine.Stepped (running w vars pc .execute params trace)
      (.ok .suspended, (running w vars pc .execute params trace).submitting step) :=
    .submits rfl hc rfl
  rw [onward_step hm, onward_suspended rfl]
  refine congrArg _ (funext fun result => ?_)
  rw [Machine.resume_activity rfl]
  let stored := running w vars pc (.store result) (params.overlay (vars.resolveFields step.params))
    trace
  change onward environment stored = _
  have hk := varsAfter_eq_keep stored step result
  cases h : keep vars step (params.overlay (vars.resolveFields step.params)) result with
  | error e =>
    have hm : Machine.Stepped stored (.error e, stored) := .storeFails rfl hc rfl (hk.trans h)
    rw [onward_error hm]
    rfl
  | ok changed =>
    have hm : Machine.Stepped stored
        (.ok .continue, { stored with vars := changed }.advance step .executed) :=
      .stores rfl hc rfl (hk.trans h)
    rw [onward_step hm]
    rfl

/-- A step is skipped when its guard does not hold, and otherwise gathers its input. -/
theorem onward_guard (hc : w.steps[pc]? = some step) :
    onward environment (running w vars pc .guard [] trace) =
      (liftM (admits vars step) : Dialogue σ Bool) >>= fun admitted =>
        if admitted then onward environment (running w vars pc (.fetch 0) (imports vars step) trace)
        else onward environment (running w vars (pc + 1) .guard []
          (trace ++ [⟨step.name, step.output, .skipped⟩])) := by
  have hv : Machine.verdict vars step = admits vars step := by
    unfold Machine.verdict admits
    cases step.condition <;> rfl
  have hi : Machine.imported vars step = imports vars step := by
    unfold Machine.imported imports
    cases step.imports <;> rfl
  cases h : admits vars step with
  | error e =>
    have hm : Machine.Stepped (running w vars pc .guard [] trace)
        (.error e, running w vars pc .guard [] trace) := .guardFails rfl hc rfl (hv.trans h)
    rw [onward_error hm]
    rfl
  | ok admitted =>
    cases admitted with
    | false =>
      have hm : Machine.Stepped (running w vars pc .guard [] trace) (.ok .continue,
          running w vars (pc + 1) .guard [] (trace ++ [⟨step.name, step.output, .skipped⟩])) :=
        .skips rfl hc rfl (hv.trans h)
      rw [onward_step hm]
      rfl
    | true =>
      have hm : Machine.Stepped (running w vars pc .guard [] trace) (.ok .continue,
          running w vars pc (.fetch 0) (Machine.imported vars step) trace) :=
        .enters rfl hc rfl (hv.trans h)
      rw [onward_step hm, hi]
      rfl

theorem onward_end (hc : w.steps[pc]? = none) :
    onward environment (running w vars pc .guard [] trace) =
      pure ⟨(vars.get? w.resultPath).getD .null, trace, vars⟩ := by
  have hm : Machine.Stepped (running w vars pc .guard [] trace)
      (.ok .done, (running w vars pc .guard [] trace).finish) := .finishes rfl hc
  rw [onward_step hm]
  exact funext fun _ => congrArg seen (Machine.drive_of_finished rfl)

/-- From the guard of a step on, a drive follows the steps that are left. -/
theorem onward_eq_follow (hw : ∀ step ∈ w.steps, step.fetch.Sorted) (vars : Vars)
    (trace : List StepTrace) :
    onward environment (running w vars trace.length .guard [] trace) =
      follow environment w.resultPath (w.steps.drop trace.length) trace vars := by
  -- the trace has a record for every step that is done, so its length is the program counter
  generalize hr : w.steps.drop trace.length = rest
  induction rest generalizing trace vars with
  | nil => exact onward_end (List.getElem?_eq_none (List.drop_eq_nil_iff.mp hr))
  | cons step rest ih =>
    have hc : w.steps[trace.length]? = some step := by
      rw [← Nat.add_zero trace.length, ← List.getElem?_drop, hr, List.getElem?_cons_zero]
    have hd : ∀ r : StepTrace, w.steps.drop (trace ++ [r]).length = rest := fun r => by
      rw [List.length_append, List.length_singleton, ← List.tail_drop, hr, List.tail_cons]
    have hn : ∀ (r : StepTrace) (after : Vars),
        onward environment (running w after (trace.length + 1) .guard [] (trace ++ [r])) =
          follow environment w.resultPath rest (trace ++ [r]) after := fun r after => by
      rw [← ih after (trace ++ [r]) (hd r), List.length_append, List.length_singleton]
    rw [onward_guard hc, follow]
    refine congrArg _ (funext fun admitted => ?_)
    cases admitted with
    | false => exact hn _ vars
    | true =>
      have hs := hw step (List.mem_of_getElem? hc)
      rw [if_pos rfl, if_pos rfl, onward_fetch hs hc, List.drop_zero, perform, bind_assoc]
      refine congrArg _ (funext fun input => ?_)
      rw [onward_execute hc, bind_assoc]
      refine congrArg _ (funext fun result => ?_)
      exact congrArg _ (funext fun changed => hn _ changed)

theorem onward_start (hw : ∀ step ∈ w.steps, step.fetch.Sorted) :
    onward environment (.start w vars) = evaluate environment w vars :=
  onward_eq_follow hw vars []

/-- Driving a machine from its start comes to the end of the plain recursion over the steps, with
the same result, trace and variables or the same error, and the environment left in the same state;
so it makes the same calls in the same order, also those of an engine. The parameters of a fetch
stand in the order of their names. -/
theorem drive_start_eq_evaluate (environment : Machine.Environment σ) {w : Workflow}
    (hw : ∀ step ∈ w.steps, step.fetch.Sorted) (vars : Vars) (s : σ) :
    seen ((Machine.start w vars).drive environment s) = evaluate environment w vars s ∧
      seen ((Machine.start w vars).drive environment.logged (s, [])) =
        evaluate environment.logged w vars (s, []) ∧
      ∀ (engine : Engine σ) (context : RunContext),
        seen (engine.drive (.start w vars) context s) =
          evaluate (engine.environment w context) w vars s := by
  refine ⟨?_, ?_, fun engine context => ?_⟩
  · exact congrFun (onward_start hw) s
  · exact congrFun (onward_start hw) (s, [])
  · exact congrFun (onward_start hw) s

/-- Two records for the first parameter, a guard and a dotted output. -/
def sample : Workflow where
  name := "sample"
  steps := [
    { name := "summarize"
      imports := some (.names ["lang"])
      fetch := [("doc", { provider := "document", limit := some 1, whenMissing := .throw }),
        ("types", { provider := "document_type", query := [("lang", .str "$\x7blang\x7d")] })]
      params := [("tone", .str "dry")]
      output := some "summary.text" },
    { name := "publish"
      condition := some [("summary.text", .obj [("$null", .bool false)])]
      output := some "result" }]

/-- Answers every call with one record, another one from the second call on. -/
def sampleAnswers : Machine.Environment Nat :=
  fun _ n => (.ok (.arr [.str (if n = 0 then "first" else "other")]), n + 1)

theorem drive_sample_eq_evaluate :
    (∀ step ∈ sample.steps, step.fetch.Sorted) ∧
      seen ((Machine.start sample .empty).drive sampleAnswers 0) =
        evaluate sampleAnswers sample .empty 0 := by
  have hw : ∀ step ∈ sample.steps, step.fetch.Sorted := by decide
  exact ⟨hw, (drive_start_eq_evaluate sampleAnswers hw .empty 0).1⟩

end Sequential

end Stepwise
