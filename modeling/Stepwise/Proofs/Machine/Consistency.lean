import Stepwise.Proofs.Entries
import Stepwise.Proofs.Machine.Stepping

namespace Stepwise.Machine

/-- What can be done with a machine. -/
inductive Operation where
  | step
  | run
  | resume (value : Json)

/-- What an operation answers; an answer that is taken tells nothing. -/
abbrev Reply := Except WorkflowError (Option Progress)

def perform (m : Machine) : Operation → Reply × Machine
  | .step => (m.step.1.map some, m.step.2)
  | .run => (m.run.1.map some, m.run.2)
  | .resume value => ((m.resume value).1.map fun _ => none, (m.resume value).2)

/-- The machine after some operations, whether they succeed or fail. -/
def after (m : Machine) (operations : List Operation) : Machine :=
  operations.foldl (fun m operation => (m.perform operation).2) m

/-- What steps and the answers among some operations keep, a run and the operations keep. -/
theorem after_induction_of_mem {P : Machine → Prop} {operations : List Operation}
    (hstep : ∀ m, P m → P m.step.2)
    (hresume : ∀ m value, .resume value ∈ operations → P m → P (m.resume value).2) {m : Machine}
    (hm : P m) : P (m.after operations) := by
  have hrun : ∀ m, P m → P m.run.2 := by
    intro m hm
    fun_induction run m with
    | case1 m next hs ih =>
      have hn := hstep m hm
      rw [hs] at hn
      exact ih hn
    | case2 m _ => exact hstep m hm
  induction operations generalizing m with
  | nil => exact hm
  | cons operation rest ih =>
    refine ih (fun m value hv => hresume m value (List.mem_cons_of_mem _ hv)) ?_
    cases operation with
    | step => exact hstep m hm
    | run => exact hrun m hm
    | resume value => exact hresume m value List.mem_cons_self hm

/-- What steps and answers keep, a run and every list of operations keep. -/
theorem after_induction {P : Machine → Prop} (hstep : ∀ m, P m → P m.step.2)
    (hresume : ∀ m value, P m → P (m.resume value).2) {m : Machine} (hm : P m)
    (operations : List Operation) : P (m.after operations) :=
  after_induction_of_mem hstep (fun m value _ => hresume m value) hm

/-- The keys of an input are those of the imports of a step and of its first fetches. -/
def Gathered (step : Step) (vars : Vars) (count : Nat) (params : Entries Json) : Prop :=
  ∀ key, key ∈ params.keys ↔
    key ∈ (imported vars step).keys ∨ key ∈ Entries.keys (step.fetch.take count)

/-- The input with the imports, all fetches and the parameters of a step over them. -/
def Complete (step : Step) (vars : Vars) (params : Entries Json) : Prop :=
  ∃ input, Gathered step vars step.fetch.length input ∧
    params = input.overlay (vars.resolveFields step.params)

inductive Position (w : Workflow) (m : Machine) : Prop
  | between (hc : m.control = .running) (hp : m.phase = .guard) (hi : m.params = [])
  | ended (hc : m.control = .finished ((m.vars.get? w.resultPath).getD .null))
      (hp : m.phase = .guard) (hi : m.params = []) (hn : m.pc = w.steps.length)
  | gathering {step : Step} {index : Nat} (hs : w.steps[m.pc]? = some step)
      (hc : m.control = .running) (hp : m.phase = .fetch index) (hl : index ≤ step.fetch.length)
      (hg : Gathered step m.vars index m.params)
  | asking {step : Step} {index : Nat} {param : String} {spec : Lookup}
      (hs : w.steps[m.pc]? = some step)
      (hc : m.control =
        .suspended (.fetch ⟨step.name, param, spec.provider, spec.payload m.vars⟩))
      (hp : m.phase = .fetch index) (hf : step.fetch[index]? = some (param, spec))
      (hg : Gathered step m.vars index m.params)
  | ready {step : Step} (hs : w.steps[m.pc]? = some step) (hc : m.control = .running)
      (hp : m.phase = .execute) (hg : Gathered step m.vars step.fetch.length m.params)
  | submitted {step : Step} (hs : w.steps[m.pc]? = some step)
      (hc : m.control = .suspended (.activity ⟨m.pc, step.name, m.params⟩))
      (hp : m.phase = .execute) (hg : Complete step m.vars m.params)
  | storing {step : Step} {result : Json} (hs : w.steps[m.pc]? = some step)
      (hc : m.control = .running) (hp : m.phase = .store result)
      (hg : Complete step m.vars m.params)

/-- A machine that has come somewhere in a workflow, with the records of the steps before. -/
structure Placed (w : Workflow) (m : Machine) : Prop where
  workflow : m.workflow = w
  pc_le : m.pc ≤ w.steps.length
  trace : m.trace.map (fun record => (record.name, record.output)) =
    (w.steps.take m.pc).map fun step => (step.name, step.output)
  position : Position w m

variable {w : Workflow} {m : Machine} {vars : Vars}

theorem placed_start (w : Workflow) (vars : Vars) : Placed w (start w vars) :=
  ⟨rfl, Nat.zero_le _, rfl, .between rfl rfl rfl⟩

theorem Placed.current? (h : Placed w m) : m.current? = w.steps[m.pc]? := by
  rw [Machine.current?, h.workflow]

theorem Placed.advance (h : Placed w m) {step : Step} (hs : w.steps[m.pc]? = some step)
    (hc : m.control = .running) (vars : Vars) (status : StepOutcome) :
    Placed w ({ m with vars := vars }.advance step status) := by
  obtain ⟨hl, he⟩ := List.getElem?_eq_some_iff.mp hs
  refine ⟨h.workflow, hl, ?_, .between hc rfl rfl⟩
  change (m.trace ++ [_]).map _ = (w.steps.take (m.pc + 1)).map _
  rw [List.map_append, h.trace, List.take_add_one, hs]
  simp

/-- An answered fetch adds its parameter to the keys of the input. -/
theorem Gathered.insert {step : Step} {index : Nat} {param : String} {spec : Lookup}
    {params : Entries Json} (h : Gathered step vars index params)
    (hf : step.fetch[index]? = some (param, spec)) (value : Json) :
    Gathered step vars (index + 1) (params.insert param value) := by
  intro key
  rw [Entries.mem_keys_insert_iff, h key, List.take_add_one, hf]
  simp only [Entries.keys, List.map_append, List.mem_append, Option.toList_some, List.map_cons,
    List.map_nil, List.mem_singleton]
  rw [or_comm, or_assoc]

theorem Position.of_end (h : Position w m) (hs : w.steps[m.pc]? = none) :
    m.phase = .guard ∧ m.params = [] := by
  cases h with
  | between _ hp hi => exact ⟨hp, hi⟩
  | ended _ hp hi _ => exact ⟨hp, hi⟩
  | _ => simp_all

theorem Position.of_fetch (h : Position w m) {index : Nat} (hp : m.phase = .fetch index) :
    ∃ step, w.steps[m.pc]? = some step ∧ index ≤ step.fetch.length ∧
      Gathered step m.vars index m.params := by
  cases h with
  | gathering hs _ hq hl hg =>
    obtain rfl : index = _ := by simpa [hp] using hq
    exact ⟨_, hs, hl, hg⟩
  | asking hs _ hq hf hg =>
    obtain rfl : index = _ := by simpa [hp] using hq
    exact ⟨_, hs, Nat.le_of_lt (List.getElem?_eq_some_iff.mp hf).1, hg⟩
  | _ => simp_all

theorem Position.of_ready (h : Position w m) (hc : m.control = .running)
    (hp : m.phase = .execute) :
    ∃ step, w.steps[m.pc]? = some step ∧ Gathered step m.vars step.fetch.length m.params := by
  cases h with
  | ready hs _ _ hg => exact ⟨_, hs, hg⟩
  | _ => simp_all

theorem Position.of_fetch_call (h : Position w m) {request : FetchCall}
    (hc : m.control = .suspended (.fetch request)) :
    ∃ step index spec, w.steps[m.pc]? = some step ∧ m.phase = .fetch index ∧
      step.fetch[index]? = some (request.param, spec) ∧
      request = ⟨step.name, request.param, spec.provider, spec.payload m.vars⟩ ∧
      Gathered step m.vars index m.params := by
  cases h with
  | asking hs hd hp hf hg =>
    obtain rfl : request = _ := by simpa [hc] using hd
    exact ⟨_, _, _, hs, hp, hf, rfl, hg⟩
  | _ => simp_all

theorem Position.of_activity_call (h : Position w m) {request : WorkCall}
    (hc : m.control = .suspended (.activity request)) :
    ∃ step, w.steps[m.pc]? = some step ∧ m.phase = .execute ∧
      request = ⟨m.pc, step.name, m.params⟩ ∧ Complete step m.vars m.params := by
  cases h with
  | submitted hs hd hp hg => exact ⟨_, hs, hp, by simpa [hc] using hd, hg⟩
  | _ => simp_all

theorem Position.of_store (h : Position w m) {result : Json} (hp : m.phase = .store result) :
    ∃ step, w.steps[m.pc]? = some step ∧ m.control = .running ∧
      Complete step m.vars m.params := by
  cases h with
  | storing hs hc _ hg => exact ⟨_, hs, hc, hg⟩
  | _ => simp_all

theorem placed_step (h : Placed w m) : Placed w m.step.2 := by
  have hm := stepped m
  generalize m.step = outcome at hm
  cases hm with
  | waits => exact h
  | rests => exact h
  | guardFails => exact h
  | storeFails => exact h
  | finishes _ hs =>
    rw [h.current?] at hs
    obtain ⟨hp, hi⟩ := h.position.of_end hs
    have hn : m.pc = w.steps.length :=
      Nat.le_antisymm h.pc_le (List.getElem?_eq_none_iff.mp hs)
    refine ⟨h.workflow, h.pc_le, h.trace, .ended ?_ hp hi hn⟩
    rw [← h.workflow]
    rfl
  | skips hc hs => exact h.advance (h.current?.symm.trans hs) hc m.vars .skipped
  | enters hc hs hp =>
    refine ⟨h.workflow, h.pc_le, h.trace, ?_⟩
    refine .gathering (h.current?.symm.trans hs) hc rfl (Nat.zero_le _) fun key => ?_
    simp
  | @asks step index param spec hc hs hp hf =>
    have hw := h.current?.symm.trans hs
    obtain ⟨found, hs', _, hg⟩ := h.position.of_fetch hp
    obtain rfl : found = step := Option.some.inj (hs'.symm.trans hw)
    exact ⟨h.workflow, h.pc_le, h.trace, .asking hw rfl hp hf hg⟩
  | @gathered step index hc hs hp hf =>
    have hw := h.current?.symm.trans hs
    obtain ⟨found, hs', hl, hg⟩ := h.position.of_fetch hp
    obtain rfl : found = step := Option.some.inj (hs'.symm.trans hw)
    have hn : index = found.fetch.length :=
      Nat.le_antisymm hl (List.getElem?_eq_none_iff.mp hf)
    exact ⟨h.workflow, h.pc_le, h.trace, .ready hw hc rfl (hn ▸ hg)⟩
  | @submits step hc hs hp =>
    have hw := h.current?.symm.trans hs
    obtain ⟨found, hs', hg⟩ := h.position.of_ready hc hp
    obtain rfl : found = step := Option.some.inj (hs'.symm.trans hw)
    exact ⟨h.workflow, h.pc_le, h.trace, .submitted hw rfl hp ⟨_, hg, rfl⟩⟩
  | stores hc hs => exact h.advance (h.current?.symm.trans hs) hc _ .executed

theorem placed_resume (h : Placed w m) (value : Json) : Placed w (m.resume value).2 := by
  have hm := resumed m value
  generalize m.resume value = outcome at hm
  cases hm with
  | notWaiting => exact h
  | refused => exact h
  | @takesRecords step request index spec records hc hs hp hf =>
    obtain ⟨found, position, lookup, hs', hp', hf', _, hg⟩ := h.position.of_fetch_call hc
    obtain rfl : index = position := by simpa [hp] using hp'
    have hl : index < found.fetch.length := (List.getElem?_eq_some_iff.mp hf').1
    exact ⟨h.workflow, h.pc_le, h.trace, .gathering hs' rfl rfl hl (hg.insert hf' _)⟩
  | takesResult hc =>
    obtain ⟨step, hs, _, _, hg⟩ := h.position.of_activity_call hc
    exact ⟨h.workflow, h.pc_le, h.trace, .storing hs rfl rfl hg⟩

theorem placed_after (w : Workflow) (vars : Vars) (operations : List Operation) :
    Placed w ((start w vars).after operations) :=
  after_induction (P := Placed w) (fun _ => placed_step) (fun _ value h => placed_resume h value)
    (placed_start w vars) operations

structure Consistent (w : Workflow) (m : Machine) : Prop where
  workflow : m.workflow = w
  pc_le : m.pc ≤ w.steps.length
  trace_length : m.trace.length = m.pc
  trace_step : ∀ (i : Nat) (record : StepTrace) (step : Step), m.trace[i]? = some record →
    w.steps[i]? = some step → record.name = step.name ∧ record.output = step.output
  guard_of_end : m.pc = w.steps.length → m.phase = .guard
  empty_of_guard : m.phase = .guard → m.params = [] ∧ ∀ call, m.control ≠ .suspended call
  end_of_finished : ∀ result, m.control = .finished result →
    m.pc = w.steps.length ∧ result = (m.vars.get? w.resultPath).getD .null
  /-- Between two fetches the input holds the imports and the parameters fetched so far. -/
  fetch_keys : ∀ index, m.phase = .fetch index → ∃ step, w.steps[m.pc]? = some step ∧
    index ≤ step.fetch.length ∧ ∀ key, key ∈ m.params.keys ↔
      key ∈ ((step.imports.map m.vars.importing).getD []).keys ∨
        key ∈ Entries.keys (step.fetch.take index)
  fetch_call : ∀ request, m.control = .suspended (.fetch request) →
    ∃ step index spec, w.steps[m.pc]? = some step ∧ m.phase = .fetch index ∧
      index < step.fetch.length ∧ step.fetch[index]? = some (request.param, spec) ∧
      request.step = step.name ∧ request.provider = spec.provider ∧
      request.payload.limit = spec.limit ∧ request.payload.select = spec.select ∧
      request.payload.query = m.vars.resolveFields spec.query
  activity_call : ∀ request, m.control = .suspended (.activity request) →
    ∃ step, w.steps[m.pc]? = some step ∧ m.phase = .execute ∧ request.stepIndex = m.pc ∧
      request.activity = step.name ∧ request.params = m.params ∧
      Complete step m.vars m.params
  /-- Before the activity is asked for, the input holds the imports and every fetch. -/
  execute_keys : m.phase = .execute → m.control = .running → ∃ step,
    w.steps[m.pc]? = some step ∧ Gathered step m.vars step.fetch.length m.params
  store : ∀ result, m.phase = .store result → m.control = .running ∧ ∃ step,
    w.steps[m.pc]? = some step ∧ Complete step m.vars m.params

theorem Placed.trace_length (h : Placed w m) : m.trace.length = m.pc := by
  have hl := congrArg List.length h.trace
  have hp := h.pc_le
  simp only [List.length_map, List.length_take] at hl
  omega

theorem Placed.trace_step (h : Placed w m) {i : Nat} {record : StepTrace} {step : Step}
    (hr : m.trace[i]? = some record) (hs : w.steps[i]? = some step) :
    record.name = step.name ∧ record.output = step.output := by
  have hl : i < m.pc := h.trace_length ▸ (List.getElem?_eq_some_iff.mp hr).1
  have he := congrArg (·[i]?) h.trace
  simp only [List.getElem?_map, hr, List.getElem?_take_of_lt hl, hs, Option.map_some,
    Option.some.injEq, Prod.mk.injEq] at he
  exact he

theorem Position.guard_of_end (h : Position w m) (hn : m.pc = w.steps.length) :
    m.phase = .guard :=
  (h.of_end (List.getElem?_eq_none (Nat.le_of_eq hn.symm))).1

theorem Position.empty_of_guard (h : Position w m) (hp : m.phase = .guard) :
    m.params = [] ∧ ∀ call, m.control ≠ .suspended call := by
  cases h with
  | between hc _ hi => exact ⟨hi, by simp [hc]⟩
  | ended hc _ hi _ => exact ⟨hi, by simp [hc]⟩
  | _ => simp_all

theorem Position.end_of_finished (h : Position w m) {result : Json}
    (hc : m.control = .finished result) :
    m.pc = w.steps.length ∧ result = (m.vars.get? w.resultPath).getD .null := by
  cases h with
  | ended hd _ _ hn => exact ⟨hn, by simpa [hc] using hd⟩
  | _ => simp_all

theorem consistent_of_placed (h : Placed w m) : Consistent w m where
  workflow := h.workflow
  pc_le := h.pc_le
  trace_length := h.trace_length
  trace_step _ _ _ := h.trace_step
  guard_of_end := h.position.guard_of_end
  empty_of_guard := h.position.empty_of_guard
  end_of_finished _ := h.position.end_of_finished
  fetch_keys _ := h.position.of_fetch
  fetch_call request hc := by
    obtain ⟨step, index, spec, hs, hp, hf, hr, _⟩ := h.position.of_fetch_call hc
    have hl : index < step.fetch.length := (List.getElem?_eq_some_iff.mp hf).1
    refine ⟨step, index, spec, hs, hp, hl, hf, ?_⟩
    rw [hr]
    exact ⟨rfl, rfl, rfl, rfl, rfl⟩
  activity_call request hc := by
    obtain ⟨step, hs, hp, hr, hg⟩ := h.position.of_activity_call hc
    refine ⟨step, hs, hp, ?_⟩
    rw [hr]
    exact ⟨rfl, rfl, rfl, hg⟩
  execute_keys hp hc := h.position.of_ready hc hp
  store result hp := by
    obtain ⟨step, hs, hc, hg⟩ := h.position.of_store hp
    exact ⟨hc, step, hs, hg⟩

/-- Whatever is done with a machine from the start of a workflow, whether it succeeds or fails, its
parts stay consistent. -/
theorem consistent_after (w : Workflow) (vars : Vars) (operations : List Operation) :
    Consistent w ((start w vars).after operations) :=
  consistent_of_placed (placed_after w vars operations)

end Stepwise.Machine
