import Stepwise.Machine.Run

namespace Stepwise.Machine

/-- The verdict of the guard of a step; a step without one always runs. -/
def verdict (vars : Vars) (step : Step) : Except WorkflowError Bool :=
  (step.condition.map vars.meets).getD (.ok true)

/-- The input that a step starts with. -/
def imported (vars : Vars) (step : Step) : Entries Json :=
  (step.imports.map vars.importing).getD []

def asking (m : Machine) (step : Step) (param : String) (spec : Lookup) : Machine :=
  { m with control := .suspended (.fetch ⟨step.name, param, spec.provider, spec.payload m.vars⟩) }

/-- The input of the activity of a step. -/
def submitted (m : Machine) (step : Step) : Entries Json :=
  m.params.overlay (m.vars.resolveFields step.params)

def submitting (m : Machine) (step : Step) : Machine :=
  { m with
    params := m.submitted step
    control := .suspended (.activity ⟨m.pc, step.name, m.submitted step⟩) }

/-- The outcomes of `step`. -/
inductive Stepped (m : Machine) : Except WorkflowError Progress × Machine → Prop
  | waits {call : Call} (hc : m.control = .suspended call) : Stepped m (.ok .suspended, m)
  | rests {result : Json} (hc : m.control = .finished result) : Stepped m (.ok .done, m)
  | finishes (hc : m.control = .running) (hs : m.current? = none) : Stepped m (.ok .done, m.finish)
  | guardFails {step : Step} {e : WorkflowError} (hc : m.control = .running)
      (hs : m.current? = some step) (hp : m.phase = .guard)
      (hg : verdict m.vars step = .error e) : Stepped m (.error e, m)
  | skips {step : Step} (hc : m.control = .running) (hs : m.current? = some step)
      (hp : m.phase = .guard) (hg : verdict m.vars step = .ok false) :
      Stepped m (.ok .continue, m.advance step .skipped)
  | enters {step : Step} (hc : m.control = .running) (hs : m.current? = some step)
      (hp : m.phase = .guard) (hg : verdict m.vars step = .ok true) :
      Stepped m (.ok .continue, { m with params := imported m.vars step, phase := .fetch 0 })
  | asks {step : Step} {index : Nat} {param : String} {spec : Lookup}
      (hc : m.control = .running) (hs : m.current? = some step)
      (hp : m.phase = .fetch index) (hf : step.fetch[index]? = some (param, spec)) :
      Stepped m (.ok .suspended, m.asking step param spec)
  | gathered {step : Step} {index : Nat} (hc : m.control = .running)
      (hs : m.current? = some step) (hp : m.phase = .fetch index) (hf : step.fetch[index]? = none) :
      Stepped m (.ok .continue, { m with phase := .execute })
  | submits {step : Step} (hc : m.control = .running) (hs : m.current? = some step)
      (hp : m.phase = .execute) : Stepped m (.ok .suspended, m.submitting step)
  | storeFails {step : Step} {result : Json} {e : WorkflowError} (hc : m.control = .running)
      (hs : m.current? = some step) (hp : m.phase = .store result)
      (hv : m.varsAfter step result = .error e) :
      Stepped m (.error e, m)
  | stores {step : Step} {result : Json} {vars : Vars} (hc : m.control = .running)
      (hs : m.current? = some step) (hp : m.phase = .store result)
      (hv : m.varsAfter step result = .ok vars) :
      Stepped m (.ok .continue, { m with vars := vars }.advance step .executed)

/-- The outcomes of `resume`. -/
inductive Resumed (m : Machine) (value : Json) : Except WorkflowError Unit × Machine → Prop
  | notWaiting {e : WorkflowError} (hc : ∀ call, m.control ≠ .suspended call) :
      Resumed m value (.error e, m)
  | refused {call : Call} {e : WorkflowError} (hc : m.control = .suspended call)
      (ha : m.answer call value = .error e) : Resumed m value (.error e, m)
  | takesRecords {step : Step} {request : FetchCall} {index : Nat} {spec : Lookup}
      {records : List Json} (hc : m.control = .suspended (.fetch request))
      (hs : m.current? = some step) (hp : m.phase = .fetch index)
      (hf : step.fetch.get? request.param = some spec) (hv : value = .arr records)
      (hr : (records.isEmpty && spec.whenMissing == .throw) = false) :
      Resumed m value (.ok (), { m with
        params := m.params.insert request.param (hydrate spec records)
        phase := .fetch (index + 1)
        control := .running })
  | takesResult {request : WorkCall} (hc : m.control = .suspended (.activity request)) :
      Resumed m value (.ok (), { m with phase := .store value, control := .running })

variable {σ τ : Type} {m mid next : Machine} {p : Progress} {e : WorkflowError} {call : Call}
  {value : Json}

theorem stepped (m : Machine) : Stepped m m.step := by
  -- control, current step and phase decide, in this order
  unfold step
  split
  next call hc => exact .waits hc
  next result hc => exact .rests hc
  next hc =>
    split
    next hs => exact .finishes hc hs
    next step hs =>
      split
      next hp =>
        unfold guard
        split
        next e hg => exact .guardFails hc hs hp hg
        next hg => exact .skips hc hs hp hg
        next hg => exact .enters hc hs hp hg
      next index hp =>
        unfold fetch
        split
        next hf => exact .gathered hc hs hp hf
        next param spec hf => exact .asks hc hs hp hf
      next hp => exact .submits hc hs hp
      next result hp =>
        unfold store
        split
        next e hv => exact .storeFails hc hs hp hv
        next vars hv => exact .stores hc hs hp hv

/-- Each of the cases is the outcome where it applies. -/
theorem step_of_stepped {outcome : Except WorkflowError Progress × Machine}
    (h : Stepped m outcome) : m.step = outcome := by
  cases h with
  | waits hc => simp [step, hc]
  | rests hc => simp [step, hc]
  | finishes hc hs => simp [step, hc, hs]
  | guardFails hc hs hp hg =>
    unfold verdict at hg
    simp [step, hc, hs, hp, guard, hg]
  | skips hc hs hp hg =>
    unfold verdict at hg
    simp [step, hc, hs, hp, guard, hg]
  | enters hc hs hp hg =>
    unfold verdict at hg
    simp [step, hc, hs, hp, guard, hg, imported]
  | asks hc hs hp hf => simp [step, hc, hs, hp, fetch, hf, asking]
  | gathered hc hs hp hf => simp [step, hc, hs, hp, fetch, hf]
  | submits hc hs hp => simp [step, hc, hs, hp, execute, submitting, submitted]
  | storeFails hc hs hp hv => simp [step, hc, hs, hp, store, hv]
  | stores hc hs hp hv => simp [step, hc, hs, hp, store, hv]

/-- The variables after a step are those before it, with the outcome written to its output. -/
theorem varsAfter_eq_ok {step : Step} {result : Json} {vars : Vars}
    (h : m.varsAfter step result = .ok vars) :
    (step.output = none ∧ vars = m.vars) ∨
      ∃ path outcome, step.output = some path ∧
        Machine.outcome m.params step result = .ok outcome ∧
        m.vars.set? path outcome = some vars := by
  unfold varsAfter at h
  split at h
  next ho =>
    cases h
    exact .inl ⟨ho, rfl⟩
  next path ho =>
    cases hv : Machine.outcome m.params step result with
    | error e => simp [hv, Except.bind] at h
    | ok outcome =>
      simp only [hv, Except.bind] at h
      split at h
      next changed hs =>
        cases h
        exact .inr ⟨path, outcome, ho, rfl, hs⟩
      next => simp at h

theorem takeRecords_eq_ok {request : FetchCall} (h : m.takeRecords request value = .ok next) :
    ∃ step index spec records, m.current? = some step ∧ m.phase = .fetch index ∧
      step.fetch.get? request.param = some spec ∧ value = .arr records ∧
      (records.isEmpty && spec.whenMissing == .throw) = false ∧
      next = { m with
        params := m.params.insert request.param (hydrate spec records)
        phase := .fetch (index + 1)
        control := .running } := by
  unfold takeRecords at h
  split at h
  next index hp =>
    split at h
    next => simp at h
    next step spec hb =>
      obtain ⟨current, hs, hf⟩ := Option.bind_eq_some_iff.mp hb
      obtain ⟨found, hf, he⟩ := Option.map_eq_some_iff.mp hf
      cases he
      split at h
      next records =>
        split at h
        next => simp at h
        next hr =>
          split at h
          next => simp at h
          next after hn =>
            obtain rfl := eq_of_indexAfter? hn
            cases h
            exact ⟨step, index, spec, records, hs, hp, hf, rfl, by simpa using hr, rfl⟩
      next => simp at h
  next => simp at h

theorem resumed (m : Machine) (value : Json) : Resumed m value (m.resume value) := by
  unfold resume
  split
  next call hc =>
    split
    next e ha => exact .refused hc ha
    next resumed ha =>
      cases call with
      | fetch request =>
        obtain ⟨step, index, spec, records, hs, hp, hf, hv, hr, rfl⟩ := takeRecords_eq_ok ha
        exact .takesRecords hc hs hp hf hv hr
      | activity request =>
        cases ha
        exact .takesResult hc
  next hc => exact .notWaiting hc

theorem step_error (h : m.step = (.error e, next)) : next = m := by
  have hs := stepped m
  rw [h] at hs
  cases hs <;> rfl

theorem resume_error (h : m.resume value = (.error e, next)) : next = m := by
  have hr := resumed m value
  rw [h] at hr
  cases hr <;> rfl

theorem resume_activity {request : WorkCall} (h : m.control = .suspended (.activity request)) :
    m.resume value = (.ok (), { m with phase := .store value, control := .running }) := by
  simp [resume, h, answer]

theorem pending?_of_control (h : m.control = .suspended call) : m.pending? = some call := by
  simp [pending?, h]

theorem control_of_pending? (h : m.pending? = some call) : m.control = .suspended call := by
  unfold pending? at h
  split at h
  next hc => exact hc.trans (congrArg _ (Option.some.inj h))
  next => simp at h

theorem control_of_step_suspended (h : m.step = (.ok .suspended, next)) :
    ∃ call, next.control = .suspended call := by
  have hs := stepped m
  rw [h] at hs
  cases hs with
  | waits hc => exact ⟨_, hc⟩
  | asks => exact ⟨_, rfl⟩
  | submits => exact ⟨_, rfl⟩

theorem control_of_step_done (h : m.step = (.ok .done, next)) :
    ∃ result, next.control = .finished result := by
  have hs := stepped m
  rw [h] at hs
  cases hs with
  | rests hc => exact ⟨_, hc⟩
  | finishes => exact ⟨_, rfl⟩

theorem run_of_continue (h : m.step = (.ok .continue, next)) : m.run = next.run := by
  rw [run]
  split
  next mid hm =>
    rw [h] at hm
    cases hm
    rfl
  next hn => exact absurd h (hn next)

theorem run_of_other (h : ∀ next, m.step ≠ (.ok .continue, next)) : m.run = m.step := by
  rw [run]
  split
  next mid hm => exact absurd hm (h mid)
  next => rfl

/-- A step that succeeds leads to a machine from which the run goes on; one that suspends or ends
the machine leads to a machine that stays where it is. -/
theorem run_of_step (h : m.step = (.ok p, next)) : m.run = next.run := by
  cases p with
  | «continue» => exact run_of_continue h
  | suspended =>
    obtain ⟨call, hc⟩ := control_of_step_suspended h
    rw [run_of_other (by simp [h]), h, run_of_suspended hc]
  | done =>
    obtain ⟨result, hc⟩ := control_of_step_done h
    rw [run_of_other (by simp [h]), h, run_of_finished hc]

theorem run_of_error (h : m.step = (.error e, next)) : m.run = (.error e, next) := by
  rw [run_of_other (by simp [h]), h]

/-- A run ends in a machine whose own run ends in the same way at once. -/
theorem run_run (m : Machine) : m.run.2.run = m.run := by
  fun_induction run m with
  | case1 m mid _ ih => exact ih
  | case2 m hm =>
    cases hs : m.step with
    | mk answer next =>
      cases answer with
      | error e =>
        obtain rfl := step_error hs
        exact run_of_error hs
      | ok p =>
        have hr := run_of_step hs
        rwa [run_of_other (by simpa using hm), hs, eq_comm] at hr

theorem control_of_run_suspended (h : m.run = (.ok .suspended, mid)) :
    ∃ call, mid.control = .suspended call := by
  fun_induction run m with
  | case1 m _ _ ih => exact ih h
  | case2 m _ => exact control_of_step_suspended h

theorem control_of_run_error (h : m.run = (.error e, mid)) : mid.control = .running := by
  fun_induction run m with
  | case1 m _ _ ih => exact ih h
  | case2 m _ =>
    have hs := stepped m
    rw [h] at hs
    cases hs <;> assumption

variable {environment : Environment σ} {s t : σ}

theorem drive_of_run_error (h : m.run = (.error e, mid)) :
    drive environment m s = (.error e, mid, s) := by
  rw [drive]
  split <;> simp_all

theorem drive_of_run_ended (h : m.run = (.ok p, mid)) (hp : p ≠ .suspended) :
    drive environment m s = (.ok (mid.result?.getD .null), mid, s) := by
  rw [drive]
  split <;> simp_all

/-- The rest of a drive from the answer to the pending call on. -/
def answered (environment : Environment σ) (m : Machine) :
    Except WorkflowError Json × σ → Except WorkflowError Json × Machine × σ
  | (.error e, t) => (.error e, m, t)
  | (.ok value, t) =>
    match m.resume value with
    | (.error e, same) => (.error e, same, t)
    | (.ok (), next) => drive environment next t

theorem drive_of_run_suspended (h : m.run = (.ok .suspended, mid))
    (hc : mid.control = .suspended call) :
    drive environment m s = answered environment mid (environment call s) := by
  have hp := pending?_of_control hc
  rw [drive]
  split
  next hr => simp [h] at hr
  next hr =>
    obtain rfl : mid = _ := (Prod.mk.inj (h.symm.trans hr)).2
    split
    next hn => simp [hp] at hn
    next called hn =>
      obtain rfl : call = called := Option.some.inj (hp.symm.trans hn)
      simp only [answered]
      split <;> simp_all
      split <;> simp_all
  next hr => simp_all

theorem drive_of_suspended (hc : m.control = .suspended call) :
    drive environment m s = answered environment m (environment call s) :=
  drive_of_run_suspended (run_of_suspended hc) hc

/-- A drive does not see how far the machine has run towards its next call. -/
theorem drive_of_run (h : m.run = next.run) : drive environment m s = drive environment next s := by
  cases hr : next.run with
  | mk answer mid =>
    rw [hr] at h
    cases answer with
    | error e => rw [drive_of_run_error h, drive_of_run_error hr]
    | ok p =>
      by_cases hp : p = .suspended
      · subst hp
        obtain ⟨call, hc⟩ := control_of_run_suspended h
        rw [drive_of_run_suspended h hc, drive_of_run_suspended hr hc]
      · rw [drive_of_run_ended h hp, drive_of_run_ended hr hp]

theorem drive_of_step (h : m.step = (.ok p, next)) :
    drive environment m s = drive environment next s :=
  drive_of_run (run_of_step h)

theorem drive_of_run_to (h : m.run = (.ok p, mid)) :
    drive environment m s = drive environment mid s := by
  have hr := run_run m
  rw [h] at hr
  exact drive_of_run (h.trans hr.symm)

theorem drive_of_finished {result : Json} (h : m.control = .finished result) :
    drive environment m s = (.ok result, m, s) := by
  rw [drive_of_run_ended (run_of_finished h) (by decide)]
  simp [result?, h]

/-- The environment that also writes down the calls in their order. -/
def Environment.logged (environment : Environment σ) : Environment (σ × List Call) :=
  fun call (s, calls) => ((environment call s).1, (environment call s).2, calls ++ [call])

/-- Another way to keep the state of an environment changes nothing in the answers of a drive. -/
theorem drive_map {other : Environment τ} (f : σ → τ)
    (hf : ∀ call s, other call (f s) = ((environment call s).1, f (environment call s).2))
    (m : Machine) (s : σ) :
    drive other m (f s) =
      ((drive environment m s).1, (drive environment m s).2.1,
        f (drive environment m s).2.2) := by
  fun_induction drive environment m s with
  | case1 m s e mid hr => rw [drive_of_run_error hr]
  | case2 m s mid hr hn =>
    obtain ⟨call, hc⟩ := control_of_run_suspended hr
    simp [pending?_of_control hc] at hn
  | case3 m s mid hr call hp e t he =>
    rw [drive_of_run_suspended hr (control_of_pending? hp), hf, he, answered]
  | case4 m s mid hr call hp value t he e same h =>
    rw [drive_of_run_suspended hr (control_of_pending? hp), hf, he, answered, h]
  | case5 m s mid hr call hp value t he next h ih =>
    rw [drive_of_run_suspended hr (control_of_pending? hp), hf, he, answered, h]
    exact ih
  | case6 m s p mid hn hr => rw [drive_of_run_ended hr hn]

end Stepwise.Machine
