import Stepwise.Machine.Basic

namespace Stepwise.Machine

def Phase.rank : Phase → Nat
  | .guard => 2
  | .fetch _ => 1
  | .execute => 0
  | .store _ => 0

/-- A bound on the phases up to the next call or the end. -/
def stepsLeft (m : Machine) : Nat := 3 * (m.workflow.steps.length - m.pc) + Phase.rank m.phase

theorem lt_of_current? {m : Machine} {step : Step} (h : m.current? = some step) :
    m.pc < m.workflow.steps.length :=
  (List.getElem?_eq_some_iff.mp h).1

theorem stepsLeft_advance {m : Machine} {step : Step} (status : StepOutcome)
    (h : m.pc < m.workflow.steps.length) : (m.advance step status).stepsLeft < m.stepsLeft := by
  simp only [stepsLeft, advance, Phase.rank]
  omega

/-- A phase that is followed by another one brings the machine nearer to its next call. -/
theorem stepsLeft_of_step {m next : Machine} (h : m.step = (.ok .continue, next)) :
    next.stepsLeft < m.stepsLeft := by
  unfold step at h
  split at h
  · simp at h
  · simp at h
  · split at h
    · simp at h
    · next step hs =>
      have hpc := lt_of_current? hs
      split at h
      · next hp =>
        unfold guard at h
        split at h
        · simp at h
        · cases h
          exact stepsLeft_advance _ hpc
        · cases h
          simp [stepsLeft, hp, Phase.rank]
      · next hp =>
        unfold fetch at h
        split at h
        · cases h
          simp [stepsLeft, hp, Phase.rank]
        · simp at h
      · simp [execute] at h
      · next hp =>
        unfold store at h
        split at h
        · simp at h
        · cases h
          simp only [stepsLeft, advance, Phase.rank, hp]
          omega

/-- Lets the machine go on until it is suspended or done. -/
def run (m : Machine) : Except WorkflowError Progress × Machine :=
  match _h : m.step with
  | (.ok .continue, next) => next.run
  | outcome => outcome
termination_by m.stepsLeft
decreasing_by exact stepsLeft_of_step _h

def callsFrom (w : Workflow) (index : Nat) : Nat :=
  (w.steps.drop index).foldr (fun step calls => step.fetch.length + 1 + calls) 0

def callsOfStep (step : Step) : Phase → Nat
  | .guard => step.fetch.length + 1
  | .fetch index => step.fetch.length - index + 1
  | .execute => 1
  | .store _ => 0

/-- The calls still to come, a pending one counted by its phase. -/
def callsAhead (m : Machine) : Nat :=
  match m.current? with
  | none => 0
  | some step => callsOfStep step m.phase + callsFrom m.workflow (m.pc + 1)

/-- A bound on the calls up to the end; one more for a call that a snapshot may hold in any
phase. -/
def callsLeft (m : Machine) : Nat := m.callsAhead + (if m.pending?.isSome then 1 else 0)

theorem callsFrom_of_getElem? {w : Workflow} {index : Nat} {step : Step}
    (h : w.steps[index]? = some step) :
    callsFrom w index = step.fetch.length + 1 + callsFrom w (index + 1) := by
  obtain ⟨hl, rfl⟩ := List.getElem?_eq_some_iff.mp h
  simp only [callsFrom]
  rw [List.drop_eq_getElem_cons hl, List.foldr_cons]

theorem callsAhead_eq {m : Machine} {step : Step} (h : m.current? = some step) :
    m.callsAhead = callsOfStep step m.phase + callsFrom m.workflow (m.pc + 1) := by
  simp [callsAhead, h]

theorem callsAhead_guard {m : Machine} (hp : m.phase = .guard) :
    m.callsAhead = callsFrom m.workflow m.pc := by
  unfold callsAhead
  split
  · next h =>
    have hl : m.workflow.steps.length ≤ m.pc := List.getElem?_eq_none_iff.mp h
    simp [callsFrom, List.drop_eq_nil_of_le hl]
  · next step h => simp [hp, callsOfStep, callsFrom_of_getElem? h]

theorem callsAhead_advance (m : Machine) (step : Step) (status : StepOutcome) :
    (m.advance step status).callsAhead = callsFrom m.workflow (m.pc + 1) :=
  callsAhead_guard rfl

/-- The machine waits for a call that belongs to its phase. -/
def Awaits (m : Machine) : Prop :=
  ∃ step, m.current? = some step ∧
    (m.phase = .execute ∨ ∃ index, m.phase = .fetch index ∧ index < step.fetch.length)

/-- A phase brings no new calls, and a call that it asks for belongs to the phase. -/
theorem callsAhead_of_step {m next : Machine} {p : Progress} (hc : m.control = .running)
    (h : m.step = (.ok p, next)) :
    (p = .continue → next.control = .running ∧ next.callsAhead ≤ m.callsAhead) ∧
      (p = .suspended → next.Awaits ∧ next.callsAhead ≤ m.callsAhead) := by
  simp only [step, hc] at h
  split at h
  · cases h
    simp
  · next step hs =>
    have hm := callsAhead_eq hs
    split at h
    · next hp =>
      unfold guard at h
      split at h
      · simp at h
      · cases h
        refine ⟨fun _ => ⟨hc, ?_⟩, by simp⟩
        rw [callsAhead_advance, hm]
        omega
      · cases h
        refine ⟨fun _ => ⟨hc, Nat.le_trans (Nat.le_of_eq (callsAhead_eq hs)) ?_⟩, by simp⟩
        simp only [hm, hp, callsOfStep]
        omega
    · next index hp =>
      unfold fetch at h
      split at h
      · cases h
        refine ⟨fun _ => ⟨hc, Nat.le_trans (Nat.le_of_eq (callsAhead_eq hs)) ?_⟩, by simp⟩
        simp only [hm, hp, callsOfStep]
        omega
      · next param spec hf =>
        cases h
        refine ⟨by simp, fun _ => ⟨⟨step, hs, .inr ⟨index, hp, ?_⟩⟩, Nat.le_refl _⟩⟩
        exact (List.getElem?_eq_some_iff.mp hf).1
    · next hp =>
      cases h
      exact ⟨(fun h => Progress.noConfusion h), fun _ => ⟨⟨step, hs, .inl hp⟩, Nat.le_refl _⟩⟩
    · next result hp =>
      unfold store at h
      split at h
      · simp at h
      · cases h
        refine ⟨fun _ => ⟨hc, ?_⟩, by simp⟩
        rw [callsAhead_advance, hm]
        exact Nat.le_add_left _ _

theorem callsAhead_of_run {m next : Machine} (hc : m.control = .running)
    (h : m.run = (.ok .suspended, next)) : next.Awaits ∧ next.callsAhead ≤ m.callsAhead := by
  fun_induction run m with
  | case1 m mid hs ih =>
    obtain ⟨hr, hle⟩ := (callsAhead_of_step hc hs).1 rfl
    obtain ⟨ha, hn⟩ := ih hr h
    exact ⟨ha, Nat.le_trans hn hle⟩
  | case2 m hs => exact (callsAhead_of_step hc h).2 rfl

theorem run_of_suspended {m : Machine} {call : Call} (h : m.control = .suspended call) :
    m.run = (.ok .suspended, m) := by
  unfold run
  have hs : m.step = (.ok .suspended, m) := by simp [step, h]
  split
  · next hn =>
    rw [hs] at hn
    simp at hn
  · exact hs

theorem run_of_finished {m : Machine} {result : Json} (h : m.control = .finished result) :
    m.run = (.ok .done, m) := by
  unfold run
  have hs : m.step = (.ok .done, m) := by simp [step, h]
  split
  · next hn =>
    rw [hs] at hn
    simp at hn
  · exact hs

/-- An answer lets a machine go on; it brings no new calls, and takes away a call of its phase. -/
theorem callsAhead_of_resume {m next : Machine} {value : Json}
    (h : m.resume value = (.ok (), next)) :
    next.pending? = none ∧ next.callsAhead ≤ m.callsAhead ∧
      (m.Awaits → next.callsAhead < m.callsAhead) := by
  unfold resume at h
  split at h
  · next call hcall =>
    split at h
    · simp at h
    · next resumed ha =>
      cases h
      cases call with
      | activity request =>
        cases ha
        refine ⟨rfl, ?_, ?_⟩
        · cases hs : m.current? with
          | none =>
            have hn : ∀ n : Machine, n.current? = none → n.callsAhead = 0 := fun n h => by
              simp [callsAhead, h]
            exact Nat.le_trans (Nat.le_of_eq (hn _ hs)) (Nat.zero_le _)
          | some step =>
            refine Nat.le_trans (Nat.le_of_eq (callsAhead_eq hs)) ?_
            simp only [callsAhead_eq hs, callsOfStep]
            omega
        · rintro ⟨step, hs, hp⟩
          refine Nat.lt_of_le_of_lt (Nat.le_of_eq (callsAhead_eq hs)) ?_
          have hm := callsAhead_eq hs
          rcases hp with hp | ⟨index, hp, hi⟩ <;> simp only [hm, hp, callsOfStep] <;> omega
      | fetch request =>
        simp only [answer, takeRecords] at ha
        split at ha
        · next index hp =>
          split at ha
          · simp at ha
          · next step spec hb =>
            obtain ⟨s, hs, _⟩ := Option.bind_eq_some_iff.mp hb
            split at ha
            · split at ha
              · simp at ha
              · split at ha
                · simp at ha
                · next after hn =>
                  obtain rfl := eq_of_indexAfter? hn
                  cases ha
                  refine ⟨rfl, ?_, ?_⟩
                  · refine Nat.le_trans (Nat.le_of_eq (callsAhead_eq hs)) ?_
                    have hm := callsAhead_eq hs
                    simp only [hm, hp, callsOfStep]
                    omega
                  · rintro ⟨t, ht, hq⟩
                    have he : t = s := Option.some.inj (ht.symm.trans hs)
                    subst he
                    refine Nat.lt_of_le_of_lt (Nat.le_of_eq (callsAhead_eq hs)) ?_
                    have hm := callsAhead_eq hs
                    rcases hq with hq | ⟨i, hq, hi⟩
                    · simp [hp] at hq
                    · have hj : index = i := by simpa [hp] using hq
                      simp only [hm, hp, callsOfStep]
                      omega
            · simp at ha
        · simp at ha
  · simp at h

/-- One call and its answer bring the machine nearer to its end. -/
theorem callsLeft_of_resume {m mid next : Machine} {value : Json}
    (hr : m.run = (.ok .suspended, mid)) (h : mid.resume value = (.ok (), next)) :
    next.callsLeft < m.callsLeft := by
  obtain ⟨hn, hle, hlt⟩ := callsAhead_of_resume h
  cases hc : m.control with
  | running =>
    obtain ⟨ha, hb⟩ := callsAhead_of_run hc hr
    have hl := hlt ha
    simp only [callsLeft, hn, Option.isSome_none, Bool.false_eq_true, if_false]
    omega
  | suspended call =>
    rw [run_of_suspended hc] at hr
    cases hr
    have hs : m.pending? = some call := by simp [pending?, hc]
    simp only [callsLeft, hn, hs, Option.isSome_none, Option.isSome_some, Bool.false_eq_true,
      if_false, if_true]
    omega
  | finished result =>
    rw [run_of_finished hc] at hr
    simp at hr

/-- Answers calls and keeps what it has to remember in a state. -/
abbrev Environment (σ : Type) := Call → σ → Except WorkflowError Json × σ

/-- Lets the machine go on to its end, asking the environment for the answer to every call. On an
error the machine is left as it was at the failing call. -/
def drive {σ : Type} (environment : Environment σ) (m : Machine) (s : σ) :
    Except WorkflowError Json × Machine × σ :=
  match _hr : m.run with
  | (.error e, mid) => (.error e, mid, s)
  | (.ok .suspended, mid) =>
    match mid.pending? with
    | none => (.error (.invalidState "machine suspended without a pending call"), mid, s)
    | some call =>
      match environment call s with
      | (.error e, t) => (.error e, mid, t)
      | (.ok value, t) =>
        match _h : mid.resume value with
        | (.error e, same) => (.error e, same, t)
        | (.ok (), next) => drive environment next t
  | (.ok _, mid) => (.ok (mid.result?.getD .null), mid, s)
termination_by m.callsLeft
decreasing_by exact callsLeft_of_resume _hr _h

end Stepwise.Machine
