import Stepwise.Proofs.Faults
import Stepwise.Proofs.Json.Room

namespace Stepwise

variable {σ : Type} {e : WorkflowError}

theorem Condition.Fault.ne_outOfSpace (h : Condition.Fault e) (path : String) :
    e ≠ Machine.outOfSpace path := by
  rintro rfl
  cases h

theorem Projection.Fault.ne_outOfSpace (h : Projection.Fault e) (path : String) :
    e ≠ Machine.outOfSpace path := by
  rintro rfl
  cases h with
  | condition hc => exact hc.ne_outOfSpace path rfl

namespace Machine

variable {m last : Machine} {p : Progress} {value : Json}

/-- The next phase would write the outcome of a step to the last position of an array. -/
def WritesPastEnd (m : Machine) : Prop :=
  ∃ step result path value, m.control = .running ∧ m.current? = some step ∧
    m.phase = .store result ∧ step.output = some path ∧
    outcome m.params step result = .ok value ∧
    Json.Overruns (Json.segments path) m.vars.toJson

/-- The pending fetch would take the records, but its index is the last number of 64 bits. Only a
restored machine has such an index, beyond all fetches of its step. The program breaks off there;
where its numbers wrap round it goes on from index 0, with no call pending. -/
def CountsPastEnd (m : Machine) (value : Json) : Prop :=
  ∃ request step index spec records, m.control = .suspended (.fetch request) ∧
    m.current? = some step ∧ m.phase = .fetch index ∧
    step.fetch.get? request.param = some spec ∧ value = .arr records ∧
    (records.isEmpty && spec.whenMissing == .throw) = false ∧
    step.fetch.length ≤ index ∧ Text.Numeral.wordBound ≤ index + 1

/-- A drive ends with its result, or with the error of a phase, of a call that the environment fails,
or of an answer that the machine does not take. At a write past the end of an array, and at an index
past the last number, there is no answer: the program breaks off in the middle of a phase. -/
inductive Ending (environment : Environment σ) : Except WorkflowError Json × Machine × σ → Prop
  | result {last : Machine} {result : Json} {s : σ} (hc : last.control = .finished result) :
      Ending environment (.ok result, last, s)
  | phase {last : Machine} {e : WorkflowError} {s : σ} (hs : last.step = (.error e, last))
      (hw : ¬last.WritesPastEnd) : Ending environment (.error e, last, s)
  | call {last : Machine} {call : Call} {e : WorkflowError} {s t : σ}
      (hc : last.control = .suspended call) (he : environment call s = (.error e, t)) :
      Ending environment (.error e, last, t)
  | answer {last : Machine} {call : Call} {value : Json} {e : WorkflowError} {s t : σ}
      (hc : last.control = .suspended call) (he : environment call s = (.ok value, t))
      (hv : (last.resume value).1 = .error e) (hi : ¬last.CountsPastEnd value) :
      Ending environment (.error e, last, t)
  | breaksOffAtWrite {last : Machine} {path : String} {s : σ} (hw : last.WritesPastEnd) :
      Ending environment (.error (outOfSpace path), last, s)
  | breaksOffAtIndex {last : Machine} {call : Call} {value : Json} {param : String} {s t : σ}
      (hc : last.control = .suspended call) (he : environment call s = (.ok value, t))
      (hi : last.CountsPastEnd value) : Ending environment (.error (outOfIndices param), last, t)

/-- For want of room a phase fails only where it writes past the end of an array. -/
theorem writesPastEnd_of_step {path : String} (h : m.step = (.error (outOfSpace path), last)) :
    m.WritesPastEnd := by
  have hs := stepped m
  rw [h] at hs
  cases hs with
  | guardFails _ _ _ hg =>
    exact absurd rfl ((verdict_fault hg).ne_outOfSpace path)
  | @storeFails step result _ hc hs hp hv =>
    rcases varsAfter_error hv with hf | ⟨output, value, ho, hr, hn, -⟩
    · exact absurd rfl (hf.ne_outOfSpace path)
    · exact ⟨step, result, output, value, hc, hs, hp, ho, hr, Vars.set?_eq_none_iff.mp hn⟩

theorem WritesPastEnd.step (h : m.WritesPastEnd) :
    ∃ path, m.step = (.error (outOfSpace path), m) := by
  obtain ⟨step, result, path, value, hc, hs, hp, ho, hr, hw⟩ := h
  have hn : m.vars.set? path value = none := Vars.set?_eq_none_iff.mpr hw
  have hv : m.varsAfter step result = .error (outOfSpace path) := by
    simp only [varsAfter, ho, hr, hn, Except.bind]
  exact ⟨path, step_of_stepped (.storeFails hc hs hp hv)⟩

/-- A run that fails ends in the machine of which the next phase fails. -/
theorem step_of_run_error (h : m.run = (.error e, last)) : last.step = (.error e, last) := by
  fun_induction run m with
  | case1 m next _ ih => exact ih h
  | case2 m _ =>
    obtain rfl := step_error h
    exact h

/-- A run breaks off just where it comes to a write past the end of an array. -/
theorem run_breaksOff_iff (m : Machine) :
    (∃ path, m.run.1 = .error (outOfSpace path)) ↔ m.run.2.WritesPastEnd := by
  constructor
  · rintro ⟨path, he⟩
    have hs : m.run.2.step = (.error (outOfSpace path), m.run.2) :=
      step_of_run_error (Prod.ext he rfl)
    exact writesPastEnd_of_step hs
  · intro hw
    obtain ⟨path, hs⟩ := hw.step
    have hr : m.run = (.error (outOfSpace path), m.run.2) := by
      rw [← run_of_error hs, run_run]
    exact ⟨path, congrArg Prod.fst hr⟩

theorem CountsPastEnd.resume (h : m.CountsPastEnd value) :
    ∃ param, m.resume value = (.error (outOfIndices param), m) := by
  obtain ⟨request, step, index, spec, records, hc, hs, hp, hf, rfl, hr, hl, hb⟩ := h
  have hn : indexAfter? step index = none := if_neg (by omega)
  refine ⟨request.param, ?_⟩
  simp [Machine.resume, hc, answer, takeRecords, hp, hs, hf, hr, hn]

theorem control_of_run_done (h : m.run = (.ok p, last)) (hp : p ≠ .suspended) :
    ∃ result, last.control = .finished result := by
  fun_induction run m with
  | case1 m _ _ ih => exact ih h
  | case2 m hn =>
    cases p with
    | «continue» => exact absurd h (hn last)
    | suspended => exact absurd rfl hp
    | done => exact control_of_step_done h

/-- Every drive ends in one of these ways, wherever it begins. -/
theorem ending_drive (environment : Environment σ) (m : Machine) (s : σ) :
    Ending environment (drive environment m s) := by
  fun_induction drive environment m s with
  | case1 m s e last hr =>
    have hs := step_of_run_error hr
    by_cases hw : last.WritesPastEnd
    · obtain ⟨path, hp⟩ := hw.step
      obtain rfl : e = outOfSpace path := by simpa [hs] using hp
      exact .breaksOffAtWrite hw
    · exact .phase hs hw
  | case2 m s mid hr hn =>
    obtain ⟨call, hc⟩ := control_of_run_suspended hr
    simp [pending?_of_control hc] at hn
  | case3 m s mid hr call hp e t he => exact .call (control_of_pending? hp) he
  | case4 m s mid hr call hp value t he e same hv =>
    obtain rfl := resume_error hv
    have hc := control_of_pending? hp
    by_cases hi : same.CountsPastEnd value
    · obtain ⟨param, hn⟩ := hi.resume
      obtain rfl : e = outOfIndices param := by simpa [hv] using hn
      exact .breaksOffAtIndex hc he hi
    · exact .answer hc he (congrArg Prod.fst hv) hi
  | case5 m s mid hr call hp value t he next hv ih => exact ih
  | case6 m s p mid hn hr =>
    obtain ⟨result, hc⟩ := control_of_run_done hr hn
    have he : Ending environment (.ok result, mid, s) := .result hc
    simpa [result?, hc] using he

end Machine

end Stepwise
