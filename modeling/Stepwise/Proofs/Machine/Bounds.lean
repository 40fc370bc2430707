import Stepwise.Machine.Snapshot
import Stepwise.Proofs.Machine.Consistency
import Stepwise.Proofs.Machine.Ending

namespace Stepwise.Machine

variable {σ : Type} {m next : Machine} {w : Workflow} {environment : Environment σ}

/-- The end of a run that takes no more phases than the fuel. -/
def runWithin : Nat → Machine → Option (Except WorkflowError Progress × Machine)
  | 0, _ => none
  | fuel + 1, m =>
    match m.step with
    | (.ok .continue, next) => runWithin fuel next
    | outcome => some outcome

/-- The calls of a drive in their order, the last one also where its answer is an error. -/
def asked (environment : Environment σ) (m : Machine) (s : σ) : List Call :=
  (drive environment.logged m (s, [])).2.2.2

/-- The calls of a step that is not skipped. -/
def callsOf (step : Step) : Nat := step.fetch.length + 1

/-- The calls that some steps declare. -/
def declared : List Step → Nat
  | [] => 0
  | step :: rest => callsOf step + declared rest

/-- A tight bound on the phases up to the next call or the end, that one included. -/
def phasesLeft (m : Machine) : Nat :=
  match m.phase with
  | .guard | .store _ => m.workflow.steps.length - m.pc + 2
  | .fetch _ => 2
  | .execute => 1

theorem phasesLeft_pos (m : Machine) : 0 < m.phasesLeft := by
  unfold phasesLeft
  split <;> omega

theorem phasesLeft_le (m : Machine) : m.phasesLeft ≤ m.workflow.steps.length - m.pc + 2 := by
  unfold phasesLeft
  split <;> omega

theorem phasesLeft_of_step (h : m.step = (.ok .continue, next)) :
    next.phasesLeft < m.phasesLeft := by
  have hm := stepped m
  rw [h] at hm
  cases hm with
  | skips hc hs hp =>
    have hl := lt_of_current? hs
    simp only [phasesLeft, hp, advance]
    omega
  | enters hc hs hp =>
    have hl := lt_of_current? hs
    simp only [phasesLeft, hp]
    omega
  | gathered hc hs hp => simp [phasesLeft, hp]
  | stores hc hs hp hv =>
    have hl := lt_of_current? hs
    simp only [phasesLeft, hp, advance]
    omega

theorem runWithin_of_le {fuel : Nat} (hf : m.phasesLeft ≤ fuel) :
    runWithin fuel m = some m.run := by
  induction fuel generalizing m with
  | zero =>
    have hp := phasesLeft_pos m
    omega
  | succ fuel ih =>
    unfold runWithin
    split
    next next hs =>
      rw [run_of_continue hs]
      have hlt := phasesLeft_of_step hs
      exact ih (by omega)
    next hn => rw [run_of_other hn]

theorem callsFrom_eq_declared (w : Workflow) (index : Nat) :
    callsFrom w index = declared (w.steps.drop index) := by
  unfold callsFrom
  induction w.steps.drop index with
  | nil => rfl
  | cons step rest ih => rw [List.foldr_cons, ih, declared, callsOf]

theorem callsAhead_le (m : Machine) : m.callsAhead ≤ callsFrom m.workflow m.pc := by
  unfold callsAhead
  split
  next => exact Nat.zero_le _
  next step hs =>
    have hp : callsOfStep step m.phase ≤ step.fetch.length + 1 := by
      cases m.phase <;> simp only [callsOfStep] <;> omega
    rw [callsFrom_of_getElem? hs]
    omega

theorem callsLeft_le (m : Machine) : m.callsLeft ≤ 1 + callsFrom m.workflow m.pc := by
  have ha := callsAhead_le m
  unfold callsLeft
  split <;> omega

theorem callsLeft_le_of_pending? (hn : m.pending? = none) :
    m.callsLeft ≤ callsFrom m.workflow m.pc := by
  have ha := callsAhead_le m
  simp only [callsLeft, hn, Option.isSome_none, Bool.false_eq_true, if_false]
  exact ha

theorem callsLeft_start (w : Workflow) (vars : Vars) :
    (start w vars).callsLeft = callsFrom w 0 := by
  have ha : (start w vars).callsAhead = callsFrom w 0 := callsAhead_guard rfl
  have hp : (start w vars).pending? = none := rfl
  rw [callsLeft, ha, hp]
  rfl

theorem Awaits.callsAhead_pos (h : m.Awaits) : 0 < m.callsAhead := by
  obtain ⟨step, hs, hp | ⟨index, hp, hi⟩⟩ := h
  · simp only [callsAhead_eq hs, hp, callsOfStep]
    omega
  · simp only [callsAhead_eq hs, hp, callsOfStep]
    omega

/-- A call is counted before it is asked for. -/
theorem callsLeft_pos_of_run (h : m.run = (.ok .suspended, next)) : 0 < m.callsLeft := by
  cases hc : m.control with
  | running =>
    obtain ⟨hw, hle⟩ := callsAhead_of_run hc h
    have hp := hw.callsAhead_pos
    unfold callsLeft
    omega
  | suspended call => simp [callsLeft, pending?_of_control hc]
  | finished result => simp [run_of_finished hc] at h

/-- Every call takes one from the measure, whether the machine takes its answer or not. -/
theorem length_logged_le (environment : Environment σ) (m : Machine) (s : σ × List Call) :
    (drive environment.logged m s).2.2.2.length ≤ s.2.length + m.callsLeft := by
  fun_induction drive environment.logged m s with
  | case1 m s e mid hr => exact Nat.le_add_right _ _
  | case2 m s mid hr hn => exact Nat.le_add_right _ _
  | case3 m s mid hr call hp e t he =>
    have hpos := callsLeft_pos_of_run hr
    obtain ⟨-, rfl⟩ := Prod.mk.inj he
    simp only [List.length_append, List.length_singleton]
    omega
  | case4 m s mid hr call hp value t he e same hv =>
    have hpos := callsLeft_pos_of_run hr
    obtain ⟨-, rfl⟩ := Prod.mk.inj he
    simp only [List.length_append, List.length_singleton]
    omega
  | case5 m s mid hr call hp value t he next hv ih =>
    have hlt := callsLeft_of_resume hr hv
    obtain ⟨-, rfl⟩ := Prod.mk.inj he
    simp only [List.length_append, List.length_singleton] at ih
    omega
  | case6 m s p mid hn hr => exact Nat.le_add_right _ _

theorem length_asked_le (environment : Environment σ) (m : Machine) (s : σ) :
    (asked environment m s).length ≤ m.callsLeft := by
  simpa [asked] using length_logged_le environment m (s, [])

/-- The calls of the steps that are skipped by their records. -/
def missedIn : List Step → List StepTrace → Nat
  | step :: steps, record :: records =>
    (if record.status = .skipped then callsOf step else 0) + missedIn steps records
  | _, _ => 0

def missed (m : Machine) : Nat := missedIn m.workflow.steps m.trace

theorem missedIn_append {steps : List Step} {records : List StepTrace} {step : Step}
    (hs : steps[records.length]? = some step) (record : StepTrace) :
    missedIn steps (records ++ [record]) =
      missedIn steps records + if record.status = .skipped then callsOf step else 0 := by
  induction records generalizing steps with
  | nil =>
    cases steps with
    | nil => simp at hs
    | cons first steps =>
      obtain rfl : first = step := Option.some.inj hs
      simp [missedIn]
  | cons other records ih =>
    cases steps with
    | nil => simp at hs
    | cons first steps =>
      rw [List.cons_append, missedIn, missedIn, ih hs, Nat.add_assoc]

theorem missedIn_eq_zero_iff {steps : List Step} {records : List StepTrace}
    (hl : records.length ≤ steps.length) :
    missedIn steps records = 0 ↔ ∀ record ∈ records, record.status ≠ .skipped := by
  induction records generalizing steps with
  | nil => simp [missedIn]
  | cons record records ih =>
    cases steps with
    | nil => simp at hl
    | cons step steps =>
      have hi := ih (Nat.le_of_succ_le_succ hl)
      rw [missedIn, List.forall_mem_cons, ← hi]
      by_cases hs : record.status = .skipped <;> simp [hs, callsOf]

theorem missed_advance {step : Step} (ht : m.trace.length = m.pc) (hs : m.current? = some step)
    (status : StepOutcome) :
    (m.advance step status).missed =
      m.missed + if status = .skipped then callsOf step else 0 :=
  missedIn_append (ht ▸ hs) _

/-- A phase moves the calls of a skipped step from those ahead to those missed. -/
theorem balance_of_step {p : Progress} (ht : m.trace.length = m.pc)
    (h : m.step = (.ok p, next)) :
    next.callsAhead + next.missed = m.callsAhead + m.missed := by
  have hm := stepped m
  rw [h] at hm
  cases hm with
  | waits | rests | finishes | asks | submits => rfl
  | skips hc hs hp hg =>
    rw [callsAhead_advance, missed_advance ht hs, callsAhead_eq hs, hp]
    simp only [callsOf, callsOfStep, if_true]
    omega
  | @enters step hc hs hp =>
    have hn : callsAhead { m with params := imported m.vars step, phase := .fetch 0 } = _ :=
      callsAhead_eq hs
    rw [hn, callsAhead_eq hs, hp]
    rfl
  | @gathered step index hc hs hp hf =>
    have hn : callsAhead { m with phase := .execute } = _ := callsAhead_eq hs
    have hl : step.fetch.length ≤ index := List.getElem?_eq_none_iff.mp hf
    rw [hn, callsAhead_eq hs, hp]
    simp only [callsOfStep, Nat.sub_eq_zero_of_le hl]
    rfl
  | @stores step result vars hc hs hp hv =>
    have hn := missed_advance (m := { m with vars := vars }) ht hs .executed
    rw [callsAhead_advance, hn, callsAhead_eq hs, hp]
    simp [callsOfStep, missed]

theorem Placed.balance_of_run (h : Placed w m) {p : Progress} (hr : m.run = (.ok p, next)) :
    Placed w next ∧ next.callsAhead + next.missed = m.callsAhead + m.missed := by
  fun_induction run m with
  | case1 m mid hs ih =>
    have hm := placed_step h
    rw [hs] at hm
    rw [← balance_of_step h.trace_length hs]
    exact ih hm hr
  | case2 m hn =>
    have hm := placed_step h
    rw [hr] at hm
    exact ⟨hm, balance_of_step h.trace_length hr⟩

/-- From the start of a workflow an answer settles one call that was counted. -/
theorem Placed.balance_of_resume (h : Placed w m) {value : Json}
    (hv : m.resume value = (.ok (), next)) :
    next.callsAhead + next.missed + 1 = m.callsAhead + m.missed := by
  have hm := resumed m value
  rw [hv] at hm
  cases hm with
  | @takesRecords step request index spec records hc hs hp =>
    obtain ⟨found, position, _, hs', hp', hf, _⟩ := h.position.of_fetch_call hc
    obtain rfl : found = step := Option.some.inj (hs'.symm.trans (h.current?.symm.trans hs))
    obtain rfl : index = position := by simpa [hp] using hp'
    have hl : index < found.fetch.length := (List.getElem?_eq_some_iff.mp hf).1
    have hn : callsAhead { m with
        params := m.params.insert request.param (hydrate spec records)
        phase := .fetch (index + 1)
        control := .running } = callsOfStep found (.fetch (index + 1)) + _ := callsAhead_eq hs
    rw [hn, callsAhead_eq hs, hp]
    simp only [callsOfStep, missed]
    omega
  | takesResult hc =>
    obtain ⟨step, hs, hp, _⟩ := h.position.of_activity_call hc
    have hm := h.current?.trans hs
    have hn : callsAhead { m with phase := .store value, control := .running } =
        callsOfStep step (.store value) + _ := callsAhead_eq hm
    rw [hn, callsAhead_eq hm, hp]
    simp only [callsOfStep, missed]
    omega

/-- A machine that is done has no calls ahead. -/
theorem Placed.callsAhead_of_run (h : Placed w next) {p : Progress} (hr : m.run = (.ok p, next))
    (hp : p ≠ .suspended) : next.callsAhead = 0 := by
  obtain ⟨result, hc⟩ := control_of_run_done hr hp
  obtain ⟨hn, -⟩ := h.position.end_of_finished hc
  have hs : next.current? = none := by
    rw [h.current?]
    exact List.getElem?_eq_none (Nat.le_of_eq hn.symm)
  simp [callsAhead, hs]

/-- In a drive that ends well every call ahead is made but those that its steps skip. -/
theorem Placed.length_logged (environment : Environment σ) (h : Placed w m) (s : σ × List Call)
    {result : Json} (hd : (drive environment.logged m s).1 = .ok result) :
    Placed w (drive environment.logged m s).2.1 ∧
      (drive environment.logged m s).2.2.2.length + (drive environment.logged m s).2.1.missed =
        s.2.length + m.callsAhead + m.missed := by
  fun_induction drive environment.logged m s with
  | case1 | case2 | case3 | case4 => simp at hd
  | case5 m s mid hr call hp value t he next hv ih =>
    obtain ⟨hm, hb⟩ := h.balance_of_run hr
    have hn := placed_resume hm value
    rw [hv] at hn
    have hc := hm.balance_of_resume hv
    obtain ⟨-, rfl⟩ := Prod.mk.inj he
    obtain ⟨hl, hi⟩ := ih hn hd
    simp only [List.length_append, List.length_singleton] at hi
    exact ⟨hl, by omega⟩
  | case6 m s p mid hn hr =>
    obtain ⟨hm, hb⟩ := h.balance_of_run hr
    have hz := hm.callsAhead_of_run hr hn
    refine ⟨hm, ?_⟩
    change s.2.length + mid.missed = _
    omega

theorem drive_logged (environment : Environment σ) (m : Machine) (s : σ) (calls : List Call) :
    drive environment m s =
      ((drive environment.logged m (s, calls)).1, (drive environment.logged m (s, calls)).2.1,
        (drive environment.logged m (s, calls)).2.2.1) := by
  have hf : ∀ call (x : σ × List Call), environment call x.1 =
      ((environment.logged call x).1, (environment.logged call x).2.1) := fun _ _ => rfl
  exact drive_map Prod.fst hf m (s, calls)

/-- From the start of a workflow, the calls of a drive that ends well and the calls of the steps
that it skips are all that the steps declare. -/
theorem length_asked_start (environment : Environment σ) (w : Workflow) (vars : Vars) (s : σ)
    {result : Json} {last : Machine} {t : σ}
    (hd : drive environment (start w vars) s = (.ok result, last, t)) :
    Placed w last ∧ (asked environment (start w vars) s).length + last.missed = callsFrom w 0 := by
  rw [drive_logged environment _ s []] at hd
  obtain ⟨hr, hm⟩ := Prod.mk.inj hd
  obtain ⟨rfl, -⟩ := Prod.mk.inj hm
  have hb := (placed_start w vars).length_logged environment (s, []) hr
  have ha : (start w vars).callsAhead = callsFrom w 0 := callsAhead_guard rfl
  have hz : (start w vars).missed = 0 := by simp [missed, missedIn, start]
  simpa [asked, ha, hz] using hb

/-- A run ends within two phases more than there are steps left, and a drive makes at most one call
more than these declare, from any machine and with any environment; without a pending call the
declared ones are enough. Both loops come to an answer or an error of theirs but where a write goes
past the end of an array, or the index of a fetch past the last number: the program breaks off
there, within the same bounds. From the start of a workflow a drive that ends well makes all the
declared calls if and only if it skips no step. -/
theorem loops_within_bounds (environment : Environment σ) (s : σ) :
    (∀ m : Machine, runWithin (m.workflow.steps.length - m.pc + 2) m = some m.run ∧
      ((∃ path, m.run.1 = .error (outOfSpace path)) ↔ m.run.2.WritesPastEnd)) ∧
    (∀ m : Machine,
      (asked environment m s).length ≤ 1 + declared (m.workflow.steps.drop m.pc) ∧
      (m.pending? = none →
        (asked environment m s).length ≤ declared (m.workflow.steps.drop m.pc)) ∧
      Ending environment (drive environment m s)) ∧
    ∀ (w : Workflow) (vars : Vars),
      let calls := (asked environment (start w vars) s).length
      calls ≤ declared w.steps ∧
        ∀ (result : Json) (last : Machine) (t : σ),
          drive environment (start w vars) s = (.ok result, last, t) →
            (calls = declared w.steps ↔ ∀ record ∈ last.trace, record.status ≠ .skipped) := by
  refine ⟨fun m => ⟨runWithin_of_le (phasesLeft_le m), run_breaksOff_iff m⟩, ?_, ?_⟩
  · intro m
    have hl := length_asked_le environment m s
    rw [← callsFrom_eq_declared]
    refine ⟨Nat.le_trans hl (callsLeft_le m), fun hn => ?_, ending_drive environment m s⟩
    exact Nat.le_trans hl (callsLeft_le_of_pending? hn)
  · intro w vars
    have hw : declared w.steps = callsFrom w 0 := (callsFrom_eq_declared w 0).symm
    rw [hw]
    refine ⟨callsLeft_start w vars ▸ length_asked_le environment _ s, ?_⟩
    intro result last t hd
    obtain ⟨hp, hb⟩ := length_asked_start environment w vars s hd
    have hl : last.trace.length ≤ last.workflow.steps.length := by
      rw [hp.trace_length, hp.workflow]
      exact hp.pc_le
    rw [← missedIn_eq_zero_iff hl]
    change _ ↔ last.missed = 0
    omega

/-- One step that is skipped and one that fetches its input. -/
def rounds : Workflow where
  name := "rounds"
  steps := [
    { name := "rest", condition := some [("tired", .obj [("$exists", .bool true)])] },
    { name := "carry", fetch := [("load", { provider := "document" })] }]

def carrier : Environment Unit
  | .fetch _, s => (.ok (.arr []), s)
  | .activity _, s => (.ok (.str "carried"), s)

def delivered : Machine where
  workflow := rounds
  vars := .empty
  pc := 2
  trace := [⟨"rest", none, .skipped⟩, ⟨"carry", none, .executed⟩]
  control := .finished .null

theorem rounds_within_bounds :
    drive carrier (start rounds .empty) () = (.ok .null, delivered, ()) ∧
      (asked carrier (start rounds .empty) ()).length ≤ declared (rounds.steps.drop 0) ∧
      ((asked carrier (start rounds .empty) ()).length = declared rounds.steps ↔
        ∀ record ∈ delivered.trace, record.status ≠ .skipped) := by
  have hd : drive carrier (start rounds .empty) () = (.ok .null, delivered, ()) := by
    refine (drive_of_step rfl).trans ?_
    refine (drive_of_step rfl).trans ?_
    refine (drive_of_step rfl).trans ?_
    refine (drive_of_suspended rfl).trans ?_
    refine (drive_of_step rfl).trans ?_
    refine (drive_of_step rfl).trans ?_
    refine (drive_of_suspended rfl).trans ?_
    refine (drive_of_step rfl).trans ?_
    refine (drive_of_step rfl).trans ?_
    exact drive_of_finished rfl
  exact ⟨hd, ((loops_within_bounds carrier ()).2.1 (start rounds .empty)).2.1 rfl,
    ((loops_within_bounds carrier ()).2.2 rounds .empty).2 _ _ _ hd⟩

/-- The result of the first step has come, and goes to the last position of a list. -/
def stuck : Machine where
  workflow := Vars.endless
  vars := ⟨Vars.endless.vars⟩
  phase := .store (.str "carried")

/-- A snapshot can hold a machine that writes past the end of an array: its run gives no answer. The
drive of its workflow comes to it from the start. -/
theorem run_not_total :
    ofJson? stuck.toJson = some stuck ∧ stuck.WritesPastEnd ∧
      stuck.run = (.error (outOfSpace "list.18446744073709551615"), stuck) ∧
      drive carrier (start Vars.endless ⟨Vars.endless.vars⟩) () =
        (.error (outOfSpace "list.18446744073709551615"), stuck, ()) := by
  have hs : stuck.step = (.error (outOfSpace "list.18446744073709551615"), stuck) := rfl
  have hr := run_of_error hs
  refine ⟨rfl, writesPastEnd_of_step hs, hr, ?_⟩
  refine (drive_of_step rfl).trans ?_
  refine (drive_of_step rfl).trans ?_
  refine (drive_of_step rfl).trans ?_
  refine (drive_of_suspended rfl).trans ?_
  exact drive_of_run_error hr

end Stepwise.Machine
