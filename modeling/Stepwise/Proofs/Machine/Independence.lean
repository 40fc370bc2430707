import Stepwise.Proofs.Machine.Interruption
import Stepwise.Proofs.Mentions

namespace Stepwise.Machine

variable {α : Type} {w : Workflow} {names : List String} {m : Machine} {vars : Vars} {step : Step}

/-- The machine with other variables. -/
def withVars (m : Machine) (vars : Vars) : Machine := { m with vars := vars }

/-- Everything about a machine but its variables: position, phase, input, trace, and the pending
call or the result. -/
def shown (m : Machine) : Machine := m.withVars .empty

@[simp] theorem shown_withVars (m : Machine) (vars : Vars) :
    (m.withVars vars).shown = m.shown := rfl

/-- A write has no place in an array, in a variable that is not among some names. -/
def Aborts (names : List String) (answer : Except WorkflowError α) : Prop :=
  ∃ path, Vars.rootOf path ∉ names ∧ answer = .error (outOfSpace path)

theorem verdict_withVars (ha : m.vars.Agree w.mentions vars) (hs : step ∈ w.steps) :
    verdict m.vars step = verdict vars step := by
  unfold verdict
  cases hc : step.condition with
  | none => rfl
  | some guard =>
    refine congrArg (Option.getD · _) (congrArg some (ha.meets ?_ ?_))
    · intro path hp
      exact Workflow.mem_mentions hs (by simp [Step.reads, hc, hp])
    · intro path hp
      exact Workflow.mem_mentions hs (by simp [Step.reads, hc, hp])

theorem imported_withVars (ha : m.vars.Agree w.mentions vars) (hs : step ∈ w.steps) :
    imported m.vars step = imported vars step := by
  unfold imported
  cases hi : step.imports with
  | none => rfl
  | some imports =>
    refine congrArg (Option.getD · _) (congrArg some (ha.importing ?_))
    intro entry he
    have hp : entry.path ∈ imports.entries.map Import.path := List.mem_map_of_mem he
    exact Workflow.mem_mentions hs (by simp [Step.reads, hi, List.mem_map.mp hp])

theorem payload_withVars (ha : m.vars.Agree w.mentions vars) (hs : step ∈ w.steps) {param : String}
    {spec : Lookup} (hf : (param, spec) ∈ step.fetch) :
    spec.payload m.vars = spec.payload vars := by
  have hq : m.vars.resolveFields spec.query = vars.resolveFields spec.query := by
    refine ha.resolveFields fun path hp => Workflow.mem_mentions hs ?_
    have hm : path ∈ step.fetch.flatMap fun entry => Template.fieldPaths entry.2.query :=
      List.mem_flatMap.mpr ⟨_, hf, hp⟩
    simp only [Step.reads, List.mem_append]
    exact .inr hm
  simp only [Lookup.payload, hq]

theorem submitted_withVars (ha : m.vars.Agree w.mentions vars) (hs : step ∈ w.steps) :
    (m.withVars vars).submitted step = m.submitted step := by
  have hp : m.vars.resolveFields step.params = vars.resolveFields step.params :=
    ha.resolveFields fun path hp => Workflow.mem_mentions hs (by simp [Step.reads, hp])
  simp only [submitted, withVars, hp]

theorem varsAfter_of_output {path : String} {result value : Json} (hp : step.output = some path)
    (ho : outcome m.params step result = .ok value) :
    m.varsAfter step result = match m.vars.set? path value with
      | some vars => .ok vars
      | none => .error (outOfSpace path) := by
  cases hs : m.vars.set? path value <;> simp only [varsAfter, hp, ho, Except.bind, hs]

/-- A result is refused by both, or kept by both. -/
theorem varsAfter_withVars (ha : m.vars.Agree names vars) {result : Json}
    (hm : ¬Aborts names (m.varsAfter step result))
    (hn : ¬Aborts names ((m.withVars vars).varsAfter step result)) :
    (∃ e, m.varsAfter step result = .error e ∧ (m.withVars vars).varsAfter step result = .error e) ∨
      ∃ a b, m.varsAfter step result = .ok a ∧ (m.withVars vars).varsAfter step result = .ok b ∧
        a.Agree names b := by
  cases hp : step.output with
  | none =>
    exact .inr ⟨m.vars, vars, by simp [varsAfter, hp], by simp [varsAfter, hp, withVars], ha⟩
  | some path =>
    cases ho : outcome m.params step result with
    | error e =>
      have he : ∀ n : Machine, n.params = m.params → n.varsAfter step result = .error e := by
        intro n hn
        simp only [varsAfter, hp, hn, ho, Except.bind]
      exact .inl ⟨e, he m rfl, he (m.withVars vars) rfl⟩
    | ok value =>
      have hl := varsAfter_of_output (m := m) hp ho
      have hr := varsAfter_of_output (m := m.withVars vars) hp ho
      have hv : (m.withVars vars).vars = vars := rfl
      rw [hv] at hr
      cases hs : m.vars.set? path value with
      | none =>
        rw [hs] at hl
        by_cases hk : Vars.rootOf path ∈ names
        · rw [(ha.set?_eq_none hk).mp hs] at hr
          exact .inl ⟨outOfSpace path, hl, hr⟩
        · exact absurd ⟨path, hk, hl⟩ hm
      | some a =>
        rw [hs] at hl
        cases ht : vars.set? path value with
        | none =>
          rw [ht] at hr
          by_cases hk : Vars.rootOf path ∈ names
          · cases hs.symm.trans ((ha.set?_eq_none hk).mpr ht)
          · exact absurd ⟨path, hk, hr⟩ hn
        | some b =>
          rw [ht] at hr
          exact .inr ⟨a, b, hl, hr, ha.set? hs ht⟩

theorem not_aborts_varsAfter {result : Json} (h : ¬Aborts names m.step.1)
    (hc : m.control = .running) (hs : m.current? = some step) (hp : m.phase = .store result) :
    ¬Aborts names (m.varsAfter step result) := by
  rintro ⟨path, hk, he⟩
  refine h ⟨path, hk, ?_⟩
  rw [step_of_stepped (.storeFails hc hs hp he)]

/-- One step is the same for both. -/
theorem step_withVars (hw : m.workflow = w) (ha : m.vars.Agree w.mentions vars)
    (hm : ¬Aborts w.mentions m.step.1) (hn : ¬Aborts w.mentions (m.withVars vars).step.1) :
    ∃ other, (m.withVars vars).step = (m.step.1, m.step.2.withVars other) ∧
      m.step.2.vars.Agree w.mentions other := by
  have hmem : ∀ {step : Step}, m.current? = some step → step ∈ w.steps :=
    fun hs => hw ▸ List.mem_of_getElem? hs
  have hs := stepped m
  generalize m.step = outcome at hs
  cases hs with
  | waits hc => exact ⟨vars, step_of_stepped (.waits hc), ha⟩
  | rests hc => exact ⟨vars, step_of_stepped (.rests hc), ha⟩
  | finishes hc hs =>
    refine ⟨vars, (step_of_stepped (m := m.withVars vars) (.finishes hc hs)).trans ?_, ha⟩
    have hr : m.vars.get? m.workflow.resultPath = vars.get? m.workflow.resultPath :=
      ha.get? (hw ▸ w.result_mem_mentions)
    simp only [finish, withVars, hr]
  | guardFails hc hs hp hg =>
    rw [verdict_withVars ha (hmem hs)] at hg
    exact ⟨vars, step_of_stepped (.guardFails hc hs hp hg), ha⟩
  | skips hc hs hp hg =>
    rw [verdict_withVars ha (hmem hs)] at hg
    exact ⟨vars, step_of_stepped (m := m.withVars vars) (.skips hc hs hp hg), ha⟩
  | enters hc hs hp hg =>
    rw [verdict_withVars ha (hmem hs)] at hg
    refine ⟨vars, (step_of_stepped (m := m.withVars vars) (.enters hc hs hp hg)).trans ?_, ha⟩
    simp only [withVars, imported_withVars ha (hmem hs)]
  | asks hc hs hp hf =>
    refine ⟨vars, (step_of_stepped (m := m.withVars vars) (.asks hc hs hp hf)).trans ?_, ha⟩
    simp only [asking, withVars, payload_withVars ha (hmem hs) (List.mem_of_getElem? hf)]
  | gathered hc hs hp hf =>
    exact ⟨vars, step_of_stepped (m := m.withVars vars) (.gathered hc hs hp hf), ha⟩
  | submits hc hs hp =>
    refine ⟨vars, (step_of_stepped (m := m.withVars vars) (.submits hc hs hp)).trans ?_, ha⟩
    simp only [submitting, submitted_withVars ha (hmem hs)]
    rfl
  | storeFails hc hs hp hv =>
    have hk := varsAfter_withVars ha (not_aborts_varsAfter hm hc hs hp)
      (not_aborts_varsAfter hn hc hs hp)
    rcases hk with ⟨fault, hl, hr⟩ | ⟨a, b, hl, _⟩
    · obtain rfl := Except.error.inj (hv.symm.trans hl)
      exact ⟨vars, step_of_stepped (m := m.withVars vars) (.storeFails hc hs hp hr), ha⟩
    · cases hv.symm.trans hl
  | stores hc hs hp hv =>
    have hk := varsAfter_withVars ha (not_aborts_varsAfter hm hc hs hp)
      (not_aborts_varsAfter hn hc hs hp)
    rcases hk with ⟨fault, hl, _⟩ | ⟨a, b, hl, hr, hab⟩
    · cases hv.symm.trans hl
    · obtain rfl := Except.ok.inj (hv.symm.trans hl)
      exact ⟨b, step_of_stepped (m := m.withVars vars) (.stores hc hs hp hr), hab⟩

theorem not_aborts_step (h : ¬Aborts names m.run.1) : ¬Aborts names m.step.1 := by
  rintro ⟨path, hk, he⟩
  refine h ⟨path, hk, ?_⟩
  cases hs : m.step with
  | mk answer next =>
    rw [hs] at he
    obtain rfl : answer = .error (outOfSpace path) := he
    rw [run_of_error hs]

theorem workflow_step (m : Machine) : m.step.2.workflow = m.workflow := by
  have hs := stepped m
  generalize m.step = outcome at hs
  cases hs <;> rfl

theorem run_withVars (hw : m.workflow = w) (ha : m.vars.Agree w.mentions vars)
    (hm : ¬Aborts w.mentions m.run.1) (hn : ¬Aborts w.mentions (m.withVars vars).run.1) :
    ∃ other, (m.withVars vars).run = (m.run.1, m.run.2.withVars other) ∧
      m.run.2.vars.Agree w.mentions other := by
  obtain ⟨other, ho, hv⟩ := step_withVars hw ha (not_aborts_step hm) (not_aborts_step hn)
  fun_induction run m generalizing vars other with
  | case1 m next hs ih =>
    have hnext : next.workflow = w := by
      have hk := workflow_step m
      rwa [hs, hw] at hk
    rw [hs] at ho hv
    rw [run_of_continue ho] at hn ⊢
    obtain ⟨last, hl, hlv⟩ := step_withVars hnext hv (not_aborts_step hm) (not_aborts_step hn)
    exact ih hnext hv hm hn last hl hlv
  | case2 m hs =>
    refine ⟨other, ?_, hv⟩
    rw [run_of_other, ho]
    intro next hc
    rw [ho] at hc
    obtain ⟨hp, _⟩ := Prod.mk.inj hc
    exact hs m.step.2 (Prod.ext hp rfl)

theorem takeRecords_withVars (m : Machine) (vars : Vars) (request : FetchCall) (value : Json) :
    (m.withVars vars).takeRecords request value =
      (m.takeRecords request value).map fun next => next.withVars vars := by
  have hp : (m.withVars vars).phase = m.phase := rfl
  have hc : (m.withVars vars).current? = m.current? := rfl
  simp only [takeRecords, hp, hc]
  split
  next =>
    split
    next => rfl
    next =>
      split
      next =>
        split
        next => rfl
        next => split <;> rfl
      next => rfl
  next => rfl

theorem resume_withVars (m : Machine) (vars : Vars) (value : Json) :
    (m.withVars vars).resume value = ((m.resume value).1, (m.resume value).2.withVars vars) := by
  have hc : (m.withVars vars).control = m.control := rfl
  have ha : ∀ call, (m.withVars vars).answer call value =
      (m.answer call value).map fun next => next.withVars vars := by
    intro call
    cases call with
    | fetch request => exact takeRecords_withVars m vars request value
    | activity request => rfl
  simp only [resume, hc]
  split
  next call _ =>
    rw [ha]
    cases m.answer call value <;> rfl
  next => rfl

/-- An answer changes neither the workflow nor the variables. -/
theorem vars_resume (m : Machine) (value : Json) :
    (m.resume value).2.workflow = m.workflow ∧ (m.resume value).2.vars = m.vars := by
  have hs := resumed m value
  generalize m.resume value = outcome at hs
  cases hs <;> exact ⟨rfl, rfl⟩

theorem not_aborts_of_map {β : Type} {answer : Except WorkflowError α} {f : α → β}
    (h : ¬Aborts names (answer.map f)) : ¬Aborts names answer := by
  rintro ⟨path, hk, rfl⟩
  exact h ⟨path, hk, rfl⟩

theorem workflow_perform (hw : m.workflow = w) (operation : Operation) :
    (m.perform operation).2.workflow = w :=
  after_induction (P := fun m => m.workflow = w) (fun m h => (workflow_step m).trans h)
    (fun m value h => (vars_resume m value).1.trans h) hw [operation]

theorem perform_withVars (hw : m.workflow = w) (ha : m.vars.Agree w.mentions vars)
    {operation : Operation} (hm : ¬Aborts w.mentions (m.perform operation).1)
    (hn : ¬Aborts w.mentions ((m.withVars vars).perform operation).1) :
    ∃ other, (m.withVars vars).perform operation =
        ((m.perform operation).1, (m.perform operation).2.withVars other) ∧
      (m.perform operation).2.vars.Agree w.mentions other := by
  cases operation with
  | step =>
    obtain ⟨other, ho, hv⟩ := step_withVars hw ha (not_aborts_of_map hm) (not_aborts_of_map hn)
    exact ⟨other, by simp only [perform, ho], hv⟩
  | run =>
    obtain ⟨other, ho, hv⟩ := run_withVars hw ha (not_aborts_of_map hm) (not_aborts_of_map hn)
    exact ⟨other, by simp only [perform, ho], hv⟩
  | resume value =>
    have hv : (m.resume value).2.vars.Agree w.mentions vars := by
      rwa [(vars_resume m value).2]
    exact ⟨vars, by simp only [perform, resume_withVars], hv⟩

/-- What some operations show: their answers, and the machines but for their variables. -/
def shows (m : Machine) (operations : List Operation) : List (Reply × Machine) :=
  (m.history operations).map fun entry => (entry.1, entry.2.shown)

theorem shows_cons (m : Machine) (operation : Operation) (rest : List Operation) :
    m.shows (operation :: rest) =
      ((m.perform operation).1, (m.perform operation).2.shown) ::
        (m.perform operation).2.shows rest := rfl

theorem length_shows (m : Machine) (operations : List Operation) :
    (m.shows operations).length = operations.length := by
  induction operations generalizing m with
  | nil => rfl
  | cons operation rest ih => rw [shows_cons, List.length_cons, List.length_cons, ih]

theorem shows_withVars (hw : m.workflow = w) (ha : m.vars.Agree w.mentions vars)
    (operations : List Operation) :
    ∃ n, (m.shows operations).take n = ((m.withVars vars).shows operations).take n ∧
      (n = operations.length ∨ ∃ entry,
        ((m.shows operations)[n]? = some entry ∨
          ((m.withVars vars).shows operations)[n]? = some entry) ∧
        Aborts w.mentions entry.1) := by
  induction operations generalizing m vars with
  | nil => exact ⟨0, rfl, .inl rfl⟩
  | cons operation rest ih =>
    rw [shows_cons, shows_cons]
    by_cases hm : Aborts w.mentions (m.perform operation).1
    · exact ⟨0, rfl, .inr ⟨_, .inl rfl, hm⟩⟩
    by_cases hn : Aborts w.mentions ((m.withVars vars).perform operation).1
    · exact ⟨0, rfl, .inr ⟨_, .inr rfl, hn⟩⟩
    obtain ⟨other, ho, hv⟩ := perform_withVars hw ha hm hn
    obtain ⟨n, he, hr⟩ := ih (workflow_perform hw operation) hv
    rw [ho, shown_withVars]
    refine ⟨n + 1, by rw [List.take_succ_cons, List.take_succ_cons, he], ?_⟩
    rcases hr with hl | hr
    · exact .inl (by rw [hl, List.length_cons])
    · exact .inr hr

/-- Variables that the workflow does not mention do not influence a run. From two seeds that agree
on those that it mentions, all operations show the same, up to one at which a run aborts. -/
theorem shows_of_agree {vars other : Vars} (ha : vars.Agree w.mentions other)
    (operations : List Operation) :
    ∃ n, ((start w vars).shows operations).take n = ((start w other).shows operations).take n ∧
      (n = operations.length ∨ ∃ entry,
        (((start w vars).shows operations)[n]? = some entry ∨
          ((start w other).shows operations)[n]? = some entry) ∧
        Aborts w.mentions entry.1) :=
  shows_withVars (m := start w vars) rfl ha operations

/-- One step that reads `kind` and writes into `log`. -/
def diary : Workflow where
  name := "diary"
  steps := [
    { name := "note"
      condition := some [("kind", .obj [("$exists", .bool true)])]
      params := [("about", .str "the $\x7bkind.name\x7d")]
      output := some "log.2" }]
  result := some "kind"

def kept : Vars := ⟨[("kind", .obj [("name", .str "day")]), ("log", .arr [])]⟩

def unkept : Vars := ⟨[("kind", .obj [("name", .str "day")]), ("other", .bool true)]⟩

def writing : List Operation := [.step, .step, .step, .resume (.str "done"), .step, .step]

theorem shows_of_agree_diary :
    kept.Agree diary.mentions unkept ∧
      (start diary kept).shows writing = (start diary unkept).shows writing := by
  have ha : kept.Agree diary.mentions unkept := by decide +kernel
  have hm : ∀ entry ∈ (start diary kept).shows writing, entry.1.isOk = true := by
    decide +kernel
  have hn : ∀ entry ∈ (start diary unkept).shows writing, entry.1.isOk = true := by
    decide +kernel
  refine ⟨ha, ?_⟩
  obtain ⟨n, he, rfl | ⟨entry, hl | hr, path, _, ho⟩⟩ := shows_of_agree ha writing
  · have hl := Nat.le_of_eq (length_shows (start diary kept) writing)
    have hr := Nat.le_of_eq (length_shows (start diary unkept) writing)
    rwa [List.take_of_length_le hl, List.take_of_length_le hr] at he
  · have hk := hm entry (List.mem_of_getElem? hl)
    rw [ho] at hk
    cases hk
  · have hk := hn entry (List.mem_of_getElem? hr)
    rw [ho] at hk
    cases hk

/-- One step that writes into a variable which nothing reads. -/
def ledger : Workflow where
  name := "ledger"
  steps := [{ name := "note", output := some "log.18446744073709551615" }]

/-- A list that is not mentioned decides whether the run goes on: it has no room for the result. -/
theorem shows_not_determined :
    let full : Vars := ⟨[("log", .arr [])]⟩
    let noRoom := outOfSpace "log.18446744073709551615"
    full.Agree ledger.mentions .empty ∧
      ((start ledger full).shows writing).map (·.1) = [.ok (some .continue),
        .ok (some .continue), .ok (some .suspended), .ok none, .error noRoom, .error noRoom] ∧
      ((start ledger .empty).shows writing).map (·.1) = [.ok (some .continue),
        .ok (some .continue), .ok (some .suspended), .ok none, .ok (some .continue),
        .ok (some .done)] := by
  refine ⟨by decide +kernel, by decide +kernel, by decide +kernel⟩

end Stepwise.Machine
