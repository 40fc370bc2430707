import Stepwise.Proofs.Entries
import Stepwise.Proofs.Machine.Consistency
import Stepwise.Proofs.Text
import Stepwise.Validation.Builtin

namespace Stepwise

namespace Vars

/-- The variable that a path starts from. -/
def root (path : String) : String := (splitPath path).1

def Binds (vars : Vars) (name : String) : Prop := name ∈ vars.entries.keys

variable {vars changed : Vars} {path name : String} {value : Json}

instance : Decidable (vars.Binds name) := inferInstanceAs (Decidable (name ∈ vars.entries.keys))

theorem binds_of_set? (h : vars.set? path value = some changed) :
    changed.Binds name ↔ name = root path ∨ vars.Binds name := by
  unfold set? at h
  unfold root Binds
  split at h
  next head hp =>
    cases h
    rw [hp]
    exact Entries.mem_keys_insert_iff
  next head rest hp =>
    obtain ⟨written, -, rfl⟩ := Option.map_eq_some_iff.mp h
    rw [hp]
    exact Entries.mem_keys_insert_iff

end Vars

namespace Validation

theorem splitOnce_append_left {separator : Char} {front : List Char} (h : separator ∉ front)
    (s : List Char) :
    (Text.splitOnce separator (front ++ s)).1 = front ++ (Text.splitOnce separator s).1 := by
  induction front with
  | nil => rfl
  | cons c front ih =>
    obtain ⟨hc, hf⟩ := List.ne_and_not_mem_of_not_mem_cons h
    simp [Text.splitOnce, Ne.symm hc, ih hf]

/-- Blanks after a text are all or none of them in its first piece. -/
theorem splitOnce_append_right {separator : Char} {back : List Char} (h : separator ∉ back)
    (s : List Char) :
    (Text.splitOnce separator (s ++ back)).1 = (Text.splitOnce separator s).1 ∨
      (Text.splitOnce separator (s ++ back)).1 = (Text.splitOnce separator s).1 ++ back := by
  induction s with
  | nil =>
    have hb := splitOnce_append_left h []
    rw [List.append_nil] at hb
    exact .inr (hb.trans (List.append_nil back))
  | cons c s ih =>
    by_cases hc : c = separator
    · simp [Text.splitOnce, hc]
    · simpa [Text.splitOnce, hc] using ih

theorem dot_not_mem_of_blank {s : List Char} (h : ∀ c ∈ s, Text.isBlank c = true) : '.' ∉ s := by
  intro hm
  exact absurd (h '.' hm) (by decide)

/-- The rules and the run agree on the variable of a path, blanks around it apart. -/
theorem trim_variableOf (path : String) :
    Text.trim (variableOf path) = Text.trim (Vars.root path) := by
  obtain ⟨front, back, hf, hb, hs⟩ := Text.exists_trimChars_append path.toList
  have hr : (Text.splitOnce '.' path.toList).1 =
      front ++ (Text.splitOnce '.' (Text.trimChars path.toList ++ back)).1 := by
    rw [← splitOnce_append_left (dot_not_mem_of_blank hf), ← hs]
  have ht : Text.trimChars (Text.splitOnce '.' path.toList).1 =
      Text.trimChars (Text.splitOnce '.' (Text.trimChars path.toList)).1 := by
    rw [hr, Text.trimChars_append_left hf]
    rcases splitOnce_append_right (dot_not_mem_of_blank hb) (Text.trimChars path.toList) with
      he | he
    · rw [he]
    · rw [he, Text.trimChars_append_right hb]
  simp only [Text.trim, variableOf, Vars.root, Vars.splitPath, String.toList_ofList, ht]

/-- A path without blanks that the rules would take away from its variable. -/
def Unpadded (path : String) : Prop := variableOf path = Vars.root path

/-- The paths that the first steps of a workflow write to. -/
def outputsBefore (w : Workflow) (index : Nat) : List String :=
  (w.steps.take index).filterMap (·.output)

/-- A name is bound from the start or is the variable of an output before some step. -/
def DefinedBefore (w : Workflow) (index : Nat) (name : String) : Prop :=
  name ∈ namesAtStart w ∨ ∃ path ∈ outputsBefore w index, variableOf path = name

def Reports (rule : String) (found : List Diagnostic) : Prop := ∃ d ∈ found, d.rule = rule

instance (rule : String) (found : List Diagnostic) : Decidable (Reports rule found) :=
  inferInstanceAs (Decidable (∃ d ∈ found, d.rule = rule))

/-- What a step imports. -/
def importsOf (step : Step) : List Import := (step.imports.map Imports.entries).getD []

variable {w : Workflow} {step : Step} {entry : Import} {index position : Nat} {name : String}

theorem mem_foldl_definedAfter {defined : List String} {steps : List Step} :
    name ∈ steps.foldl definedAfter defined ↔
      name ∈ defined ∨ ∃ path ∈ steps.filterMap (·.output), variableOf path = name := by
  induction steps generalizing defined with
  | nil => simp
  | cons step rest ih =>
    rw [List.foldl_cons, ih]
    cases ho : step.output with
    | none => simp [definedAfter, ho]
    | some path => simp [definedAfter, ho, or_assoc, or_left_comm, eq_comm]

theorem defined_of_undefinedImports {defined : List String} {steps : List Step}
    (h : undefinedImports defined index steps = []) (hs : steps[position]? = some step)
    (he : entry ∈ importsOf step) (hd : entry.default = none) :
    variableOf entry.path ∈ (steps.take position).foldl definedAfter defined := by
  induction steps generalizing defined index position with
  | nil => simp at hs
  | cons first rest ih =>
    obtain ⟨hf, hr⟩ := List.append_eq_nil_iff.mp h
    cases position with
    | zero =>
      obtain rfl : first = step := Option.some.inj hs
      have hn := List.flatMap_eq_nil_iff.mp hf entry he
      by_cases hc : defined.contains (variableOf entry.path) = true
      · exact List.contains_iff_mem.mp hc
      · rw [importFindings, hd, Option.isSome_none, Bool.false_or, if_neg hc] at hn
        cases hn
    | succ position => exact ih hr hs

theorem rule_of_undefinedImports {defined : List String} {steps : List Step} {d : Diagnostic}
    (h : d ∈ undefinedImports defined index steps) : d.rule = "undefined-import" := by
  induction steps generalizing defined index with
  | nil => simp [undefinedImports] at h
  | cons step rest ih =>
    rcases List.mem_append.mp h with hf | hr
    · obtain ⟨entry, _, hm⟩ := List.mem_flatMap.mp hf
      unfold importFindings at hm
      split at hm
      next => simp at hm
      next =>
        obtain rfl := List.mem_singleton.mp hm
        rfl
    · exact ih hr

theorem definedBefore_of_import (h : ¬Reports "undefined-import" (findings builtin w))
    (hs : w.steps[position]? = some step) (he : entry ∈ importsOf step)
    (hd : entry.default = none) : DefinedBefore w position (variableOf entry.path) := by
  have hn : undefinedImports (namesAtStart w) 0 w.steps = [] := by
    refine List.eq_nil_iff_forall_not_mem.mpr fun d hm => h ⟨d, ?_, rule_of_undefinedImports hm⟩
    exact List.mem_flatMap.mpr ⟨undefinedImport, by simp [builtin], hm⟩
  exact mem_foldl_definedAfter.mp (defined_of_undefinedImports hn hs he hd)

theorem definedBefore_of_result (h : ¬Reports "result-variable" (findings builtin w)) :
    DefinedBefore w w.steps.length (variableOf w.resultPath) := by
  have hp : isProduced w (variableOf w.resultPath) = true := by
    cases hn : isProduced w (variableOf w.resultPath) with
    | true => rfl
    | false =>
      obtain ⟨d, hd, hr⟩ : ∃ d ∈ resultVariable.findings w, d.rule = "result-variable" := by
        simp only [resultVariable, hn]
        exact ⟨_, List.mem_singleton_self _, rfl⟩
      exact absurd ⟨d, List.mem_flatMap.mpr ⟨resultVariable, by simp [builtin], hd⟩, hr⟩ h
  rcases (Bool.or_eq_true _ _).mp hp with hs | ho
  · exact .inl (List.contains_iff_mem.mp hs)
  · obtain ⟨step, hm, ho⟩ := List.any_eq_true.mp ho
    obtain ⟨path, hq, he⟩ := (Option.any_eq_true _ _).mp ho
    refine .inr ⟨path, ?_, by simpa using he⟩
    rw [outputsBefore, List.take_length]
    exact List.mem_filterMap.mpr ⟨step, hm, hq⟩

end Validation

namespace Machine

open Validation

variable {w : Workflow} {m : Machine} {overrides : Entries Json} {ids : List String}

theorem binds_initial (hi : ids ≠ []) {name : String} (h : name ∈ namesAtStart w) :
    (Vars.initial w.vars overrides ids).Binds name := by
  obtain ⟨id, others, rfl⟩ := List.exists_cons_of_ne_nil hi
  simp only [Vars.Binds, Vars.initial, Entries.mem_keys_insert_iff, Entries.mem_keys_overlay]
  simp only [namesAtStart, List.mem_append, List.mem_cons, List.not_mem_nil, or_false] at h
  rcases h with h | h | h
  · exact .inr (.inr (.inl h))
  · exact .inl h
  · exact .inr (.inl h)

/-- What is bound at the start stays bound, and the outputs of executed steps are bound too. -/
structure Bound (w : Workflow) (m : Machine) : Prop where
  atStart : ∀ name ∈ namesAtStart w, m.vars.Binds name
  output : ∀ record ∈ m.trace, record.status ≠ .skipped →
    ∀ path, record.output = some path → m.vars.Binds (Vars.root path)

theorem bound_start (hi : ids ≠ []) (overrides : Entries Json) :
    Bound w (start w (.initial w.vars overrides ids)) where
  atStart _ hn := binds_initial hi hn
  output _ hr := absurd hr List.not_mem_nil

theorem binds_of_varsAfter {step : Step} {result : Json} {vars : Vars} {name : String}
    (h : m.varsAfter step result = .ok vars) (hn : m.vars.Binds name) : vars.Binds name := by
  rcases varsAfter_eq_ok h with ⟨_, rfl⟩ | ⟨path, outcome, _, _, hv⟩
  · exact hn
  · exact (Vars.binds_of_set? hv).mpr (.inr hn)

theorem binds_output_of_varsAfter {step : Step} {result : Json} {vars : Vars} {path : String}
    (h : m.varsAfter step result = .ok vars) (ho : step.output = some path) :
    vars.Binds (Vars.root path) := by
  rcases varsAfter_eq_ok h with ⟨hn, _⟩ | ⟨written, outcome, hw, _, hv⟩
  · simp [hn] at ho
  · obtain rfl : written = path := Option.some.inj (hw.symm.trans ho)
    exact (Vars.binds_of_set? hv).mpr (.inl rfl)

theorem bound_step (h : Bound w m) : Bound w m.step.2 := by
  have hm := stepped m
  generalize m.step = outcome at hm
  cases hm with
  | waits | rests | guardFails | storeFails => exact h
  | finishes | enters | asks | gathered | submits => exact ⟨h.atStart, h.output⟩
  | skips =>
    refine ⟨h.atStart, fun record hr hs => ?_⟩
    rcases List.mem_append.mp hr with hr | hr
    · exact h.output record hr hs
    · obtain rfl := List.mem_singleton.mp hr
      exact absurd rfl hs
  | @stores step result vars hc hs hp hv =>
    refine ⟨fun name hn => binds_of_varsAfter hv (h.atStart name hn),
      fun record hr hk path ho => ?_⟩
    rcases List.mem_append.mp hr with hr | hr
    · exact binds_of_varsAfter hv (h.output record hr hk path ho)
    · obtain rfl := List.mem_singleton.mp hr
      exact binds_output_of_varsAfter hv ho

theorem bound_resume (h : Bound w m) (value : Json) : Bound w (m.resume value).2 := by
  have hm := resumed m value
  generalize m.resume value = outcome at hm
  cases hm with
  | notWaiting | refused => exact h
  | takesRecords | takesResult => exact ⟨h.atStart, h.output⟩

/-- Some variable has the name that a path starts from, blanks around it apart; it is that name
itself when no blanks stand around the path and the outputs. -/
def Finds (w : Workflow) (vars : Vars) (path : String) : Prop :=
  (∃ name, vars.Binds name ∧ Text.trim name = Text.trim (Vars.root path)) ∧
    (Unpadded path → (∀ step ∈ w.steps, ∀ output ∈ step.output, Unpadded output) →
      vars.Binds (Vars.root path))

theorem control_of_isDone (h : m.isDone = true) : ∃ result, m.control = .finished result := by
  unfold isDone result? at h
  split at h
  next result hc => exact ⟨result, hc⟩
  next => cases h

theorem Placed.exists_record (h : Placed w m) {path : String}
    (hp : path ∈ outputsBefore w m.pc) : ∃ record ∈ m.trace, record.output = some path := by
  obtain ⟨step, hs, ho⟩ := List.mem_filterMap.mp hp
  have hm : (step.name, step.output) ∈ m.trace.map fun record => (record.name, record.output) := by
    rw [h.trace]
    exact List.mem_map.mpr ⟨step, hs, rfl⟩
  obtain ⟨record, hr, he⟩ := List.mem_map.mp hm
  exact ⟨record, hr, (Prod.mk.inj he).2.trans ho⟩

theorem Bound.finds (h : Bound w m) (hp : Placed w m)
    (hx : ∀ record ∈ m.trace, record.status ≠ .skipped) {path : String}
    (hd : DefinedBefore w m.pc (variableOf path)) : Finds w m.vars path := by
  rcases hd with hs | ⟨output, hm, he⟩
  · have hb := h.atStart _ hs
    exact ⟨⟨_, hb, trim_variableOf path⟩, fun hu _ => hu ▸ hb⟩
  · obtain ⟨record, hr, ho⟩ := hp.exists_record hm
    have hb := h.output record hr (hx record hr) output ho
    refine ⟨⟨_, hb, ?_⟩, fun hu hall => ?_⟩
    · rw [← trim_variableOf output, he, trim_variableOf]
    · obtain ⟨step, hs, ho⟩ := List.mem_filterMap.mp hm
      have hv : Vars.root output = Vars.root path :=
        ((hall step (List.mem_of_mem_take hs) output ho).symm.trans he).trans hu
      exact hv ▸ hb

/-- In a run about some object that has skipped no step so far, the current step finds a variable
for each of its imports that has no default, when the rule about imports has found nothing; and at
its end the run finds a variable for its result, when the rule about results has found nothing.
Blanks around the paths can tell the name that is found from the one that is read. -/
theorem finds_of_unreported (w : Workflow) {ids : List String} (hi : ids ≠ [])
    (overrides : Entries Json) (operations : List Operation) :
    let m := (start w (.initial w.vars overrides ids)).after operations
    (∀ record ∈ m.trace, record.status ≠ .skipped) →
      (¬Reports "undefined-import" (findings builtin w) →
        ∀ step entry, m.current? = some step → entry ∈ importsOf step → entry.default = none →
          Finds w m.vars entry.path) ∧
      (¬Reports "result-variable" (findings builtin w) → m.isDone = true →
        Finds w m.vars w.resultPath) := by
  intro m hx
  have hp : Placed w m := placed_after w _ operations
  have hb : Bound w m := after_induction (P := Bound w) (fun _ => bound_step)
    (fun _ value h => bound_resume h value) (bound_start hi overrides) operations
  constructor
  · intro hn step entry hs he hd
    rw [hp.current?] at hs
    exact hb.finds hp hx (definedBefore_of_import hn hs he hd)
  · intro hn hd
    obtain ⟨result, hc⟩ := control_of_isDone hd
    obtain ⟨hl, _⟩ := hp.position.end_of_finished hc
    exact hb.finds hp hx (hl ▸ definedBefore_of_result hn)

/-- Both outputs have blanks around them, and the import and the result have none. -/
def spaced : Workflow where
  name := "spaced"
  steps := [
    { name := "fill", output := some " x " },
    { name := "read", imports := some (.names ["x"]), output := some " result " }]

/-- Up to the step that imports. -/
def untilImport : List Operation :=
  [.step, .step, .step, .resume (.str "filled"), .step, .step]

def untilDone : List Operation :=
  untilImport ++ [.step, .step, .resume (.str "read"), .step, .step]

def spacedAfter (operations : List Operation) : Machine :=
  (start spaced (.initial spaced.vars [] ["o1"])).after operations

/-- Nothing is found in this workflow, and then neither the import nor the result is bound. -/
theorem names_not_sound :
    findings builtin spaced = [] ∧
      ((∀ record ∈ (spacedAfter untilImport).trace, record.status ≠ .skipped) ∧
        (∃ step, (spacedAfter untilImport).current? = some step ∧
          (spacedAfter untilImport).phase ≠ .guard ∧ ⟨"x", "x", none⟩ ∈ importsOf step) ∧
        ¬(spacedAfter untilImport).vars.Binds (Vars.root "x")) ∧
      (∀ record ∈ (spacedAfter untilDone).trace, record.status ≠ .skipped) ∧
        (spacedAfter untilDone).result? = some .null ∧
        ¬(spacedAfter untilDone).vars.Binds (Vars.root spaced.resultPath) := by
  refine ⟨rfl, ⟨?_, ⟨_, rfl, ?_, ?_⟩, ?_⟩, ?_, rfl, ?_⟩ <;> decide +kernel

theorem finds_of_unreported_spaced :
    (∀ record ∈ (spacedAfter untilImport).trace, record.status ≠ .skipped) ∧
      Finds spaced (spacedAfter untilImport).vars "x" := by
  have hx : ∀ record ∈ (spacedAfter untilImport).trace, record.status ≠ .skipped := by decide
  have hn : ¬Reports "undefined-import" (findings builtin spaced) := by decide
  have hs : (spacedAfter untilImport).current? = some _ := rfl
  have hi : (["o1"] : List String) ≠ [] := by decide
  refine ⟨hx, ?_⟩
  exact (finds_of_unreported spaced hi [] untilImport hx).1 hn _ ⟨"x", "x", none⟩ hs
    (by decide) rfl

end Machine

end Stepwise
