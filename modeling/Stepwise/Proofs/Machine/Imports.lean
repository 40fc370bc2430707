import Mathlib.Data.List.Induction
import Stepwise.Proofs.Machine.Consistency
import Stepwise.Proofs.Mentions
import Stepwise.Proofs.Projection
import Stepwise.Proofs.Template.Structure

namespace Stepwise

namespace Text

variable {separator : Char} {s : List Char}

theorem splitOnce_of_not_mem (h : separator ∉ s) : splitOnce separator s = (s, none) := by
  induction s with
  | nil => rfl
  | cons c rest ih =>
    obtain ⟨hc, hr⟩ := List.ne_and_not_mem_of_not_mem_cons h
    simp only [splitOnce, Ne.symm hc, if_false, ih hr]

theorem not_mem_splitOnce (separator : Char) (s : List Char) :
    separator ∉ (splitOnce separator s).1 := by
  induction s with
  | nil => exact List.not_mem_nil
  | cons c rest ih =>
    simp only [splitOnce]
    split
    next => exact List.not_mem_nil
    next hc => exact List.not_mem_cons_of_ne_of_not_mem (Ne.symm hc) ih

end Text

namespace Vars

variable {path name : String}

theorem splitPath_of_not_mem (h : '.' ∉ path.toList) : splitPath path = (path, none) := by
  simp only [splitPath, Text.splitOnce_of_not_mem h, String.ofList_toList, Option.map_none]

theorem rootOf_of_not_mem (h : '.' ∉ path.toList) : rootOf path = path := by
  rw [rootOf, splitPath_of_not_mem h]

/-- What a path starts from is a path of one segment. -/
theorem get?_rootOf (vars : Vars) (path : String) :
    vars.get? (rootOf path) = vars.entries.get? (rootOf path) := by
  have hs : '.' ∉ (rootOf path).toList := by
    simpa only [rootOf, splitPath, String.toList_ofList] using Text.not_mem_splitOnce _ _
  rw [get?, splitPath_of_not_mem hs]

/-- An import list binds each of its names to the variable that the name leads to. -/
theorem get?_importing_names (vars : Vars) (names : List String) (name : String) :
    (vars.importing (.names names)).get? name = if name ∈ names then vars.get? name else none := by
  induction names using List.reverseRecOn with
  | nil => rfl
  | append_singleton front last ih =>
    cases hv : vars.get? last with
    | none =>
      have hi : vars.importing (.names (front ++ [last])) = vars.importing (.names front) := by
        simp [importing, Imports.entries, hv]
      rw [hi, ih]
      by_cases hn : name = last
      · simp [hn, hv]
      · simp [hn]
    | some value =>
      have hi : vars.importing (.names (front ++ [last])) =
          (vars.importing (.names front)).insert last value := by
        simp [importing, Imports.entries, hv]
      rw [hi, Entries.get?_insert, ih]
      by_cases hn : name = last
      · simp [hn, hv]
      · simp [hn]

end Vars

namespace Machine

variable {w : Workflow} {m : Machine} {step : Step} {names : List String} {name key : String}
  {result v : Json}

/-- Apart from its fetches and parameters, the input of a step is what it imports. -/
def Keeps (step : Step) (vars : Vars) (params : Entries Json) : Prop :=
  ∀ key, key ∉ Entries.keys step.fetch → key ∉ Entries.keys step.params →
    params.get? key = (imported vars step).get? key

/-- From the first fetch of a step on, the input keeps what was imported. -/
def Kept (m : Machine) : Prop :=
  m.phase ≠ .guard → ∀ step, m.current? = some step → Keeps step m.vars m.params

theorem Keeps.insert {vars : Vars} {params : Entries Json} (h : Keeps step vars params)
    (hk : key ∈ Entries.keys step.fetch) (v : Json) : Keeps step vars (params.insert key v) := by
  intro other hf hp
  have hn : other ≠ key := fun he => hf (he ▸ hk)
  rw [Entries.get?_insert_of_ne params v hn]
  exact h other hf hp

theorem Keeps.overlay {vars : Vars} {params : Entries Json} (h : Keeps step vars params) :
    Keeps step vars (params.overlay (vars.resolveFields step.params)) := by
  intro other hf hp
  have hn : (Entries.ofList (vars.resolveFields step.params)).get? other = none := by
    refine Entries.get?_of_not_mem fun hm => hp ?_
    rwa [Entries.mem_keys_ofList, Vars.resolveFields, Template.keys_resolveFields] at hm
  rw [Entries.get?_overlay, hn, Option.none_or]
  exact h other hf hp

theorem kept_step (h : Kept m) : Kept m.step.2 := by
  have hm := stepped m
  generalize m.step = outcome at hm
  cases hm with
  | waits => exact h
  | rests => exact h
  | guardFails => exact h
  | storeFails => exact h
  | finishes => exact h
  -- the next step is at its guard, and has no input yet
  | skips => exact fun hn => absurd rfl hn
  | stores => exact fun hn => absurd rfl hn
  | @enters step _ hs =>
    intro _ current hc key _ _
    obtain rfl : step = current := Option.some.inj (hs.symm.trans hc)
    rfl
  | asks => exact h
  | gathered _ _ hp => exact fun _ => h (by simp [hp])
  | @submits step _ hs hp =>
    intro _ current hc
    obtain rfl : step = current := Option.some.inj (hs.symm.trans hc)
    exact (h (by simp [hp]) step hs).overlay

theorem kept_resume (hw : Placed w m) (h : Kept m) (value : Json) : Kept (m.resume value).2 := by
  have hm := resumed m value
  generalize m.resume value = outcome at hm
  cases hm with
  | notWaiting => exact h
  | refused => exact h
  | @takesRecords step request index spec _ _ hs hp hf =>
    intro _ current hc
    obtain rfl : step = current := Option.some.inj (hs.symm.trans hc)
    have hk : request.param ∈ Entries.keys step.fetch := Entries.mem_keys_of_get? hf
    exact (h (by simp [hp]) step hs).insert hk _
  | takesResult hc =>
    -- only a machine that is placed waits for an activity after the fetches
    obtain ⟨_, _, hp, _⟩ := hw.position.of_activity_call hc
    exact fun _ => h (by simp [hp])

theorem kept_after (w : Workflow) (vars : Vars) (operations : List Operation) :
    Kept ((start w vars).after operations) := by
  have hw : Placed w ((start w vars).after operations) ∧ Kept ((start w vars).after operations) :=
    after_induction (P := fun m => Placed w m ∧ Kept m)
      (fun _ h => ⟨placed_step h.1, kept_step h.2⟩)
      (fun _ value h => ⟨placed_resume h.1 value, kept_resume h.1 h.2 value⟩)
      ⟨placed_start w vars, fun hn => absurd rfl hn⟩ operations
  exact hw.2

/-- The node of a projection that reads a path. -/
def reading (path : String) : Json := .obj [(Projection.Operator.eval.key, .str path)]

/-- In the projection of a step a path reads as a value, and every field that reads it has the
value in the outcome. -/
structure Reads (m : Machine) (step : Step) (result : Json) (path : String) (v : Json) : Prop where
  node : Projection.node (Projection.scopeOf m.params result)
    ((Projection.scopeOf m.params result).resolve (reading path)) = .ok v
  field : ∀ projection field stored, step.projection = some projection →
    (field, reading path) ∈ projection → outcome m.params step result = .ok stored →
    ∃ values, stored = .obj values ∧ (field, v) ∈ values

/-- Neither the result of the activity nor a fetch or a parameter of the step has the name. -/
def Unshadowed (step : Step) (name : String) : Prop :=
  name ≠ Projection.resultName ∧ name ∉ Entries.keys step.fetch ∧ name ∉ Entries.keys step.params

/-- A text that `$eval` takes as it is: no blanks around it, and no placeholder that names
something. -/
def Verbatim (scope : Vars) (path : String) : Prop :=
  Text.trim path = path ∧ ∀ inner ∈ Template.textPaths path, scope.get? inner = none

instance (step : Step) (name : String) : Decidable (Unshadowed step name) :=
  inferInstanceAs (Decidable (_ ∧ _ ∧ _))

instance (scope : Vars) (path : String) : Decidable (Verbatim scope path) :=
  inferInstanceAs (Decidable (_ ∧ _))

theorem node_reading (scope : Vars) (path : String) :
    Projection.node scope (scope.resolve (reading path)) =
      .ok (Projection.evaluate scope (scope.resolve (.str path))) := by
  simp only [reading, Vars.resolve, Template.resolve, Template.resolveFields]
  exact Projection.node_eval _

theorem reads_iff : Reads m step result name v ↔
    Projection.evaluate (Projection.scopeOf m.params result)
      ((Projection.scopeOf m.params result).resolve (.str name)) = v := by
  constructor
  · intro h
    exact Except.ok.inj ((node_reading _ _).symm.trans h.node)
  · intro h
    have hn := (node_reading (Projection.scopeOf m.params result) name).trans (congrArg _ h)
    refine ⟨hn, fun projection field stored hp hm ho => ?_⟩
    simp only [outcome, hp] at ho
    cases hv : Projection.project projection m.params result with
    | error e =>
      rw [hv] at ho
      cases ho
    | ok values =>
      rw [hv] at ho
      obtain ⟨value, hr, hf⟩ := Projection.node_ok_of_fieldsIn hv hm
      obtain rfl : v = value := Except.ok.inj (hn.symm.trans hr)
      exact ⟨values, (Except.ok.inj ho).symm, hf⟩

instance (m : Machine) (step : Step) (result : Json) (path : String) (v : Json) :
    Decidable (Reads m step result path v) :=
  decidable_of_iff _ reads_iff.symm

theorem evaluate_of_verbatim {scope : Vars} (h : Verbatim scope name) :
    Projection.evaluate scope (scope.resolve (.str name)) = (scope.get? name).getD .null := by
  rw [Vars.resolve, Template.resolve_of_unbound h.2, Projection.evaluate, h.1]

/-- A name that is not shadowed leads into the scope of a projection if the step imports it. -/
theorem get?_scope (hk : Keeps step m.vars m.params) (hi : step.imports = some (.names names))
    (hu : Unshadowed step name) (result : Json) :
    (Projection.scopeOf m.params result).entries.get? name =
      if name ∈ names then m.vars.get? name else none := by
  obtain ⟨hr, hf, hp⟩ := hu
  rw [Projection.scopeOf, Entries.get?_insert_of_ne _ _ hr, hk name hf hp, imported, hi]
  exact Vars.get?_importing_names _ _ _

/-- A path reads in the projection as in the variables when its root is imported. -/
theorem get?_scope_of_mem (hk : Keeps step m.vars m.params)
    (hi : step.imports = some (.names names)) (hu : Unshadowed step (Vars.rootOf name))
    (hm : Vars.rootOf name ∈ names) (result : Json) :
    (Projection.scopeOf m.params result).get? name = m.vars.get? name := by
  have ha : Vars.Agree [Vars.rootOf name] (Projection.scopeOf m.params result) m.vars := by
    intro root hr
    obtain rfl := List.mem_singleton.mp hr
    rw [get?_scope hk hi hu, if_pos hm, Vars.get?_rootOf]
  exact ha.get? (List.mem_singleton_self _)

theorem get?_scope_of_not_mem (hk : Keeps step m.vars m.params)
    (hi : step.imports = some (.names names)) (hu : Unshadowed step (Vars.rootOf name))
    (hm : Vars.rootOf name ∉ names) (result : Json) :
    (Projection.scopeOf m.params result).get? name = none := by
  rw [Vars.get?_eq, get?_scope hk hi hu, if_neg hm]
  cases (Vars.splitPath name).2 <;> rfl

/-- When a step stores its result, its input holds every variable of its import list under the name
in the list, fetches and parameters of this name apart. The projection of the step reads the very
value by this name, if it is a name without dots or the variable it starts from is in the list, too,
and null otherwise. The variable must not be shadowed, and `$eval` has to take the name as it is. -/
theorem reads_imports {vars : Vars} {operations : List Operation}
    (hm : (start w vars).after operations = m) (hs : m.current? = some step)
    (hi : step.imports = some (.names names)) (hp : m.phase = .store result) :
    ∀ name ∈ names, name ∉ Entries.keys step.fetch → name ∉ Entries.keys step.params →
      ∀ v, m.vars.get? name = some v →
      m.params.get? name = some v ∧
      (Unshadowed step (Vars.rootOf name) →
        Verbatim (Projection.scopeOf m.params result) name →
        ('.' ∉ name.toList ∨ Vars.rootOf name ∈ names → Reads m step result name v) ∧
        (Vars.rootOf name ∉ names → Reads m step result name .null)) := by
  have hk : Keeps step m.vars m.params := by
    have ha := kept_after w vars operations
    rw [hm] at ha
    exact ha (by simp [hp]) step hs
  intro name hn hf hq v hv
  refine ⟨?_, fun hu ht => ⟨fun hr => ?_, fun hr => ?_⟩⟩
  · rw [hk name hf hq, imported, hi]
    exact (Vars.get?_importing_names _ _ _).trans ((if_pos hn).trans hv)
  · have hr : Vars.rootOf name ∈ names :=
      hr.elim (fun hd => (Vars.rootOf_of_not_mem hd).symm ▸ hn) id
    rw [reads_iff, evaluate_of_verbatim ht, get?_scope_of_mem hk hi hu hr, hv, Option.getD_some]
  · rw [reads_iff, evaluate_of_verbatim ht, get?_scope_of_not_mem hk hi hu hr, Option.getD_none]

/-- A step that takes some variables and sets one parameter. -/
def taking (names : List String) : Step :=
  { name := "go", params := [("h", .ofNat 1)], imports := some (.names names) }

/-- The operations up to the answer of an activity. -/
def upToAnswer : List Operation := [.step, .step, .step, .resume .null]

def taken (names : List String) (vars : Vars) : Machine :=
  (start { name := "take", steps := [taking names] } vars).after upToAnswer

/-- Two variables with a field each. -/
def twoFields : Vars := ⟨[("b", .obj [("c", .ofNat 2)]), ("d", .obj [("e", .ofNat 9)])]⟩

def fieldNames : List String := ["b", "b.c", "d.e"]

/-- Both fields are imported, but only one of the variables that they are fields of. -/
theorem reads_imports_nested :
    ((taken fieldNames twoFields).params.get? "b" = some (.obj [("c", .ofNat 2)]) ∧
      Reads (taken fieldNames twoFields) (taking fieldNames) .null "b"
        (.obj [("c", .ofNat 2)])) ∧
    ((taken fieldNames twoFields).params.get? "b.c" = some (.ofNat 2) ∧
      Reads (taken fieldNames twoFields) (taking fieldNames) .null "b.c" (.ofNat 2)) ∧
    (taken fieldNames twoFields).params.get? "d.e" = some (.ofNat 9) ∧
      Reads (taken fieldNames twoFields) (taking fieldNames) .null "d.e" .null := by
  have hs : (taken fieldNames twoFields).current? = some (taking fieldNames) := by decide +kernel
  have hp : (taken fieldNames twoFields).phase = .store .null := by decide +kernel
  have ht : ∀ name ∈ fieldNames,
      Verbatim (Projection.scopeOf (taken fieldNames twoFields).params .null) name := by
    decide +kernel
  have hb : "b" ∈ fieldNames := by decide
  have hc : "b.c" ∈ fieldNames := by decide
  have hd : "d.e" ∈ fieldNames := by decide
  have hread := reads_imports (m := taken fieldNames twoFields) rfl hs rfl hp
  obtain ⟨hb₁, hb₂⟩ := hread "b" hb (by decide) (by decide) (.obj [("c", .ofNat 2)])
    (by decide +kernel)
  obtain ⟨hc₁, hc₂⟩ := hread "b.c" hc (by decide) (by decide) (.ofNat 2) (by decide +kernel)
  obtain ⟨hd₁, hd₂⟩ := hread "d.e" hd (by decide) (by decide) (.ofNat 9) (by decide +kernel)
  have hu : Unshadowed (taking fieldNames) "b" := by decide
  have hv : Unshadowed (taking fieldNames) "d" := by decide
  exact ⟨⟨hb₁, (hb₂ hu (ht _ hb)).1 (.inl (by decide))⟩,
    ⟨hc₁, (hc₂ hu (ht _ hc)).1 (.inr hb)⟩, hd₁, (hd₂ hv (ht _ hd)).2 (by decide)⟩

/-- Variables of which some have names that are not written as paths are. -/
def oddVars : Vars := ⟨[
  (" d ", .ofNat 3), ("#", .obj [("f", .ofNat 5)]), ("$\x7be\x7d", .ofNat 4),
  ("b", .obj [("c", .ofNat 2)]), ("e", .ofNat 7), ("h", .obj [("i", .ofNat 6)])]⟩

def oddNames : List String := ["b.c", " d ", "$\x7be\x7d", "e", "#.f", "h", "h.i"]

/-- A value is imported under a name, and the projection does not read it by this name. -/
def Lost (m : Machine) (step : Step) (result : Json) (name : String) (v : Json) : Prop :=
  Unshadowed step name ∧ m.vars.get? name = some v ∧ m.params.get? name = some v ∧
    ¬Reads m step result name v

instance (m : Machine) (step : Step) (result : Json) (name : String) (v : Json) :
    Decidable (Lost m step result name v) :=
  inferInstanceAs (Decidable (_ ∧ _ ∧ _ ∧ _))

/-- A dotted name alone, a name with blanks around it or with a placeholder that names something,
and a dotted name behind the result or behind a parameter are not read as they are imported. -/
theorem lost_oddNames :
    (taken oddNames oddVars).current? = some (taking oddNames) ∧
    (taking oddNames).imports = some (.names oddNames) ∧
    (taken oddNames oddVars).phase = .store .null ∧
    ("b.c" ∈ oddNames ∧
      Lost (taken oddNames oddVars) (taking oddNames) .null "b.c" (.ofNat 2)) ∧
    (" d " ∈ oddNames ∧
      Lost (taken oddNames oddVars) (taking oddNames) .null " d " (.ofNat 3)) ∧
    ("$\x7be\x7d" ∈ oddNames ∧
      Lost (taken oddNames oddVars) (taking oddNames) .null "$\x7be\x7d" (.ofNat 4)) ∧
    ("#.f" ∈ oddNames ∧
      Lost (taken oddNames oddVars) (taking oddNames) .null "#.f" (.ofNat 5)) ∧
    "h.i" ∈ oddNames ∧
      Lost (taken oddNames oddVars) (taking oddNames) .null "h.i" (.ofNat 6) := by
  decide +kernel

end Machine

end Stepwise
