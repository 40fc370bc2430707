import Mathlib.Data.List.Basic
import Stepwise.Proofs.Entries
import Stepwise.Proofs.Template
import Stepwise.Workflow.Input

namespace Stepwise

namespace Vars

variable {names : List String} {a b : Vars} {path : String}

/-- The variable that a path starts from. -/
def rootOf (path : String) : String := (splitPath path).1

/-- Some names have the same value in both, or none in both. -/
def Agree (names : List String) (a b : Vars) : Prop :=
  ∀ name ∈ names, a.entries.get? name = b.entries.get? name

instance (names : List String) (a b : Vars) : Decidable (Agree names a b) :=
  inferInstanceAs (Decidable (∀ name ∈ names, a.entries.get? name = b.entries.get? name))

theorem get?_eq (vars : Vars) (path : String) :
    vars.get? path = match (splitPath path).2 with
      | none => vars.entries.get? (rootOf path)
      | some rest => (vars.entries.get? (rootOf path)).bind (·.atPath? rest) := by
  unfold get? rootOf
  cases splitPath path with
  | mk head rest => cases rest <;> rfl

theorem Agree.get? (h : Agree names a b) (hp : rootOf path ∈ names) :
    a.get? path = b.get? path := by
  rw [get?_eq, get?_eq, h _ hp]

theorem Agree.resolve (h : Agree names a b) {j : Json}
    (hj : ∀ path ∈ Template.paths j, rootOf path ∈ names) : a.resolve j = b.resolve j :=
  Template.resolve_congr j fun path hp => h.get? (hj path hp)

theorem Agree.resolveFields (h : Agree names a b) {fields : Entries Json}
    (hf : ∀ path ∈ Template.fieldPaths fields, rootOf path ∈ names) :
    a.resolveFields fields = b.resolveFields fields :=
  Template.resolveFields_congr fields fun path hp => h.get? (hf path hp)

theorem Agree.importing (h : Agree names a b) {imports : Imports}
    (hi : ∀ entry ∈ imports.entries, rootOf entry.path ∈ names) :
    a.importing imports = b.importing imports := by
  unfold Vars.importing
  refine List.foldl_ext _ _ _ fun input entry hm => ?_
  rw [h.get? (hi entry hm)]

theorem Agree.meets (h : Agree names a b) {guard : List (String × Json)}
    (hk : ∀ path ∈ Entries.keys guard, rootOf path ∈ names)
    (hc : ∀ path ∈ Template.fieldPaths guard, rootOf path ∈ names) :
    a.meets guard = b.meets guard := by
  induction guard with
  | nil => rfl
  | cons first rest ih =>
    have hg := h.get? (hk first.1 List.mem_cons_self)
    have hr := h.resolve fun path hp => hc path (List.mem_append_left _ hp)
    have hi := ih (fun path hp => hk path (List.mem_cons_of_mem _ hp))
      fun path hp => hc path (List.mem_append_right _ hp)
    simp only [Vars.meets, hg, hr, hi]

/-- What the variable at the start of a path becomes when a value is written along it. -/
def written (vars : Vars) (path : String) (value : Json) : Option Json :=
  match (splitPath path).2 with
  | none => some value
  | some rest => ((vars.entries.get? (rootOf path)).getD .null).setAtPath? rest value

theorem set?_eq (vars : Vars) (path : String) (value : Json) :
    vars.set? path value =
      (vars.written path value).map fun root => ⟨vars.entries.insert (rootOf path) root⟩ := by
  unfold set? written rootOf
  cases splitPath path with
  | mk head rest => cases rest <;> rfl

theorem Agree.written (h : Agree names a b) (hp : rootOf path ∈ names) (value : Json) :
    a.written path value = b.written path value := by
  unfold Vars.written
  rw [h _ hp]

/-- A write changes one variable, and in the same way in both when they agree on it. -/
theorem Agree.set? (h : Agree names a b) {value : Json} {a' b' : Vars}
    (ha : a.set? path value = some a') (hb : b.set? path value = some b') : Agree names a' b' := by
  rw [set?_eq] at ha hb
  obtain ⟨root, hr, rfl⟩ := Option.map_eq_some_iff.mp ha
  obtain ⟨other, ho, rfl⟩ := Option.map_eq_some_iff.mp hb
  intro name hn
  simp only [Entries.get?_insert]
  split
  next he =>
    rw [h.written (he ▸ hn), ho] at hr
    rw [Option.some.inj hr]
  next => exact h name hn

theorem Agree.set?_eq_none (h : Agree names a b) {value : Json} (hp : rootOf path ∈ names) :
    a.set? path value = none ↔ b.set? path value = none := by
  rw [set?_eq, set?_eq, h.written hp, Option.map_eq_none_iff, Option.map_eq_none_iff]

end Vars

/-- The paths that a step reads: those that its guard tests, those of its imports, and those in the
templates of its guard, its parameters and the queries of its fetches. -/
def Step.reads (step : Step) : List String :=
  let guard := step.condition.getD []
  guard.keys ++ Template.fieldPaths guard ++
    ((step.imports.map Imports.entries).getD []).map Import.path ++
    Template.fieldPaths step.params ++
    step.fetch.flatMap fun entry => Template.fieldPaths entry.2.query

/-- The variables that a workflow mentions. -/
def Workflow.mentions (w : Workflow) : List String :=
  (w.resultPath :: w.steps.flatMap Step.reads).map Vars.rootOf

theorem Workflow.mem_mentions {w : Workflow} {step : Step} {path : String} (hs : step ∈ w.steps)
    (hp : path ∈ step.reads) : Vars.rootOf path ∈ w.mentions := by
  refine List.mem_map_of_mem (List.mem_cons_of_mem _ ?_)
  exact List.mem_flatMap.mpr ⟨step, hs, hp⟩

theorem Workflow.result_mem_mentions (w : Workflow) : Vars.rootOf w.resultPath ∈ w.mentions :=
  List.mem_map_of_mem List.mem_cons_self

end Stepwise
