import Stepwise.Proofs.Json.Frame
import Stepwise.Proofs.Machine.Consistency
import Stepwise.Proofs.Text
import Stepwise.Validation.Builtin

namespace Stepwise

namespace Json

variable {j : Json} {segment : String} {v : Json} {position : Nat} {rest path : List String}

/-- The greatest number of 64 bits. -/
def lastPosition : Nat := Text.Numeral.wordBound - 1

/-- The segments lead in a value to an array, and the next one denotes the last position. -/
def Overruns (path : List String) (j : Json) : Prop :=
  ∃ front segment rest items, path = front ++ segment :: rest ∧
    j.walk? front = some (.arr items) ∧ Text.Numeral.index? segment = some lastPosition

theorem lt_of_index? (h : Text.Numeral.index? segment = some position) :
    position < Text.Numeral.wordBound := by
  unfold Text.Numeral.index? at h
  cases hr : Text.Numeral.read Text.Numeral.wordBound segment.toList with
  | error fault => simp [hr, Except.toOption] at h
  | ok n =>
    obtain rfl : n = position := by simpa [hr, Except.toOption] using h
    exact Text.Numeral.lt_of_read hr (by decide)

/-- Whether a slot can be filled does not depend on the value that is to fill it. -/
theorem fill?_eq_none_iff :
    (j.slot segment).fill? v = none ↔
      ∃ items, j = .arr items ∧ Text.Numeral.index? segment = some lastPosition := by
  cases j with
  | arr items =>
    cases hp : Text.Numeral.index? segment with
    | none => simp [slot, hp, Slot.fill?]
    | some position =>
      have hl := lt_of_index? hp
      simp only [slot, hp, Slot.fill?, lastPosition, Option.some.injEq, Json.arr.injEq,
        exists_eq_left']
      split
      next hb => simp only [reduceCtorEq, false_iff]; omega
      next hb => simp only [true_iff]; omega
  | _ => simp [slot, Slot.fill?]

theorem not_overruns_nil (j : Json) : ¬Overruns [] j := by
  rintro ⟨front, segment, rest, items, hp, -⟩
  exact List.append_ne_nil_of_right_ne_nil _ (List.cons_ne_nil _ _) hp.symm

theorem overruns_cons :
    Overruns (segment :: rest) j ↔
      (∃ items, j = .arr items ∧ Text.Numeral.index? segment = some lastPosition) ∨
        ∃ child, j.child? segment = some child ∧ Overruns rest child := by
  constructor
  · rintro ⟨front, last, beyond, items, hp, hw, hi⟩
    cases front with
    | nil =>
      obtain ⟨rfl, rfl⟩ := List.cons.inj hp
      exact .inl ⟨items, Option.some.inj hw, hi⟩
    | cons first front =>
      obtain ⟨rfl, rfl⟩ := List.cons.inj hp
      obtain ⟨child, hc, hr⟩ := Option.bind_eq_some_iff.mp hw
      exact .inr ⟨child, hc, front, last, beyond, items, rfl, hr, hi⟩
  · rintro (⟨items, rfl, hi⟩ | ⟨child, hc, front, last, beyond, items, rfl, hw, hi⟩)
    · exact ⟨[], segment, rest, items, rfl, rfl, hi⟩
    · exact ⟨segment :: front, last, beyond, items, rfl,
        Option.bind_eq_some_iff.mpr ⟨child, hc, hw⟩, hi⟩

/-- In null there is no array to come to. -/
theorem not_overruns_null (path : List String) : ¬Overruns path .null := by
  cases path with
  | nil => exact not_overruns_nil _
  | cons segment rest =>
    rw [overruns_cons]
    rintro (⟨items, hj, _⟩ | ⟨child, hc, _⟩)
    · cases hj
    · cases hc

theorem overruns_slot_value :
    Overruns rest (j.slot segment).value ↔
      ∃ child, j.child? segment = some child ∧ Overruns rest child := by
  rw [slot_value]
  cases j.child? segment with
  | none => simp [not_overruns_null]
  | some child => simp

theorem put?_eq_none_iff : put? v path j = none ↔ Overruns path j := by
  induction path generalizing j with
  | nil => simp [put?, not_overruns_nil]
  | cons segment rest ih =>
    rw [overruns_cons, ← overruns_slot_value, ← ih]
    have hp : put? v (segment :: rest) j =
        (put? v rest (j.slot segment).value).bind (j.slot segment).fill? := rfl
    cases hi : put? v rest (j.slot segment).value with
    | none => simp [hp, hi]
    | some inner =>
      have hf : (j.slot segment).fill? inner = none ↔ _ := fill?_eq_none_iff
      simp [hp, hi, hf]

end Json

namespace Vars

theorem set?_eq_none_iff {vars : Vars} {path : String} {v : Json} :
    vars.set? path v = none ↔ Json.Overruns (Json.segments path) vars.toJson := by
  rw [← Json.put?_eq_none_iff (v := v), ← Json.setAtPath?, ← set?_eq_setAtPath?,
    Option.map_eq_none_iff]

/-- A write into a value or into the variables of a run fails just where its path overruns an
array. At every other position the array is long enough for the item once it is filled. -/
theorem set?_eq_none_iff_overruns (root : Json) (vars : Vars) (path : String) (v : Json) :
    (root.setAtPath? path v = none ↔ Json.Overruns (Json.segments path) root) ∧
    (vars.set? path v = none ↔ Json.Overruns (Json.segments path) vars.toJson) ∧
    ∀ (items : List Json) (position : Nat), position < (Json.fillTo items position).length :=
  ⟨Json.put?_eq_none_iff, set?_eq_none_iff, Json.lt_length_fillTo⟩

/-- Two steps, of which the first one writes to the last position of a list. -/
def endless : Workflow where
  name := "endless"
  steps := [{ name := "go", output := some "list.18446744073709551615" },
    { name := "go", output := some "result" }]
  vars := [("list", .arr [])]

/-- The workflow is accepted without a warning, and its first result cannot be written. -/
theorem set?_not_total :
    Validation.check Validation.builtin endless = .ok [] ∧
      (Vars.mk endless.vars).set? "list.18446744073709551615" (.str "done") = none ∧
      (Json.arr []).setAtPath? "18446744073709551615" (.str "done") = none ∧
      ((Machine.start endless (.initial endless.vars [] [])).after
        [.step, .step, .step, .resume (.str "done")]).step.1 =
          .error (Machine.outOfSpace "list.18446744073709551615") := by
  refine ⟨?_, by decide +kernel, by decide +kernel, ?_⟩
  · rfl
  · rfl

end Vars

end Stepwise
