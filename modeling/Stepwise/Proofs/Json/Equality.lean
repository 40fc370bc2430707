import Mathlib.Data.List.Perm.Subperm
import Stepwise.Json.Equality
import Stepwise.Proofs.Json.Path

namespace Stepwise

theorem Entries.nodup_keys {α : Type} {entries : Entries α} (hs : entries.Sorted) :
    entries.keys.Nodup := List.pairwise_map.mpr (hs.imp Std.ne_of_lt)

namespace Json

variable {a b c : Json} {as bs : List Json} {xs ys : List (String × Json)} {key path : String}

/-- Both are absent, or both are there and alike. -/
abbrev AlikeIfAny : Option Json → Option Json → Prop := Option.Rel fun a b => a.alike b = true

theorem alikeItems_iff : alikeItems as bs = true ↔
    ∀ (i : Nat) (a b : Json), as[i]? = some a → bs[i]? = some b → a.alike b = true := by
  induction as generalizing bs with
  | nil => simp [alikeItems]
  | cons first rest ih =>
    cases bs with
    | nil => simp [alikeItems]
    | cons other others =>
      rw [alikeItems, Bool.and_eq_true, ih]
      constructor
      · rintro ⟨hf, hr⟩ i a b ha hb
        cases i with
        | zero =>
          cases ha
          cases hb
          exact hf
        | succ i => exact hr i a b ha hb
      · intro h
        exact ⟨h 0 first other rfl rfl, fun i => h (i + 1)⟩

theorem alike_arr : (arr as).alike (arr bs) = true ↔ as.length = bs.length ∧
    ∀ (i : Nat) (a b : Json), as[i]? = some a → bs[i]? = some b → a.alike b = true := by
  rw [alike, Bool.and_eq_true, beq_iff_eq, alikeItems_iff]

theorem alikeFields_iff : alikeFields xs ys = true ↔
    ∀ e ∈ xs, ∃ y, Entries.get? ys e.1 = some y ∧ e.2.alike y = true := by
  induction xs with
  | nil => simp [alikeFields]
  | cons first rest ih =>
    rw [alikeFields, Bool.and_eq_true, ih, List.forall_mem_cons]
    refine and_congr_left' ?_
    cases Entries.get? ys first.1 <;> simp

theorem alike_obj : (obj xs).alike (obj ys) = true ↔ xs.length = ys.length ∧
    ∀ e ∈ xs, ∃ y, Entries.get? ys e.1 = some y ∧ e.2.alike y = true := by
  rw [alike, Bool.and_eq_true, beq_iff_eq, alikeFields_iff]

/-- Objects that are alike have the same keys: those of the first are among those of the second, and
there are as many of them. -/
theorem keys_perm_of_alike (hx : Entries.Sorted xs) (h : (obj xs).alike (obj ys) = true) :
    (Entries.keys xs).Perm (Entries.keys ys) := by
  obtain ⟨hl, hf⟩ := alike_obj.mp h
  have hsub : Entries.keys xs ⊆ Entries.keys ys := by
    intro key hk
    obtain ⟨e, he, rfl⟩ := List.mem_map.mp hk
    obtain ⟨y, hy, _⟩ := hf e he
    exact List.mem_map.mpr ⟨_, Entries.mem_of_get? hy, rfl⟩
  have hle : (Entries.keys ys).length ≤ (Entries.keys xs).length := by
    simp [Entries.keys, hl]
  exact ((Entries.nodup_keys hx).subperm hsub).perm_of_length_le hle

/-- In objects that are alike a key leads to alike values, or to none in both. -/
theorem get?_alike (hx : Entries.Sorted xs) (h : (obj xs).alike (obj ys) = true) (key : String) :
    AlikeIfAny (Entries.get? xs key) (Entries.get? ys key) := by
  cases hk : Entries.get? xs key with
  | some x =>
    obtain ⟨y, hy, hxy⟩ := (alike_obj.mp h).2 _ (Entries.mem_of_get? hk)
    rw [hy]
    exact .some hxy
  | none =>
    have hn : key ∉ Entries.keys ys := by
      rw [← (keys_perm_of_alike hx h).mem_iff, ← Entries.contains_iff_mem_keys]
      simp [Entries.contains, hk]
    have hy : Entries.get? ys key = none := by
      rw [← Entries.contains_iff_mem_keys] at hn
      simpa [Entries.contains] using hn
    rw [hy]
    exact .none

/-- Every field is found under its own key, since no key stands twice. -/
theorem alike_refl (ha : a.WellFormed) : a.alike a = true := by
  induction a using parts_induction with
  | null => rfl
  | bool value => simp [alike]
  | num value => simp [alike, Double.same]
  | str value => simp [alike]
  | arr items ih =>
    refine alike_arr.mpr ⟨rfl, fun i x y hx hy => ?_⟩
    obtain rfl : x = y := Option.some.inj (hx.symm.trans hy)
    have hm := List.mem_of_getElem? hx
    exact ih x hm (ha.item hm)
  | obj fields ih =>
    refine alike_obj.mpr ⟨rfl, fun e he => ?_⟩
    exact ⟨e.2, Entries.get?_of_mem ha.1 he, ih e he (ha.field he)⟩

theorem alike_symm (ha : a.WellFormed) (hb : b.WellFormed) (h : a.alike b = true) :
    b.alike a = true := by
  induction a using parts_induction generalizing b with
  | null => cases b <;> simp_all [alike]
  | bool value => cases b <;> simp_all [alike]
  | num value => cases b <;> simp_all [alike, Double.same]
  | str value => cases b <;> simp_all [alike]
  | arr items ih =>
    cases b with
    | arr others =>
      obtain ⟨hl, hi⟩ := alike_arr.mp h
      refine alike_arr.mpr ⟨hl.symm, fun i x y hx hy => ?_⟩
      have hm := List.mem_of_getElem? hy
      exact ih y hm (ha.item hm) (hb.item (List.mem_of_getElem? hx)) (hi i y x hy hx)
    | _ => cases h
  | obj fields ih =>
    cases b with
    | obj others =>
      refine alike_obj.mpr ⟨(alike_obj.mp h).1.symm, fun e he => ?_⟩
      have hr := get?_alike ha.1 h e.1
      rw [Entries.get?_of_mem hb.1 he] at hr
      generalize hx : Entries.get? fields e.1 = x at hr
      cases hr with
      | some hxy =>
        have hm := Entries.mem_of_get? hx
        exact ⟨_, rfl, ih _ hm (ha.field hm) (hb.field he) hxy⟩
    | _ => cases h

theorem alike_trans (hab : a.alike b = true) (hbc : b.alike c = true) : a.alike c = true := by
  induction a using parts_induction generalizing b c with
  | null =>
    cases b with
    | null => exact hbc
    | _ => cases hab
  | bool value =>
    cases b with
    | bool between =>
      obtain rfl : value = between := by simpa [alike] using hab
      exact hbc
    | _ => cases hab
  | num value =>
    cases b with
    | num between =>
      cases c with
      | num other => simp_all [alike, Double.same]
      | _ => cases hbc
    | _ => cases hab
  | str value =>
    cases b with
    | str between =>
      obtain rfl : value = between := by simpa [alike] using hab
      exact hbc
    | _ => cases hab
  | arr items ih =>
    cases b with
    | arr between =>
      cases c with
      | arr others =>
        obtain ⟨hl, hi⟩ := alike_arr.mp hab
        obtain ⟨hm, hj⟩ := alike_arr.mp hbc
        refine alike_arr.mpr ⟨hl.trans hm, fun i x z hx hz => ?_⟩
        have hlt : i < between.length := by
          rw [← hl]
          exact (List.getElem?_eq_some_iff.mp hx).1
        have hy := List.getElem?_eq_getElem hlt
        exact ih x (List.mem_of_getElem? hx) (hi i x _ hx hy) (hj i _ z hy hz)
      | _ => cases hbc
    | _ => cases hab
  | obj fields ih =>
    cases b with
    | obj between =>
      cases c with
      | obj others =>
        obtain ⟨hl, hi⟩ := alike_obj.mp hab
        obtain ⟨hm, hj⟩ := alike_obj.mp hbc
        refine alike_obj.mpr ⟨hl.trans hm, fun e he => ?_⟩
        obtain ⟨y, hy, hxy⟩ := hi e he
        obtain ⟨z, hz, hyz⟩ := hj _ (Entries.mem_of_get? hy)
        exact ⟨z, hz, ih e he hxy hyz⟩
      | _ => cases hbc
    | _ => cases hab

/-- Values that are alike are alike to the same values. -/
theorem alike_congr (ha : a.WellFormed) (hb : b.WellFormed) (h : a.alike b = true) (c : Json) :
    a.alike c = b.alike c := by
  rw [Bool.eq_iff_iff]
  exact ⟨alike_trans (alike_symm ha hb h), alike_trans h⟩

theorem child?_alike (ha : a.WellFormed) (h : a.alike b = true) (segment : String) :
    AlikeIfAny (a.child? segment) (b.child? segment) := by
  cases a with
  | arr items =>
    cases b with
    | arr others =>
      obtain ⟨hl, hi⟩ := alike_arr.mp h
      simp only [child?]
      cases Text.Numeral.index? segment with
      | none => exact .none
      | some position =>
        simp only [Option.bind_some]
        by_cases hp : position < items.length
        · have hx := List.getElem?_eq_getElem hp
          have hy := List.getElem?_eq_getElem (hl ▸ hp)
          rw [hx, hy]
          exact .some (hi position _ _ hx hy)
        · rw [List.getElem?_eq_none (by omega), List.getElem?_eq_none (by omega)]
          exact .none
    | _ => cases h
  | obj fields =>
    cases b with
    | obj others => exact get?_alike ha.1 h segment
    | _ => cases h
  | _ =>
    cases b with
    | arr _ => cases h
    | obj _ => cases h
    | _ => exact .none

theorem walk?_alike {segments : List String} (ha : a.WellFormed) (h : a.alike b = true) :
    AlikeIfAny (walk? segments a) (walk? segments b) := by
  induction segments generalizing a b with
  | nil => exact .some h
  | cons segment rest ih =>
    have hc := child?_alike ha h segment
    simp only [walk?]
    generalize hx : a.child? segment = x at hc ⊢
    generalize b.child? segment = y at hc ⊢
    cases hc with
    | none => exact .none
    | some hxy => exact ih (wellFormed_of_child? ha hx) hxy

theorem atPath?_alike (ha : a.WellFormed) (h : a.alike b = true) (path : String) :
    AlikeIfAny (a.atPath? path) (b.atPath? path) := walk?_alike ha h

theorem wellFormed_of_walk? {segments : List String} (ha : a.WellFormed)
    (h : walk? segments a = some b) : b.WellFormed := by
  induction segments generalizing a with
  | nil =>
    cases h
    exact ha
  | cons segment rest ih =>
    obtain ⟨child, hc, hr⟩ := Option.bind_eq_some_iff.mp h
    exact ih (wellFormed_of_child? ha hc) hr

theorem wellFormed_of_atPath? (ha : a.WellFormed) (h : a.atPath? path = some b) :
    b.WellFormed := wellFormed_of_walk? ha h

/-- Being alike is reflexive, symmetric and transitive on well-formed values of any depth, and
whatever is read along a path of a value is read alike along it in every value that is alike. -/
theorem alike_equivalence :
    Equivalence (fun a b : { j : Json // j.WellFormed } => a.val.alike b.val = true) ∧
    ∀ (a b v : Json) (path : String), a.WellFormed → a.alike b = true →
      a.atPath? path = some v → ∃ w, b.atPath? path = some w ∧ v.alike w = true := by
  constructor
  case left =>
    constructor
    case refl =>
      rintro ⟨a, ha⟩
      exact alike_refl ha
    case symm =>
      rintro ⟨a, ha⟩ ⟨b, hb⟩ hab
      exact alike_symm ha hb hab
    case trans =>
      intro a b c hab hbc
      exact alike_trans hab hbc
  case right =>
    intro a b v path ha hab hv
    have hr := atPath?_alike ha hab path
    rw [hv] at hr
    generalize hw : b.atPath? path = read at hr
    cases hr with
    | some hvw => exact ⟨_, rfl, hvw⟩

/-- A zero and a one below two containers, with a sign before the zero or none, and the one written
as an integer or as a double. -/
def scale (negative : Bool) (one : Number) : Json :=
  .obj [("marks", .arr [.num (.float (.zero negative)), .obj [("top", .num one)]])]

theorem wellFormed_scale (negative : Bool) (one : Number) : (scale negative one).WellFormed :=
  ⟨List.pairwise_singleton _ _,
    ⟨trivial, ⟨List.pairwise_singleton _ _, trivial, trivial⟩, trivial⟩, trivial⟩

theorem alike_equivalence_scale :
    (scale true (.int 1)).WellFormed ∧ scale true (.int 1) ≠ scale false (.float (.ofInt 1)) ∧
    (scale true (.int 1)).alike (scale false (.float (.ofInt 1))) = true ∧
    (scale false (.float (.ofInt 1))).alike (scale true (.int 1)) = true ∧
    (scale true (.int 1)).atPath? "marks.1.top" = some (.num (.int 1)) ∧
    ∃ w, (scale false (.float (.ofInt 1))).atPath? "marks.1.top" = some w ∧
      (Json.num (.int 1)).alike w = true := by
  have ha := wellFormed_scale true (.int 1)
  have hb := wellFormed_scale false (.float (.ofInt 1))
  have hne : scale true (.int 1) ≠ scale false (.float (.ofInt 1)) := by decide +kernel
  have hab : (scale true (.int 1)).alike (scale false (.float (.ofInt 1))) = true := by
    decide +kernel
  have hv : (scale true (.int 1)).atPath? "marks.1.top" = some (.num (.int 1)) := by
    decide +kernel
  obtain ⟨hequiv, hpath⟩ := alike_equivalence
  have hba : (scale false (.float (.ofInt 1))).alike (scale true (.int 1)) = true :=
    hequiv.symm (x := ⟨_, ha⟩) (y := ⟨_, hb⟩) hab
  exact ⟨ha, hne, hab, hba, hv, hpath _ _ _ _ ha hab hv⟩

end Json

end Stepwise
