import Stepwise.Proofs.Json.Equality
import Stepwise.Proofs.Json.Portable
import Stepwise.Proofs.Reading

namespace Stepwise.Json

/-- A value that is written to a text, perhaps in another order, and that the text denotes. -/
structure Writes (text value : Json) : Prop where
  legible : text.Legible
  ordered : text.ordered = value

theorem writes_str (s : String) : Writes (.str s) (.str s) := ⟨trivial, rfl⟩

theorem writes_bool (value : Bool) : Writes (.bool value) (.bool value) := ⟨trivial, rfl⟩

theorem writes_ofNat {n : Nat} (h : n < Text.Numeral.wordBound) : Writes (ofNat n) (ofNat n) := by
  have hf : Number.Fits n := by
    unfold Number.Fits Text.Numeral.signedBound Text.Numeral.wordBound
    unfold Text.Numeral.wordBound at h
    omega
  exact ⟨hf, rfl⟩

theorem writes_arr {α : Type} {f g : α → Json} {xs : List α} (h : ∀ x ∈ xs, Writes (f x) (g x)) :
    Writes (.arr (xs.map f)) (.arr (xs.map g)) := by
  constructor
  · refine legible_arr.mpr fun item hm => ?_
    obtain ⟨x, hx, rfl⟩ := List.mem_map.mp hm
    exact (h x hx).legible
  · rw [ordered, orderedItems_eq_map, List.map_map]
    exact congrArg _ (List.map_congr_left fun x hx => (h x hx).ordered)

/-- A map keeps its order, which is that of its keys. -/
theorem writes_mapValues {α : Type} {f g : α → Json} {entries : Entries α} (hs : entries.Sorted)
    (h : ∀ e ∈ entries, Writes (f e.2) (g e.2)) :
    Writes (.obj (entries.mapValues f)) (.obj (entries.mapValues g)) := by
  have hm : ∀ f : α → Json, Entries.Sorted (entries.mapValues f) :=
    fun f => List.pairwise_map.mpr hs
  constructor
  · refine legible_obj.mpr ⟨Entries.nodup_keys (hm f), fun e he => ?_⟩
    obtain ⟨x, hx, rfl⟩ := List.mem_map.mp he
    exact (h x hx).legible
  · have he : (entries.mapValues f).map (fun e => (e.1, e.2.ordered)) = entries.mapValues g := by
      rw [Entries.mapValues, List.map_map]
      exact List.map_congr_left fun x hx => congrArg _ (h x hx).ordered
    rw [ordered, orderedFields_eq_map, he, record, Entries.ofList_of_sorted (hm g)]

/-- A value that is portable is denoted by its own text. -/
theorem writes_of_portable {j : Json} (h : j.Portable) : Writes j j := by
  induction j using parts_induction with
  | null | bool | str => exact ⟨trivial, rfl⟩
  | num n => exact ⟨h, rfl⟩
  | arr items ih =>
    have hw := writes_arr (f := id) (g := id) fun item hm => ih item hm (portable_arr.mp h item hm)
    rwa [List.map_id] at hw
  | obj fields ih =>
    obtain ⟨hs, hv⟩ := portable_obj.mp h
    have hw := writes_mapValues (f := id) (g := id) hs fun e hm => ih e hm (hv e hm)
    have he : Entries.mapValues id fields = fields := List.map_id fields
    rwa [he] at hw

/-- Fields that are written under some of the names, each for a value of its own. -/
structure FieldsWrite (names : List String) (texts values : List (String × Json)) : Prop where
  keys : (Entries.keys texts).Sublist names
  legible : ∀ e ∈ texts, e.2.Legible
  ordered : orderedFields texts = values

theorem FieldsWrite.nil : FieldsWrite [] [] [] := ⟨.slnil, by simp, rfl⟩

theorem FieldsWrite.cons {names : List String} {texts values : List (String × Json)}
    {text value : Json} (name : String) (h : Writes text value)
    (hf : FieldsWrite names texts values) :
    FieldsWrite (name :: names) ((name, text) :: texts) ((name, value) :: values) where
  keys := hf.keys.cons_cons name
  legible := List.forall_mem_cons.mpr ⟨h.legible, hf.legible⟩
  ordered := by rw [orderedFields, h.ordered, hf.ordered]

theorem FieldsWrite.append {names others : List String}
    {texts values texts' values' : List (String × Json)} (h : FieldsWrite names texts values)
    (h' : FieldsWrite others texts' values') :
    FieldsWrite (names ++ others) (texts ++ texts') (values ++ values') where
  keys := by
    rw [Entries.keys_append]
    exact h.keys.append h'.keys
  legible := List.forall_mem_append.mpr ⟨h.legible, h'.legible⟩
  ordered := by
    rw [orderedFields_eq_map, List.map_append, ← orderedFields_eq_map, ← orderedFields_eq_map,
      h.ordered, h'.ordered]

theorem fieldsWrite_whenSet {α : Type} {f g : α → Json} (name : String) (field : Option α)
    (h : ∀ x ∈ field, Writes (f x) (g x)) :
    FieldsWrite [name] (whenSet name f field) (whenSet name g field) := by
  cases field with
  | none => exact ⟨List.nil_sublist _, by simp [whenSet], rfl⟩
  | some x => exact .cons name (h x rfl) .nil

theorem fieldsWrite_text (name : String) (field : Option String) :
    FieldsWrite [name] (whenSet name .str field) (whenSet name .str field) :=
  fieldsWrite_whenSet name field fun s _ => writes_str s

theorem FieldsWrite.record {names : List String} {texts values : List (String × Json)}
    (h : FieldsWrite names texts values) (hn : names.Nodup) :
    Writes (.obj texts) (record values) where
  legible := legible_obj.mpr ⟨h.keys.nodup hn, h.legible⟩
  ordered := by rw [Json.ordered, h.ordered]

end Stepwise.Json
