import Stepwise.Proofs.Entries
import Stepwise.Vars

namespace Stepwise

namespace Json

variable {j next root : Json} {segment path : String} {v w : Json} {items : List Json}
  {position : Nat}

theorem lt_length_fillTo (items : List Json) (position : Nat) :
    position < (fillTo items position).length := by
  simp only [fillTo, List.length_append, List.length_replicate]
  omega

theorem fillTo_of_lt (h : position < items.length) : fillTo items position = items := by
  have hn : position + 1 - items.length = 0 := by omega
  rw [fillTo, hn, List.replicate_zero, List.append_nil]

theorem Slot.fill?_item :
    (Slot.item items position).fill? v = some next ↔
      position + 1 < Text.Numeral.wordBound ∧
        next = .arr ((fillTo items position).set position v) := by
  simp only [Slot.fill?]
  split
  next hb => simp [hb, eq_comm]
  next hb => simp [hb]

/-- Behind a segment that leads nowhere a write starts from null. -/
theorem slot_value (j : Json) (segment : String) :
    (j.slot segment).value = (j.child? segment).getD .null := by
  cases j with
  | arr items => cases hp : Text.Numeral.index? segment <;> simp [slot, hp, Slot.value, child?]
  | _ => rfl

theorem slot_value_of_child? (h : j.child? segment = some v) : (j.slot segment).value = v := by
  rw [slot_value, h, Option.getD_some]

theorem child?_of_fill? (h : (j.slot segment).fill? v = some next) :
    next.child? segment = some v := by
  cases j with
  | arr items =>
    simp only [slot] at h
    cases hp : Text.Numeral.index? segment with
    | none =>
      rw [hp] at h
      cases h
      exact Entries.get?_insert_self _ _ _
    | some position =>
      rw [hp] at h
      obtain ⟨_, rfl⟩ := Slot.fill?_item.mp h
      simp [child?, hp, lt_length_fillTo]
  | _ =>
    cases h
    exact Entries.get?_insert_self _ _ _

/-- Filling a slot again is filling it for the first time. -/
theorem fill?_of_fill? (h : (j.slot segment).fill? v = some next) (w : Json) :
    (next.slot segment).fill? w = (j.slot segment).fill? w := by
  have hfield : ∀ fields : Entries Json,
      (slot segment (.obj (fields.insert segment v))).fill? w =
        (Slot.field fields segment).fill? w := by
    intro fields
    simp only [slot, Slot.fill?, Entries.insert_insert]
  cases j with
  | arr items =>
    simp only [slot] at h
    cases hp : Text.Numeral.index? segment with
    | none =>
      rw [hp] at h
      cases h
      simpa only [slot, hp] using hfield []
    | some position =>
      rw [hp] at h
      obtain ⟨hb, rfl⟩ := Slot.fill?_item.mp h
      have hl : position < ((fillTo items position).set position v).length := by
        simpa using lt_length_fillTo items position
      simp only [slot, hp, Slot.fill?, fillTo_of_lt hl, List.set_set]
  | obj fields =>
    cases h
    exact hfield fields
  | _ =>
    cases h
    exact hfield []

theorem fill?_child? (hj : j.WellFormed) (hc : j.child? segment = some v)
    (h : (j.slot segment).fill? v = some next) : next = j := by
  cases j with
  | arr items =>
    obtain ⟨position, hp, hv⟩ := Option.bind_eq_some_iff.mp hc
    obtain ⟨hl, hi⟩ := List.getElem?_eq_some_iff.mp hv
    simp only [slot, hp] at h
    obtain ⟨_, rfl⟩ := Slot.fill?_item.mp h
    rw [fillTo_of_lt hl, ← hi, List.set_getElem_self]
  | obj fields =>
    have hs : Entries.Sorted fields := hj.1
    cases h
    exact congrArg Json.obj (Entries.insert_of_get? hs hc)
  | _ => cases hc

theorem wellFormed_of_child? (hj : j.WellFormed) (h : j.child? segment = some v) :
    v.WellFormed := by
  cases j with
  | arr items =>
    obtain ⟨position, _, hv⟩ := Option.bind_eq_some_iff.mp h
    exact hj.item (List.mem_of_getElem? hv)
  | obj fields => exact hj.field (Entries.mem_of_get? h)
  | _ => cases h

theorem put?_cons {rest : List String} :
    put? v (segment :: rest) j = some next ↔
      ∃ inner, put? v rest (j.slot segment).value = some inner ∧
        (j.slot segment).fill? inner = some next := Option.bind_eq_some_iff

theorem walk?_of_put? {segments : List String} (h : put? v segments j = some next) :
    walk? segments next = some v := by
  induction segments generalizing j next with
  | nil => exact h.symm
  | cons segment rest ih =>
    obtain ⟨inner, hi, hf⟩ := put?_cons.mp h
    rw [walk?, child?_of_fill? hf]
    exact ih hi

theorem put?_of_put? {segments : List String} (h : put? v segments j = some next) (w : Json) :
    put? w segments next = put? w segments j := by
  induction segments generalizing j next with
  | nil => rfl
  | cons segment rest ih =>
    obtain ⟨inner, hi, hf⟩ := put?_cons.mp h
    -- the second write goes on from what the first has left in the slot
    have hv : (next.slot segment).value = inner := slot_value_of_child? (child?_of_fill? hf)
    simp only [put?, hv, ih hi, fill?_of_fill? hf]

theorem put?_of_walk? {segments : List String} (hj : j.WellFormed) (hw : walk? segments j = some v)
    (h : put? v segments j = some next) : next = j := by
  induction segments generalizing j next with
  | nil =>
    cases hw
    exact (Option.some.inj h).symm
  | cons segment rest ih =>
    obtain ⟨child, hc, hr⟩ := Option.bind_eq_some_iff.mp hw
    obtain ⟨inner, hi, hf⟩ := put?_cons.mp h
    rw [slot_value_of_child? hc] at hi
    obtain rfl : inner = child := ih (wellFormed_of_child? hj hc) hr hi
    exact fill?_child? hj hc hf

end Json

namespace Vars

/-- The first segment of a path names a variable, and the others lead on from it. -/
theorem segments_eq (path : String) :
    Json.segments path =
      (splitPath path).1 :: ((splitPath path).2.map Json.segments).getD [] := by
  simp only [Json.segments, splitPath, Text.splitOn_eq_splitOnce '.' path.toList]
  cases Text.splitOnce '.' path.toList with
  | mk head rest =>
    cases rest with
    | none => rfl
    | some rest => simp [Json.segments]

theorem get?_eq_atPath? (vars : Vars) (path : String) :
    vars.get? path = vars.toJson.atPath? path := by
  rw [get?, Json.atPath?, segments_eq]
  cases splitPath path with
  | mk head rest =>
    cases rest with
    | none => exact (Option.bind_fun_some _).symm
    | some rest => rfl

theorem set?_eq_setAtPath? (vars : Vars) (path : String) (value : Json) :
    (vars.set? path value).map toJson = vars.toJson.setAtPath? path value := by
  rw [set?, Json.setAtPath?, segments_eq]
  cases splitPath path with
  | mk head rest =>
    cases rest with
    | none => rfl
    | some rest =>
      have hr : ∀ written : Option Json,
          (written.map fun root => Vars.mk (vars.entries.insert head root)).map toJson =
            written.bind fun root => some (.obj (vars.entries.insert head root)) := by
        intro written
        cases written <;> rfl
      exact hr _

/-- What is written along a path is read back, of two writes the second counts, and writing what is
read changes nothing, in every value and along every path, as far as the writes come to an end.
Variables are read and written as the object that holds them is. -/
theorem read_write_laws :
    (∀ (root next : Json) (path : String) (v : Json), root.setAtPath? path v = some next →
      next.atPath? path = some v) ∧
    (∀ (root next : Json) (path : String) (v w : Json), root.setAtPath? path v = some next →
      next.setAtPath? path w = root.setAtPath? path w) ∧
    (∀ (root next : Json) (path : String) (v : Json), root.WellFormed →
      root.atPath? path = some v → root.setAtPath? path v = some next → next = root) ∧
    ∀ (vars : Vars) (path : String), vars.get? path = vars.toJson.atPath? path ∧
      ∀ v, (vars.set? path v).map toJson = vars.toJson.setAtPath? path v := by
  refine ⟨?_, ?_, ?_, ?_⟩
  · intro root next path v h
    exact Json.walk?_of_put? h
  · intro root next path v w h
    exact Json.put?_of_put? h w
  · intro root next path v hr hw h
    exact Json.put?_of_walk? hr hw h
  · intro vars path
    exact ⟨get?_eq_atPath? vars path, set?_eq_setAtPath? vars path⟩

/-- An object in an array, and a text after it. -/
def shelf : Json := .obj [("books", .arr [.obj [("7", .ofNat 1)], .str "end"])]

/-- The same with a third item and null before it. -/
def longShelf : Json :=
  .obj [("books", .arr [.obj [("7", .ofNat 1)], .str "end", .null, .ofNat 2])]

theorem read_write_laws_shelf :
    (shelf.setAtPath? "books.+3" (.ofNat 2) = some longShelf ∧
      longShelf.atPath? "books.+3" = some (.ofNat 2)) ∧
    longShelf.setAtPath? "books.+3" .null = shelf.setAtPath? "books.+3" .null ∧
    (shelf.WellFormed ∧ shelf.atPath? "books.00.7" = some (.ofNat 1) ∧
      shelf.setAtPath? "books.00.7" (.ofNat 1) = some shelf) := by
  have hl : shelf.setAtPath? "books.+3" (.ofNat 2) = some longShelf := by decide +kernel
  have hf : shelf.WellFormed := by simp [shelf, Json.WellFormed, Json.WellFormedFields,
    Json.WellFormedItems, Entries.Sorted, Json.ofNat]
  have hr : shelf.atPath? "books.00.7" = some (.ofNat 1) := by decide +kernel
  obtain ⟨next, hn⟩ : ∃ next, shelf.setAtPath? "books.00.7" (.ofNat 1) = some next :=
    Option.isSome_iff_exists.mp (by decide +kernel)
  obtain ⟨hread, htwice, hsame, _⟩ := read_write_laws
  refine ⟨⟨hl, hread _ _ _ _ hl⟩, htwice _ _ _ _ .null hl, hf, hr, ?_⟩
  rw [hn, hsame _ _ _ _ hf hr hn]

end Vars

end Stepwise
