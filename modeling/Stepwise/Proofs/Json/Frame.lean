import Stepwise.Proofs.Json.Path

namespace Stepwise.Json

variable {j next root container : Json} {segment other : String} {v w : Json} {items : List Json}
  {position k : Nat} {front back : List String}

theorem length_fillTo (items : List Json) (position : Nat) :
    (fillTo items position).length = max items.length (position + 1) := by
  simp only [fillTo, List.length_append, List.length_replicate]
  omega

theorem getElem?_fillTo_of_lt (hk : k < items.length) : (fillTo items position)[k]? = items[k]? :=
  List.getElem?_append_left hk

theorem getElem?_fillTo_of_le (hl : items.length ≤ k) (hk : k ≤ position) :
    (fillTo items position)[k]? = some .null := by
  have hr : k - items.length < position + 1 - items.length := by omega
  rw [fillTo, List.getElem?_append_right hl, List.getElem?_replicate, if_pos hr]

/-- Two segments that lead to different places of a container. In an array they are positions, and
different texts may denote one position. -/
def Apart (segment other : String) : Json → Prop
  | .obj _ => segment ≠ other
  | .arr _ => ∃ i k, Text.Numeral.index? segment = some i ∧ Text.Numeral.index? other = some k ∧
      i ≠ k
  | _ => False

theorem Apart.child? (ha : j.Apart segment other) (hc : j.child? other = some w)
    (h : (j.slot segment).fill? v = some next) : next.child? other = some w := by
  cases j with
  | obj fields =>
    cases h
    exact (Entries.get?_insert_of_ne fields v (Ne.symm ha)).trans hc
  | arr items =>
    obtain ⟨position, k, hp, hk, hne⟩ := ha
    obtain ⟨found, hf, hw⟩ := Option.bind_eq_some_iff.mp hc
    obtain rfl : k = found := Option.some.inj (hk.symm.trans hf)
    have hl : k < items.length := (List.getElem?_eq_some_iff.mp hw).1
    simp only [slot, hp] at h
    obtain ⟨_, rfl⟩ := Slot.fill?_item.mp h
    have hs : ((fillTo items position).set position v)[k]? = some w := by
      rw [List.getElem?_set_ne hne, getElem?_fillTo_of_lt hl, hw]
    exact Option.bind_eq_some_iff.mpr ⟨k, hk, hs⟩
  | _ => exact ha.elim

theorem walk?_append (front back : List String) (j : Json) :
    walk? (front ++ back) j = (walk? front j).bind (walk? back) := by
  induction front generalizing j with
  | nil => rfl
  | cons segment rest ih =>
    rw [List.cons_append, walk?, walk?, Option.bind_assoc]
    exact Option.bind_congr fun child _ => ih child

/-- A write that passes through a value puts there what the rest of its path makes of it. -/
theorem put?_append (hw : walk? front j = some container)
    (h : put? v (front ++ back) j = some next) :
    ∃ changed, put? v back container = some changed ∧ walk? front next = some changed := by
  induction front generalizing j next with
  | nil =>
    cases hw
    exact ⟨next, h, rfl⟩
  | cons segment rest ih =>
    obtain ⟨child, hc, hr⟩ := Option.bind_eq_some_iff.mp hw
    obtain ⟨inner, hi, hf⟩ := put?_cons.mp h
    rw [slot_value_of_child? hc] at hi
    obtain ⟨changed, hp, hn⟩ := ih hr hi
    refine ⟨changed, hp, ?_⟩
    rw [walk?, child?_of_fill? hf]
    exact hn

/-- Two paths that have some segments in common, lead along these to a container, and go on to
different places of it. -/
def Diverge (root : Json) (path other : String) : Prop :=
  ∃ front segment rest aside beyond container,
    segments path = front ++ segment :: rest ∧ segments other = front ++ aside :: beyond ∧
      root.walk? front = some container ∧ container.Apart segment aside

theorem atPath?_of_diverge {path other : String} (hd : root.Diverge path other)
    (h : root.setAtPath? path v = some next) (hr : root.atPath? other = some w) :
    next.atPath? other = some w := by
  obtain ⟨front, segment, rest, aside, beyond, container, hp, ho, hw, ha⟩ := hd
  rw [setAtPath?, hp] at h
  rw [atPath?, ho, walk?_append] at hr ⊢
  obtain ⟨changed, hc, hn⟩ := put?_append hw h
  obtain ⟨inner, _, hf⟩ := put?_cons.mp hc
  rw [hw, Option.bind_some, walk?] at hr
  obtain ⟨child, hs, hb⟩ := Option.bind_eq_some_iff.mp hr
  rw [hn, Option.bind_some, walk?]
  exact Option.bind_eq_some_iff.mpr ⟨child, ha.child? hs hf, hb⟩

/-- The array that a write leaves of one that it passes through at a position. -/
theorem walk?_of_item {rest : List String} (hw : root.walk? front = some (.arr items))
    (hp : Text.Numeral.index? segment = some position)
    (h : put? v (front ++ segment :: rest) root = some next) :
    ∃ inner, next.walk? front = some (.arr ((fillTo items position).set position inner)) := by
  obtain ⟨changed, hc, hn⟩ := put?_append hw h
  obtain ⟨inner, _, hf⟩ := put?_cons.mp hc
  simp only [slot, hp] at hf
  obtain ⟨_, rfl⟩ := Slot.fill?_item.mp hf
  exact ⟨inner, hn⟩

/-- A write that completes keeps what is read along every path that parts from its own. Of an array
that it passes through at a position it keeps the other items in their places; the array is then
long enough for the position and no longer than it has to be, and its new items before the position
are null. -/
theorem frame_of_write {path : String} (h : root.setAtPath? path v = some next) :
    (∀ other w, root.Diverge path other → root.atPath? other = some w →
      next.atPath? other = some w) ∧
    ∀ front segment rest items position, segments path = front ++ segment :: rest →
      root.walk? front = some (.arr items) → Text.Numeral.index? segment = some position →
        ∃ after, next.walk? front = some (.arr after) ∧
          after.length = max items.length (position + 1) ∧
          (∀ k, k < items.length → k ≠ position → after[k]? = items[k]?) ∧
          ∀ k, items.length ≤ k → k < position → after[k]? = some .null := by
  refine ⟨fun other w hd hr => atPath?_of_diverge hd h hr, ?_⟩
  intro front segment rest items position hs hw hp
  rw [setAtPath?, hs] at h
  obtain ⟨inner, hn⟩ := walk?_of_item hw hp h
  refine ⟨_, hn, ?_, ?_, ?_⟩
  · rw [List.length_set, length_fillTo]
  · intro k hk hne
    rw [List.getElem?_set_ne (Ne.symm hne), getElem?_fillTo_of_lt hk]
  · intro k hl hk
    rw [List.getElem?_set_ne (Nat.ne_of_gt hk), getElem?_fillTo_of_le hl (Nat.le_of_lt hk)]

/-- Two rows of seats, the second one a single seat. -/
def hall : Json := .obj [("rows", .arr [.obj [("left", .ofNat 1)], .arr [.ofNat 5]])]

/-- The hall with a seat further on in the second row. -/
def widerHall : Json :=
  .obj [("rows", .arr [.obj [("left", .ofNat 1)], .arr [.ofNat 5, .null, .ofNat 7]])]

theorem frame_of_write_hall :
    hall.setAtPath? "rows.01.+2" (.ofNat 7) = some widerHall ∧
      (hall.Diverge "rows.01.+2" "rows.0.left" ∧ hall.atPath? "rows.0.left" = some (.ofNat 1) ∧
        widerHall.atPath? "rows.0.left" = some (.ofNat 1)) ∧
      segments "rows.01.+2" = ["rows", "01"] ++ "+2" :: [] ∧
      hall.walk? ["rows", "01"] = some (.arr [.ofNat 5]) ∧
      Text.Numeral.index? "+2" = some 2 ∧
      ∃ after, widerHall.walk? ["rows", "01"] = some (.arr after) ∧ after.length = 3 ∧
        after[0]? = some (.ofNat 5) ∧ after[1]? = some .null := by
  have hn : hall.setAtPath? "rows.01.+2" (.ofNat 7) = some widerHall := by decide +kernel
  have hs : segments "rows.01.+2" = ["rows", "01"] ++ "+2" :: [] := by decide +kernel
  have hd : hall.Diverge "rows.01.+2" "rows.0.left" :=
    ⟨["rows"], "01", ["+2"], "0", ["left"], .arr [.obj [("left", .ofNat 1)], .arr [.ofNat 5]],
      hs, by decide +kernel, by decide +kernel, 1, 0, by decide +kernel, by decide +kernel,
      by decide⟩
  have hr : hall.atPath? "rows.0.left" = some (.ofNat 1) := by decide +kernel
  have hw : hall.walk? ["rows", "01"] = some (.arr [.ofNat 5]) := by decide +kernel
  have hp : Text.Numeral.index? "+2" = some 2 := by decide +kernel
  obtain ⟨hkeep, harray⟩ := frame_of_write hn
  obtain ⟨after, ha, hl, hold, hnew⟩ := harray _ _ _ _ _ hs hw hp
  exact ⟨hn, ⟨hd, hr, hkeep _ _ hd hr⟩, hs, hw, hp, after, ha, hl,
    hold 0 (by decide) (by decide), hnew 1 (by decide) (by decide)⟩

end Stepwise.Json
