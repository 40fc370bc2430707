import Stepwise.Entries

namespace Stepwise.Entries

variable {α : Type} {entries base top : Entries α} {key other : String} {value : α}

instance (entries : Entries α) : Decidable entries.Sorted :=
  inferInstanceAs (Decidable (List.Pairwise _ entries))

theorem get?_insert (entries : Entries α) (key other : String) (value : α) :
    (entries.insert key value).get? other =
      if other = key then some value else entries.get? other := by
  split
  next h => rw [h, get?_insert_self]
  next h => exact get?_insert_of_ne entries value h

/-- In a sorted list every entry is the one that its key leads to. -/
theorem get?_of_mem (hs : entries.Sorted) (h : (key, value) ∈ entries) :
    entries.get? key = some value := by
  induction entries with
  | nil => simp at h
  | cons e rest ih =>
    have hx := List.pairwise_cons.mp hs
    rcases List.mem_cons.mp h with rfl | h
    · simp [get?]
    · have hlt : e.1 < key := hx.1 _ h
      have hne : e.1 ≠ key := Std.ne_of_lt hlt
      simpa [get?, hne] using ih hx.2 h

theorem mem_of_get? (h : entries.get? key = some value) : (key, value) ∈ entries := by
  induction entries with
  | nil => simp at h
  | cons e rest ih =>
    simp only [get?] at h
    split at h
    next hk =>
      cases h
      simp [← hk]
    next => exact List.mem_cons_of_mem _ (ih h)

/-- Of two insertions under one key the second is the one that counts. -/
theorem insert_insert (entries : Entries α) (key : String) (first second : α) :
    (entries.insert key first).insert key second = entries.insert key second := by
  induction entries with
  | nil => simp [insert]
  | cons e rest ih =>
    simp only [insert]
    split
    next => simp [insert]
    next hk =>
      split
      next => simp [insert]
      next hlt => simp [insert, hk, hlt, ih]

/-- Inserting what a key leads to already changes nothing. -/
theorem insert_of_get? (hs : entries.Sorted) (h : entries.get? key = some value) :
    entries.insert key value = entries := by
  induction entries with
  | nil => simp at h
  | cons e rest ih =>
    obtain ⟨hx, hr⟩ := List.pairwise_cons.mp hs
    simp only [get?] at h
    split at h
    next hk =>
      cases h
      simp [insert, ← hk]
    next hk =>
      have hlt : e.1 < key := hx _ (mem_of_get? h)
      have hn : ¬key < e.1 := String.lt_asymm hlt
      simp only [insert, hk, hn, if_false, ih hr h]

theorem insert_insert_of_lt (h : key < other) (entries : Entries α) (first second : α) :
    (entries.insert other second).insert key first =
      (entries.insert key first).insert other second := by
  have hne : key ≠ other := Std.ne_of_lt h
  have hn : ¬other < key := String.lt_asymm h
  induction entries with
  | nil => simp [insert, h, hn, hne, hne.symm]
  | cons e rest ih =>
    rcases Decidable.em (e.1 = key) with rfl | hk
    · simp [insert, hne, hn]
    · by_cases hlt : key < e.1
      · -- the lesser key goes before the entry, wherever the other one goes
        simp only [insert, hk, hlt, if_false, if_true, hne, hn]
        split
        next => simp [insert, hne.symm, h]
        next =>
          split
          next => simp [insert, hne.symm, h]
          next => simp [insert, hk, hlt]
      · have hek : e.1 < key := Std.lt_of_le_of_ne (String.not_lt.mp hlt) hk
        have heo : e.1 < other := String.lt_trans hek h
        have hoe : ¬other < e.1 := String.lt_asymm heo
        simp [insert, hk, hlt, Std.ne_of_lt heo, hoe, ih]

/-- Insertions under different keys can be made in either order. -/
theorem insert_comm (h : key ≠ other) (entries : Entries α) (first second : α) :
    (entries.insert key first).insert other second =
      (entries.insert other second).insert key first := by
  by_cases hlt : key < other
  · exact (insert_insert_of_lt hlt entries first second).symm
  · have hgt : other < key := Std.lt_of_le_of_ne (String.not_lt.mp hlt) h.symm
    exact insert_insert_of_lt hgt entries second first

@[simp] theorem keys_nil : keys ([] : Entries α) = [] := rfl

@[simp] theorem keys_cons (e : String × α) (entries : Entries α) :
    keys (e :: entries) = e.1 :: entries.keys := rfl

theorem keys_mapValues {β : Type} (f : α → β) (entries : Entries α) :
    (entries.mapValues f).keys = entries.keys := List.map_map

theorem get?_mapValues {β : Type} (f : α → β) (entries : Entries α) (key : String) :
    (entries.mapValues f).get? key = (entries.get? key).map f := by
  induction entries with
  | nil => rfl
  | cons e rest ih =>
    simp only [mapValues, List.map_cons, get?] at ih ⊢
    rw [ih]
    split <;> rfl

theorem keys_append (front back : Entries α) : keys (front ++ back) = front.keys ++ back.keys :=
  List.map_append

theorem mem_keys_insert_iff :
    other ∈ (entries.insert key value).keys ↔ other = key ∨ other ∈ entries.keys := by
  induction entries with
  | nil => simp [insert]
  | cons e rest ih =>
    simp only [insert]
    split
    next hk => simp [hk]
    next =>
      split
      next => simp
      next =>
        rw [keys_cons, keys_cons, List.mem_cons, List.mem_cons, ih]
        exact or_left_comm

theorem contains_iff_mem_keys : entries.contains key = true ↔ key ∈ entries.keys := by
  induction entries with
  | nil => simp [contains]
  | cons e rest ih =>
    rw [keys_cons, List.mem_cons, ← ih]
    simp only [contains, get?]
    split
    next hk => simp [hk]
    next hk => simp [Ne.symm hk]

theorem get?_of_not_mem (h : key ∉ entries.keys) : entries.get? key = none := by
  rw [← contains_iff_mem_keys] at h
  simpa [contains] using h

theorem mem_keys_of_get? (h : entries.get? key = some value) : key ∈ entries.keys :=
  List.mem_map_of_mem (mem_of_get? h)

theorem overlay_cons (base : Entries α) (e : String × α) (top : List (String × α)) :
    base.overlay (e :: top) = (base.insert e.1 e.2).overlay top := rfl

theorem mem_keys_overlay :
    other ∈ (base.overlay top).keys ↔ other ∈ base.keys ∨ other ∈ top.keys := by
  induction top generalizing base with
  | nil => simp [overlay]
  | cons e rest ih =>
    rw [overlay_cons, ih, mem_keys_insert_iff, keys_cons, List.mem_cons, or_left_comm, or_assoc]

theorem get?_overlay :
    (base.overlay top).get? key = ((ofList top).get? key).or (base.get? key) := by
  induction top generalizing base with
  | nil => simp [overlay, ofList]
  | cons e rest ih =>
    have hi := @ih (insert [] e.1 e.2)
    rw [ofList, overlay_cons, overlay_cons, ih, hi, Option.or_assoc]
    refine congrArg _ ?_
    rw [get?_insert, get?_insert]
    split <;> simp

@[simp] theorem get?_ofList_nil (key : String) :
    (ofList ([] : List (String × α))).get? key = none := rfl

@[simp] theorem get?_ofList_cons (e : String × α) (rest : List (String × α)) :
    (ofList (e :: rest)).get? key =
      ((ofList rest).get? key).or (if e.1 = key then some e.2 else none) := by
  rw [ofList, overlay_cons]
  exact get?_overlay

@[simp] theorem get?_ofList_append (front back : List (String × α)) :
    (ofList (front ++ back)).get? key = ((ofList back).get? key).or ((ofList front).get? key) := by
  rw [ofList, overlay, List.foldl_append]
  exact get?_overlay

@[simp] theorem get?_ofList_ite (p : Prop) [Decidable p] (yes no : List (String × α)) :
    (ofList (if p then yes else no)).get? key =
      if p then (ofList yes).get? key else (ofList no).get? key := by
  split <;> rfl

theorem mem_keys_ofList {bindings : List (String × α)} :
    key ∈ (ofList bindings).keys ↔ key ∈ keys bindings := by
  rw [ofList, mem_keys_overlay]
  simp

theorem mem_of_mem_overlay {e : String × α} (h : e ∈ base.overlay top) : e ∈ base ∨ e ∈ top := by
  induction top generalizing base with
  | nil => exact .inl h
  | cons x rest ih =>
    rcases ih h with hb | hr
    · rcases mem_keys_insert hb with rfl | hb
      · exact .inr List.mem_cons_self
      · exact .inl hb
    · exact .inr (List.mem_cons_of_mem _ hr)

theorem mem_of_mem_ofList {bindings : List (String × α)} {e : String × α}
    (h : e ∈ ofList bindings) : e ∈ bindings :=
  (mem_of_mem_overlay h).resolve_left List.not_mem_nil

theorem insert_of_forall_lt (h : ∀ e ∈ entries, e.1 < key) :
    entries.insert key value = entries ++ [(key, value)] := by
  induction entries with
  | nil => rfl
  | cons e rest ih =>
    have hlt : e.1 < key := h e List.mem_cons_self
    have hn : ¬key < e.1 := String.lt_asymm hlt
    have hr := ih fun x hx => h x (List.mem_cons_of_mem _ hx)
    simp only [insert, Std.ne_of_lt hlt, hn, if_false, hr, List.cons_append]

theorem overlay_of_sorted (h : (base ++ top).Sorted) : base.overlay top = base ++ top := by
  induction top generalizing base with
  | nil => simp [overlay]
  | cons e rest ih =>
    have hb := (List.pairwise_append.mp h).2.2
    have he : base.insert e.1 e.2 = base ++ [e] :=
      insert_of_forall_lt fun x hx => hb x hx e List.mem_cons_self
    rw [overlay_cons, he, ih (by simpa using h)]
    simp

/-- A sorted list of bindings is the map that it describes. -/
theorem ofList_of_sorted (h : entries.Sorted) : ofList entries = entries :=
  overlay_of_sorted (by simpa using h)

theorem nodup_keys_of_perm {other : Entries α} (hp : entries.Perm other)
    (h : entries.keys.Nodup) : other.keys.Nodup :=
  (List.Perm.map (fun e : String × α => e.1) hp).nodup_iff.mp h

theorem perm_insert (h : key ∉ entries.keys) :
    (entries.insert key value).Perm ((key, value) :: entries) := by
  induction entries with
  | nil => exact .refl _
  | cons e rest ih =>
    obtain ⟨hk, hr⟩ := List.ne_and_not_mem_of_not_mem_cons h
    simp only [insert, Ne.symm hk, if_false]
    split
    next => exact .refl _
    next => exact ((ih hr).cons e).trans (.swap _ _ _)

theorem perm_overlay (h : (keys (base ++ top)).Nodup) : (base.overlay top).Perm (base ++ top) := by
  induction top generalizing base with
  | nil => simp [overlay]
  | cons e rest ih =>
    have hm : (base ++ e :: rest).Perm (e :: (base ++ rest)) := List.perm_middle
    have hd := nodup_keys_of_perm hm h
    have he : e.1 ∉ base.keys := by
      have hn : e.1 ∉ keys (base ++ rest) := (List.nodup_cons.mp hd).1
      rw [keys_append] at hn
      exact fun hb => hn (List.mem_append_left _ hb)
    have hi : (base.insert e.1 e.2 ++ rest).Perm (e :: (base ++ rest)) :=
      (perm_insert he).append_right rest
    rw [overlay_cons]
    exact (ih (nodup_keys_of_perm hi.symm hd)).trans (hi.trans hm.symm)

/-- The map of bindings with different keys holds just these bindings. -/
theorem perm_ofList {bindings : List (String × α)} (h : (keys bindings).Nodup) :
    (ofList bindings).Perm bindings :=
  perm_overlay h

theorem eq_of_perm_of_sorted {other : Entries α} (hp : entries.Perm other) (hs : entries.Sorted)
    (ho : other.Sorted) : entries = other :=
  hp.eq_of_pairwise (fun _ _ _ _ hab hba => absurd hba (String.lt_asymm hab)) hs ho

/-- The order of bindings with different keys does not matter. -/
theorem ofList_eq_of_perm {bindings other : List (String × α)} (hp : bindings.Perm other)
    (h : (keys bindings).Nodup) : ofList bindings = ofList other := by
  have ho := nodup_keys_of_perm hp h
  exact eq_of_perm_of_sorted ((perm_ofList h).trans (hp.trans (perm_ofList ho).symm))
    (sorted_ofList _) (sorted_ofList _)

end Stepwise.Entries
