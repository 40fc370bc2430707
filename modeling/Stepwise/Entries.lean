namespace Stepwise

/-- A finite map with text keys as the list of its entries. Looking up and changing entries is total
on every list; that the keys increase is the predicate `Sorted`. -/
abbrev Entries (α : Type) := List (String × α)

namespace Entries

variable {α β : Type}

/-- Keys increase strictly, by code points. -/
def Sorted (entries : Entries α) : Prop := entries.Pairwise fun a b => a.1 < b.1

def get? : Entries α → String → Option α
  | [], _ => none
  | (k, v) :: rest, key => if k = key then some v else get? rest key

def contains (entries : Entries α) (key : String) : Bool := (entries.get? key).isSome

def keys (entries : Entries α) : List String := entries.map (·.1)

/-- Binds a key to a value, in place of the value it had. -/
def insert : Entries α → String → α → Entries α
  | [], key, value => [(key, value)]
  | (k, v) :: rest, key, value =>
    if k = key then (key, value) :: rest
    else if key < k then (key, value) :: (k, v) :: rest
    else (k, v) :: insert rest key value

def erase (entries : Entries α) (key : String) : Entries α := entries.filter (·.1 ≠ key)

/-- Binds the keys of `top` over those of `base`, in the order of `top`. -/
def overlay (base top : Entries α) : Entries α := top.foldl (fun out e => out.insert e.1 e.2) base

/-- The map that a list of bindings describes: of two bindings of one key the later holds. -/
def ofList (bindings : List (String × α)) : Entries α := overlay [] bindings

def mapValues (f : α → β) (entries : Entries α) : Entries β := entries.map fun e => (e.1, f e.2)

@[simp] theorem get?_nil (key : String) : get? ([] : Entries α) key = none := rfl

@[simp] theorem get?_insert_self (entries : Entries α) (key : String) (value : α) :
    (entries.insert key value).get? key = some value := by
  induction entries with
  | nil => simp [insert, get?]
  | cons e rest ih =>
    simp only [insert]
    split
    · simp [get?]
    · next hk =>
      split
      · simp [get?]
      · simp [get?, hk, ih]

theorem get?_insert_of_ne (entries : Entries α) {key other : String} (value : α) (h : other ≠ key) :
    (entries.insert key value).get? other = entries.get? other := by
  induction entries with
  | nil => simp [insert, get?, Ne.symm h]
  | cons e rest ih =>
    simp only [insert]
    split
    · next hk => simp [get?, Ne.symm h, hk]
    · split
      · simp [get?, Ne.symm h]
      · simp [get?, ih]

@[simp] theorem get?_erase_self (entries : Entries α) (key : String) :
    (entries.erase key).get? key = none := by
  induction entries with
  | nil => rfl
  | cons e rest ih =>
    simp only [erase, List.filter_cons] at ih ⊢
    split
    · next hk => simpa [get?, of_decide_eq_true hk] using ih
    · exact ih

theorem get?_erase_of_ne (entries : Entries α) {key other : String} (h : other ≠ key) :
    (entries.erase key).get? other = entries.get? other := by
  induction entries with
  | nil => rfl
  | cons e rest ih =>
    simp only [erase, List.filter_cons] at ih ⊢
    split
    · simp only [get?, ih]
    · next hk =>
      have he : e.1 = key := by simpa using hk
      simpa [get?, he, Ne.symm h] using ih

theorem mem_keys_insert {entries : Entries α} {key : String} {value : α} {e : String × α}
    (h : e ∈ entries.insert key value) : e = (key, value) ∨ e ∈ entries := by
  induction entries with
  | nil => simpa [insert] using h
  | cons x rest ih =>
    simp only [insert] at h
    split at h
    · rcases List.mem_cons.mp h with he | he
      · exact .inl he
      · exact .inr (List.mem_cons_of_mem _ he)
    · split at h
      · rcases List.mem_cons.mp h with he | he
        · exact .inl he
        · exact .inr he
      · rcases List.mem_cons.mp h with he | he
        · exact .inr (by simp [he])
        · rcases ih he with hr | hr
          · exact .inl hr
          · exact .inr (List.mem_cons_of_mem _ hr)

theorem sorted_insert {entries : Entries α} (hs : entries.Sorted) (key : String) (value : α) :
    (entries.insert key value).Sorted := by
  induction entries with
  | nil => simp [insert, Sorted]
  | cons x rest ih =>
    have hx := List.pairwise_cons.mp hs
    simp only [insert]
    split
    · next hk => exact List.pairwise_cons.mpr ⟨fun e he => hk ▸ hx.1 e he, hx.2⟩
    · next hk =>
      split
      · next hlt =>
        refine List.pairwise_cons.mpr ⟨fun e he => ?_, hs⟩
        rcases List.mem_cons.mp he with rfl | he
        · exact hlt
        · exact String.lt_trans hlt (hx.1 e he)
      · next hge =>
        refine List.pairwise_cons.mpr ⟨fun e he => ?_, ih hx.2⟩
        rcases mem_keys_insert he with rfl | he
        · exact Std.lt_of_le_of_ne (String.not_lt.mp hge) hk
        · exact hx.1 e he

theorem sorted_overlay {base : Entries α} (hs : base.Sorted) (top : Entries α) :
    (base.overlay top).Sorted := by
  induction top generalizing base with
  | nil => exact hs
  | cons e rest ih => exact ih (sorted_insert hs e.1 e.2)

theorem sorted_ofList (bindings : List (String × α)) : (ofList bindings).Sorted :=
  sorted_overlay List.Pairwise.nil bindings

end Entries

end Stepwise
