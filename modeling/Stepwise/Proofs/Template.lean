import Stepwise.Proofs.Entries
import Stepwise.Template

namespace Stepwise.Template

variable {lookUp other : String → Option Json}

theorem resolveFields_eq_mapValues (lookUp : String → Option Json) (fields : Entries Json) :
    resolveFields lookUp fields = fields.mapValues (resolve lookUp) := by
  induction fields with
  | nil => rfl
  | cons e rest ih =>
    rw [resolveFields, ih]
    rfl

theorem resolveItems_eq_map (lookUp : String → Option Json) (items : List Json) :
    resolveItems lookUp items = items.map (resolve lookUp) := by
  induction items with
  | nil => rfl
  | cons item rest ih => rw [resolveItems, ih, List.map_cons]

/-- Templates stand in the values, so the keys of an object stay as they are. -/
theorem keys_resolveFields (lookUp : String → Option Json) (fields : Entries Json) :
    Entries.keys (resolveFields lookUp fields) = fields.keys := by
  rw [resolveFields_eq_mapValues, Entries.keys_mapValues]

theorem get?_resolveFields (lookUp : String → Option Json) (fields : Entries Json) (key : String) :
    Entries.get? (resolveFields lookUp fields) key =
      (Entries.get? fields key).map (resolve lookUp) := by
  rw [resolveFields_eq_mapValues, Entries.get?_mapValues]

theorem of_mem_resolveFields {fields : Entries Json} {key : String} {value : Json}
    (h : (key, value) ∈ resolveFields lookUp fields) :
    ∃ part, (key, part) ∈ fields ∧ value = resolve lookUp part := by
  rw [resolveFields_eq_mapValues, Entries.mapValues, List.mem_map] at h
  obtain ⟨⟨name, part⟩, hm, he⟩ := h
  cases he
  exact ⟨part, hm, rfl⟩

/-- The value is a text that consists of one placeholder, so that the value of a variable takes its
place. -/
def IsReference (j : Json) : Prop := ∃ s, j = .str s ∧ (sole? s).isSome

/-- Every other text stays a text. -/
theorem isReference_or_text (lookUp : String → Option Json) (s : String) :
    IsReference (.str s) ∨ ∃ text, resolve lookUp (.str s) = .str text := by
  cases hs : sole? s with
  | none => exact .inr ⟨interpolate lookUp s, by simp [resolve, resolveText, hs]⟩
  | some inner => exact .inl ⟨s, rfl, by rw [hs]; rfl⟩

def Piece.path? : Piece → Option String
  | .literal _ => none
  | .placeholder inner => some (pathOf inner)

/-- The paths in the placeholders of a text. -/
def textPaths (s : String) : List String := (scan s.toList).filterMap Piece.path?

mutual

/-- The paths in the placeholders of all texts of a value, keys of objects apart. -/
def paths : Json → List String
  | .str s => textPaths s
  | .arr items => itemPaths items
  | .obj fields => fieldPaths fields
  | .null => []
  | .bool _ => []
  | .num _ => []

def itemPaths : List Json → List String
  | [] => []
  | item :: rest => paths item ++ itemPaths rest

def fieldPaths : List (String × Json) → List String
  | [] => []
  | (_, value) :: rest => paths value ++ fieldPaths rest

end

theorem scan_of_sole? {s : String} {inner : List Char} (h : sole? s = some inner) :
    scan s.toList = [.placeholder inner] := by
  unfold sole? at h
  split at h
  next found hp =>
    cases h
    rw [scan]
    split
    next inner after hq =>
      cases hp.symm.trans hq
      simp [scan, placeholder?]
    next hq => simp [hp] at hq
  next => simp at h

theorem expand_congr {piece : Piece} (h : ∀ path, piece.path? = some path →
    lookUp path = other path) : piece.expand lookUp = piece.expand other := by
  cases piece with
  | literal c => rfl
  | placeholder inner =>
    have hp : lookUp (pathOf inner) = other (pathOf inner) := h _ rfl
    simp only [Piece.expand, hp]

theorem interpolate_congr {s : String} (h : ∀ path ∈ textPaths s, lookUp path = other path) :
    interpolate lookUp s = interpolate other s := by
  have hp : ∀ piece ∈ scan s.toList, piece.expand lookUp = piece.expand other := by
    intro piece hm
    exact expand_congr fun path hp => h path (List.mem_filterMap.mpr ⟨piece, hm, hp⟩)
  rw [interpolate, interpolate, List.flatMap_def, List.flatMap_def, List.map_congr_left hp]

theorem resolveText_congr {s : String} (h : ∀ path ∈ textPaths s, lookUp path = other path) :
    resolveText lookUp s = resolveText other s := by
  unfold resolveText
  cases hs : sole? s with
  | none => simp only [interpolate_congr h]
  | some inner =>
    have hm : pathOf inner ∈ textPaths s := by
      rw [textPaths, scan_of_sole? hs]
      exact List.mem_singleton_self _
    simp only [h _ hm]

mutual

/-- A value becomes the same for two sources of variables that agree on what it reads. -/
theorem resolve_congr : ∀ j : Json, (∀ path ∈ paths j, lookUp path = other path) →
    resolve lookUp j = resolve other j
  | .str _, h => resolveText_congr h
  | .arr items, h => congrArg Json.arr (resolveItems_congr items h)
  | .obj fields, h => congrArg Json.obj (resolveFields_congr fields h)
  | .null, _ => rfl
  | .bool _, _ => rfl
  | .num _, _ => rfl

theorem resolveItems_congr : ∀ items : List Json,
    (∀ path ∈ itemPaths items, lookUp path = other path) →
      resolveItems lookUp items = resolveItems other items
  | [], _ => rfl
  | item :: rest, h => by
    have hi := resolve_congr item fun path hp => h path (List.mem_append_left _ hp)
    have hr := resolveItems_congr rest fun path hp => h path (List.mem_append_right _ hp)
    rw [resolveItems, resolveItems, hi, hr]

theorem resolveFields_congr : ∀ fields : List (String × Json),
    (∀ path ∈ fieldPaths fields, lookUp path = other path) →
      resolveFields lookUp fields = resolveFields other fields
  | [], _ => rfl
  | (key, value) :: rest, h => by
    have hv := resolve_congr value fun path hp => h path (List.mem_append_left _ hp)
    have hr := resolveFields_congr rest fun path hp => h path (List.mem_append_right _ hp)
    rw [resolveFields, resolveFields, hv, hr]

end

end Stepwise.Template
