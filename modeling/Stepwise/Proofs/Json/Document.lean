import Stepwise.Json.Document
import Stepwise.Proofs.Entries

namespace Stepwise

namespace Json

mutual

/-- The syntax tree of the text of a value. -/
def document : Json → Document
  | .null => .null
  | .bool value => .bool value
  | .num n => .num (some n)
  | .str s => .str (some s)
  | .arr items => .arr (documents items)
  | .obj fields => .obj (documentFields fields)

def documents : List Json → List Document
  | [] => []
  | item :: rest => item.document :: documents rest

def documentFields : List (String × Json) → List (Option String × Document)
  | [] => []
  | (key, value) :: rest => (some key, value.document) :: documentFields rest

end

mutual

/-- The value with the fields of all objects in key order. -/
def ordered : Json → Json
  | .arr items => .arr (orderedItems items)
  | .obj fields => record (orderedFields fields)
  | .null => .null
  | .bool value => .bool value
  | .num n => .num n
  | .str s => .str s

def orderedItems : List Json → List Json
  | [] => []
  | item :: rest => item.ordered :: orderedItems rest

def orderedFields : List (String × Json) → List (String × Json)
  | [] => []
  | (key, value) :: rest => (key, value.ordered) :: orderedFields rest

end

theorem documents_eq_map (items : List Json) : documents items = items.map document := by
  induction items with
  | nil => rfl
  | cons item rest ih => rw [documents, ih, List.map_cons]

theorem documentFields_eq_map (fields : List (String × Json)) :
    documentFields fields = fields.map fun e => (some e.1, e.2.document) := by
  induction fields with
  | nil => rfl
  | cons e rest ih => rw [documentFields, ih, List.map_cons]

theorem orderedItems_eq_map (items : List Json) : orderedItems items = items.map ordered := by
  induction items with
  | nil => rfl
  | cons item rest ih => rw [orderedItems, ih, List.map_cons]

theorem orderedFields_eq_map (fields : List (String × Json)) :
    orderedFields fields = fields.map fun e => (e.1, e.2.ordered) := by
  induction fields with
  | nil => rfl
  | cons e rest ih => rw [orderedFields, ih, List.map_cons]

theorem itemsToJson?_map {room : Nat} {items : List Json}
    (h : ∀ item ∈ items, item.document.toJson? room = some item.ordered) :
    Document.itemsToJson? room (items.map document) = some (items.map ordered) := by
  induction items with
  | nil => rfl
  | cons item rest ih =>
    have hr := ih fun other hm => h other (List.mem_cons_of_mem _ hm)
    simp [Document.itemsToJson?, h item List.mem_cons_self, hr]

theorem fieldsToJson?_map {room : Nat} {fields : List (String × Json)}
    (h : ∀ e ∈ fields, e.2.document.toJson? room = some e.2.ordered) :
    Document.fieldsToJson? room (fields.map fun e => (some e.1, e.2.document)) =
      some (fields.map fun e => (e.1, e.2.ordered)) := by
  induction fields with
  | nil => rfl
  | cons e rest ih =>
    have hr := ih fun other hm => h other (List.mem_cons_of_mem _ hm)
    simp [Document.fieldsToJson?, h e List.mem_cons_self, hr]

theorem depth_le_depthItems {items : List Json} {item : Json} (h : item ∈ items) :
    item.depth ≤ depthItems items := by
  induction items with
  | nil => cases h
  | cons first rest ih =>
    rw [depthItems]
    rcases List.mem_cons.mp h with rfl | h
    · exact Nat.le_max_left _ _
    · exact Nat.le_trans (ih h) (Nat.le_max_right _ _)

theorem depth_le_depthFields {fields : List (String × Json)} {e : String × Json}
    (h : e ∈ fields) : e.2.depth ≤ depthFields fields := by
  induction fields with
  | nil => cases h
  | cons first rest ih =>
    rw [depthFields]
    rcases List.mem_cons.mp h with rfl | h
    · exact Nat.le_max_left _ _
    · exact Nat.le_trans (ih h) (Nat.le_max_right _ _)

/-- The document of a value denotes it, with fields in key order, where there is room for all of its
levels. -/
theorem toJson?_document (j : Json) {room : Nat} (hd : j.depth ≤ room) :
    j.document.toJson? room = some j.ordered := by
  induction j using parts_induction generalizing room with
  | null | bool | num | str => rfl
  | arr items ih =>
    obtain ⟨inner, rfl⟩ : ∃ inner, room = inner + 1 := ⟨room - 1, by rw [depth] at hd; omega⟩
    have hi : depthItems items ≤ inner := Nat.le_of_succ_le_succ hd
    have hm := itemsToJson?_map fun item hm =>
      ih item hm (Nat.le_trans (depth_le_depthItems hm) hi)
    rw [document, ordered, documents_eq_map, orderedItems_eq_map, Document.toJson?,
      if_neg (Nat.succ_ne_zero inner), Nat.add_sub_cancel, hm, Option.map_some]
  | obj fields ih =>
    obtain ⟨inner, rfl⟩ : ∃ inner, room = inner + 1 := ⟨room - 1, by rw [depth] at hd; omega⟩
    have hi : depthFields fields ≤ inner := Nat.le_of_succ_le_succ hd
    have hm := fieldsToJson?_map fun e hm =>
      ih e hm (Nat.le_trans (depth_le_depthFields hm) hi)
    rw [document, ordered, documentFields_eq_map, orderedFields_eq_map, Document.toJson?,
      if_neg (Nat.succ_ne_zero inner), Nat.add_sub_cancel, hm, Option.map_some]

end Json

namespace Document

mutual

/-- No object of the document has a key twice. -/
def Distinct : Document → Prop
  | .arr items => DistinctItems items
  | .obj fields => (fields.map (·.1)).Nodup ∧ DistinctFields fields
  | _ => True

def DistinctItems : List Document → Prop
  | [] => True
  | item :: rest => item.Distinct ∧ DistinctItems rest

def DistinctFields : List (Option String × Document) → Prop
  | [] => True
  | (_, item) :: rest => item.Distinct ∧ DistinctFields rest

end

theorem distinctItems_of_forall {items : List Document} (h : ∀ item ∈ items, item.Distinct) :
    DistinctItems items := by
  induction items with
  | nil => trivial
  | cons item rest ih =>
    exact ⟨h item List.mem_cons_self, ih fun other hm => h other (List.mem_cons_of_mem _ hm)⟩

theorem distinctFields_of_forall {fields : List (Option String × Document)}
    (h : ∀ e ∈ fields, e.2.Distinct) : DistinctFields fields := by
  induction fields with
  | nil => trivial
  | cons e rest ih =>
    exact ⟨h e List.mem_cons_self, ih fun other hm => h other (List.mem_cons_of_mem _ hm)⟩

end Document

namespace Number

/-- An integer of 64 bits, which is kept exactly when a document is read. -/
def Fits (n : Int) : Prop := -(Text.Numeral.signedBound : Int) ≤ n ∧ n < Text.Numeral.wordBound

instance (n : Int) : Decidable (Fits n) := inferInstanceAs (Decidable (_ ∧ _))

def InRange : Number → Prop
  | .int n => Fits n
  | .float _ => True

end Number

namespace Json

mutual

/-- What a text can hold: no object has a key twice, and integers have 64 bits. -/
def Legible : Json → Prop
  | .num n => n.InRange
  | .arr items => LegibleItems items
  | .obj fields => (Entries.keys fields).Nodup ∧ LegibleFields fields
  | _ => True

def LegibleItems : List Json → Prop
  | [] => True
  | item :: rest => item.Legible ∧ LegibleItems rest

def LegibleFields : List (String × Json) → Prop
  | [] => True
  | (_, value) :: rest => value.Legible ∧ LegibleFields rest

end

theorem legibleItems_iff {items : List Json} :
    LegibleItems items ↔ ∀ item ∈ items, item.Legible := by
  induction items with
  | nil => simp [LegibleItems]
  | cons item rest ih => simp [LegibleItems, ih]

theorem legibleFields_iff {fields : List (String × Json)} :
    LegibleFields fields ↔ ∀ e ∈ fields, e.2.Legible := by
  induction fields with
  | nil => simp [LegibleFields]
  | cons e rest ih => simp [LegibleFields, ih]

theorem legible_arr {items : List Json} :
    (arr items).Legible ↔ ∀ item ∈ items, item.Legible := legibleItems_iff

theorem legible_obj {fields : List (String × Json)} :
    (obj fields).Legible ↔ (Entries.keys fields).Nodup ∧ ∀ e ∈ fields, e.2.Legible :=
  and_congr_right fun _ => legibleFields_iff

theorem distinct_document {j : Json} (h : j.Legible) : j.document.Distinct := by
  induction j using parts_induction with
  | null | bool | num | str => trivial
  | arr items ih =>
    rw [document, documents_eq_map]
    refine Document.distinctItems_of_forall fun d hd => ?_
    obtain ⟨item, hm, rfl⟩ := List.mem_map.mp hd
    exact ih item hm (legible_arr.mp h item hm)
  | obj fields ih =>
    obtain ⟨hk, hv⟩ := legible_obj.mp h
    rw [document, documentFields_eq_map]
    constructor
    · rw [List.map_map]
      exact List.pairwise_map.mpr ((List.pairwise_map.mp hk).imp fun hne he =>
        hne (Option.some.inj he))
    · refine Document.distinctFields_of_forall fun d hd => ?_
      obtain ⟨e, hm, rfl⟩ := List.mem_map.mp hd
      exact ih e hm (hv e hm)

end Json

end Stepwise
