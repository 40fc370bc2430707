import Stepwise.Proofs.Json.Document
import Stepwise.Proofs.Reading

namespace Stepwise

variable {α β : Type}

namespace Json

variable {n : Nat}

theorem depthItems_le {items : List Json} (h : ∀ item ∈ items, item.depth ≤ n) :
    depthItems items ≤ n := by
  induction items with
  | nil => exact Nat.zero_le n
  | cons item rest ih =>
    obtain ⟨hd, hr⟩ := List.forall_mem_cons.mp h
    exact Nat.max_le.mpr ⟨hd, ih hr⟩

theorem depthFields_le {fields : List (String × Json)} (h : ∀ e ∈ fields, e.2.depth ≤ n) :
    depthFields fields ≤ n := by
  induction fields with
  | nil => exact Nat.zero_le n
  | cons e rest ih =>
    obtain ⟨hd, hr⟩ := List.forall_mem_cons.mp h
    exact Nat.max_le.mpr ⟨hd, ih hr⟩

theorem depthFields_append (front back : List (String × Json)) :
    depthFields (front ++ back) = max (depthFields front) (depthFields back) := by
  induction front with
  | nil => exact (Nat.zero_max _).symm
  | cons e rest ih => rw [List.cons_append, depthFields, depthFields, ih, Nat.max_assoc]

theorem depthFields_whenSet_le {name : String} {f : α → Json} {field : Option α} :
    depthFields (whenSet name f field) ≤ n ↔ ∀ x ∈ field, (f x).depth ≤ n := by
  cases field <;> simp [whenSet, depthFields]

theorem exists_of_itemsToJson? {room : Nat} {items : List Json} {values : List Json}
    (h : Document.itemsToJson? room (items.map document) = some values) :
    ∀ item ∈ items, ∃ value, item.document.toJson? room = some value := by
  induction items generalizing values with
  | nil => exact List.forall_mem_nil _
  | cons item rest ih =>
    simp only [List.map_cons, Document.itemsToJson?, Option.bind_eq_bind,
      Option.bind_eq_some_iff] at h
    obtain ⟨value, hv, others, ho, _⟩ := h
    exact List.forall_mem_cons.mpr ⟨⟨value, hv⟩, ih ho⟩

theorem exists_of_fieldsToJson? {room : Nat} {fields values : List (String × Json)}
    (h : Document.fieldsToJson? room (fields.map fun e => (some e.1, e.2.document)) =
      some values) : ∀ e ∈ fields, ∃ value, e.2.document.toJson? room = some value := by
  induction fields generalizing values with
  | nil => exact List.forall_mem_nil _
  | cons e rest ih =>
    simp only [List.map_cons, Document.fieldsToJson?, Option.bind_eq_bind,
      Option.bind_eq_some_iff] at h
    obtain ⟨_, _, value, hv, others, ho, _⟩ := h
    exact List.forall_mem_cons.mpr ⟨⟨value, hv⟩, ih ho⟩

/-- A document denotes nothing where its levels have no room. -/
theorem depth_le_of_toJson? (j : Json) {room : Nat} {value : Json}
    (h : j.document.toJson? room = some value) : j.depth ≤ room := by
  induction j using parts_induction generalizing room value with
  | null | bool | num | str => exact Nat.zero_le room
  | arr items ih =>
    rw [document, documents_eq_map, Document.toJson?] at h
    obtain ⟨hr, h⟩ := Option.ite_none_left_eq_some.mp h
    obtain ⟨values, hv, _⟩ := Option.map_eq_some_iff.mp h
    have hd : depthItems items ≤ room - 1 := depthItems_le fun item hm => by
      obtain ⟨value, hv⟩ := exists_of_itemsToJson? hv item hm
      exact ih item hm hv
    rw [depth]
    omega
  | obj fields ih =>
    rw [document, documentFields_eq_map, Document.toJson?] at h
    obtain ⟨hr, h⟩ := Option.ite_none_left_eq_some.mp h
    obtain ⟨values, hv, _⟩ := Option.map_eq_some_iff.mp h
    have hd : depthFields fields ≤ room - 1 := depthFields_le fun e hm => by
      obtain ⟨value, hv⟩ := exists_of_fieldsToJson? hv e hm
      exact ih e hm hv
    rw [depth]
    omega

end Json

namespace Source

variable {layout : List FieldName}

theorem exists_of_mapM {read : α → Option β} {nodes : List α} {values : List β}
    (h : nodes.mapM read = some values) {node : α} (hn : node ∈ nodes) :
    ∃ value, read node = some value := by
  induction nodes generalizing values with
  | nil => cases hn
  | cons first rest ih =>
    simp only [List.mapM_cons, Option.bind_eq_bind, Option.bind_eq_some_iff] at h
    obtain ⟨value, hf, others, ho, _⟩ := h
    rcases List.mem_cons.mp hn with rfl | hn
    · exact ⟨value, hf⟩
    · exact ih ho hn

variable {fields r : List (String × α)} {field : FieldName} {e : String × α}

theorem get?_of_fieldIn? (h : fieldIn? fields field = some r) (he : e ∈ fields)
    (hn : e.1 = field.name) : Entries.get? r e.1 = some e.2 := by
  have hm : e ∈ fields.filter fun e => field.isKey e.1 :=
    List.mem_filter.mpr ⟨he, by simp [FieldName.isKey, hn]⟩
  unfold fieldIn? at h
  split at h
  next hl =>
    rw [hl] at hm
    cases hm
  next key node hl =>
    cases h
    rw [hl] at hm
    obtain rfl := List.mem_singleton.mp hm
    rw [Entries.get?, if_pos hn.symm]
  next => cases h

theorem get?_fieldIn?_of_ne (h : fieldIn? fields field = some r) {name : String}
    (hn : name ≠ field.name) : Entries.get? r name = none := by
  unfold fieldIn? at h
  split at h
  next =>
    cases h
    rfl
  next =>
    cases h
    simp [Entries.get?, hn.symm]
  next => cases h

/-- A field under its own name is the one that is found, whatever else is there. -/
theorem get?_of_fieldsIn? (h : fieldsIn? fields layout = some r) (he : e ∈ fields)
    (hn : e.1 ∈ layout.map (·.name)) : Entries.get? r e.1 = some e.2 := by
  induction layout generalizing r with
  | nil => cases hn
  | cons field rest ih =>
    simp only [fieldsIn?, Option.bind_eq_bind, Option.bind_eq_some_iff] at h
    obtain ⟨found, hv, others, ho, h⟩ := h
    cases h
    rw [Entries.get?_append]
    by_cases hf : e.1 = field.name
    · rw [get?_of_fieldIn? hv he hf, Option.some_or]
    · rw [get?_fieldIn?_of_ne hv hf, Option.none_or]
      exact ih ho ((List.mem_cons.mp hn).resolve_left hf)

end Source

namespace Document.Node

open Source

variable {room inner : Nat} {text : Json} {texts : List (String × Json)} {r : Entries Node}
  {layout : List FieldName} {name : String} {read : Node → Option β}

/-- The reader takes a text only where there is room for all of its levels. -/
def Fathoms (read : Node → Option β) (text : Json) : Prop :=
  ∀ room value, read ⟨room, text.document⟩ = some value → text.depth ≤ room

theorem items?_document {items : List Json} {nodes : List Node}
    (h : items? ⟨room, (Json.arr items).document⟩ = some nodes) :
    ∃ inner, room = inner + 1 ∧ nodes = items.map fun item => ⟨inner, item.document⟩ := by
  rw [Json.document, Json.documents_eq_map] at h
  obtain ⟨hr, h⟩ := Option.ite_none_left_eq_some.mp h
  cases h
  exact ⟨room - 1, (Nat.succ_pred hr).symm, List.map_map⟩

theorem mapM_documentFields (texts : List (String × Json)) (inner : Nat) :
    ((texts.map fun e => (some e.1, e.2.document)).mapM fun e : Option String × Document =>
      e.1.map fun key => (key, Node.mk inner e.2)) =
        some (texts.map fun e => (e.1, ⟨inner, e.2.document⟩)) := by
  induction texts with
  | nil => rfl
  | cons e rest ih =>
    rw [List.map_cons, List.mapM_cons, ih]
    rfl

theorem fields?_document {nodes : List (String × Node)}
    (h : fields? ⟨room, (Json.obj texts).document⟩ = some nodes) :
    ∃ inner, room = inner + 1 ∧ nodes = texts.map fun e => (e.1, ⟨inner, e.2.document⟩) := by
  rw [Json.document, Json.documentFields_eq_map] at h
  obtain ⟨hr, h⟩ := Option.ite_none_left_eq_some.mp h
  refine ⟨room - 1, (Nat.succ_pred hr).symm, Option.some.inj (h.symm.trans ?_)⟩
  exact mapM_documentFields texts (room - 1)

theorem fathoms_value (text : Json) : Fathoms source.value? text :=
  fun _ _ h => Json.depth_le_of_toJson? text h

theorem fathoms_list {f : α → Json} {xs : List α} (h : ∀ x ∈ xs, Fathoms read (f x)) :
    Fathoms (source.list? read) (.arr (xs.map f)) := by
  intro room found hr
  obtain ⟨nodes, hn, hr⟩ := Option.bind_eq_some_iff.mp hr
  obtain ⟨inner, rfl, rfl⟩ := items?_document hn
  refine Nat.succ_le_succ (Json.depthItems_le fun item hm => ?_)
  obtain ⟨x, hx, rfl⟩ := List.mem_map.mp hm
  obtain ⟨value, hv⟩ := exists_of_mapM hr (List.mem_map.mpr ⟨f x, hm, rfl⟩)
  exact h x hx inner value hv

theorem fathoms_map {f : α → Json} {entries : Entries α}
    (h : ∀ e ∈ entries, Fathoms read (f e.2)) :
    Fathoms (source.map? read) (.obj (entries.mapValues f)) := by
  intro room found hr
  obtain ⟨nodes, hn, hr⟩ := Option.bind_eq_some_iff.mp hr
  obtain ⟨bindings, hb, _⟩ := Option.map_eq_some_iff.mp hr
  obtain ⟨inner, rfl, rfl⟩ := fields?_document hn
  refine Nat.succ_le_succ (Json.depthFields_le fun e hm => ?_)
  obtain ⟨x, hx, rfl⟩ := List.mem_map.mp hm
  obtain ⟨value, hv⟩ := exists_of_mapM hb (List.mem_map.mpr ⟨_, hm, rfl⟩)
  obtain ⟨value, hv, _⟩ := Option.map_eq_some_iff.mp hv
  exact h x hx inner value hv

theorem fathoms_object (fields : Entries Json) : Fathoms source.object? (.obj fields) := by
  have he : Entries.mapValues id fields = fields := List.map_id fields
  have h := fathoms_map (f := id) fun (e : String × Json) (_ : e ∈ fields) => fathoms_value e.2
  rwa [he] at h

/-- Each text is found under its name, and there is room for the levels in it. -/
def Holds (r : Entries Node) (inner : Nat) (layout : List FieldName)
    (texts : List (String × Json)) : Prop :=
  ∀ e ∈ texts, e.1 ∈ layout.map (·.name) → Entries.get? r e.1 = some ⟨inner, e.2.document⟩

theorem holds_of_fieldsIn? {nodes : List (String × Node)}
    (hn : nodes = texts.map fun e => (e.1, ⟨inner, e.2.document⟩))
    (h : fieldsIn? nodes layout = some r) : Holds r inner layout texts := by
  subst hn
  exact fun e he hn => get?_of_fieldsIn? h (List.mem_map.mpr ⟨e, he, rfl⟩) hn

theorem record?_document (h : source.record? layout ⟨room, (Json.obj texts).document⟩ = some r) :
    ∃ inner, room = inner + 1 ∧ Holds r inner layout texts := by
  unfold record? at h
  split at h
  next nodes hf =>
    obtain ⟨inner, rfl, hn⟩ := fields?_document hf
    exact ⟨inner, rfl, holds_of_fieldsIn? hn h⟩
  next =>
    obtain ⟨items, hi, _⟩ := Option.bind_eq_some_iff.mp h
    cases hi

theorem Holds.required {value : β} (h : Holds r inner layout texts) (hm : (name, text) ∈ texts)
    (hn : name ∈ layout.map (·.name)) (hf : Fathoms read text)
    (hr : required r name read = some value) : text.depth ≤ inner := by
  rw [Source.required, h (name, text) hm hn] at hr
  exact hf inner value hr

theorem Holds.defaulted {default value : β} (h : Holds r inner layout texts)
    (hm : (name, text) ∈ texts) (hn : name ∈ layout.map (·.name)) (hf : Fathoms read text)
    (hr : defaulted r name default read = some value) : text.depth ≤ inner := by
  rw [Source.defaulted, h (name, text) hm hn] at hr
  exact hf inner value hr

theorem Holds.optional {field : Option β} (h : Holds r inner layout texts)
    (hm : (name, text) ∈ texts) (hn : name ∈ layout.map (·.name)) (hf : Fathoms read text)
    (hr : source.optional r name read = some field) : text.depth ≤ inner := by
  simp only [Source.optional, h (name, text) hm hn] at hr
  split at hr
  next hz =>
    cases text with
    | null => exact Nat.zero_le inner
    | _ => cases hz
  next =>
    obtain ⟨value, hv, _⟩ := Option.map_eq_some_iff.mp hr
    exact hf inner value hv

theorem Holds.whenSet {f : α → Json} {set : Option α} {field : Option β}
    (h : Holds r inner layout texts) (hm : Json.whenSet name f set ⊆ texts)
    (hn : name ∈ layout.map (·.name)) (hf : ∀ x ∈ set, Fathoms read (f x))
    (hr : source.optional r name read = some field) :
    Json.depthFields (Json.whenSet name f set) ≤ inner := by
  refine Json.depthFields_whenSet_le.mpr fun x hx => h.optional (hm ?_) hn (hf x hx) hr
  obtain rfl := Option.mem_def.mp hx
  exact List.mem_singleton_self _

end Document.Node

end Stepwise
