import Stepwise.Proofs.Entries
import Stepwise.Reading.Json
import Stepwise.Reading.Options

namespace Stepwise

variable {α β : Type}

namespace Entries

theorem get?_append (front back : Entries α) (key : String) :
    get? (front ++ back) key = (front.get? key).or (back.get? key) := by
  induction front with
  | nil => simp
  | cons e rest ih =>
    simp only [List.cons_append, get?]
    split
    next => simp
    next => exact ih

/-- The key of a sorted list stands in it at most once. -/
theorem filter_key {entries : Entries α} (hs : entries.Sorted) (key : String) :
    entries.filter (fun e => decide (e.1 = key)) =
      (entries.get? key).toList.map fun value => (key, value) := by
  induction entries with
  | nil => rfl
  | cons e rest ih =>
    obtain ⟨hx, hr⟩ := List.pairwise_cons.mp hs
    rw [List.filter_cons, get?]
    split
    next he =>
      have hk : e.1 = key := of_decide_eq_true he
      have hn : rest.filter (fun e => decide (e.1 = key)) = [] := by
        refine List.filter_eq_nil_iff.mpr fun x hm => ?_
        have hlt := hx x hm
        simpa [← hk] using (Std.ne_of_lt hlt).symm
      rw [hn, if_pos hk, ← hk]
      rfl
    next he =>
      have hk : e.1 ≠ key := by simpa using he
      rw [if_neg hk, ih hr]

end Entries

namespace Source

variable {S : Source α} {entries r : Entries α} {layout : List FieldName} {name : String}
  {read : α → Option β} {node : α} {value : β}

/-- Among the keys no field of the layout stands under another spelling than its own. -/
def Plain (layout : List FieldName) (keys : List String) : Prop :=
  ∀ field ∈ layout, ∀ key ∈ keys, field.isKey key = true → key = field.name

instance (layout : List FieldName) (keys : List String) : Decidable (Plain layout keys) :=
  inferInstanceAs (Decidable (∀ field ∈ layout, ∀ key ∈ keys,
    field.isKey key = true → key = field.name))

theorem plain_of_no_aliases (h : ∀ field ∈ layout, field.aliases = []) (keys : List String) :
    Plain layout keys := by
  intro field hf key _ hk
  simpa [FieldName.isKey, h field hf] using hk

/-- The names of the fields are plain when none is another spelling of a different field. -/
theorem plain_of_names {keys : List String} (hk : ∀ key ∈ keys, key ∈ layout.map (·.name))
    (hl : Plain layout (layout.map (·.name))) : Plain layout keys :=
  fun field hf key hm => hl field hf key (hk key hm)

theorem fieldIn?_of_sorted (hs : entries.Sorted) {field : FieldName}
    (hp : ∀ key ∈ entries.keys, field.isKey key = true → key = field.name) :
    fieldIn? entries field =
      some ((entries.get? field.name).toList.map fun node => (field.name, node)) := by
  have hf : entries.filter (fun e => field.isKey e.1) =
      entries.filter fun e => decide (e.1 = field.name) := by
    refine List.filter_congr fun e he => ?_
    have hk := hp e.1 (List.mem_map.mpr ⟨e, he, rfl⟩)
    cases hi : field.isKey e.1 with
    | true => simp [hk hi]
    | false =>
      have hn : e.1 ≠ field.name := by
        intro hn
        simp [FieldName.isKey, hn] at hi
      simp [hn]
  rw [fieldIn?, hf, Entries.filter_key hs]
  cases entries.get? field.name <;> rfl

/-- The fields of a record are found under their names, and nothing else is. -/
theorem fieldsIn?_of_sorted (hs : entries.Sorted) (hp : Plain layout entries.keys) :
    ∃ r, fieldsIn? entries layout = some r ∧ ∀ name : String,
      Entries.get? r name = if name ∈ layout.map (·.name) then entries.get? name else none := by
  induction layout with
  | nil => exact ⟨[], rfl, fun name => by simp⟩
  | cons field rest ih =>
    obtain ⟨others, ho, hg⟩ := ih fun other hm => hp other (List.mem_cons_of_mem _ hm)
    have hf := fieldIn?_of_sorted hs (hp field List.mem_cons_self)
    refine ⟨_, by rw [fieldsIn?, hf, ho]; rfl, fun name => ?_⟩
    rw [Entries.get?_append, hg]
    by_cases hn : name = field.name
    · subst hn
      cases hv : entries.get? field.name <;> simp [Entries.get?]
    · cases entries.get? field.name <;> simp [Entries.get?, hn, Ne.symm hn]

theorem required_eq (hg : r.get? name = some node) (hr : read node = some value) :
    required r name read = some value := by
  rw [required, hg]
  exact hr

theorem optional_eq {field : Option β} (write : β → α) (hg : r.get? name = field.map write)
    (hw : ∀ value ∈ field, S.isNull (write value) = false ∧ read (write value) = some value) :
    S.optional r name read = some field := by
  cases field with
  | none => simp [optional, hg]
  | some value =>
    obtain ⟨hn, hr⟩ := hw value rfl
    simp [optional, hg, hn, hr]

theorem defaulted_eq {default : β} (hg : r.get? name = some node) (hr : read node = some value) :
    defaulted r name default read = some value := by
  rw [defaulted, hg]
  exact hr

theorem defaulted_absent {default : β} (hg : r.get? name = none) :
    defaulted r name default read = some default := by
  rw [defaulted, hg]

theorem mapM_map {write : β → α} {values : List β}
    (h : ∀ value ∈ values, read (write value) = some value) :
    (values.map write).mapM read = some values := by
  induction values with
  | nil => rfl
  | cons value rest ih =>
    rw [List.map_cons, List.mapM_cons, h value List.mem_cons_self,
      ih fun other hm => h other (List.mem_cons_of_mem _ hm)]
    rfl

/-- A property of the fields of a record holds of what was read from them. -/
theorem exists_of_required {P : α → Prop} (hP : ∀ e ∈ r, P e.2)
    (h : required r name read = some value) : ∃ node, P node ∧ read node = some value := by
  obtain ⟨node, hg, hr⟩ := Option.bind_eq_some_iff.mp h
  exact ⟨node, hP _ (Entries.mem_of_get? hg), hr⟩

theorem exists_of_optional {P : α → Prop} (hP : ∀ e ∈ r, P e.2) {field : Option β}
    (h : S.optional r name read = some field) (hv : value ∈ field) :
    ∃ node, P node ∧ S.isNull node = false ∧ read node = some value := by
  unfold optional at h
  split at h
  next =>
    cases h
    cases hv
  next node hg =>
    split at h
    next =>
      cases h
      cases hv
    next hn =>
      obtain ⟨found, hr, rfl⟩ := Option.map_eq_some_iff.mp h
      cases hv
      exact ⟨node, hP _ (Entries.mem_of_get? hg), by simpa using hn, hr⟩

theorem exists_of_defaulted {P : α → Prop} (hP : ∀ e ∈ r, P e.2) {default : β}
    (h : defaulted r name default read = some value) :
    value = default ∨ ∃ node, P node ∧ read node = some value := by
  unfold defaulted at h
  split at h
  next => exact .inl (Option.some.inj h).symm
  next node hg => exact .inr ⟨node, hP _ (Entries.mem_of_get? hg), h⟩

theorem of_required (h : required r name read = some value) :
    ∃ node, read node = some value := by
  obtain ⟨node, _, hr⟩ := exists_of_required (P := fun _ => True) (fun _ _ => trivial) h
  exact ⟨node, hr⟩

theorem of_optional {field : Option β} (h : S.optional r name read = some field) {value : β}
    (hv : value ∈ field) : ∃ node, S.isNull node = false ∧ read node = some value := by
  obtain ⟨node, _, hr⟩ := exists_of_optional (P := fun _ => True) (fun _ _ => trivial) h hv
  exact ⟨node, hr⟩

theorem of_defaulted {default : β} (h : defaulted r name default read = some value) :
    value = default ∨ ∃ node, read node = some value := by
  rcases exists_of_defaulted (P := fun _ => True) (fun _ _ => trivial) h with hd | ⟨node, _, hr⟩
  · exact .inl hd
  · exact .inr ⟨node, hr⟩

theorem of_mem_mapM {nodes : List α} {values : List β} (h : nodes.mapM read = some values)
    (hv : value ∈ values) : ∃ node ∈ nodes, read node = some value := by
  induction nodes generalizing values with
  | nil =>
    cases h
    cases hv
  | cons node rest ih =>
    simp only [List.mapM_cons, Option.bind_eq_bind, Option.bind_eq_some_iff] at h
    obtain ⟨first, hf, others, ho, h⟩ := h
    cases h
    rcases List.mem_cons.mp hv with rfl | hv
    · exact ⟨node, List.mem_cons_self, hf⟩
    · obtain ⟨found, hm, hr⟩ := ih ho hv
      exact ⟨found, List.mem_cons_of_mem _ hm, hr⟩

theorem exists_of_mem_list? {values : List β} (h : S.list? read node = some values)
    (hv : value ∈ values) :
    ∃ items, S.items? node = some items ∧ ∃ item ∈ items, read item = some value := by
  obtain ⟨items, hi, h⟩ := Option.bind_eq_some_iff.mp h
  exact ⟨items, hi, of_mem_mapM h hv⟩

theorem of_mem_list? {values : List β} (h : S.list? read node = some values)
    (hv : value ∈ values) : ∃ node, read node = some value := by
  obtain ⟨items, _, item, _, hr⟩ := exists_of_mem_list? h hv
  exact ⟨item, hr⟩

theorem sorted_of_map? {map : Entries β} (h : S.map? read node = some map) : map.Sorted := by
  obtain ⟨fields, _, h⟩ := Option.bind_eq_some_iff.mp h
  obtain ⟨bindings, _, rfl⟩ := Option.map_eq_some_iff.mp h
  exact Entries.sorted_ofList bindings

theorem exists_of_mem_map? {map : Entries β} (h : S.map? read node = some map) {e : String × β}
    (he : e ∈ map) :
    ∃ fields, S.fields? node = some fields ∧ ∃ field ∈ fields, read field.2 = some e.2 := by
  obtain ⟨fields, hf, h⟩ := Option.bind_eq_some_iff.mp h
  obtain ⟨bindings, hb, rfl⟩ := Option.map_eq_some_iff.mp h
  obtain ⟨field, hm, hv⟩ := of_mem_mapM hb (Entries.mem_of_mem_ofList he)
  obtain ⟨value, hr, rfl⟩ := Option.map_eq_some_iff.mp hv
  exact ⟨fields, hf, field, hm, hr⟩

theorem of_mem_map? {map : Entries β} (h : S.map? read node = some map) {e : String × β}
    (he : e ∈ map) : ∃ node, read node = some e.2 := by
  obtain ⟨fields, _, field, _, hr⟩ := exists_of_mem_map? h he
  exact ⟨field.2, hr⟩

/-- A property of nodes that their items and fields have with them. -/
structure Inherited (S : Source α) (P : α → Prop) : Prop where
  items {node : α} {items : List α} : P node → S.items? node = some items → ∀ item ∈ items, P item
  fields {node : α} {fields : List (String × α)} :
    P node → S.fields? node = some fields → ∀ e ∈ fields, P e.2

theorem forall_of_fieldIn? {P : α → Prop} {fields : List (String × α)} {field : FieldName}
    (hf : ∀ e ∈ fields, P e.2) (h : fieldIn? fields field = some r) : ∀ e ∈ r, P e.2 := by
  unfold fieldIn? at h
  split at h
  next =>
    cases h
    exact List.forall_mem_nil _
  next key node he =>
    cases h
    have hm : (key, node) ∈ fields.filter fun e => field.isKey e.1 := by simp [he]
    exact List.forall_mem_singleton.mpr (hf (key, node) (List.mem_filter.mp hm).1)
  next => cases h

theorem forall_of_fieldsIn? {P : α → Prop} {fields : List (String × α)}
    (hf : ∀ e ∈ fields, P e.2) (h : fieldsIn? fields layout = some r) : ∀ e ∈ r, P e.2 := by
  induction layout generalizing r with
  | nil =>
    cases h
    exact List.forall_mem_nil _
  | cons field rest ih =>
    simp only [fieldsIn?, Option.bind_eq_bind, Option.bind_eq_some_iff] at h
    obtain ⟨found, hv, others, ho, h⟩ := h
    cases h
    exact List.forall_mem_append.mpr ⟨forall_of_fieldIn? hf hv, ih ho⟩

theorem Inherited.record {P : α → Prop} (hi : S.Inherited P) (hn : P node)
    (h : S.record? layout node = some r) : ∀ e ∈ r, P e.2 := by
  unfold record? at h
  split at h
  next fields hf => exact forall_of_fieldsIn? (hi.fields hn hf) h
  next =>
    simp only [Option.bind_eq_bind, Option.bind_eq_some_iff] at h
    obtain ⟨items, hm, h⟩ := h
    obtain ⟨_, h⟩ := Option.ite_none_left_eq_some.mp h
    cases h
    exact fun e he => hi.items hn hm e.2 (List.of_mem_zip he).2

/-- The numbers that a source answers with stay within their bounds, they are finite, and only a
null is a null as a value. -/
structure Lawful (S : Source α) : Prop where
  count_lt {node : α} {n : Nat} : S.count? node = some n → n < Text.Numeral.wordBound
  attempts_lt {node : α} {n : Nat} : S.attempts? node = some n → n < Text.Numeral.halfWordBound
  milliseconds_lt {node : α} {n : Nat} : S.milliseconds? node = some n → n < Text.Numeral.wordBound
  finite {node : α} {x : Floating} : S.floating? node = some x → ∃ d, x = .finite d
  value_ne_null {node : α} {value : Json} :
    S.isNull node = false → S.value? node = some value → value ≠ .null

end Source

theorem Number.lt_of_below? {bound n : Nat} {number : Option Number}
    (h : number.bind (·.below? bound) = some n) : n < bound := by
  obtain ⟨found, _, h⟩ := Option.bind_eq_some_iff.mp h
  unfold below? at h
  split at h
  next =>
    split at h
    next hl =>
      cases h
      exact hl
    next => simp at h
  next => simp at h

theorem Number.finite_of_toDouble {x : Floating} {number : Option Number}
    (h : number.map (fun n => .finite n.toDouble) = some x) : ∃ d, x = .finite d := by
  obtain ⟨found, _, rfl⟩ := Option.map_eq_some_iff.mp h
  exact ⟨_, rfl⟩

namespace Json

open Source

variable {layout : List FieldName} {read : Json → Option β} {write : β → Json} {n : Nat}

theorem source_lawful : source.Lawful where
  count_lt := Number.lt_of_below?
  attempts_lt := Number.lt_of_below?
  milliseconds_lt := Number.lt_of_below?
  finite := Number.finite_of_toDouble
  value_ne_null hn h := by
    cases h
    rintro rfl
    cases hn

@[simp] theorem get?_whenSet (name other : String) (write : β → Json) (field : Option β) :
    (Entries.ofList (whenSet name write field)).get? other =
      if name = other then field.map write else none := by
  cases field with
  | none => simp [whenSet, Entries.ofList, Entries.overlay]
  | some value => rfl

theorem isNull_of_ne {value : Json} (h : value ≠ .null) : value.isNull = false := by
  cases value <;> simp_all [isNull]

theorem mem_keys_whenSet {name key : String} {field : Option β}
    (h : key ∈ Entries.keys (whenSet name write field)) : key = name := by
  cases field with
  | none => cases h
  | some value => simpa [whenSet] using h

/-- Every field that was written is found again. -/
theorem fieldsIn?_ofList {fields : List (String × Json)} (hp : Plain layout (Entries.keys fields)) :
    ∃ r, fieldsIn? (Entries.ofList fields) layout = some r ∧
      ∀ name ∈ layout.map (·.name), Entries.get? r name = (Entries.ofList fields).get? name := by
  obtain ⟨r, hr, hg⟩ := fieldsIn?_of_sorted (Entries.sorted_ofList fields)
    fun field hf key hk => hp field hf key (Entries.mem_keys_ofList.mp hk)
  exact ⟨r, hr, fun name hn => by rw [hg, if_pos hn]⟩

theorem record?_record {fields : List (String × Json)} (hp : Plain layout (Entries.keys fields)) :
    ∃ r, source.record? layout (record fields) = some r ∧
      ∀ name ∈ layout.map (·.name), Entries.get? r name = (Entries.ofList fields).get? name :=
  fieldsIn?_ofList hp

theorem required_text {r : Entries Json} {name text : String}
    (hg : r.get? name = some (.str text)) : required r name source.text? = some text :=
  required_eq hg rfl

theorem optional_text {r : Entries Json} {name : String} {field : Option String}
    (hg : r.get? name = field.map .str) : source.optional r name source.text? = some field :=
  optional_eq .str hg fun _ _ => ⟨rfl, rfl⟩

/-- A value that is no null is told apart from the null that is written in its absence. -/
theorem optional_value {r : Entries Json} {name : String} {field : Option Json}
    (hg : r.get? name = some (field.getD .null)) (hn : field ≠ some .null) :
    source.optional r name source.value? = some field := by
  rw [Source.optional, hg]
  cases field with
  | none => rfl
  | some value =>
    have hv : source.isNull value = false := isNull_of_ne fun he => hn (congrArg some he)
    change (if source.isNull value then some none else _) = _
    rw [hv]
    rfl

theorem list?_arr {values : List β} (h : ∀ value ∈ values, read (write value) = some value) :
    source.list? read (.arr (values.map write)) = some values :=
  mapM_map h

theorem map?_obj {entries : Entries β} (hs : entries.Sorted)
    (h : ∀ e ∈ entries, read (write e.2) = some e.2) :
    source.map? read (.obj (entries.mapValues write)) = some entries := by
  have hm : (entries.map fun e => (e.1, write e.2)).mapM
      (fun e => (read e.2).map fun value => (e.1, value)) = some entries := by
    refine mapM_map fun e he => ?_
    simp only [h e he, Option.map_some]
  have ho : (some entries).map Entries.ofList = some entries := by
    rw [Option.map_some, Entries.ofList_of_sorted hs]
  exact (congrArg (Option.map Entries.ofList) hm).trans ho

theorem object?_obj {entries : Entries Json} (hs : entries.Sorted) :
    source.object? (.obj entries) = some entries := by
  have hm : source.map? some (.obj (entries.mapValues id)) = some entries :=
    map?_obj hs fun _ _ => rfl
  have he : entries.mapValues id = entries := List.map_id entries
  rwa [he] at hm

theorem count?_ofNat (h : n < Text.Numeral.wordBound) : source.count? (ofNat n) = some n :=
  if_pos h

theorem attempts?_ofNat (h : n < Text.Numeral.halfWordBound) :
    source.attempts? (ofNat n) = some n :=
  if_pos h

end Json

theorem Document.Node.source_lawful : source.Lawful where
  count_lt := Number.lt_of_below?
  attempts_lt := Number.lt_of_below?
  milliseconds_lt := Number.lt_of_below?
  finite := Number.finite_of_toDouble
  value_ne_null {node _} hn h := by
    rintro rfl
    obtain ⟨room, document⟩ := node
    cases document with
    | null => cases hn
    | bool => cases h
    | num => simp [source, toJson?] at h
    | str => simp [source, toJson?] at h
    | arr => simp [source, toJson?] at h
    | obj => simp [source, toJson?, Json.record] at h

end Stepwise
