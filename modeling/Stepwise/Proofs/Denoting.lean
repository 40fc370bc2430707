import Mathlib.Data.List.Forall2
import Stepwise.Proofs.Json.Document
import Stepwise.Proofs.Reading

namespace Stepwise

namespace Document

/-- The forms of a document that denotes a value. -/
inductive Denoted (room : Nat) : Document → Json → Prop
  | null : Denoted room .null .null
  | bool (value : Bool) : Denoted room (.bool value) (.bool value)
  | num (value : Number) : Denoted room (.num (some value)) (.num value)
  | str (value : String) : Denoted room (.str (some value)) (.str value)
  | arr {items : List Document} {values : List Json} (hr : room ≠ 0)
      (hi : itemsToJson? (room - 1) items = some values) :
      Denoted room (.arr items) (.arr values)
  | obj {fields : List (Option String × Document)} {values : List (String × Json)} (hr : room ≠ 0)
      (hf : fieldsToJson? (room - 1) fields = some values) :
      Denoted room (.obj fields) (.obj (Entries.ofList values))

theorem denoted_of_toJson? {d : Document} {room : Nat} {j : Json} (h : d.toJson? room = some j) :
    Denoted room d j := by
  cases d with
  | null =>
    cases h
    exact .null
  | bool value =>
    cases h
    exact .bool value
  | num value =>
    obtain ⟨n, rfl, rfl⟩ := Option.map_eq_some_iff.mp h
    exact .num n
  | str value =>
    obtain ⟨s, rfl, rfl⟩ := Option.map_eq_some_iff.mp h
    exact .str s
  | arr items =>
    rw [toJson?] at h
    split at h
    next => cases h
    next hr =>
      obtain ⟨values, hi, rfl⟩ := Option.map_eq_some_iff.mp h
      exact .arr hr hi
  | obj fields =>
    rw [toJson?] at h
    split at h
    next => cases h
    next hr =>
      obtain ⟨values, hf, rfl⟩ := Option.map_eq_some_iff.mp h
      exact .obj hr hf

namespace Node

/-- A node without repeated keys that denotes a value. -/
def Denotes (n : Node) (j : Json) : Prop :=
  n.document.Distinct ∧ n.document.toJson? n.room = some j

/-- Two lists of fields with the same keys in the same order, the nodes of one denoting the values
of the other. -/
def DenoteFields : List (String × Node) → List (String × Json) → Prop :=
  List.Forall₂ fun n v => n.1 = v.1 ∧ n.2.Denotes v.2

variable {n : Node} {j : Json} {room : Nat}

theorem denoteItems_of_itemsToJson? {items : List Document} {values : List Json}
    (hd : DistinctItems items) (h : itemsToJson? room items = some values) :
    List.Forall₂ Denotes (items.map (Node.mk room)) values := by
  induction items generalizing values with
  | nil =>
    cases h
    exact .nil
  | cons item rest ih =>
    simp only [itemsToJson?, Option.bind_eq_bind, Option.bind_eq_some_iff] at h
    obtain ⟨value, hv, others, ho, h⟩ := h
    cases h
    exact .cons ⟨hd.1, hv⟩ (ih hd.2 ho)

theorem denoteFields_of_fieldsToJson? {fields : List (Option String × Document)}
    {values : List (String × Json)} (hd : DistinctFields fields)
    (h : fieldsToJson? room fields = some values) :
    ∃ nodes, fields.mapM (fun e => e.1.map fun key => (key, Node.mk room e.2)) = some nodes ∧
      DenoteFields nodes values ∧ fields.map (·.1) = values.map fun e => some e.1 := by
  induction fields generalizing values with
  | nil =>
    cases h
    exact ⟨[], rfl, .nil, rfl⟩
  | cons e rest ih =>
    obtain ⟨key?, item⟩ := e
    simp only [fieldsToJson?, Option.bind_eq_bind, Option.bind_eq_some_iff] at h
    obtain ⟨key, rfl, value, hv, others, ho, h⟩ := h
    cases h
    obtain ⟨nodes, hn, hf, hk⟩ := ih hd.2 ho
    refine ⟨(key, ⟨room, item⟩) :: nodes, ?_, .cons ⟨rfl, hd.1, hv⟩ hf, ?_⟩
    · simp [List.mapM_cons, hn]
    · simp [hk]

theorem Denotes.isNull (h : n.Denotes j) : n.isNull = j.isNull := by
  obtain ⟨room, document⟩ := n
  cases denoted_of_toJson? h.2 <;> rfl

theorem Denotes.flag? (h : n.Denotes j) : n.flag? = j.flag? := by
  obtain ⟨room, document⟩ := n
  cases denoted_of_toJson? h.2 <;> rfl

theorem Denotes.text? (h : n.Denotes j) : n.text? = j.text? := by
  obtain ⟨room, document⟩ := n
  cases denoted_of_toJson? h.2 <;> rfl

theorem Denotes.number? (h : n.Denotes j) : n.number? = j.number? := by
  obtain ⟨room, document⟩ := n
  cases denoted_of_toJson? h.2 <;> rfl

/-- A node has items just when its value has, and they denote the items of the value. -/
theorem Denotes.items? (h : n.Denotes j) :
    (n.items? = none ∧ j.items? = none) ∨
      ∃ nodes values, n.items? = some nodes ∧ j.items? = some values ∧
        List.Forall₂ Denotes nodes values := by
  obtain ⟨room, document⟩ := n
  obtain ⟨hd, h⟩ := h
  cases denoted_of_toJson? h with
  | arr hr hi => exact .inr ⟨_, _, if_neg hr, rfl, denoteItems_of_itemsToJson? hd hi⟩
  | _ => exact .inl ⟨rfl, rfl⟩

/-- A node has fields just when its value has; the value has them in key order. -/
theorem Denotes.fields? (h : n.Denotes j) :
    (n.fields? = none ∧ j.fields? = none) ∨
      ∃ nodes values, n.fields? = some nodes ∧ j.fields? = some (Entries.ofList values) ∧
        DenoteFields nodes values ∧ (Entries.keys values).Nodup := by
  obtain ⟨room, document⟩ := n
  obtain ⟨hd, h⟩ := h
  cases denoted_of_toJson? h with
  | @obj fields values hr hf =>
    obtain ⟨nodes, hn, hv, hk⟩ := denoteFields_of_fieldsToJson? hd.2 hf
    refine .inr ⟨nodes, values, (if_neg hr).trans hn, rfl, hv, ?_⟩
    have hs : (values.map fun e => some e.1).Nodup := hk ▸ hd.1
    exact List.pairwise_map.mpr ((List.pairwise_map.mp hs).imp fun hne he => hne (congrArg some he))
  | _ => exact .inl ⟨rfl, rfl⟩

open Source

variable {nodes r : List (String × Node)} {values r' : List (String × Json)}
  {layout : List FieldName} {field : FieldName} {name : String}

theorem DenoteFields.filter (h : DenoteFields nodes values) (p : String → Bool) :
    DenoteFields (nodes.filter fun e => p e.1) (values.filter fun e => p e.1) := by
  induction h with
  | nil => exact .nil
  | @cons n v nodes values hnv _ ih =>
    obtain ⟨hk, hv⟩ := hnv
    rw [List.filter_cons, List.filter_cons, hk]
    split
    next => exact .cons ⟨hk, hv⟩ ih
    next => exact ih

/-- A field that is found in a value is found in a text, wherever it stands there. -/
theorem DenoteFields.fieldIn? (h : DenoteFields nodes values) (hn : (Entries.keys values).Nodup)
    (hf : Source.fieldIn? (Entries.ofList values) field = some r') :
    ∃ r, Source.fieldIn? nodes field = some r ∧ DenoteFields r r' := by
  have hv := h.filter field.isKey
  have hp := (Entries.perm_ofList hn).filter fun e => field.isKey e.1
  unfold Source.fieldIn? at hf ⊢
  split at hf
  next he =>
    cases hf
    rw [he] at hp
    rw [hp.symm.eq_nil] at hv
    rw [List.forall₂_nil_right_iff.mp hv]
    exact ⟨[], rfl, .nil⟩
  next key value he =>
    cases hf
    rw [he] at hp
    rw [← List.singleton_perm.mp hp] at hv
    obtain ⟨⟨found, node⟩, rest, ⟨_, hd⟩, hr, hl⟩ := List.forall₂_cons_right_iff.mp hv
    rw [List.forall₂_nil_right_iff.mp hr] at hl
    rw [hl]
    exact ⟨[(field.name, node)], rfl, .cons ⟨rfl, hd⟩ .nil⟩
  next => cases hf

theorem DenoteFields.fieldsIn? (h : DenoteFields nodes values)
    (hn : (Entries.keys values).Nodup)
    (hf : Source.fieldsIn? (Entries.ofList values) layout = some r') :
    ∃ r, Source.fieldsIn? nodes layout = some r ∧ DenoteFields r r' := by
  induction layout generalizing r' with
  | nil =>
    cases hf
    exact ⟨[], rfl, .nil⟩
  | cons field rest ih =>
    simp only [Source.fieldsIn?, Option.bind_eq_bind, Option.bind_eq_some_iff] at hf
    obtain ⟨found, hv, others, ho, hf⟩ := hf
    cases hf
    obtain ⟨first, hr, hd⟩ := h.fieldIn? hn hv
    obtain ⟨more, hm, hds⟩ := ih ho
    refine ⟨first ++ more, ?_, List.rel_append hd hds⟩
    simp only [Source.fieldsIn?, hr, hm, Option.bind_eq_bind, Option.bind_some]
    rfl

theorem denoteFields_zip {items : List Node} {values : List Json}
    (h : List.Forall₂ Denotes items values) (names : List String) :
    DenoteFields (names.zip items) (names.zip values) := by
  induction h generalizing names with
  | nil => simp [DenoteFields]
  | cons hd _ ih =>
    cases names with
    | nil => exact .nil
    | cons name names => exact .cons ⟨rfl, hd⟩ (ih names)

/-- The record that a value is taken for is found in a text that denotes it. -/
theorem Denotes.record? (h : n.Denotes j) (hr : Json.source.record? layout j = some r') :
    ∃ r, source.record? layout n = some r ∧ DenoteFields r r' := by
  unfold Source.record? at hr ⊢
  rcases h.fields? with ⟨hn, hj⟩ | ⟨nodes, values, hn, hj, hd, hk⟩
  · simp only [Json.source, hj] at hr
    simp only [source, hn]
    rcases h.items? with ⟨hi, hv⟩ | ⟨items, values, hi, hv, hd⟩
    · simp [hv] at hr
    · simp only [hv, Option.bind_eq_bind, Option.bind_some] at hr
      simp only [hi, Option.bind_eq_bind, Option.bind_some, hd.length_eq]
      obtain ⟨hl, hr⟩ := Option.ite_none_left_eq_some.mp hr
      cases hr
      rw [if_neg hl]
      exact ⟨_, rfl, denoteFields_zip hd _⟩
  · simp only [Json.source, hj] at hr
    simp only [source, hn]
    exact hd.fieldsIn? hk hr

theorem DenoteFields.get? (h : DenoteFields r r') (name : String) :
    (Entries.get? r name = none ∧ Entries.get? r' name = none) ∨
      ∃ n j, Entries.get? r name = some n ∧ Entries.get? r' name = some j ∧ n.Denotes j := by
  induction h with
  | nil => exact .inl ⟨rfl, rfl⟩
  | @cons n v nodes values hnv _ ih =>
    obtain ⟨hk, hv⟩ := hnv
    rw [Entries.get?, Entries.get?, hk]
    split
    next => exact .inr ⟨_, _, rfl, rfl, hv⟩
    next => exact ih

variable {β : Type} {read : Node → Option β} {read' : Json → Option β} {value default : β}

/-- A reader of texts takes whatever the same reader of values takes. -/
def Follows (read : Node → Option β) (read' : Json → Option β) : Prop :=
  ∀ n j value, n.Denotes j → read' j = some value → read n = some value

theorem DenoteFields.required (h : DenoteFields r r') (hf : Follows read read')
    (hr : required r' name read' = some value) : required r name read = some value := by
  rcases h.get? name with ⟨_, hn⟩ | ⟨n, j, hn, hj, hd⟩
  · simp [Source.required, hn] at hr
  · simp only [Source.required, hj, Option.bind_some] at hr
    simp only [Source.required, hn, Option.bind_some]
    exact hf n j value hd hr

theorem DenoteFields.optional {found : Option β} (h : DenoteFields r r') (hf : Follows read read')
    (hr : Json.source.optional r' name read' = some found) :
    source.optional r name read = some found := by
  unfold Source.optional at hr ⊢
  rcases h.get? name with ⟨hn, hj⟩ | ⟨n, j, hn, hj, hd⟩
  · simp only [hj] at hr
    simp only [hn]
    exact hr
  · simp only [hj] at hr
    simp only [hn]
    have he : source.isNull n = Json.source.isNull j := hd.isNull
    rw [he]
    split
    next hz =>
      rw [if_pos hz] at hr
      exact hr
    next hz =>
      rw [if_neg hz] at hr
      obtain ⟨value, hv, rfl⟩ := Option.map_eq_some_iff.mp hr
      rw [hf n j value hd hv, Option.map_some]

theorem DenoteFields.defaulted (h : DenoteFields r r') (hf : Follows read read')
    (hr : defaulted r' name default read' = some value) :
    defaulted r name default read = some value := by
  unfold Source.defaulted at hr ⊢
  rcases h.get? name with ⟨hn, hj⟩ | ⟨n, j, hn, hj, hd⟩
  · simp only [hj] at hr
    simp only [hn]
    exact hr
  · simp only [hj] at hr
    simp only [hn]
    exact hf n j value hd hr

theorem follows_text : Follows source.text? Json.source.text? :=
  fun _ _ _ hd hr => hd.text?.trans hr

theorem follows_literal : Follows source.literal? Json.source.literal? := follows_text

theorem follows_flag : Follows source.flag? Json.source.flag? :=
  fun _ _ _ hd hr => hd.flag?.trans hr

theorem follows_number (f : Number → Option β) :
    Follows (fun n => n.number?.bind f) (fun j => j.number?.bind f) := by
  intro n j value hd hr
  simp only [hd.number?]
  exact hr

theorem follows_count : Follows source.count? Json.source.count? := follows_number _

theorem follows_attempts : Follows source.attempts? Json.source.attempts? := follows_number _

theorem follows_milliseconds : Follows source.milliseconds? Json.source.milliseconds? :=
  follows_number _

theorem follows_floating : Follows source.floating? Json.source.floating? := by
  intro n j value hd hr
  simp only [source, hd.number?]
  exact hr

theorem follows_value : Follows source.value? Json.source.value? := by
  intro n j value hd hr
  cases hr
  exact hd.2

theorem mapM_of_forall₂ {α γ : Type} {R : α → γ → Prop} {f : α → Option β} {g : γ → Option β}
    {xs : List α} {ys : List γ} {found : List β} (h : List.Forall₂ R xs ys)
    (hf : ∀ x y value, R x y → g y = some value → f x = some value)
    (hr : ys.mapM g = some found) : xs.mapM f = some found := by
  induction h generalizing found with
  | nil => exact hr
  | @cons x y xs ys hxy _ ih =>
    simp only [List.mapM_cons, Option.bind_eq_bind, Option.bind_eq_some_iff] at hr ⊢
    obtain ⟨first, hv, others, ho, hr⟩ := hr
    exact ⟨first, hf x y first hxy hv, others, ih ho, hr⟩

theorem follows_list (hf : Follows read read') :
    Follows (source.list? read) (Json.source.list? read') := by
  intro n j found hd hr
  obtain ⟨values, hv, hr⟩ := Option.bind_eq_some_iff.mp hr
  rcases hd.items? with ⟨_, hn⟩ | ⟨items, values', hi, hj, hds⟩
  · cases hn.symm.trans hv
  · obtain rfl : values' = values := Option.some.inj (hj.symm.trans hv)
    exact Option.bind_eq_some_iff.mpr ⟨items, hi, mapM_of_forall₂ hds hf hr⟩

theorem mapM_perm {α : Type} {f : α → Option β} {xs ys : List α} {found : List β}
    (h : xs.Perm ys) (hr : xs.mapM f = some found) :
    ∃ others, ys.mapM f = some others ∧ found.Perm others := by
  induction h generalizing found with
  | nil => exact ⟨found, hr, .refl _⟩
  | cons x _ ih =>
    simp only [List.mapM_cons, Option.bind_eq_bind, Option.bind_eq_some_iff] at hr
    obtain ⟨first, hf, rest, ho, hr⟩ := hr
    cases hr
    obtain ⟨others, hm, hp⟩ := ih ho
    exact ⟨first :: others, by simp [List.mapM_cons, hf, hm], hp.cons first⟩
  | swap x y rest =>
    simp only [List.mapM_cons, Option.bind_eq_bind, Option.bind_eq_some_iff] at hr
    obtain ⟨first, hf, _, ⟨second, hs, others, ho, h⟩, hr⟩ := hr
    cases h
    cases hr
    exact ⟨second :: first :: others, by simp [List.mapM_cons, hf, hs, ho], .swap _ _ _⟩
  | trans _ _ ih₁ ih₂ =>
    obtain ⟨middle, hm, hp⟩ := ih₁ hr
    obtain ⟨others, ho, hq⟩ := ih₂ hm
    exact ⟨others, ho, hp.trans hq⟩

/-- Reading the values of fields keeps their keys. -/
theorem keys_of_mapM {fields : List (String × Json)} {found : List (String × β)}
    (h : fields.mapM (fun e => (read' e.2).map fun value => (e.1, value)) = some found) :
    Entries.keys found = Entries.keys fields := by
  induction fields generalizing found with
  | nil =>
    cases h
    rfl
  | cons e rest ih =>
    simp only [List.mapM_cons, Option.bind_eq_bind, Option.bind_eq_some_iff] at h
    obtain ⟨first, hf, others, ho, h⟩ := h
    cases h
    obtain ⟨value, _, rfl⟩ := Option.map_eq_some_iff.mp hf
    rw [Entries.keys_cons, Entries.keys_cons, ih ho]

theorem follows_map (hf : Follows read read') :
    Follows (source.map? read) (Json.source.map? read') := by
  intro n j found hd hr
  obtain ⟨fields, hv, hr⟩ := Option.bind_eq_some_iff.mp hr
  obtain ⟨bindings, hb, rfl⟩ := Option.map_eq_some_iff.mp hr
  rcases hd.fields? with ⟨_, hj⟩ | ⟨nodes, values, hn, hj, hds, hk⟩
  · cases hj.symm.trans hv
  · obtain rfl : Entries.ofList values = fields := Option.some.inj (hj.symm.trans hv)
    obtain ⟨others, ho, hp⟩ := mapM_perm (Entries.perm_ofList hk) hb
    have hm : nodes.mapM (fun e => (read e.2).map fun value => (e.1, value)) = some others := by
      refine mapM_of_forall₂ hds ?_ ho
      rintro ⟨_, node⟩ ⟨key, j⟩ e ⟨rfl, hd⟩ he
      obtain ⟨value, hv, rfl⟩ := Option.map_eq_some_iff.mp he
      simp only [hf node j value hd hv, Option.map_some]
    have he : Entries.ofList others = Entries.ofList bindings :=
      Entries.ofList_eq_of_perm hp.symm (by rwa [keys_of_mapM ho])
    refine Option.bind_eq_some_iff.mpr ⟨nodes, hn, ?_⟩
    rw [hm, Option.map_some, he]

theorem follows_object : Follows source.object? Json.source.object? := follows_map follows_value

/-- A single field of a value is a single field of a text. -/
theorem DenoteFields.single {key : String} (h : DenoteFields nodes values)
    (hk : (Entries.keys values).Nodup) (hj : Entries.ofList values = [(key, j)]) :
    ∃ n, nodes = [(key, n)] ∧ n.Denotes j := by
  have hp := Entries.perm_ofList hk
  rw [hj] at hp
  rw [← List.singleton_perm.mp hp] at h
  obtain ⟨⟨found, n⟩, rest, ⟨he, hd⟩, hr, rfl⟩ := List.forall₂_cons_right_iff.mp h
  rw [List.forall₂_nil_right_iff.mp hr]
  obtain rfl : found = key := he
  exact ⟨n, rfl, hd⟩

theorem follows_choice : Follows source.choice? Json.source.choice? := by
  intro n j name hd hr
  have hl : source.literal? n = Json.source.literal? j := hd.text?
  unfold Source.choice? at hr ⊢
  rw [hl]
  split at hr
  next => exact hr
  next =>
    rcases hd.fields? with ⟨_, hj⟩ | ⟨nodes, values, hn, hj, hds, hk⟩
    · simp [Json.source, hj] at hr
    · simp only [Json.source, hj] at hr
      simp only [source, hn]
      split at hr
      next key inner he =>
        obtain ⟨m, hm, hdm⟩ := hds.single hk (Option.some.inj he)
        simp only [hm, hdm.isNull]
        exact hr
      next => cases hr

end Node

end Document

end Stepwise
