import Stepwise.Proofs.Fetch.Select
import Stepwise.Proofs.Json.Frame

namespace Stepwise

namespace Json

inductive Kind where
  | array
  | object
deriving DecidableEq, Repr

/-- What kind of container a value is, if it is one. -/
def kind? : Json → Option Kind
  | .arr _ => some .array
  | .obj _ => some .object
  | _ => none

/-- The kind of the container that is read along a path. -/
def kindAt? (j : Json) (path : String) : Option Kind := (j.atPath? path).bind kind?

variable {j out v x part : Json} {segment : String} {front path rest : List String}
  {fields : Entries Json}

/-- Segments lead on from containers only. -/
theorem exists_kind?_of_child? (h : j.child? segment = some v) : ∃ kind, j.kind? = some kind := by
  cases j with
  | arr items => exact ⟨.array, rfl⟩
  | obj fields => exact ⟨.object, rfl⟩
  | _ => cases h

/-- Every proper beginning of a path that is read is the path of a container. -/
theorem exists_kind?_of_beginning (hp : path <+: front) (hne : path ≠ front)
    (hv : walk? front j = some v) :
    ∃ whole kind, walk? path j = some whole ∧ whole.kind? = some kind := by
  obtain ⟨back, rfl⟩ := hp
  cases back with
  | nil => exact absurd (List.append_nil path).symm hne
  | cons segment rest =>
    rw [walk?_append] at hv
    obtain ⟨whole, hw, hb⟩ := Option.bind_eq_some_iff.mp hv
    obtain ⟨child, hc, _⟩ := Option.bind_eq_some_iff.mp hb
    obtain ⟨kind, hk⟩ := exists_kind?_of_child? hc
    exact ⟨whole, kind, hw, hk⟩

/-- What a write along `front` may have made at `path`: something in the value that it writes, or an
object on the way to it. -/
def Made (front path : List String) (part : Json) : Prop :=
  front <+: path ∨ path <+: front ∧ ∃ kept, part = .obj kept

theorem Made.cons (h : Made front path part) (segment : String) :
    Made (segment :: front) (segment :: path) part := by
  rcases h with h | ⟨h, hk⟩
  · exact .inl (List.cons_prefix_cons.mpr ⟨rfl, h⟩)
  · exact .inr ⟨List.cons_prefix_cons.mpr ⟨rfl, h⟩, hk⟩

/-- After a write into an object, what is read beyond its top is read in the field that the write
goes to, or is in another field and was there before. -/
theorem made_or_of_lay_obj (hs : fields.Sorted)
    (h : walk? path (lay v (segment :: rest) (.obj fields)) = some part) :
    Made (segment :: rest) path part ∨
      (∃ beyond, path = segment :: beyond ∧
        walk? beyond (lay v rest ((fields.get? segment).getD .null)) = some part) ∨
      ∃ aside beyond child, path = aside :: beyond ∧ fields.get? aside = some child ∧
        walk? beyond child = some part := by
  rw [lay_obj_cons hs] at h
  cases path with
  | nil =>
    have hp : [] <+: segment :: rest := List.nil_prefix
    exact .inl (.inr ⟨hp, _, (Option.some.inj h).symm⟩)
  | cons aside beyond =>
    obtain ⟨child, hc, hb⟩ := Option.bind_eq_some_iff.mp h
    by_cases he : aside = segment
    · obtain rfl := he
      obtain rfl := Option.some.inj ((Entries.get?_insert_self _ _ _).symm.trans hc)
      exact .inr (.inl ⟨beyond, rfl, hb⟩)
    · have hg : fields.get? aside = some child :=
        (Entries.get?_insert_of_ne fields _ he).symm.trans hc
      exact .inr (.inr ⟨aside, beyond, child, rfl, hg, hb⟩)

theorem made_of_lay_null (h : walk? path (lay v front .null) = some part) :
    Made front path part := by
  induction front generalizing path with
  | nil => exact .inl List.nil_prefix
  | cons segment rest ih =>
    rw [lay_null_cons] at h
    rcases made_or_of_lay_obj List.Pairwise.nil h with hm | ⟨beyond, rfl, hb⟩ | ⟨_, _, _, _, hg, _⟩
    · exact hm
    · exact (ih hb).cons segment
    · cases hg

/-- What is read after a part of a value was written is made by the write, or was there before. -/
theorem Part.made_or_walk? (hj : j.WellFormed) (h : Part j out) (hv : walk? front j = some v)
    (hw : walk? path (Json.lay v front out) = some part) :
    Made front path part ∨ walk? path out = some part := by
  induction front generalizing j out path with
  | nil => exact .inl (.inl List.nil_prefix)
  | cons segment rest ih =>
    obtain ⟨child, hc, hr⟩ := Option.bind_eq_some_iff.mp hv
    cases h with
    | whole =>
      rw [lay_of_walk? hj hv] at hw
      exact .inr hw
    | missing => exact .inl (made_of_lay_null hw)
    | @fields _ fields hs hf hp =>
      rcases made_or_of_lay_obj hs hw with hm | ⟨beyond, rfl, hb⟩ | ⟨aside, beyond, x, rfl, hg, hb⟩
      · exact .inl hm
      · cases hg : fields.get? segment with
        | none =>
          -- behind a field that is not there yet the write starts from null
          rw [hg] at hb
          exact .inl ((made_of_lay_null hb).cons segment)
        | some inner =>
          rw [hg] at hb
          rcases ih (wellFormed_of_child? hj hc) (hp _ _ _ hg hc) hr hb with hm | hi
          · exact .inl (hm.cons segment)
          · exact .inr (Option.bind_eq_some_iff.mpr ⟨inner, hg, hi⟩)
      · exact .inr (Option.bind_eq_some_iff.mpr ⟨x, hg, hb⟩)

end Json

namespace Fetch

open Json (Part Made Kind)

variable {record out part : Json} {field path : String} {fields : List String}
  {entries : Entries Json}

/-- A field that the record has leads to the path or to something around it. -/
def TakenWhole (record : Json) (fields : List String) (path : String) : Prop :=
  ∃ field ∈ fields, (record.atPath? field).isSome ∧ Json.segments field <+: Json.segments path

/-- A field that the record has leads to the path or beyond it. -/
def LedThrough (record : Json) (fields : List String) (path : String) : Prop :=
  ∃ field ∈ fields, (record.atPath? field).isSome ∧ Json.segments path <+: Json.segments field

instance : Decidable (TakenWhole record fields path) :=
  inferInstanceAs (Decidable (∃ field ∈ fields,
    (record.atPath? field).isSome ∧ Json.segments field <+: Json.segments path))

instance : Decidable (LedThrough record fields path) :=
  inferInstanceAs (Decidable (∃ field ∈ fields,
    (record.atPath? field).isSome ∧ Json.segments path <+: Json.segments field))

theorem made_of_keeping (hr : record.WellFormed) (h : Part record out)
    (hw : (keeping record out field).atPath? path = some part) :
    ((record.atPath? field).isSome ∧ Made (Json.segments field) (Json.segments path) part) ∨
      out.atPath? path = some part := by
  unfold keeping at hw
  cases hv : record.atPath? field with
  | none =>
    rw [hv] at hw
    exact .inr hw
  | some value =>
    rw [hv] at hw
    rcases h.made_or_walk? hr hv hw with hm | ho
    · exact .inl ⟨rfl, hm⟩
    · exact .inr ho

theorem made_of_keepingAll (hr : record.WellFormed) (h : Part record out)
    (hw : (keepingAll record out fields).atPath? path = some part) :
    (∃ field ∈ fields, (record.atPath? field).isSome ∧
      Made (Json.segments field) (Json.segments path) part) ∨ out.atPath? path = some part := by
  induction fields generalizing out with
  | nil => exact .inr hw
  | cons first rest ih =>
    rcases ih (part_keeping hr h first) hw with ⟨field, hm, hf⟩ | ho
    · exact .inl ⟨field, List.mem_cons_of_mem _ hm, hf⟩
    · rcases made_of_keeping hr h ho with hf | ho
      · exact .inl ⟨first, List.mem_cons_self, hf⟩
      · exact .inr ho

/-- No path leads to the top of a value. -/
theorem atPath?_empty (path : String) : (Json.obj []).atPath? path = none := by
  rw [Json.atPath?, Vars.segments_eq]
  rfl

theorem made_of_restrict (hr : (Json.obj entries).WellFormed)
    (hw : (restrict (.obj entries) fields).atPath? path = some part) :
    ∃ field ∈ fields, ((Json.obj entries).atPath? field).isSome ∧
      Made (Json.segments field) (Json.segments path) part := by
  rw [restrict_obj] at hw
  rcases made_of_keepingAll hr (Json.part_empty _) hw with hf | ho
  · exact hf
  · rw [atPath?_empty] at ho
    cases ho

theorem atPath?_restrict (hr : (Json.obj entries).WellFormed) (hm : field ∈ fields) :
    (restrict (.obj entries) fields).atPath? field = (Json.obj entries).atPath? field :=
  atPath?_keepingAll hr (Json.part_empty _) hm

/-- In a field and at its end the selection is the record. -/
theorem atPath?_of_takenWhole (hr : (Json.obj entries).WellFormed)
    (h : TakenWhole (.obj entries) fields path) :
    (restrict (.obj entries) fields).atPath? path = (Json.obj entries).atPath? path := by
  obtain ⟨field, hm, _, back, hb⟩ := h
  rw [Json.atPath?, Json.atPath?, ← hb, Json.walk?_append, Json.walk?_append]
  exact congrArg (Option.bind · (Json.walk? back)) (atPath?_restrict hr hm)

theorem made_cases (hr : (Json.obj entries).WellFormed)
    (hw : (restrict (.obj entries) fields).atPath? path = some part) :
    TakenWhole (.obj entries) fields path ∨
      LedThrough (.obj entries) fields path ∧ part.kind? = some .object := by
  obtain ⟨field, hm, hs, hf | ⟨hp, kept, rfl⟩⟩ := made_of_restrict hr hw
  · exact .inl ⟨field, hm, hs, hf⟩
  · exact .inr ⟨⟨field, hm, hs, hp⟩, rfl⟩

/-- Where a field leads through, the record and its selection both have containers. -/
theorem exists_kindAt?_of_ledThrough {j : Json} (hj : ∀ field ∈ fields,
    j.atPath? field = record.atPath? field) (hn : ¬TakenWhole record fields path)
    (h : LedThrough record fields path) : ∃ kind, j.kindAt? path = some kind := by
  obtain ⟨field, hm, hs, hp⟩ := h
  have hne : Json.segments path ≠ Json.segments field := by
    intro he
    exact hn ⟨field, hm, hs, he ▸ List.prefix_rfl⟩
  rw [← hj field hm] at hs
  obtain ⟨value, hv⟩ := Option.isSome_iff_exists.mp hs
  obtain ⟨whole, kind, hw, hk⟩ := Json.exists_kind?_of_beginning hp hne hv
  exact ⟨kind, Option.bind_eq_some_iff.mpr ⟨whole, hw, hk⟩⟩

/-- The containers of a selection: those of the record in its fields, and objects on the way to
them. -/
theorem kindAt?_restrict (hr : (Json.obj entries).WellFormed) (fields : List String)
    (path : String) :
    (restrict (.obj entries) fields).kindAt? path =
      if TakenWhole (.obj entries) fields path then (Json.obj entries).kindAt? path
      else if LedThrough (.obj entries) fields path then some .object
      else none := by
  split
  next ht => rw [Json.kindAt?, atPath?_of_takenWhole hr ht, Json.kindAt?]
  next ht =>
    split
    next hl =>
      obtain ⟨kind, hk⟩ :=
        exists_kindAt?_of_ledThrough (fun _ hm => atPath?_restrict hr hm) ht hl
      obtain ⟨part, hw, hp⟩ := Option.bind_eq_some_iff.mp hk
      obtain ⟨_, ho⟩ := (made_cases hr hw).resolve_left ht
      exact hk.trans (hp.symm.trans ho)
    next hl =>
      cases hw : (restrict (.obj entries) fields).atPath? path with
      | none => rw [Json.kindAt?, hw]; rfl
      | some part => exact absurd ((made_cases hr hw).resolve_left ht).1 hl

/-- A selection has the containers of the record in the fields that are taken, and objects on the
way to them, nothing else. So where it has an array or an object the record has one of the same
kind, unless the record has an array there which no field takes as a whole: that one has become an
object. -/
theorem nesting_of_restrict (hr : (Json.obj entries).WellFormed) (fields : List String)
    (path : String) :
    ((restrict (.obj entries) fields).kindAt? path =
      if TakenWhole (.obj entries) fields path then (Json.obj entries).kindAt? path
      else if LedThrough (.obj entries) fields path then some .object
      else none) ∧
    ∀ kind, (restrict (.obj entries) fields).kindAt? path = some kind →
      ((Json.obj entries).kindAt? path = some kind ∨
        (Json.obj entries).kindAt? path = some .array ∧ kind = .object) ∧
      ((Json.obj entries).kindAt? path = some kind ↔
        ((Json.obj entries).kindAt? path = some .array →
          TakenWhole (.obj entries) fields path)) := by
  have hk := kindAt?_restrict hr fields path
  refine ⟨hk, ?_⟩
  intro kind h
  rw [hk] at h
  split at h
  next ht => exact ⟨.inl h, fun _ _ => ht, fun _ => h⟩
  next ht =>
    split at h
    next hl =>
      obtain rfl : Kind.object = kind := Option.some.inj h
      obtain ⟨whole, hw⟩ := exists_kindAt?_of_ledThrough (fun _ _ => rfl) ht hl
      rw [hw]
      cases whole with
      | array => exact ⟨.inr ⟨rfl, rfl⟩, nofun, fun hw => absurd (hw rfl) ht⟩
      | object => exact ⟨.inl rfl, fun _ => nofun, fun _ => rfl⟩
    next => cases h

/-- The sender as a whole, and the name of an item. -/
def cut : List String := ["items.0.name", "sender"]

theorem nesting_of_restrict_parcel :
    fromAnn.WellFormed ∧
      ((restrict fromAnn cut).kindAt? "sender" = some .object ∧
        fromAnn.kindAt? "sender" = some .object) ∧
      (LedThrough fromAnn cut "items" ∧ ¬TakenWhole fromAnn cut "items" ∧
        (restrict fromAnn cut).kindAt? "items" = some .object) := by
  have hr : fromAnn.WellFormed := wellFormed_fromAnn
  have hs : (restrict fromAnn cut).kindAt? "sender" = some .object := by decide +kernel
  have hall : TakenWhole fromAnn cut "sender" := by decide +kernel
  have ht : ¬TakenWhole fromAnn cut "items" := by decide +kernel
  have hl : LedThrough fromAnn cut "items" := by decide +kernel
  have hi : (restrict fromAnn cut).kindAt? "items" = some .object :=
    (nesting_of_restrict hr cut "items").1.trans ((if_neg ht).trans (if_pos hl))
  exact ⟨hr, ⟨hs, ((nesting_of_restrict hr cut "sender").2 _ hs).2.mpr fun _ => hall⟩, hl, ht, hi⟩

/-- The array of items is an object once a field leads through it. -/
theorem nesting_not_kept :
    ¬∀ (entries : Entries Json) (fields : List String) (path : String) (kind : Kind),
      (Json.obj entries).WellFormed →
        (restrict (.obj entries) fields).kindAt? path = some kind →
          (Json.obj entries).kindAt? path = some kind := by
  intro h
  have hs : (restrict fromAnn ["items.0.name"]).kindAt? "items" = some .object := by
    decide +kernel
  have hf : fromAnn.kindAt? "items" = some .array := by decide +kernel
  have hk := h _ _ _ _ wellFormed_fromAnn hs
  exact absurd (hf.symm.trans hk) (by decide)

end Fetch

end Stepwise
