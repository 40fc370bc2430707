import Stepwise.Fetch.Select
import Stepwise.Proofs.Json.Path

namespace Stepwise

namespace Json

variable {j out v w x part : Json} {segment : String} {path other rest : List String}
  {fields : Entries Json}

/-- The value after a write along some segments, or as it was when there is no room for it. -/
def lay (v : Json) (path : List String) (out : Json) : Json := (put? v path out).getD out

@[simp] theorem lay_nil (v out : Json) : lay v [] out = v := rfl

/-- In null nothing stands in the way of a write. -/
theorem exists_put?_null (v : Json) (path : List String) :
    ∃ next, put? v path .null = some next := by
  induction path with
  | nil => exact ⟨v, rfl⟩
  | cons segment rest ih =>
    obtain ⟨inner, hi⟩ := ih
    exact ⟨_, put?_cons.mpr ⟨inner, hi, rfl⟩⟩

theorem lay_null_cons (v : Json) (segment : String) (rest : List String) :
    lay v (segment :: rest) .null = lay v (segment :: rest) (.obj []) := by
  have hp : put? v (segment :: rest) .null = put? v (segment :: rest) (.obj []) := rfl
  obtain ⟨next, hn⟩ := exists_put?_null v (segment :: rest)
  rw [lay, lay, ← hp, hn]
  rfl

theorem lay_obj_cons (hs : fields.Sorted) (v : Json) (segment : String) (rest : List String) :
    lay v (segment :: rest) (.obj fields) =
      .obj (fields.insert segment (lay v rest ((fields.get? segment).getD .null))) := by
  have hp : put? v (segment :: rest) (.obj fields) =
      (put? v rest ((fields.get? segment).getD .null)).bind fun inner =>
        some (.obj (fields.insert segment inner)) := rfl
  rw [lay, hp, lay]
  cases hg : fields.get? segment with
  | none =>
    obtain ⟨inner, hi⟩ := exists_put?_null v rest
    rw [Option.getD_none, hi]
    rfl
  | some inner =>
    rw [Option.getD_some]
    cases put? v rest inner with
    | none => exact congrArg Json.obj (Entries.insert_of_get? hs hg).symm
    | some next => rfl

/-- Writing what is read changes nothing, also where there is no room. -/
theorem lay_of_walk? (hj : j.WellFormed) (h : walk? path j = some v) : lay v path j = j := by
  rw [lay]
  cases hp : put? v path j with
  | none => rfl
  | some next => exact put?_of_walk? hj h hp

theorem lay_lay (v : Json) (path : List String) (out : Json) :
    lay v path (lay v path out) = lay v path out := by
  cases hp : put? v path out with
  | none => simp only [lay, hp, Option.getD_none]
  | some next => simp only [lay, hp, put?_of_put? hp v, Option.getD_some]

/-- All that stands in the second value stands at the same place in the first one. On the way to it
there are objects, also where the first value has arrays. -/
inductive Part : Json → Json → Prop
  | whole (j : Json) : Part j j
  | missing (j : Json) : Part j .null
  | fields {j : Json} {fields : Entries Json} (hs : fields.Sorted)
      (hc : ∀ key part, fields.get? key = some part → ∃ x, j.child? key = some x)
      (hp : ∀ key part x, fields.get? key = some part → j.child? key = some x → Part x part) :
      Part j (.obj fields)

theorem part_empty (j : Json) : Part j (.obj []) :=
  .fields List.Pairwise.nil (fun _ _ h => nomatch h) (fun _ _ _ h => nomatch h)

theorem Part.exists_child (h : Part j (.obj fields)) (hg : fields.get? segment = some part) :
    ∃ x, j.child? segment = some x := by
  cases h with
  | whole => exact ⟨part, hg⟩
  | fields hs hc hp => exact hc _ _ hg

/-- Every field of a part is a part of what stands there in the whole. -/
theorem Part.field (h : Part j (.obj fields)) (hg : fields.get? segment = some part)
    (hx : j.child? segment = some x) : Part x part := by
  cases h with
  | whole =>
    obtain rfl : part = x := Option.some.inj (hg.symm.trans hx)
    exact .whole part
  | fields hs hc hp => exact hp _ _ _ hg hx

theorem Part.inner (h : Part j (.obj fields)) (hx : j.child? segment = some x) :
    Part x ((fields.get? segment).getD .null) := by
  cases hg : fields.get? segment with
  | none => exact .missing x
  | some part => exact h.field hg hx

theorem Part.insert (h : Part j (.obj fields)) (hs : fields.Sorted)
    (hx : j.child? segment = some x) (hp : Part x part) :
    Part j (.obj (fields.insert segment part)) := by
  refine .fields (Entries.sorted_insert hs _ _) ?_ ?_
  · intro key found hg
    rw [Entries.get?_insert] at hg
    split at hg
    next hk => exact ⟨x, hk ▸ hx⟩
    next => exact h.exists_child hg
  · intro key found y hg hy
    rw [Entries.get?_insert] at hg
    split at hg
    next hk =>
      obtain rfl : part = found := Option.some.inj hg
      obtain rfl : x = y := Option.some.inj (hx.symm.trans (hk ▸ hy))
      exact hp
    next => exact h.field hg hy

/-- For a write beyond its top a part is the whole, or an object of parts. -/
theorem Part.whole_or_obj (h : Part j out) :
    out = j ∨ ∃ fields : Entries Json, fields.Sorted ∧ Part j (.obj fields) ∧
      ∀ v segment rest, lay v (segment :: rest) out = lay v (segment :: rest) (.obj fields) := by
  cases h with
  | whole => exact .inl rfl
  | missing => exact .inr ⟨[], List.Pairwise.nil, part_empty j, lay_null_cons⟩
  | fields hs hc hp => exact .inr ⟨_, hs, .fields hs hc hp, fun _ _ _ => rfl⟩

/-- What is read in a part is there to be read in the whole. -/
theorem Part.exists_walk? (h : Part j out) (hw : walk? path out = some x) :
    ∃ y, walk? path j = some y := by
  induction path generalizing j out with
  | nil => exact ⟨j, rfl⟩
  | cons segment rest ih =>
    cases h with
    | whole => exact ⟨x, hw⟩
    | missing => cases hw
    | fields hs hc hp =>
      obtain ⟨part, hg, hr⟩ := Option.bind_eq_some_iff.mp hw
      obtain ⟨child, hx⟩ := hc _ _ hg
      obtain ⟨y, hy⟩ := ih (hp _ _ _ hg hx) hr
      exact ⟨y, Option.bind_eq_some_iff.mpr ⟨child, hx, hy⟩⟩

theorem Part.lay (hj : j.WellFormed) (h : Part j out) (hv : walk? path j = some v) :
    Part j (lay v path out) := by
  induction path generalizing j out with
  | nil =>
    obtain rfl : j = v := Option.some.inj hv
    exact .whole j
  | cons segment rest ih =>
    obtain ⟨child, hc, hr⟩ := Option.bind_eq_some_iff.mp hv
    rcases h.whole_or_obj with rfl | ⟨fields, hs, ho, hl⟩
    · rw [lay_of_walk? hj hv]
      exact .whole out
    · rw [hl, lay_obj_cons hs]
      exact ho.insert hs hc (ih (wellFormed_of_child? hj hc) (ho.inner hc) hr)

theorem Part.walk?_lay (hj : j.WellFormed) (h : Part j out) (hv : walk? path j = some v) :
    walk? path (Json.lay v path out) = some v := by
  induction path generalizing j out with
  | nil => rfl
  | cons segment rest ih =>
    obtain ⟨child, hc, hr⟩ := Option.bind_eq_some_iff.mp hv
    rcases h.whole_or_obj with rfl | ⟨fields, hs, ho, hl⟩
    · rwa [lay_of_walk? hj hv]
    · rw [hl, lay_obj_cons hs]
      refine Option.bind_eq_some_iff.mpr ⟨_, Entries.get?_insert_self _ _ _, ?_⟩
      exact ih (wellFormed_of_child? hj hc) (ho.inner hc) hr

/-- Two parts of one value are written in either order. -/
theorem Part.lay_comm (hj : j.WellFormed) (h : Part j out) (hv : walk? path j = some v)
    (hw : walk? other j = some w) :
    Json.lay w other (Json.lay v path out) = Json.lay v path (Json.lay w other out) := by
  induction path generalizing j out other with
  | nil =>
    obtain rfl : j = v := Option.some.inj hv
    exact lay_of_walk? hj hw
  | cons segment rest ih =>
    cases other with
    | nil =>
      obtain rfl : j = w := Option.some.inj hw
      exact (lay_of_walk? hj hv).symm
    | cons aside beyond =>
      rcases h.whole_or_obj with rfl | ⟨fields, hs, ho, hl⟩
      · rw [lay_of_walk? hj hv, lay_of_walk? hj hw, lay_of_walk? hj hv]
      · rw [hl, hl, lay_obj_cons hs, lay_obj_cons hs, lay_obj_cons (Entries.sorted_insert hs _ _),
          lay_obj_cons (Entries.sorted_insert hs _ _)]
        -- the paths go on together, or they part here and the two fields do not meet
        by_cases he : segment = aside
        · obtain rfl := he
          obtain ⟨child, hc, hr⟩ := Option.bind_eq_some_iff.mp hv
          obtain ⟨same, hd, hb⟩ := Option.bind_eq_some_iff.mp hw
          obtain rfl : child = same := Option.some.inj (hc.symm.trans hd)
          simp only [Entries.get?_insert_self, Option.getD_some, Entries.insert_insert]
          rw [ih (wellFormed_of_child? hj hc) (ho.inner hc) hr hb]
        · rw [Entries.get?_insert_of_ne _ _ (Ne.symm he), Entries.get?_insert_of_ne _ _ he,
            Entries.insert_comm he]

end Json

namespace Fetch

open Json (Part lay)

variable {record out a b : Json} {field : String} {fields others : List String}
  {entries : Entries Json}

/-- The output with a field of the record written to its place, if the record has the field. -/
def keeping (record out : Json) (field : String) : Json :=
  match record.atPath? field with
  | some value => lay value (Json.segments field) out
  | none => out

def keepingAll (record out : Json) (fields : List String) : Json :=
  fields.foldl (keeping record) out

theorem restrict_obj (entries : Entries Json) (fields : List String) :
    restrict (.obj entries) fields = keepingAll (.obj entries) (.obj []) fields := rfl

theorem keepingAll_cons (record out : Json) (field : String) (fields : List String) :
    keepingAll record out (field :: fields) = keepingAll record (keeping record out field) fields :=
  rfl

theorem keeping_keeping (record out : Json) (field : String) :
    keeping record (keeping record out field) field = keeping record out field := by
  unfold keeping
  cases record.atPath? field with
  | none => rfl
  | some value => exact Json.lay_lay value _ out

theorem part_keeping (hr : record.WellFormed) (h : Part record out) (field : String) :
    Part record (keeping record out field) := by
  unfold keeping
  cases hv : record.atPath? field with
  | none => exact h
  | some value => exact h.lay hr hv

theorem part_keepingAll (hr : record.WellFormed) (h : Part record out) (fields : List String) :
    Part record (keepingAll record out fields) := by
  induction fields generalizing out with
  | nil => exact h
  | cons first rest ih => exact ih (part_keeping hr h first)

theorem keeping_comm (hr : record.WellFormed) (h : Part record out) (field other : String) :
    keeping record (keeping record out field) other =
      keeping record (keeping record out other) field := by
  unfold keeping
  cases hv : record.atPath? field with
  | none => rfl
  | some v =>
    cases hw : record.atPath? other with
    | none => rfl
    | some w => exact h.lay_comm hr hv hw

/-- A field can be written before others as well as after them. -/
theorem keeping_keepingAll (hr : record.WellFormed) (h : Part record out) (field : String)
    (fields : List String) :
    keeping record (keepingAll record out fields) field =
      keepingAll record (keeping record out field) fields := by
  induction fields generalizing out with
  | nil => rfl
  | cons first rest ih =>
    rw [keepingAll_cons, keepingAll_cons, ih (part_keeping hr h first), keeping_comm hr h]

theorem keepingAll_comm (hr : record.WellFormed) (h : Part record out)
    (fields others : List String) :
    keepingAll record (keepingAll record out fields) others =
      keepingAll record (keepingAll record out others) fields := by
  induction others generalizing out with
  | nil => rfl
  | cons first rest ih =>
    rw [keepingAll_cons, keepingAll_cons, keeping_keepingAll hr h, ih (part_keeping hr h first)]

theorem keeping_of_mem (hr : record.WellFormed) (h : Part record out) (hm : field ∈ fields) :
    keeping record (keepingAll record out fields) field = keepingAll record out fields := by
  induction fields generalizing out with
  | nil => cases hm
  | cons first rest ih =>
    rcases List.mem_cons.mp hm with rfl | hm
    · rw [keepingAll_cons, keeping_keepingAll hr (part_keeping hr h field), keeping_keeping]
    · exact ih (part_keeping hr h first) hm

theorem keepingAll_of_subset (hr : record.WellFormed) (h : Part record out)
    (hs : others ⊆ fields) :
    keepingAll record (keepingAll record out fields) others = keepingAll record out fields := by
  induction others with
  | nil => rfl
  | cons first rest ih =>
    obtain ⟨hf, hr'⟩ := List.cons_subset.mp hs
    rw [keepingAll_cons, keeping_of_mem hr h hf, ih hr']

/-- Which fields are written counts, not in which order and how often. -/
theorem keepingAll_eq_of_subset (hr : record.WellFormed) (h : Part record out)
    (hs : others ⊆ fields) (ht : fields ⊆ others) :
    keepingAll record out others = keepingAll record out fields := by
  rw [← keepingAll_of_subset hr h ht, keepingAll_comm hr h, keepingAll_of_subset hr h hs]

theorem atPath?_keepingAll (hr : record.WellFormed) (h : Part record out) (hm : field ∈ fields) :
    (keepingAll record out fields).atPath? field = record.atPath? field := by
  have hp := part_keepingAll hr h fields
  cases hv : record.atPath? field with
  | some v =>
    rw [← keeping_of_mem hr h hm, keeping, hv]
    exact hp.walk?_lay hr hv
  | none =>
    cases hw : (keepingAll record out fields).atPath? field with
    | none => rfl
    | some w =>
      obtain ⟨v, hv'⟩ := hp.exists_walk? hw
      cases hv.symm.trans hv'

theorem keepingAll_congr (h : ∀ field ∈ fields, a.atPath? field = b.atPath? field) (out : Json) :
    keepingAll a out fields = keepingAll b out fields := by
  induction fields generalizing out with
  | nil => rfl
  | cons first rest ih =>
    obtain ⟨hf, hr⟩ := List.forall_mem_cons.mp h
    have hk : keeping a out first = keeping b out first := by simp only [keeping, hf]
    rw [keepingAll_cons, keepingAll_cons, hk, ih hr]

/-- A record with some fields selected is an object again, since no path is empty. -/
theorem exists_keepingAll_obj (record : Json) (fields : List String) :
    ∃ kept, keepingAll record (.obj entries) fields = .obj kept := by
  induction fields generalizing entries with
  | nil => exact ⟨entries, rfl⟩
  | cons first rest ih =>
    have hk : ∃ next, keeping record (.obj entries) first = .obj next := by
      unfold keeping
      cases record.atPath? first with
      | none => exact ⟨entries, rfl⟩
      | some value =>
        simp only [Vars.segments_eq, lay]
        cases hp : Json.put? value _ (.obj entries) with
        | none => exact ⟨entries, rfl⟩
        | some next =>
          obtain ⟨inner, _, hf⟩ := Json.put?_cons.mp hp
          exact ⟨_, (Option.some.inj hf).symm⟩
    obtain ⟨next, hn⟩ := hk
    rw [keepingAll_cons, hn]
    exact ih

/-- Every selected field is read in the selection as it is in the record, or is absent from both,
whatever is selected with it. The order and the repetition of fields do not matter, selecting the
same fields again changes nothing, and nothing of a record but these fields reaches the
selection. -/
theorem restrict_laws (fields : List String) :
    (∀ entries : Entries Json, (Json.obj entries).WellFormed →
      (∀ field ∈ fields,
        (restrict (.obj entries) fields).atPath? field = (Json.obj entries).atPath? field) ∧
      (∀ others : List String, (∀ field, field ∈ others ↔ field ∈ fields) →
        restrict (.obj entries) others = restrict (.obj entries) fields) ∧
      restrict (restrict (.obj entries) fields) fields = restrict (.obj entries) fields) ∧
    ∀ left right : Entries Json,
      (∀ field ∈ fields, (Json.obj left).atPath? field = (Json.obj right).atPath? field) →
        restrict (.obj left) fields = restrict (.obj right) fields := by
  constructor
  · intro entries hr
    have hp : Part (.obj entries) (.obj []) := Json.part_empty _
    have hread : ∀ field ∈ fields,
        (restrict (.obj entries) fields).atPath? field = (Json.obj entries).atPath? field :=
      fun field hm => atPath?_keepingAll hr hp hm
    refine ⟨hread, ?_, ?_⟩
    · intro others hm
      exact keepingAll_eq_of_subset hr hp (fun f hf => (hm f).mp hf) fun f hf => (hm f).mpr hf
    · obtain ⟨kept, hk⟩ : ∃ kept, restrict (.obj entries) fields = .obj kept :=
        exists_keepingAll_obj _ _
      rw [hk] at hread ⊢
      rw [restrict_obj, keepingAll_congr hread, ← restrict_obj, hk]
  · intro left right h
    exact keepingAll_congr h _

/-- A parcel from some sender, with an array of two items of which the second one varies. -/
def parcel (sender : String) (last : Json) : Entries Json := [
  ("items", .arr [.obj [("name", .str "pen"), ("price", .ofNat 2)], last]),
  ("sender", .obj [("city", .str "Oslo"), ("name", .str sender)])]

def fromAnn : Json := .obj (parcel "Ann" (.str "ink"))

def fromBob : Json := .obj (parcel "Bob" (.str "glue"))

/-- Two aliases of one item, and a field that no parcel has. -/
def picks : List String := ["items.0.name", "items.00", "sender.age", "sender.city"]

theorem wellFormed_fromAnn : fromAnn.WellFormed := by
  have hf : Entries.Sorted (parcel "Ann" (.str "ink")) := by decide +kernel
  have hi : Entries.Sorted [("name", Json.str "pen"), ("price", .ofNat 2)] := by decide +kernel
  have hs : Entries.Sorted [("city", Json.str "Oslo"), ("name", .str "Ann")] := by decide +kernel
  exact ⟨hf, ⟨⟨hi, trivial, trivial, trivial⟩, trivial, trivial⟩,
    ⟨hs, trivial, trivial, trivial⟩, trivial⟩

/-- The two parcels are the same but for what is not selected. -/
theorem restrict_laws_parcel :
    fromAnn.WellFormed ∧
      ("items.0.name" ∈ picks ∧
        (restrict fromAnn picks).atPath? "items.0.name" = some (.str "pen")) ∧
      ("sender.age" ∈ picks ∧ (restrict fromAnn picks).atPath? "sender.age" = none) ∧
      ((∀ field, field ∈ picks.reverse ++ picks ↔ field ∈ picks) ∧
        restrict fromAnn (picks.reverse ++ picks) = restrict fromAnn picks) ∧
      restrict (restrict fromAnn picks) picks = restrict fromAnn picks ∧
      (∀ field ∈ picks, fromAnn.atPath? field = fromBob.atPath? field) ∧
      restrict fromAnn picks = restrict fromBob picks := by
  have hr : fromAnn.WellFormed := wellFormed_fromAnn
  have hname : "items.0.name" ∈ picks := by decide
  have hage : "sender.age" ∈ picks := by decide
  have hsame : ∀ field, field ∈ picks.reverse ++ picks ↔ field ∈ picks := by simp
  have hread : ∀ field ∈ picks, fromAnn.atPath? field = fromBob.atPath? field := by decide +kernel
  obtain ⟨hlaws, hother⟩ := restrict_laws picks
  obtain ⟨hkeeps, horder, hagain⟩ := hlaws _ hr
  exact ⟨hr, ⟨hname, (hkeeps _ hname).trans (by decide +kernel)⟩,
    ⟨hage, (hkeeps _ hage).trans (by decide +kernel)⟩, ⟨hsame, horder _ hsame⟩, hagain, hread,
    hother _ _ hread⟩

end Fetch

end Stepwise
