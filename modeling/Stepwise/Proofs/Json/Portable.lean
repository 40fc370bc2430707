import Stepwise.Projection
import Stepwise.Proofs.Json.Document
import Stepwise.Proofs.Json.Path
import Stepwise.Proofs.Template

namespace Stepwise

namespace Json

mutual

/-- Objects in key order and integers of 64 bits. -/
def Portable : Json → Prop
  | .num n => n.InRange
  | .arr items => PortableItems items
  | .obj fields => Entries.Sorted fields ∧ PortableFields fields
  | _ => True

def PortableItems : List Json → Prop
  | [] => True
  | item :: rest => item.Portable ∧ PortableItems rest

def PortableFields : List (String × Json) → Prop
  | [] => True
  | (_, value) :: rest => value.Portable ∧ PortableFields rest

end

theorem portableItems_iff {items : List Json} :
    PortableItems items ↔ ∀ item ∈ items, item.Portable := by
  induction items with
  | nil => simp [PortableItems]
  | cons item rest ih => simp [PortableItems, ih]

theorem portableFields_iff {fields : List (String × Json)} :
    PortableFields fields ↔ ∀ e ∈ fields, e.2.Portable := by
  induction fields with
  | nil => simp [PortableFields]
  | cons e rest ih => simp [PortableFields, ih]

theorem portable_arr {items : List Json} :
    (arr items).Portable ↔ ∀ item ∈ items, item.Portable := portableItems_iff

theorem portable_obj {fields : List (String × Json)} :
    (obj fields).Portable ↔ Entries.Sorted fields ∧ ∀ e ∈ fields, e.2.Portable :=
  and_congr_right fun _ => portableFields_iff

theorem portable_nil : (obj []).Portable := portable_obj.mpr ⟨List.Pairwise.nil, by simp⟩

variable {fields base top : Entries Json} {key segment : String} {j v next : Json}

theorem portable_of_get? (hf : (obj fields).Portable) (h : Entries.get? fields key = some v) :
    v.Portable := (portable_obj.mp hf).2 _ (Entries.mem_of_get? h)

theorem portable_insert (hf : (obj fields).Portable) (key : String) (hv : v.Portable) :
    (obj (Entries.insert fields key v)).Portable := by
  obtain ⟨hs, hp⟩ := portable_obj.mp hf
  refine portable_obj.mpr ⟨Entries.sorted_insert hs key v, fun e he => ?_⟩
  rcases Entries.mem_keys_insert he with rfl | he
  · exact hv
  · exact hp e he

theorem portable_overlay (hb : (obj base).Portable) (ht : (obj top).Portable) :
    (obj (Entries.overlay base top)).Portable := by
  obtain ⟨hs, hp⟩ := portable_obj.mp hb
  refine portable_obj.mpr ⟨Entries.sorted_overlay hs top, fun e he => ?_⟩
  rcases Entries.mem_of_mem_overlay he with he | he
  · exact hp e he
  · exact (portable_obj.mp ht).2 e he

theorem portable_record {bindings : List (String × Json)} (h : ∀ e ∈ bindings, e.2.Portable) :
    (record bindings).Portable :=
  portable_obj.mpr ⟨Entries.sorted_ofList bindings, fun e he => h e (Entries.mem_of_mem_ofList he)⟩

/-- A map of portable values is portable, whatever is done to its values one by one. -/
theorem portable_mapValues {f : Json → Json} (hs : Entries.Sorted fields)
    (h : ∀ e ∈ fields, (f e.2).Portable) : (obj (Entries.mapValues f fields)).Portable := by
  refine portable_obj.mpr ⟨List.pairwise_map.mpr hs, fun e he => ?_⟩
  obtain ⟨x, hx, rfl⟩ := List.mem_map.mp he
  exact h x hx

theorem portable_child? (hj : j.Portable) (h : j.child? segment = some v) : v.Portable := by
  cases j with
  | arr items =>
    obtain ⟨position, _, hv⟩ := Option.bind_eq_some_iff.mp h
    exact portable_arr.mp hj v (List.mem_of_getElem? hv)
  | obj fields => exact portable_of_get? hj h
  | _ => cases h

theorem portable_walk? {segments : List String} (hj : j.Portable) (h : walk? segments j = some v) :
    v.Portable := by
  induction segments generalizing j with
  | nil =>
    cases h
    exact hj
  | cons segment rest ih =>
    obtain ⟨child, hc, hr⟩ := Option.bind_eq_some_iff.mp h
    exact ih (portable_child? hj hc) hr

theorem portable_getD {found : Option Json} (h : ∀ v, found = some v → v.Portable) :
    (found.getD .null).Portable := by
  cases found with
  | none => trivial
  | some v => exact h v rfl

theorem portable_slot_value (hj : j.Portable) (segment : String) :
    (j.slot segment).value.Portable := by
  rw [slot_value]
  exact portable_getD fun v hv => portable_child? hj hv

theorem portable_fill? (hj : j.Portable) (hv : v.Portable)
    (h : (j.slot segment).fill? v = some next) : next.Portable := by
  unfold slot at h
  split at h
  next items =>
    split at h
    next position _ =>
      obtain ⟨_, rfl⟩ := Slot.fill?_item.mp h
      refine portable_arr.mpr fun item hm => ?_
      rcases List.mem_or_eq_of_mem_set hm with hm | rfl
      · rcases List.mem_append.mp hm with hm | hm
        · exact portable_arr.mp hj item hm
        · rw [List.eq_of_mem_replicate hm]
          trivial
      · exact hv
    next =>
      cases h
      exact portable_insert portable_nil _ hv
  next fields =>
    cases h
    exact portable_insert hj _ hv
  next =>
    cases h
    exact portable_insert portable_nil _ hv

theorem portable_put? {segments : List String} (hj : j.Portable) (hv : v.Portable)
    (h : put? v segments j = some next) : next.Portable := by
  induction segments generalizing j next with
  | nil =>
    cases h
    exact hv
  | cons segment rest ih =>
    obtain ⟨inner, hi, hf⟩ := put?_cons.mp h
    exact portable_fill? hj (ih (portable_slot_value hj segment) hi) hf

end Json

open Json (Portable)

namespace Vars

variable {vars changed : Vars} {path : String} {v : Json}

theorem portable_get? (hv : vars.toJson.Portable) (h : vars.get? path = some v) : v.Portable := by
  rw [get?_eq_atPath?] at h
  exact Json.portable_walk? hv h

theorem portable_set? (hs : vars.toJson.Portable) (hv : v.Portable)
    (h : vars.set? path v = some changed) : changed.toJson.Portable := by
  have hp : vars.toJson.setAtPath? path v = some changed.toJson := by
    rw [← set?_eq_setAtPath?, h, Option.map_some]
  exact Json.portable_put? hs hv hp

end Vars

theorem Template.portable_resolve {lookUp : String → Option Json}
    (hl : ∀ path v, lookUp path = some v → v.Portable) {j : Json} (hj : j.Portable) :
    (resolve lookUp j).Portable := by
  induction j using Json.parts_induction with
  | null | bool => exact hj
  | num => exact hj
  | str s =>
    rw [resolve, resolveText]
    split
    next inner _ =>
      cases hv : lookUp (pathOf inner) with
      | none => trivial
      | some v => exact hl _ v hv
    next => trivial
  | arr items ih =>
    rw [resolve, resolveItems_eq_map]
    refine Json.portable_arr.mpr fun item hm => ?_
    obtain ⟨part, hp, rfl⟩ := List.mem_map.mp hm
    exact ih part hp (Json.portable_arr.mp hj part hp)
  | obj fields ih =>
    obtain ⟨hs, hp⟩ := Json.portable_obj.mp hj
    rw [resolve, resolveFields_eq_mapValues]
    exact Json.portable_mapValues hs fun e he => ih e he (hp e he)

theorem Vars.portable_resolve {vars : Vars} (hv : vars.toJson.Portable) {j : Json}
    (hj : j.Portable) : (vars.resolve j).Portable :=
  Template.portable_resolve (fun _ _ h => portable_get? hv h) hj

theorem Vars.portable_resolveFields {vars : Vars} (hv : vars.toJson.Portable)
    {fields : Entries Json} (hf : (Json.obj fields).Portable) :
    (Json.obj (vars.resolveFields fields)).Portable := by
  have hr := vars.portable_resolve hv hf
  rwa [resolve, Template.resolve] at hr

namespace Projection

variable {scope : Vars} {criteria spec params values : Entries Json} {items : List Json}
  {item operand result v : Json}

theorem mem_of_firstMeeting (h : firstMeeting criteria items = .ok (some item)) : item ∈ items := by
  induction items with
  | nil => cases h
  | cons first rest ih =>
    rw [firstMeeting] at h
    cases hm : elementMeets first criteria with
    | error e =>
      rw [hm] at h
      cases h
    | ok met =>
      rw [hm] at h
      cases met with
      | true =>
        cases h
        exact List.mem_cons_self
      | false => exact List.mem_cons_of_mem _ (ih h)

theorem portable_evaluate (hs : scope.toJson.Portable) (ho : operand.Portable) :
    (evaluate scope operand).Portable := by
  cases operand with
  | str path =>
    have hv : ∀ v, scope.get? (Text.trim path) = some v → v.Portable :=
      fun v hv => Vars.portable_get? hs hv
    rw [evaluate]
    generalize scope.get? (Text.trim path) = found at hv ⊢
    exact Json.portable_getD hv
  | _ => exact ho

theorem portable_source? (hs : scope.toJson.Portable) {from? : Option Json}
    (hf : ∀ v, from? = some v → v.Portable) (h : source? scope from? = some items) :
    ∀ item ∈ items, item.Portable := by
  unfold source? at h
  split at h
  next found =>
    cases h
    exact Json.portable_arr.mp (hf _ rfl)
  next path =>
    obtain ⟨v, hv, hi⟩ := Option.bind_eq_some_iff.mp h
    have hp := Vars.portable_get? hs hv
    cases v with
    | arr found =>
      cases hi
      exact Json.portable_arr.mp hp
    | _ => cases hi
  next => cases h

theorem portable_pick (args : Entries Json) (hi : item.Portable) : (pick args item).Portable := by
  unfold pick
  split
  next => exact Json.portable_getD fun v hv => Json.portable_walk? hi hv
  next => exact hi

theorem portable_element (hs : scope.toJson.Portable) (ho : operand.Portable)
    (h : element scope operand = .ok v) : v.Portable := by
  unfold element at h
  split at h
  next args =>
    have hf : ((Entries.get? args "else").getD .null).Portable :=
      Json.portable_getD fun v hv => Json.portable_of_get? ho hv
    split at h
    next =>
      cases h
      exact hf
    next items hi =>
      have hp := portable_source? hs (fun v hv => Json.portable_of_get? ho hv) hi
      cases hc : criteriaOf (Entries.get? args "where") with
      | error e =>
        rw [hc] at h
        cases h
      | ok criteria =>
        rw [hc] at h
        cases hm : firstMeeting criteria items with
        | error e =>
          simp only [bind, Except.bind, hm] at h
          cases h
        | ok found =>
          simp only [bind, Except.bind, hm] at h
          cases found with
          | none =>
            cases h
            exact hf
          | some item =>
            cases h
            exact portable_pick args (hp item (mem_of_firstMeeting hm))
  next => cases h

theorem portable_node (hs : scope.toJson.Portable) (hv : v.Portable)
    (h : node scope v = .ok result) : result.Portable := by
  unfold node at h
  split at h
  next fields =>
    split at h
    next =>
      split at h
      next key operand _ =>
        have ho : operand.Portable := (Json.portable_obj.mp hv).2 (key, operand) List.mem_cons_self
        split at h
        next => cases h
        next => exact portable_element hs ho h
        next =>
          cases h
          exact portable_evaluate hs ho
      next => cases h
    next =>
      cases h
      exact hv
  next =>
    cases h
    exact hv

/-- The values of a projection stand under the keys of its fields. -/
theorem portable_fieldsIn (hs : scope.toJson.Portable) (hp : ∀ e ∈ spec, e.2.Portable)
    (h : fieldsIn scope spec = .ok values) :
    Entries.keys values = spec.keys ∧ ∀ e ∈ values, e.2.Portable := by
  induction spec generalizing values with
  | nil =>
    cases h
    exact ⟨rfl, by simp⟩
  | cons first rest ih =>
    simp only [fieldsIn] at h
    cases hn : node scope (scope.resolve first.2) with
    | error fault =>
      rw [hn] at h
      cases h
    | ok value =>
      cases hr : fieldsIn scope rest with
      | error fault =>
        rw [hn, hr] at h
        cases h
      | ok others =>
        rw [hn, hr] at h
        cases h
        obtain ⟨hk, ho⟩ := ih (fun e he => hp e (List.mem_cons_of_mem _ he)) hr
        have hv := portable_node hs (scope.portable_resolve hs (hp first List.mem_cons_self)) hn
        exact ⟨by rw [Entries.keys_cons, Entries.keys_cons, hk],
          List.forall_mem_cons.mpr ⟨hv, ho⟩⟩

theorem portable_project (hj : (Json.obj spec).Portable) (hp : (Json.obj params).Portable)
    (hr : result.Portable) (h : project spec params result = .ok values) :
    (Json.obj values).Portable := by
  obtain ⟨hs, hv⟩ := Json.portable_obj.mp hj
  have hscope : (scopeOf params result).toJson.Portable := Json.portable_insert hp resultName hr
  obtain ⟨hk, ho⟩ := portable_fieldsIn hscope hv h
  have hs' : (Entries.keys values).Pairwise (· < ·) := by
    rw [hk]
    exact List.pairwise_map.mpr hs
  exact Json.portable_obj.mpr ⟨List.pairwise_map.mp hs', ho⟩

end Projection

end Stepwise
