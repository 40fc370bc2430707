import Mathlib.Data.List.Nodup
import Stepwise.Proofs.Condition.Unknown
import Stepwise.Proofs.Json.Equality

namespace Stepwise.Condition

variable {value : Option Json} {met p q : Bool} {e : String × Json} {xs ys zs : Entries Json}
  {fields : List (String × Json)}

/-- The condition of one operator. -/
def single (op : Operator) (operand : Json) : Json := .obj [(op.key, operand)]

/-- The value does not pass an operator, and passes all operators with lesser keys. -/
structure FailsFirst (value : Option Json) (fields : Entries Json) (e : String × Json) : Prop where
  mem : e ∈ fields
  fails : evalOne value e.1 e.2 = .ok false
  below : ∀ d ∈ fields, d.1 < e.1 → evalOne value d.1 d.2 = .ok true

theorem evalAll_of_forall (h : ∀ d ∈ xs, evalOne value d.1 d.2 = .ok true) :
    evalAll value xs = .ok true := by
  have ha : evalAll value (xs ++ []) = evalAll value [] := evalAll_append h
  rw [List.append_nil] at ha
  exact ha

theorem forall_of_evalAll (h : evalAll value xs = .ok true) :
    ∀ d ∈ xs, evalOne value d.1 d.2 = .ok true := by
  induction xs with
  | nil => simp
  | cons first rest ih =>
    simp only [evalAll] at h
    rcases ok_of_while h with ⟨ho, hr⟩ | ⟨_, hf⟩
    · exact List.forall_mem_cons.mpr ⟨ho, ih hr⟩
    · cases hf

/-- In an object whose operators fail there is a first that fails, since its keys increase. -/
theorem exists_failsFirst (hs : xs.Sorted) (h : evalAll value xs = .ok false) :
    ∃ e, FailsFirst value xs e := by
  induction xs with
  | nil => cases h
  | cons first rest ih =>
    obtain ⟨hlt, hrest⟩ := List.pairwise_cons.mp hs
    simp only [evalAll] at h
    rcases ok_of_while h with ⟨ho, hr⟩ | ⟨ho, _⟩
    · obtain ⟨e, he⟩ := ih hrest hr
      refine ⟨e, List.mem_cons_of_mem _ he.mem, he.fails, ?_⟩
      exact List.forall_mem_cons.mpr ⟨fun _ => ho, he.below⟩
    · refine ⟨first, List.mem_cons_self, ho, ?_⟩
      intro d hd hbelow
      rcases List.mem_cons.mp hd with rfl | hd
      · exact absurd hbelow (String.lt_irrefl _)
      · exact absurd hbelow (String.lt_asymm (hlt d hd))

theorem FailsFirst.evalAll_eq (hs : xs.Sorted) (h : FailsFirst value xs e) :
    evalAll value xs = .ok false := by
  obtain ⟨before, after, rfl⟩ := List.append_of_mem h.mem
  have hlt := (List.pairwise_append.mp hs).2.2
  have hp : ∀ d ∈ before, evalOne value d.1 d.2 = .ok true := by
    intro d hd
    exact h.below d (List.mem_append_left _ hd) (hlt d hd e List.mem_cons_self)
  rw [evalAll_append hp, evalAll, h.fails]
  rfl

/-- What fails first in one of two objects does so in an object with the fields of both, when all
that stands before it in the other one passes. -/
theorem FailsFirst.of_mem (h : FailsFirst value xs e) (hm : ∀ d, d ∈ zs ↔ d ∈ xs ∨ d ∈ ys)
    (hy : ∀ d ∈ ys, d.1 < e.1 → evalOne value d.1 d.2 = .ok true) : FailsFirst value zs e := by
  refine ⟨(hm e).mpr (.inl h.mem), h.fails, ?_⟩
  intro d hd hlt
  rcases (hm d).mp hd with hx | hd
  · exact h.below d hx hlt
  · exact hy d hd hlt

theorem exists_failsFirst_of_mem (hm : ∀ d, d ∈ zs ↔ d ∈ xs ∨ d ∈ ys)
    (hd : List.Disjoint xs.keys ys.keys) {d : String × Json} (hx : FailsFirst value xs e)
    (hy : FailsFirst value ys d) : ∃ c, FailsFirst value zs c := by
  have hm' : ∀ c, c ∈ zs ↔ c ∈ ys ∨ c ∈ xs := fun c => (hm c).trans or_comm
  have hne : e.1 ≠ d.1 := by
    intro he
    have hk : d.1 ∈ xs.keys := he ▸ List.mem_map_of_mem hx.mem
    exact hd hk (List.mem_map_of_mem hy.mem)
  -- the lesser of the two keys decides, and the other object passes up to its own
  by_cases hlt : e.1 < d.1
  · exact ⟨e, hx.of_mem hm fun c hc hce => hy.below c hc (String.lt_trans hce hlt)⟩
  · have hgt : d.1 < e.1 := Std.lt_of_le_of_ne (String.not_lt.mp hlt) (Ne.symm hne)
    exact ⟨d, hy.of_mem hm' fun c hc hcd => hx.below c hc (String.lt_trans hcd hgt)⟩

theorem evalAll_of_mem (hx : xs.Sorted) (hy : ys.Sorted) (hz : zs.Sorted)
    (hm : ∀ d, d ∈ zs ↔ d ∈ xs ∨ d ∈ ys) (hd : List.Disjoint xs.keys ys.keys)
    (hp : evalAll value xs = .ok p) (hq : evalAll value ys = .ok q) :
    evalAll value zs = .ok (p && q) := by
  have hm' : ∀ d, d ∈ zs ↔ d ∈ ys ∨ d ∈ xs := fun d => (hm d).trans or_comm
  cases p with
  | true =>
    have hpass := forall_of_evalAll hp
    cases q with
    | true =>
      have hqass := forall_of_evalAll hq
      apply evalAll_of_forall
      intro d hd
      rcases (hm d).mp hd with hd | hd
      · exact hpass d hd
      · exact hqass d hd
    | false =>
      obtain ⟨d, hf⟩ := exists_failsFirst hy hq
      exact (hf.of_mem hm' fun c hc _ => hpass c hc).evalAll_eq hz
  | false =>
    obtain ⟨e, he⟩ := exists_failsFirst hx hp
    cases q with
    | true =>
      have hqass := forall_of_evalAll hq
      exact (he.of_mem hm fun c hc _ => hqass c hc).evalAll_eq hz
    | false =>
      obtain ⟨d, hf⟩ := exists_failsFirst hy hq
      obtain ⟨c, hc⟩ := exists_failsFirst_of_mem hm hd he hf
      exact hc.evalAll_eq hz

theorem eval_obj_eq_ok : eval value (.obj fields) = .ok met ↔
    (∀ e ∈ fields, (Operator.ofKey? e.1).isSome = true) ∧ evalAll value fields = .ok met := by
  rcases checkKeys_ok_or_unknown fields with hk | ⟨key, hk, hf⟩
  · have he : eval value (.obj fields) = evalAll value fields := by
      rw [eval, hk]
      rfl
    rw [he]
    exact (and_iff_right fun e hm => known_of_checkKeys hk hm).symm
  · constructor
    · intro h
      rw [eval, hk] at h
      cases h
    · rintro ⟨hall, _⟩
      obtain ⟨before, operand, after, rfl, hn, _⟩ := hf
      have hs := hall (key, operand) (List.mem_append_right _ List.mem_cons_self)
      rw [hn] at hs
      cases hs

theorem eval_overlay (hx : xs.Sorted) (hy : ys.Sorted) (hd : List.Disjoint xs.keys ys.keys)
    (hp : eval value (.obj xs) = .ok p) (hq : eval value (.obj ys) = .ok q) :
    eval value (.obj (xs.overlay ys)) = .ok (p && q) := by
  have hn : (Entries.keys (xs ++ ys)).Nodup := by
    rw [Entries.keys_append]
    exact List.nodup_append'.mpr ⟨Entries.nodup_keys hx, Entries.nodup_keys hy, hd⟩
  have hm : ∀ d, d ∈ xs.overlay ys ↔ d ∈ xs ∨ d ∈ ys := by
    intro d
    rw [(Entries.perm_overlay hn).mem_iff, List.mem_append]
  obtain ⟨hkx, hp⟩ := eval_obj_eq_ok.mp hp
  obtain ⟨hky, hq⟩ := eval_obj_eq_ok.mp hq
  refine eval_obj_eq_ok.mpr ⟨?_, ?_⟩
  · intro e he
    rcases (hm e).mp he with he | he
    · exact hkx e he
    · exact hky e he
  · exact evalAll_of_mem hx hy (Entries.sorted_overlay hx ys) hm hd hp hq

theorem eval_or (value : Option Json) (branches : List Json) :
    eval value (single .or (.arr branches)) = evalAny value branches := by
  have ho : evalOne value Operator.or.key (.arr branches) = evalAny value branches := by
    simp only [evalOne, Operator.ofKey?_key]
  simp only [single, eval, checkKeys, Operator.ofKey?_key, Except.bind, evalAll, ho]
  cases evalAny value branches with
  | error fault => rfl
  | ok met => cases met <;> rfl

theorem evalAny_append_ok {front back : List Json} (hp : evalAny value front = .ok p)
    (hq : evalAny value back = .ok q) : evalAny value (front ++ back) = .ok (p || q) := by
  induction front with
  | nil =>
    cases hp
    rw [List.nil_append, hq, Bool.false_or]
  | cons branch rest ih =>
    simp only [List.cons_append, evalAny] at hp ⊢
    rcases ok_of_until hp with ⟨hb, hr⟩ | ⟨hb, rfl⟩
    · rw [hb]
      exact ih hr
    · rw [hb, Bool.true_or]
      rfl

/-- Equalities as branches hold when one of the candidates is like the value. -/
theorem evalAny_equalities (value : Option Json) (candidates : List Json) :
    evalAny value (candidates.map (single .eq)) = .ok (isLikeAny value candidates) := by
  induction candidates with
  | nil => rfl
  | cons c rest ih =>
    have he : eval value (single .eq c) = .ok (isLike value c) := eval_equality value c
    simp only [List.map_cons, evalAny, he, ih, Except.bind, isLikeAny, List.any_cons]
    cases isLike value c <;> rfl

/-- For every value, and for an absent one: an object merged from two that have an answer and no
common key has their conjunction, and branches put together from two lists that have an answer have
their disjunction. `$eq` and `$in` over an array always have an answer, `$ne` and `$nin` have its
negation, and `$in` answers as the equalities with its items do as branches. -/
theorem boolean_laws (value : Option Json) :
    (∀ (xs ys : Entries Json) (p q : Bool), xs.Sorted → ys.Sorted →
      List.Disjoint xs.keys ys.keys → eval value (.obj xs) = .ok p →
        eval value (.obj ys) = .ok q → eval value (.obj (xs.overlay ys)) = .ok (p && q)) ∧
    (∀ (xs ys : List Json) (p q : Bool), eval value (single .or (.arr xs)) = .ok p →
      eval value (single .or (.arr ys)) = .ok q →
        eval value (single .or (.arr (xs ++ ys))) = .ok (p || q)) ∧
    (∀ operand, ∃ met, eval value (single .eq operand) = .ok met ∧
      eval value (single .ne operand) = .ok !met) ∧
    (∀ items, ∃ met, eval value (single .isIn (.arr items)) = .ok met ∧
      eval value (single .notIn (.arr items)) = .ok !met) ∧
    ∀ items, eval value (single .isIn (.arr items)) =
      eval value (single .or (.arr (items.map (single .eq)))) := by
  have hsingle : ∀ op : Operator, op ≠ .or → ∀ operand,
      eval value (single op operand) = op.test value operand :=
    fun op ho operand => eval_single op ho value operand
  refine ⟨?conjunction, ?disjunction, ?inequality, ?exclusion, ?membership⟩
  case conjunction =>
    intro xs ys p q hx hy hd hp hq
    exact eval_overlay hx hy hd hp hq
  case disjunction =>
    intro xs ys p q hp hq
    rw [eval_or] at hp hq ⊢
    exact evalAny_append_ok hp hq
  case inequality =>
    intro operand
    exact ⟨_, hsingle .eq (by decide) operand, hsingle .ne (by decide) operand⟩
  case exclusion =>
    intro items
    exact ⟨_, hsingle .isIn (by decide) _, hsingle .notIn (by decide) _⟩
  case membership =>
    intro items
    rw [eval_or, evalAny_equalities]
    exact hsingle .isIn (by decide) _

/-- The text `fr` fails the first operator, so that the broken pattern after it is not read. -/
def beyond : Entries Json := [("$gt", .str "zz"), ("$regexp", .str "(")]

def within : Entries Json := [("$lt", .str "zz"), ("$startsWith", .str "f")]

def english : List Json := [single .eq (.str "en")]

/-- The text `fr` meets the first branch, so that the unknown operator in the second is not seen. -/
def french : List Json := [single .eq (.str "fr"), .obj [("$zzz", .null)]]

theorem boolean_laws_french :
    (beyond.Sorted ∧ within.Sorted ∧ List.Disjoint beyond.keys within.keys ∧
      eval (some (.str "fr")) (.obj beyond) = .ok false ∧
      eval (some (.str "fr")) (.obj within) = .ok true ∧
      eval (some (.str "fr")) (.obj (beyond.overlay within)) = .ok false) ∧
    eval (some (.str "fr")) (single .or (.arr english)) = .ok false ∧
    eval (some (.str "fr")) (single .or (.arr french)) = .ok true ∧
    eval (some (.str "fr")) (single .or (.arr (english ++ french))) = .ok true := by
  have hs : ∀ j k : String, ∀ v w : Json, j < k → Entries.Sorted [(j, v), (k, w)] := by
    intro j k v w hlt
    simpa [Entries.Sorted] using hlt
  have ha : beyond.Sorted := hs _ _ _ _ (by decide +kernel)
  have hw : within.Sorted := hs _ _ _ _ (by decide +kernel)
  have hd : List.Disjoint beyond.keys within.keys := by
    intro key hk
    revert key
    decide
  have hea : eval (some (.str "fr")) (.obj beyond) = .ok false := rfl
  have hew : eval (some (.str "fr")) (.obj within) = .ok true := rfl
  have hen : eval (some (.str "fr")) (single .or (.arr english)) = .ok false := rfl
  have hfr : eval (some (.str "fr")) (single .or (.arr french)) = .ok true := rfl
  obtain ⟨hand, hor, _⟩ := boolean_laws (some (.str "fr"))
  exact ⟨⟨ha, hw, hd, hea, hew, hand _ _ _ _ ha hw hd hea hew⟩, hen, hfr, hor _ _ _ _ hen hfr⟩

end Stepwise.Condition
