import Stepwise.Proofs.Json.Equality

namespace Stepwise

namespace Condition

variable {a b : Option Json} {v w : Json}

theorem compare_alike (h : v.alike w = true) (operand : Json) :
    compare (some v) operand = compare (some w) operand := by
  cases v with
  | num x =>
    cases w with
    | num y =>
      have hs : x.toDouble.scaled = y.toDouble.scaled := by
        simpa [Json.alike, Double.same] using h
      cases operand <;> simp only [compare, hs]
    | _ => cases h
  | str s =>
    cases w with
    | str t =>
      obtain rfl : s = t := by simpa [Json.alike] using h
      rfl
    | _ => cases h
  | _ =>
    cases w with
    | num _ => cases h
    | str _ => cases h
    | _ => rfl

theorem isLikeAny_alike (hv : v.WellFormed) (hw : w.WellFormed) (h : v.alike w = true)
    (candidates : List Json) : isLikeAny (some v) candidates = isLikeAny (some w) candidates := by
  have hl : isLike (some v) = isLike (some w) := funext (Json.alike_congr hv hw h)
  rw [isLikeAny, isLikeAny, hl]

theorem text?_alike (h : v.alike w = true) : v.text? = w.text? := by
  cases v with
  | str s =>
    cases w with
    | str t =>
      obtain rfl : s = t := by simpa [Json.alike] using h
      rfl
    | _ => cases h
  | _ =>
    cases w with
    | str _ => cases h
    | _ => rfl

theorem isNull_alike (h : v.alike w = true) : v.isNull = w.isNull := by
  cases v with
  | null =>
    cases w with
    | null => rfl
    | _ => cases h
  | _ =>
    cases w with
    | null => cases h
    | _ => rfl

theorem onTexts_eq (test : String → String → Bool) (v operand : Json) :
    onTexts test (some v) operand =
      match v.text?, operand.text? with
      | some s, some o => test s o
      | _, _ => false := by
  cases v with
  | str s => cases operand <;> rfl
  | _ => rfl

theorem onTexts_alike (h : v.alike w = true) (test : String → String → Bool) (operand : Json) :
    onTexts test (some v) operand = onTexts test (some w) operand := by
  rw [onTexts_eq, onTexts_eq, text?_alike h]

/-- An array with an item like the operand has one at the same position as every array that is
alike. -/
theorem any_alike {as bs : List Json} {operand : Json} (hb : (Json.arr bs).WellFormed)
    (h : (Json.arr as).alike (.arr bs) = true) (ha : (Json.arr as).WellFormed)
    (hm : as.any (·.alike operand) = true) : bs.any (·.alike operand) = true := by
  obtain ⟨hl, hi⟩ := Json.alike_arr.mp h
  obtain ⟨x, hx, ho⟩ := List.any_eq_true.mp hm
  obtain ⟨i, hlt, rfl⟩ := List.mem_iff_getElem.mp hx
  have hy := List.getElem_mem (hl ▸ hlt : i < bs.length)
  have hxy := hi i _ _ (List.getElem?_eq_getElem hlt) (List.getElem?_eq_getElem (hl ▸ hlt))
  refine List.any_eq_true.mpr ⟨_, hy, ?_⟩
  rwa [← Json.alike_congr (ha.item hx) (hb.item hy) hxy]

theorem holds_alike (hv : v.WellFormed) (hw : w.WellFormed) (h : v.alike w = true)
    (operand : Json) : holds (some v) operand = holds (some w) operand := by
  cases v with
  | str s =>
    cases w with
    | str t =>
      obtain rfl : s = t := by simpa [Json.alike] using h
      rfl
    | _ => cases h
  | arr as =>
    cases w with
    | arr bs =>
      have hb := Json.alike_symm hv hw h
      exact Bool.eq_iff_iff.mpr ⟨any_alike hw h hv, any_alike hv hb hw⟩
    | _ => cases h
  | _ =>
    cases w with
    | str _ => cases h
    | arr _ => cases h
    | _ => rfl

theorem matchesPattern_congr (h : a.bind Json.text? = b.bind Json.text?) (operand : Json) :
    matchesPattern a operand = matchesPattern b operand := by
  simp only [matchesPattern, h]

theorem test_alike (hv : v.WellFormed) (hw : w.WellFormed) (h : v.alike w = true) (op : Operator)
    (operand : Json) : op.test (some v) operand = op.test (some w) operand := by
  have he : isLike (some v) operand = isLike (some w) operand := Json.alike_congr hv hw h operand
  have hl := isLikeAny_alike hv hw h
  have ho := compare_alike h operand
  cases op with
  | eq => simp only [Operator.test, he]
  | ne => simp only [Operator.test, he]
  | isIn => simp only [Operator.test, funext hl]
  | notIn => simp only [Operator.test, hl]
  | gt => simp only [Operator.test, ho]
  | lt => simp only [Operator.test, ho]
  | gte => simp only [Operator.test, ho]
  | lte => simp only [Operator.test, ho]
  | present => rfl
  | null => simp only [Operator.test, Option.map_some, isNull_alike h]
  | regexp =>
    have hx : (some v).bind Json.text? = (some w).bind Json.text? := text?_alike h
    exact matchesPattern_congr hx operand
  | startsWith => simp only [Operator.test, onTexts_alike h]
  | endsWith => simp only [Operator.test, onTexts_alike h]
  | contains => simp only [Operator.test, holds_alike hv hw h]
  | or => rfl

/-- No operator other than `$or` tells two values apart, or a value from an absent one. -/
def SameTests (a b : Option Json) : Prop :=
  ∀ (op : Operator) (operand : Json), op.test a operand = op.test b operand

mutual

/-- A condition asks nothing of a value but the tests of its operators. -/
theorem eval_congr (ht : SameTests a b) : ∀ c : Json, eval a c = eval b c
  | .obj fields => by simp only [eval, evalAll_congr ht fields]
  | .null | .bool _ | .num _ | .str _ | .arr _ => rfl

theorem evalOne_congr (ht : SameTests a b) (key : String) :
    ∀ c : Json, evalOne a key c = evalOne b key c
  | .arr branches => by simp only [evalOne, evalAny_congr ht branches, ht _ _]
  | .null | .bool _ | .num _ | .str _ | .obj _ => by simp only [evalOne, ht _ _]

theorem evalAll_congr (ht : SameTests a b) :
    ∀ fields : List (String × Json), evalAll a fields = evalAll b fields
  | [] => rfl
  | (key, operand) :: rest => by
    simp only [evalAll, evalOne_congr ht key operand, evalAll_congr ht rest]

theorem evalAny_congr (ht : SameTests a b) :
    ∀ branches : List Json, evalAny a branches = evalAny b branches
  | [] => rfl
  | branch :: rest => by simp only [evalAny, eval_congr ht branch, evalAny_congr ht rest]

end

theorem eval_alike (hv : v.WellFormed) (hw : w.WellFormed) (h : v.alike w = true) (c : Json) :
    eval (some v) c = eval (some w) c := eval_congr (test_alike hv hw h) c

end Condition

namespace Vars

variable {a b : Vars}

theorem get?_alike (ha : a.toJson.WellFormed) (h : a.toJson.alike b.toJson = true)
    (path : String) : Json.AlikeIfAny (a.get? path) (b.get? path) := by
  rw [get?_eq_atPath?, get?_eq_atPath?]
  exact Json.atPath?_alike ha h path

theorem wellFormed_of_get? {path : String} {v : Json} (ha : a.toJson.WellFormed)
    (h : a.get? path = some v) : v.WellFormed :=
  Json.wellFormed_of_atPath? ha (get?_eq_atPath? a path ▸ h)

theorem meets_alike {guard : List (String × Json)} (ha : a.toJson.WellFormed)
    (hb : b.toJson.WellFormed) (h : a.toJson.alike b.toJson = true)
    (hr : ∀ e ∈ guard, a.resolve e.2 = b.resolve e.2) : a.meets guard = b.meets guard := by
  induction guard with
  | nil => rfl
  | cons first rest ih =>
    obtain ⟨hf, hr⟩ := List.forall_mem_cons.mp hr
    have he : Condition.eval (a.get? first.1) (a.resolve first.2) =
        Condition.eval (b.get? first.1) (b.resolve first.2) := by
      have hg := get?_alike ha h first.1
      rw [hf]
      generalize hx : a.get? first.1 = x at hg ⊢
      generalize hy : b.get? first.1 = y at hg ⊢
      cases hg with
      | none => rfl
      | some hxy =>
        exact Condition.eval_alike (wellFormed_of_get? ha hx) (wellFormed_of_get? hb hy) hxy _
    simp only [meets, he, ih hr]

/-- A condition answers the same for values that are alike, with the same error where it fails. A
guard answers the same for variables that are alike, as far as the templates in its operands come
out the same: it never looks at how a number is written. -/
theorem indistinguishable_of_alike :
    (∀ v w c : Json, v.WellFormed → w.WellFormed → v.alike w = true →
      Condition.eval (some v) c = Condition.eval (some w) c) ∧
    ∀ (a b : Vars) (guard : List (String × Json)), a.toJson.WellFormed → b.toJson.WellFormed →
      a.toJson.alike b.toJson = true → (∀ e ∈ guard, a.resolve e.2 = b.resolve e.2) →
        a.meets guard = b.meets guard := by
  constructor
  · intro v w c hv hw h
    exact Condition.eval_alike hv hw h c
  · intro a b guard ha hb h hr
    exact meets_alike ha hb h hr

/-- One and two in an array, written as integers or as doubles. -/
def counted (write : Int → Number) : Vars :=
  ⟨[("list", .arr [.num (write 1), .obj [("n", .num (write 2))]])]⟩

def asIntegers : Vars := counted .int

def asDoubles : Vars := counted fun n => .float (.ofInt n)

/-- An `$or` of which only the second branch holds, and then a pattern that is none. -/
def listGuard : List (String × Json) :=
  [("list.1.n", .obj [("$or", .arr [.obj [("$gt", .ofNat 2)], .obj [("$in", .arr [.ofNat 2])]])]),
    ("list", .obj [("$contains", .ofNat 1), ("$regexp", .str "(")])]

theorem indistinguishable_of_alike_counted :
    (asIntegers ≠ asDoubles ∧ asIntegers.toJson.WellFormed ∧ asDoubles.toJson.WellFormed ∧
      asIntegers.toJson.alike asDoubles.toJson = true ∧
      ∀ e ∈ listGuard, asIntegers.resolve e.2 = asDoubles.resolve e.2) ∧
    (∀ c, Condition.eval (some asIntegers.toJson) c = Condition.eval (some asDoubles.toJson) c) ∧
    asIntegers.meets listGuard = asDoubles.meets listGuard := by
  have hw : ∀ write, (counted write).toJson.WellFormed := fun write =>
    ⟨List.pairwise_singleton _ _, ⟨trivial, ⟨List.pairwise_singleton _ _, trivial, trivial⟩,
      trivial⟩, trivial⟩
  have hn : asIntegers ≠ asDoubles := by decide +kernel
  have ha : asIntegers.toJson.alike asDoubles.toJson = true := by decide +kernel
  have hr : ∀ e ∈ listGuard, asIntegers.resolve e.2 = asDoubles.resolve e.2 := by decide +kernel
  obtain ⟨heval, hmeets⟩ := indistinguishable_of_alike
  have hi : asIntegers.toJson.WellFormed := hw _
  have hd : asDoubles.toJson.WellFormed := hw _
  exact ⟨⟨hn, hi, hd, ha, hr⟩, fun c => heval _ _ c hi hd ha, hmeets _ _ _ hi hd ha hr⟩

end Vars

end Stepwise
