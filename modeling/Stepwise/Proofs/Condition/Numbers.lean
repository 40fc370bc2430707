import Stepwise.Proofs.Double
import Stepwise.Proofs.Json.Document
import Stepwise.Proofs.Projection

namespace Stepwise

open Double (nearestInt unitsPerOne)

namespace Number

variable {a b : Int} {x : Number}

/-- The exact value of a number, in the units of doubles. -/
def units : Number → Int
  | .int n => n * unitsPerOne
  | .float d => d.scaled

theorem log2_natAbs_le (h : Fits a) : a.natAbs.log2 ≤ 1022 := by
  rcases Nat.eq_zero_or_pos a.natAbs with hz | hp
  · simp [hz]
  · have hb : a.natAbs < 2 ^ 64 := by
      unfold Fits Text.Numeral.signedBound Text.Numeral.wordBound at h
      omega
    have hl := (Nat.log2_lt (Nat.ne_of_gt hp)).mpr hb
    omega

/-- The double of a number is its exact value after rounding, of an integer or a double. -/
theorem scaled_toDouble (h : x.InRange) : x.toDouble.scaled = nearestInt x.units := by
  cases x with
  | int n => exact Double.scaled_ofInt (log2_natAbs_le h)
  | float d => exact (Double.nearestInt_scaled d).symm

/-- Two integers that have the same bits in a significand. -/
def SameDouble (a b : Int) : Prop := nearestInt a = nearestInt b

instance (a b : Int) : Decidable (SameDouble a b) := inferInstanceAs (Decidable (_ = _))

/-- The order of two integers, but none of those with the same double. -/
def orderOf (a b : Int) : Ordering := if SameDouble a b then .eq else Ord.compare a b

theorem orderOf_eq_iff : orderOf a b = .eq ↔ SameDouble a b := by
  unfold orderOf
  split
  next hs => exact ⟨fun _ => hs, fun _ => rfl⟩
  next hs =>
    constructor
    · intro h
      exact congrArg nearestInt (Int.compare_eq_eq.mp h)
    · intro h
      exact absurd h hs

/-- Rounding keeps the order, so it can only be lost by becoming equal. -/
theorem nearestInt_lt (hs : ¬ SameDouble a b) (h : a < b) : nearestInt a < nearestInt b :=
  Int.lt_iff_le_and_ne.mpr ⟨Double.nearestInt_mono (Int.le_of_lt h), hs⟩

theorem compare_nearest (a b : Int) :
    Ord.compare (nearestInt (a * unitsPerOne)) (nearestInt (b * unitsPerOne)) = orderOf a b := by
  have hu : (0 : Int) < unitsPerOne := Int.natCast_pos.mpr Double.unitsPerOne_pos
  rw [Double.nearestInt_mul_unitsPerOne, Double.nearestInt_mul_unitsPerOne, orderOf]
  split
  next hs =>
    have he : nearestInt a = nearestInt b := hs
    rw [he]
    exact Int.compare_eq_eq.mpr rfl
  next hs =>
    rcases Int.lt_trichotomy a b with h | rfl | h
    · rw [Int.compare_eq_lt.mpr h, Int.compare_eq_lt]
      exact Int.mul_lt_mul_of_pos_right (nearestInt_lt hs h) hu
    · exact absurd rfl hs
    · rw [Int.compare_eq_gt.mpr h, Int.compare_eq_gt]
      exact Int.mul_lt_mul_of_pos_right (nearestInt_lt (Ne.symm hs) h) hu

end Number

namespace Condition

/-- Conditions find a value and an operand in an order: by equality, and by every operator that
compares. -/
structure Finds (value operand : Json) (order : Ordering) : Prop where
  alike : value.alike operand = (order == .eq)
  eq : eval (some value) (.obj [("$eq", operand)]) = .ok (order == .eq)
  ne : eval (some value) (.obj [("$ne", operand)]) = .ok (order != .eq)
  gt : eval (some value) (.obj [("$gt", operand)]) = .ok (order == .gt)
  lt : eval (some value) (.obj [("$lt", operand)]) = .ok (order == .lt)
  gte : eval (some value) (.obj [("$gte", operand)]) = .ok (order != .lt)
  lte : eval (some value) (.obj [("$lte", operand)]) = .ok (order != .gt)

variable {value operand : Json} {order : Ordering} {x y : Number} {a b : Int} {ids : List Int}

theorem isLike_some (value operand : Json) : isLike (some value) operand = value.alike operand :=
  rfl

theorem finds_of_compare (ha : value.alike operand = (order == .eq))
    (hc : compare (some value) operand = some order) : Finds value operand order := by
  have hl := (isLike_some value operand).trans ha
  have hs (op : Operator) (ho : op ≠ .or) {answer : Bool}
      (h : op.test (some value) operand = .ok answer) :
      eval (some value) (.obj [(op.key, operand)]) = .ok answer :=
    (eval_single op ho _ _).trans h
  constructor
  case alike => exact ha
  case eq => exact hs .eq (by decide) (by rw [Operator.test, hl])
  case ne => exact hs .ne (by decide) (by rw [Operator.test, hl]; rfl)
  case gt => exact hs .gt (by decide) (by rw [Operator.test, hc]; rfl)
  case lt => exact hs .lt (by decide) (by rw [Operator.test, hc]; rfl)
  case gte => exact hs .gte (by decide) (by rw [Operator.test, hc]; rfl)
  case lte => exact hs .lte (by decide) (by rw [Operator.test, hc]; rfl)

/-- Numbers are found in the order of their exact values after rounding. -/
theorem finds_numbers (hx : x.InRange) (hy : y.InRange) :
    Finds (.num x) (.num y) (Ord.compare (nearestInt x.units) (nearestInt y.units)) := by
  have hc : compare (some (.num x)) (.num y) =
      some (Ord.compare (nearestInt x.units) (nearestInt y.units)) := by
    rw [compare, Number.scaled_toDouble hx, Number.scaled_toDouble hy]
  refine finds_of_compare ?_ hc
  rw [Json.alike, Double.same, Number.scaled_toDouble hx, Number.scaled_toDouble hy,
    Bool.eq_iff_iff, beq_iff_eq, beq_iff_eq, Int.compare_eq_eq]

theorem finds_integers (ha : Number.Fits a) (hb : Number.Fits b) :
    Finds (.num (.int a)) (.num (.int b)) (Number.orderOf a b) := by
  have hf := finds_numbers (x := .int a) (y := .int b) ha hb
  rwa [Number.units, Number.units, Number.compare_nearest] at hf

theorem alike_integers (ha : Number.Fits a) (hb : Number.Fits b) :
    (Json.num (.int a)).alike (.num (.int b)) = decide (Number.SameDouble a b) := by
  rw [(finds_integers ha hb).alike, Bool.eq_iff_iff, beq_iff_eq, decide_eq_true_iff,
    Number.orderOf_eq_iff]

theorem any_integers {test : Json → Bool} {p : Int → Bool}
    (h : ∀ id ∈ ids, test (.num (.int id)) = p id) :
    (ids.map fun id => Json.num (.int id)).any test = ids.any p := by
  induction ids with
  | nil => rfl
  | cons first rest ih =>
    obtain ⟨hf, hr⟩ := List.forall_mem_cons.mp h
    rw [List.map_cons, List.any_cons, List.any_cons, hf, ih hr]

theorem eval_in_ids (ha : Number.Fits a) (hi : ∀ id ∈ ids, Number.Fits id) :
    eval (some (.num (.int a))) (.obj [("$in", .arr (ids.map fun id => .num (.int id)))]) =
      .ok (ids.any fun id => Number.SameDouble a id) := by
  have hl : isLikeAny (some (.num (.int a))) (ids.map fun id => .num (.int id)) =
      ids.any fun id => Number.SameDouble a id :=
    any_integers fun id hm => (isLike_some _ _).trans (alike_integers ha (hi id hm))
  exact (eval_single .isIn (by decide) _ _).trans (congrArg Except.ok hl)

theorem eval_contains_id (ha : Number.Fits a) (hi : ∀ id ∈ ids, Number.Fits id) :
    eval (some (.arr (ids.map fun id => .num (.int id)))) (.obj [("$contains", .num (.int a))]) =
      .ok (ids.any fun id => Number.SameDouble id a) := by
  have hl : holds (some (.arr (ids.map fun id => .num (.int id)))) (.num (.int a)) =
      ids.any fun id => Number.SameDouble id a :=
    any_integers fun id hm => alike_integers (hi id hm) ha
  exact (eval_single .contains (by decide) _ _).trans (congrArg Except.ok hl)

end Condition

namespace Projection

variable {scope : Vars} {a b : Int} {item : Json} {items : List Json} {key : String}

theorem elementMeets_integer (ha : Number.Fits a) (hb : Number.Fits b)
    (ht : target item key = some (.num (.int b))) :
    elementMeets item [(key, .num (.int a))] = .ok (decide (Number.SameDouble b a)) := by
  rw [elementMeets_cons, criterion_of_literal rfl, Condition.eval_equality, ht,
    Condition.isLike_some, Condition.alike_integers hb ha]
  cases decide (Number.SameDouble b a) <;> rfl

theorem firstMeeting_integer {idOf : Json → Int} (ha : Number.Fits a)
    (hi : ∀ item ∈ items, Number.Fits (idOf item) ∧
      target item key = some (.num (.int (idOf item)))) :
    firstMeeting [(key, .num (.int a))] items =
      .ok (items.find? fun item => Number.SameDouble (idOf item) a) := by
  induction items with
  | nil => rfl
  | cons first rest ih =>
    obtain ⟨⟨hf, ht⟩, hr⟩ := List.forall_mem_cons.mp hi
    rw [firstMeeting, elementMeets_integer ha hf ht, ih hr, List.find?_cons]
    cases decide (Number.SameDouble (idOf first) a) <;> rfl

theorem node_element_integer {idOf : Json → Int} (ha : Number.Fits a)
    (hi : ∀ item ∈ items, Number.Fits (idOf item) ∧
      target item key = some (.num (.int (idOf item)))) :
    node scope (.obj [("$element", .obj [("from", .arr items),
        ("where", .obj [(key, .num (.int a))])])]) =
      .ok ((items.find? fun item => Number.SameDouble (idOf item) a).getD .null) := by
  have hm := firstMeeting_integer ha hi
  have hc : criteriaOf (some (.obj [(key, .num (.int a))])) = .ok [(key, .num (.int a))] := rfl
  refine (node_element _).trans ?_
  simp only [element, Entries.get?, source?, reduceIte, String.reduceEq, hc, bind, Except.bind, hm]
  cases items.find? fun item => Number.SameDouble (idOf item) a with
  | none => rfl
  | some item => rfl

end Projection

namespace Number

/-- Conditions find two integers in their order, but integers with the same double equal. Different
ones have the same double only when neither is below `2^53` in size, and then they differ by a few
parts in `2^53` at most. An id is looked up in a list, and a record by its id, as any id with the
same double would be. -/
theorem ordered_up_to_sameDouble (a : Int) (ha : Fits a) :
    (∀ b, Fits b → Condition.Finds (.num (.int a)) (.num (.int b)) (orderOf a b)) ∧
    (∀ b, SameDouble a b → a ≠ b → 2 ^ 53 ≤ a.natAbs ∧ 2 ^ 53 ≤ b.natAbs ∧
      2 ^ 53 * (a - b).natAbs ≤ a.natAbs + b.natAbs) ∧
    (∀ ids : List Int, (∀ id ∈ ids, Fits id) →
      Condition.eval (some (.num (.int a)))
          (.obj [("$in", .arr (ids.map fun id => .num (.int id)))]) =
        .ok (ids.any fun id => SameDouble a id) ∧
      Condition.eval (some (.arr (ids.map fun id => .num (.int id))))
          (.obj [("$contains", .num (.int a))]) =
        .ok (ids.any fun id => SameDouble id a)) ∧
    ∀ (scope : Vars) (key : String) (items : List Json) (idOf : Json → Int),
      (∀ item ∈ items, Fits (idOf item) ∧
        Projection.target item key = some (.num (.int (idOf item)))) →
      Projection.node scope (.obj [("$element", .obj [("from", .arr items),
          ("where", .obj [(key, .num (.int a))])])]) =
        .ok ((items.find? fun item => SameDouble (idOf item) a).getD .null) := by
  refine ⟨?order, ?same, ?lists, ?records⟩
  case order =>
    intro b hb
    exact Condition.finds_integers ha hb
  case same =>
    intro b h hne
    have hla : 2 ^ 53 ≤ a.natAbs :=
      Nat.le_of_not_lt fun hlt => hne (Double.eq_of_nearestInt_eq hlt h)
    have hlb : 2 ^ 53 ≤ b.natAbs :=
      Nat.le_of_not_lt fun hlt => hne (Double.eq_of_nearestInt_eq hlt h.symm).symm
    exact ⟨hla, hlb, Double.close_of_nearestInt_eq h⟩
  case lists =>
    intro ids hi
    exact ⟨Condition.eval_in_ids ha hi, Condition.eval_contains_id ha hi⟩
  case records =>
    intro scope key items idOf hi
    exact Projection.node_element_integer ha hi

/-- The first two integers with the same double. -/
def twin : Int := 2 ^ 53

def otherTwin : Int := 2 ^ 53 + 1

def record (id : Int) : Json := .obj [("id", .num (.int id))]

def idOfRecord : Json → Int
  | .obj [(_, .num (.int id))] => id
  | _ => 0

theorem ordered_up_to_sameDouble_twin :
    Fits twin ∧
    (Fits (2 ^ 64 - 1) ∧ Condition.Finds (.num (.int twin)) (.num (.int (2 ^ 64 - 1))) .lt) ∧
    (SameDouble twin otherTwin ∧ twin ≠ otherTwin ∧
      2 ^ 53 * (twin - otherTwin).natAbs ≤ twin.natAbs + otherTwin.natAbs) ∧
    ((∀ id ∈ [2, otherTwin], Fits id) ∧
      Condition.eval (some (.num (.int twin)))
        (.obj [("$in", .arr ([2, otherTwin].map fun id => .num (.int id)))]) = .ok true ∧
      Condition.eval (some (.arr ([2, otherTwin].map fun id => .num (.int id))))
        (.obj [("$contains", .num (.int twin))]) = .ok true) ∧
    ∀ scope, Projection.node scope (.obj [("$element",
        .obj [("from", .arr [record 2, record otherTwin]),
          ("where", .obj [("id", .num (.int twin))])])]) = .ok (record otherTwin) := by
  have ht : Fits twin := by decide
  have hl : Fits (2 ^ 64 - 1) := by decide
  have hst : SameDouble twin otherTwin := by decide
  have hne : twin ≠ otherTwin := by decide
  have hids : ∀ id ∈ [2, otherTwin], Fits id := by decide
  have hitems : ∀ item ∈ [record 2, record otherTwin], Fits (idOfRecord item) ∧
      Projection.target item "id" = some (.num (.int (idOfRecord item))) := by decide
  obtain ⟨horder, hsame, hlists, hrecords⟩ := ordered_up_to_sameDouble twin ht
  obtain ⟨hin, hcontains⟩ := hlists _ hids
  refine ⟨ht, ⟨hl, horder _ hl⟩, ⟨hst, hne, (hsame _ hst hne).2.2⟩, ⟨hids, ?_, ?_⟩, ?_⟩
  · exact hin.trans (congrArg Except.ok (by decide))
  · exact hcontains.trans (congrArg Except.ok (by decide))
  · intro scope
    exact (hrecords scope "id" _ idOfRecord hitems).trans (congrArg Except.ok (by decide))

/-- Different integers of a document are found equal, and neither is found below the other. -/
theorem twins_equal :
    (Fits twin ∧ Fits otherTwin ∧ twin < otherTwin) ∧
    (Json.num (.int twin)).alike (.num (.int otherTwin)) = true ∧
    Condition.eval (some (.num (.int twin))) (.obj [("$lt", .num (.int otherTwin))]) = .ok false ∧
    Condition.eval (some (.num (.int twin))) (.obj [("$gte", .num (.int otherTwin))]) = .ok true ∧
    Condition.eval (some (.num (.int twin))) (.obj [("$in", .arr [.num (.int otherTwin)])]) =
      .ok true := by
  have ht : Fits twin := by decide
  have ho : Fits otherTwin := by decide
  have hf := Condition.finds_integers ht ho
  have horder : orderOf twin otherTwin = .eq := by decide
  rw [horder] at hf
  have hids : ∀ id ∈ [otherTwin], Fits id := by decide
  have hin := Condition.eval_in_ids ht hids
  exact ⟨⟨ht, ho, by decide⟩, hf.alike, hf.lt, hf.gte, hin.trans (congrArg Except.ok (by decide))⟩

end Number

end Stepwise
