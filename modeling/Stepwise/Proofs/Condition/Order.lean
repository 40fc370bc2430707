import Stepwise.Proofs.Condition.Boolean
import Stepwise.Proofs.Condition.Numbers

namespace Stepwise.Condition

variable {u v w operand : Json} {value : Option Json} {order next : Ordering} {op : Operator}

/-- Two numbers, in whatever form they are written, or two texts. -/
inductive Comparable : Json → Json → Prop
  | numbers (x y : Number) : Comparable (.num x) (.num y)
  | texts (s t : String) : Comparable (.str s) (.str t)

/-- The order of two numbers, or of two texts. -/
inductive Ordered : Json → Json → Ordering → Prop
  | numbers (x y : Number) :
      Ordered (.num x) (.num y) (Ord.compare x.toDouble.scaled y.toDouble.scaled)
  | texts (s t : String) : Ordered (.str s) (.str t) (Ord.compare s t)

theorem Comparable.exists_ordered (h : Comparable v w) : ∃ order, Ordered v w order := by
  cases h with
  | numbers x y => exact ⟨_, .numbers x y⟩
  | texts s t => exact ⟨_, .texts s t⟩

theorem Ordered.comparable (h : Ordered v w order) : Comparable v w := by
  cases h with
  | numbers x y => exact .numbers x y
  | texts s t => exact .texts s t

theorem Ordered.compare_eq (h : Ordered v w order) : compare (some v) w = some order := by
  cases h with
  | numbers x y => rfl
  | texts s t => rfl

theorem exists_ordered_of_compare (h : compare value operand = some order) :
    ∃ v, value = some v ∧ Ordered v operand order := by
  unfold compare at h
  split at h
  next x y =>
    cases h
    exact ⟨_, rfl, .numbers x y⟩
  next s t =>
    cases h
    exact ⟨_, rfl, .texts s t⟩
  next => cases h

/-- Two values are alike just when neither of them comes first. -/
theorem Ordered.alike (h : Ordered v w order) : v.alike w = (order == .eq) := by
  cases h with
  | numbers x y =>
    rw [Json.alike, Double.same, Bool.eq_iff_iff, beq_iff_eq, beq_iff_eq,
      Std.LawfulEqOrd.compare_eq_iff_eq]
  | texts s t =>
    rw [Json.alike, Bool.eq_iff_iff, beq_iff_eq, beq_iff_eq, Std.LawfulEqOrd.compare_eq_iff_eq]

theorem Ordered.swap (h : Ordered v w order) : Ordered w v order.swap := by
  cases h with
  | numbers x y =>
    rw [← Std.OrientedOrd.eq_swap]
    exact .numbers y x
  | texts s t =>
    rw [← Std.OrientedOrd.eq_swap]
    exact .texts t s

/-- Each of the two orders is transitive, and a number and a text never meet in the middle. -/
theorem Ordered.trans (h : Ordered u v order) (hw : Ordered v w next) :
    ∃ last, Ordered u w last ∧ (order = .lt → next = .lt → last = .lt) ∧
      (order.isLE → next.isLE → last.isLE) := by
  cases h with
  | numbers x y =>
    cases hw with
    | numbers _ z => exact ⟨_, .numbers x z, Std.TransCmp.lt_trans, Std.TransCmp.isLE_trans⟩
  | texts s t =>
    cases hw with
    | texts _ r => exact ⟨_, .texts s r, Std.TransCmp.lt_trans, Std.TransCmp.isLE_trans⟩

theorem Ordered.finds (h : Ordered v w order) : Finds v w order :=
  finds_of_compare h.alike h.compare_eq

def comparisons : List Operator := [.gt, .lt, .gte, .lte]

/-- The orders that an operator which compares is met by. -/
def Operator.admits : Operator → Ordering → Bool
  | .gt => (· == .gt)
  | .lt => (· == .lt)
  | .gte => (· != .lt)
  | .lte => (· != .gt)
  | _ => fun _ => false

theorem test_comparison (hop : op ∈ comparisons) (value : Option Json) (operand : Json) :
    op.test value operand = .ok ((compare value operand).any op.admits) := by
  simp only [comparisons, List.mem_cons, List.not_mem_nil, or_false] at hop
  rcases hop with rfl | rfl | rfl | rfl <;> rw [Operator.test] <;>
    cases compare value operand <;> rfl

theorem eval_comparison (hop : op ∈ comparisons) (value : Option Json) (operand : Json) :
    eval value (single op operand) = .ok ((compare value operand).any op.admits) := by
  have hs : op ≠ .or := by
    rintro rfl
    revert hop
    decide
  rw [single, eval_single op hs, test_comparison hop]

theorem eval_comparison_true_iff (hop : op ∈ comparisons) :
    eval (some v) (single op w) = .ok true ↔ ∃ order, Ordered v w order ∧ op.admits order := by
  rw [eval_comparison hop, Except.ok.injEq, Option.any_eq_true]
  constructor
  · rintro ⟨order, hc, ha⟩
    obtain ⟨_, hv, ho⟩ := exists_ordered_of_compare hc
    cases hv
    exact ⟨order, ho, ha⟩
  · rintro ⟨order, ho, ha⟩
    exact ⟨order, ho.compare_eq, ha⟩

theorem eval_incomparable (hop : op ∈ comparisons)
    (h : ∀ v, value = some v → ¬Comparable v operand) :
    eval value (single op operand) = .ok false := by
  rw [eval_comparison hop]
  cases hc : compare value operand with
  | none => rfl
  | some order =>
    obtain ⟨v, hv, ho⟩ := exists_ordered_of_compare hc
    exact absurd ho.comparable (h v hv)

/-- What comes strictly first stays first, and so does what does not come last. -/
theorem eval_comparison_trans (hop : op ∈ [Operator.lt, .lte])
    (hv : eval (some u) (single op v) = .ok true) (hw : eval (some v) (single op w) = .ok true) :
    eval (some u) (single op w) = .ok true := by
  have hc : op ∈ comparisons := by
    revert hop
    cases op <;> decide
  obtain ⟨order, ho, ha⟩ := (eval_comparison_true_iff hc).mp hv
  obtain ⟨next, hn, hb⟩ := (eval_comparison_true_iff hc).mp hw
  obtain ⟨last, hl, hlt, hle⟩ := ho.trans hn
  refine (eval_comparison_true_iff hc).mpr ⟨last, hl, ?_⟩
  simp only [List.mem_cons, List.not_mem_nil, or_false] at hop
  rcases hop with rfl | rfl
  · exact beq_iff_eq.mpr (hlt (beq_iff_eq.mp ha) (beq_iff_eq.mp hb))
  · have hiff : ∀ o : Ordering, Operator.admits .lte o = o.isLE := by decide
    rw [hiff] at ha hb ⊢
    exact hle ha hb

/-- The operator among `$lt`, `$eq` and `$gt` that an order meets. -/
def Operator.ofOrder : Ordering → Operator
  | .lt => .lt
  | .eq => .eq
  | .gt => .gt

/-- Of two numbers or two texts exactly one of `$lt`, `$eq` and `$gt` holds, `$gte` and `$lte`
negate `$lt` and `$gt`, and these two change places with their values. Both `$lt` and `$lte` are
transitive. Nothing else, and no absent variable, meets any of the four operators that compare. -/
theorem comparison_laws :
    (∀ v w, Comparable v w →
      (∃ op ∈ [Operator.lt, .eq, .gt], ∀ other ∈ [Operator.lt, .eq, .gt],
        eval (some v) (single other w) = .ok (decide (other = op))) ∧
      (∃ met, eval (some v) (single .lt w) = .ok met ∧
        eval (some v) (single .gte w) = .ok !met) ∧
      (∃ met, eval (some v) (single .gt w) = .ok met ∧
        eval (some v) (single .lte w) = .ok !met) ∧
      eval (some w) (single .lt v) = eval (some v) (single .gt w) ∧
      eval (some w) (single .gt v) = eval (some v) (single .lt w)) ∧
    (∀ op ∈ [Operator.lt, .lte], ∀ u v w, eval (some u) (single op v) = .ok true →
      eval (some v) (single op w) = .ok true → eval (some u) (single op w) = .ok true) ∧
    ∀ value operand, (∀ v, value = some v → ¬Comparable v operand) →
      ∀ op ∈ [Operator.gt, .lt, .gte, .lte], eval value (single op operand) = .ok false := by
  refine ⟨?pairs, ?transitive, ?others⟩
  case pairs =>
    intro v w h
    obtain ⟨order, ho⟩ := h.exists_ordered
    have hf := ho.finds
    have hb := ho.swap.finds
    refine ⟨⟨Operator.ofOrder order, ?_, ?_⟩, ⟨_, hf.lt, ?_⟩, ⟨_, hf.gt, ?_⟩, ?_, ?_⟩
    · cases order <;> decide
    · intro other hm
      simp only [List.mem_cons, List.not_mem_nil, or_false] at hm
      rcases hm with rfl | rfl | rfl
      · exact hf.lt.trans (congrArg Except.ok (by cases order <;> rfl))
      · exact hf.eq.trans (congrArg Except.ok (by cases order <;> rfl))
      · exact hf.gt.trans (congrArg Except.ok (by cases order <;> rfl))
    · exact hf.gte
    · exact hf.lte
    · exact hb.lt.trans (Eq.trans (congrArg Except.ok (by cases order <;> rfl)) hf.gt.symm)
    · exact hb.gt.trans (Eq.trans (congrArg Except.ok (by cases order <;> rfl)) hf.lt.symm)
  case transitive =>
    intro op hop u v w hv hw
    exact eval_comparison_trans hop hv hw
  case others =>
    intro value operand h op hop
    exact eval_incomparable hop h

def negativeZero : Json := .num (.float (.zero true))

def half : Json := .num (.float ⟨false, Double.leadingBit, 1021, by decide⟩)

def one : Json := .num (.int 1)

/-- A half lies between the zero with a sign and the integer one; a digit is no number. -/
theorem comparison_laws_half :
    (Comparable half one ∧ eval (some half) (single .lt one) = .ok true ∧
      eval (some one) (single .gt half) = .ok true ∧
      eval (some half) (single .gte one) = .ok false) ∧
    (eval (some negativeZero) (single .lt half) = .ok true ∧
      eval (some negativeZero) (single .lt one) = .ok true) ∧
    (∀ v, some (Json.str "1") = some v → ¬Comparable v one) ∧
      eval (some (.str "1")) (single .gte one) = .ok false := by
  have hc : Comparable half one := .numbers _ _
  have hlt : eval (some half) (single .lt one) = .ok true := by decide +kernel
  have hz : eval (some negativeZero) (single .lt half) = .ok true := by decide +kernel
  have hn : ∀ v, some (Json.str "1") = some v → ¬Comparable v one := by
    rintro v hv hc
    cases hv
    cases hc
  obtain ⟨hpairs, htrans, hothers⟩ := comparison_laws
  obtain ⟨_, ⟨met, hm, hge⟩, _, _, hgt⟩ := hpairs half one hc
  obtain rfl : met = true := Except.ok.inj (hm.symm.trans hlt)
  exact ⟨⟨hc, hlt, hgt.trans hlt, hge⟩,
    ⟨hz, htrans .lt (by decide) negativeZero half one hz hlt⟩,
    hn, hothers _ _ hn .gte (by decide)⟩

end Stepwise.Condition
