import Stepwise.Double.Decimal
import Stepwise.Proofs.Double
import Stepwise.Proofs.Text

namespace Stepwise

namespace Double

variable {a b c k n : Nat} {negative : Bool} {d : Double}

theorem roundHalfEven_of_close (hb : 0 < b) (hl : 2 * (n * b) < 2 * a + b)
    (hu : 2 * a < 2 * (n * b) + b) : roundHalfEven a b = n := by
  obtain ⟨hlo, hhi⟩ := roundHalfEven_close a hb
  have hle : roundHalfEven a b * b < (n + 1) * b := by
    rw [Nat.succ_mul]
    omega
  have hge : n * b < (roundHalfEven a b + 1) * b := by
    rw [Nat.succ_mul]
    omega
  have hle := Nat.lt_of_mul_lt_mul_right hle
  have hge := Nat.lt_of_mul_lt_mul_right hge
  omega

/-- A quotient that is off by less than one part in `2 · 10^16`. -/
structure Close (magnitude a b : Nat) : Prop where
  positive : 0 < b
  lower : 20000000000000000 * (magnitude * b) ≤ 20000000000000000 * a + magnitude * b
  upper : 20000000000000000 * a ≤ 20000000000000000 * (magnitude * b) + magnitude * b

/-- A quotient close to a significand with 53 bits is rounded to it. -/
theorem Close.roundHalfEven (h : Close n a b) (hn : n ≤ 2 * leadingBit) :
    roundHalfEven a b = n := by
  have hm := Nat.mul_le_mul_right b hn
  have hp := h.positive
  have hl := h.lower
  have hu := h.upper
  unfold leadingBit at hm
  refine roundHalfEven_of_close hp ?_ ?_ <;> omega

theorem make?_self (d : Double) : make? d.negative d.significand d.shift = some d :=
  dif_pos d.canonical

/-- The bits that a quotient has beyond those of a significand. -/
theorem spareBits_div {shift : Nat} (hb : 0 < b) (hl : leadingBit * (b * 2 ^ shift) ≤ a)
    (hu : a < 2 * leadingBit * (b * 2 ^ shift)) : spareBits (a / b) = shift := by
  have hlo : 2 ^ (52 + shift) ≤ a / b := by
    rw [Nat.le_div_iff_mul_le hb, Nat.pow_add, Nat.mul_assoc, Nat.mul_comm _ b]
    exact hl
  have hhi : a / b < 2 ^ (53 + shift) := by
    rw [Nat.div_lt_iff_lt_mul hb, Nat.pow_add, Nat.mul_assoc, Nat.mul_comm _ b]
    exact hu
  have hn : a / b ≠ 0 := Nat.ne_of_gt (Nat.lt_of_lt_of_le (Nat.two_pow_pos _) hlo)
  have hl := (Nat.le_log2 hn).mpr hlo
  have hu := (Nat.log2_lt hn).mpr hhi
  unfold spareBits
  omega

theorem nearest?_eq (negative : Bool) (a b : Nat) : nearest? negative a b =
    if roundHalfEven a (b * 2 ^ spareBits (a / b)) < 2 * leadingBit then
      make? negative (roundHalfEven a (b * 2 ^ spareBits (a / b))) (spareBits (a / b))
    else make? negative leadingBit (spareBits (a / b) + 1) := by
  rw [← Nat.shiftLeft_eq]
  rfl

theorem Close.lt_mul (h : Close n a b) (hn : n < 2 * leadingBit) : a < 2 * leadingBit * b := by
  have hm := Nat.mul_le_mul_right b (Nat.le_sub_one_of_lt hn)
  have hp := h.positive
  have hu := h.upper
  unfold leadingBit at hm ⊢
  omega

/-- Below a power of two the doubles lie twice as dense as above it. -/
theorem Close.of_lt (h : Close n a b) (hn : leadingBit ≤ n) (ha : a < leadingBit * b) :
    n = leadingBit := by
  rcases Nat.lt_or_eq_of_le hn with hlt | rfl
  · have hm := Nat.mul_le_mul_right b (Nat.succ_le_of_lt hlt)
    have hp := h.positive
    have hl := h.lower
    unfold leadingBit at hm ha
    omega
  · rfl

theorem nearest?_of_round {shift : Nat} (hs : spareBits (a / b) = shift)
    (hr : roundHalfEven a (b * 2 ^ shift) = n) (hn : n < 2 * leadingBit) :
    nearest? negative a b = make? negative n shift := by
  rw [nearest?_eq, hs, hr, if_pos hn]

/-- A quotient of units that is close to a double is rounded to it. -/
theorem nearest?_of_close (h : Close d.magnitude a b) :
    nearest? d.negative a b = some d := by
  obtain ⟨hlt, hnormal, _⟩ := d.canonical
  have hb := h.positive
  have hc : Close d.significand a (b * 2 ^ d.shift) := by
    have he : d.magnitude * b = d.significand * (b * 2 ^ d.shift) := by
      rw [magnitude, Nat.shiftLeft_eq, Nat.mul_assoc, Nat.mul_comm _ b]
    exact ⟨Nat.mul_pos hb (Nat.two_pow_pos _), he ▸ h.lower, he ▸ h.upper⟩
  have hu := hc.lt_mul hlt
  have hr := hc.roundHalfEven (Nat.le_of_lt hlt)
  by_cases hl : leadingBit * (b * 2 ^ d.shift) ≤ a
  · rw [nearest?_of_round (spareBits_div hb hl hu) hr hlt, make?_self]
  cases hs : d.shift with
  | zero =>
    rw [hs, Nat.pow_zero, Nat.mul_one] at hu
    have hz : spareBits (a / b) = 0 := spareBits_eq_zero ((Nat.div_lt_iff_lt_mul hb).mpr hu)
    rw [hs] at hr
    rw [nearest?_of_round hz hr hlt, ← hs, make?_self]
  | succ t =>
    -- the quotient is below the power of two that the double is, where one more bit counts
    have hn : d.significand = leadingBit :=
      hc.of_lt (hnormal.resolve_left (by omega)) (Nat.lt_of_not_le hl)
    have he : leadingBit * (b * 2 ^ d.shift) = 2 * leadingBit * (b * 2 ^ t) := by
      rw [hs, Nat.pow_succ, Nat.mul_comm 2 leadingBit, Nat.mul_assoc leadingBit, Nat.mul_comm 2,
        Nat.mul_assoc b]
    have hc : Close (2 * leadingBit) a (b * 2 ^ t) := by
      rw [hn] at hc
      exact ⟨Nat.mul_pos hb (Nat.two_pow_pos _), he ▸ hc.lower, he ▸ hc.upper⟩
    have hr := hc.roundHalfEven (Nat.le_refl _)
    have hl' : leadingBit * (b * 2 ^ t) ≤ a := by
      have hp := hc.positive
      have hl := hc.lower
      unfold leadingBit at hl ⊢
      omega
    have hz : spareBits (a / b) = t := spareBits_div hb hl' (by omega)
    rw [nearest?_eq, hz, hr, if_neg (Nat.lt_irrefl _), ← hn, ← hs, make?_self]

theorem nearest?_mul_right (negative : Bool) (a b : Nat) (hk : 0 < k) :
    nearest? negative (a * k) (b * k) = nearest? negative a b := by
  rw [nearest?_eq, nearest?_eq, Nat.mul_div_mul_right _ _ hk, Nat.mul_right_comm b k,
    roundHalfEven_mul_right _ _ hk]

/-- Equal quotients are rounded to one double. -/
theorem nearest?_congr {a' b' : Nat} (hb : 0 < b) (hb' : 0 < b') (h : a * b' = a' * b) :
    nearest? negative a b = nearest? negative a' b' := by
  rw [← nearest?_mul_right negative a b hb', ← nearest?_mul_right negative a' b' hb, h,
    Nat.mul_comm b]

end Double

namespace Decimal

variable {e : Int} {c k : Nat} {x : Decimal}

/-- A power of ten is a quotient of two powers, of which one is 1. -/
def tens (e : Int) : Nat := 10 ^ e.toNat

def tenths (e : Int) : Nat := 10 ^ (-e).toNat

theorem tenths_pos (e : Int) : 0 < tenths e := Nat.pow_pos (by decide)

theorem tens_of_nonpos (h : e ≤ 0) : tens e = 1 := by rw [tens, Int.toNat_of_nonpos h, Nat.pow_zero]

theorem tenths_of_nonneg (h : 0 ≤ e) : tenths e = 1 := by
  rw [tenths, Int.toNat_of_nonpos (by omega), Nat.pow_zero]

theorem tens_natCast (k : Nat) : tens k = 10 ^ k := by rw [tens, Int.toNat_natCast]

theorem tenths_neg_natCast (k : Nat) : tenths (-k) = 10 ^ k := by
  rw [tenths, Int.neg_neg, Int.toNat_natCast]

theorem pow_natAbs (h : e ≤ 0) : Nat.pow 10 e.natAbs = tenths e := by
  have hn : e.natAbs = (-e).toNat := by omega
  rw [tenths, ← hn]
  rfl

theorem tens_mul_tenths (e : Int) (k : Nat) :
    tens (e + k) * tenths e = 10 ^ k * (tens e * tenths (e + k)) := by
  unfold tens tenths
  rw [← Nat.pow_add, ← Nat.pow_add, ← Nat.pow_add]
  congr 1
  omega

theorem digits_mul_ten_pow (hc : c ≠ 0) (k : Nat) :
    Text.Numeral.digits (c * 10 ^ k) = Text.Numeral.digits c ++ List.replicate k '0' := by
  induction k with
  | zero => simp
  | succ k ih =>
    have hk : 0 < c * 10 ^ k := Nat.mul_pos (Nat.pos_of_ne_zero hc) (Nat.pow_pos (by decide))
    have hd := Nat.toDigits_append_toDigits (b := 10) (d := 0) (by decide) hk (by decide)
    rw [Nat.toDigits_zero, Nat.add_zero, Nat.mul_comm 10, Nat.mul_assoc, ← Nat.pow_succ] at hd
    rw [List.replicate_succ', ← List.append_assoc, ← ih]
    exact hd.symm

theorem leading_mul_ten_pow (hc : c ≠ 0) (e : Int) (k : Nat) :
    leading ⟨c * 10 ^ k, e - k⟩ = leading ⟨c, e⟩ := by
  simp only [leading, digits, digits_mul_ten_pow hc, List.length_append,
    List.length_replicate]
  omega

end Decimal

namespace Double

variable {a b c k n : Nat} {e : Int} {negative : Bool} {d : Double} {x : Decimal}

open Decimal

theorem ofDecimal?_eq (negative : Bool) (x : Decimal) : ofDecimal? negative x =
    if x.coefficient = 0 then some (zero negative)
    else if 310 < x.leading then none
    else if x.leading < -345 then some (zero negative)
    else nearest? negative (x.coefficient * tens x.exponent * unitsPerOne) (tenths x.exponent) := by
  unfold ofDecimal?
  by_cases he : 0 ≤ x.exponent
  · rw [if_pos he, tenths_of_nonneg he]
    rfl
  · have hn : x.exponent ≤ 0 := by omega
    rw [if_neg he, tens_of_nonpos hn, Nat.mul_one, pow_natAbs hn]

/-- Zeros at the end of the coefficient can be moved into the exponent. -/
theorem ofDecimal?_mul_ten_pow (negative : Bool) (c : Nat) (e : Int) (k : Nat) :
    ofDecimal? negative ⟨c * 10 ^ k, e - k⟩ = ofDecimal? negative ⟨c, e⟩ := by
  rcases Nat.eq_zero_or_pos c with rfl | hc
  · rw [Nat.zero_mul]
    rfl
  have hc := Nat.ne_of_gt hc
  have hk : c * 10 ^ k ≠ 0 := Nat.mul_ne_zero hc (Nat.ne_of_gt (Nat.pow_pos (by decide)))
  have hn : nearest? negative (c * 10 ^ k * tens (e - k) * unitsPerOne) (tenths (e - k)) =
      nearest? negative (c * tens e * unitsPerOne) (tenths e) := by
    refine nearest?_congr (tenths_pos _) (tenths_pos _) ?_
    have ht := tens_mul_tenths (e - k) k
    rw [Int.sub_add_cancel] at ht
    calc c * 10 ^ k * tens (e - k) * unitsPerOne * tenths e
        = c * (10 ^ k * (tens (e - k) * tenths e)) * unitsPerOne := by ac_rfl
      _ = c * tens e * unitsPerOne * tenths (e - k) := by
        rw [← ht]
        ac_rfl
  rw [ofDecimal?_eq, ofDecimal?_eq]
  simp only [leading_mul_ten_pow hc, hc, hk, hn]

theorem ofDecimal?_strip (negative : Bool) (count : Nat) (x : Decimal) :
    ofDecimal? negative (x.strip count) = ofDecimal? negative x := by
  induction count generalizing x with
  | zero => rfl
  | succ count ih =>
    rw [strip]
    split
    next h =>
      have hc : x.coefficient / 10 * 10 ^ 1 = x.coefficient := by omega
      have hs := ofDecimal?_mul_ten_pow negative (x.coefficient / 10) (x.exponent + 1) 1
      rw [hc, Int.natCast_one, Int.add_sub_cancel] at hs
      rw [ih, ← hs]
    next => rfl

theorem leadingBelowOne_eq (numerator denominator count : Nat) :
    ∃ k : Nat, leadingBelowOne numerator denominator count = -(k : Int) ∧ k ≤ count ∧
      (∀ j < k, numerator * 10 ^ j < denominator) ∧
      (k < count → denominator ≤ numerator * 10 ^ k) := by
  induction count generalizing numerator with
  | zero => exact ⟨0, rfl, Nat.le_refl _, fun j hj => by omega, fun h => by omega⟩
  | succ count ih =>
    rw [leadingBelowOne]
    split
    next h => exact ⟨0, rfl, Nat.zero_le _, fun j hj => by omega, fun _ => by simpa using h⟩
    next h =>
      obtain ⟨k, hk, hle, hlow, hhigh⟩ := ih (numerator * 10)
      refine ⟨k + 1, by omega, by omega, fun j hj => ?_, fun hlt => ?_⟩
      · cases j with
        | zero => simpa using h
        | succ j =>
          rw [Nat.pow_succ', ← Nat.mul_assoc]
          exact hlow j (by omega)
      · rw [Nat.pow_succ', ← Nat.mul_assoc]
        exact hhigh (by omega)

/-- A double other than zero lies between two powers of ten, and its first digit says which. -/
structure Leads (d : Double) (e : Int) : Prop where
  lower : tens e * unitsPerOne ≤ d.magnitude * tenths e
  upper : d.magnitude * tenths (e + 1) < tens (e + 1) * unitsPerOne
  ge : -330 ≤ e
  le : e ≤ 308

theorem magnitude_lt (d : Double) : d.magnitude < 10 ^ 309 * unitsPerOne := by
  have hc := d.canonical
  obtain ⟨top, ht⟩ : ∃ top, top = 2045 := ⟨_, rfl⟩
  have hp : 2 ^ d.shift ≤ 2 ^ top := Nat.pow_le_pow_right (by decide) (ht ▸ hc.2.2)
  have hl : 2 * leadingBit * 2 ^ top ≤ 10 ^ 309 * unitsPerOne := by
    subst ht
    decide +kernel
  rw [magnitude, Nat.shiftLeft_eq]
  calc d.significand * 2 ^ d.shift ≤ d.significand * 2 ^ top := Nat.mul_le_mul_left _ hp
    _ < 2 * leadingBit * 2 ^ top := Nat.mul_lt_mul_of_pos_right hc.1 (Nat.two_pow_pos _)
    _ ≤ 10 ^ 309 * unitsPerOne := hl

/-- A number lies between the powers of ten that its digits count. -/
theorem exists_places (hn : 0 < n) :
    ∃ places, (Text.Numeral.digits n).length = places + 1 ∧ 10 ^ places ≤ n ∧
      n < 10 ^ (places + 1) := by
  have hpos : 0 < (Text.Numeral.digits n).length := Nat.length_toDigits_pos
  obtain ⟨places, hl⟩ : ∃ places, (Text.Numeral.digits n).length = places + 1 :=
    ⟨(Text.Numeral.digits n).length - 1, by omega⟩
  refine ⟨places, hl, ?_, ?_⟩
  · rcases Nat.eq_zero_or_pos places with rfl | hp
    · exact hn
    · refine Nat.le_of_not_lt fun h => ?_
      have hle : (Text.Numeral.digits n).length ≤ places :=
        (Nat.length_toDigits_le_iff (by decide) hp).mpr h
      omega
  · exact (Nat.length_toDigits_le_iff (by decide) (Nat.succ_pos places)).mp (Nat.le_of_eq hl)

theorem leads_leadingPower_of_le (hu : unitsPerOne ≤ d.magnitude) : d.Leads d.leadingPower := by
  obtain ⟨places, hl, hge, hlt⟩ := exists_places (Nat.div_pos hu unitsPerOne_pos)
  have hle : places < 309 := by
    have hm := (Nat.div_lt_iff_lt_mul unitsPerOne_pos).mpr d.magnitude_lt
    generalize 309 = top at hm ⊢
    exact (Nat.pow_lt_pow_iff_right (by decide)).mp (Nat.lt_of_le_of_lt hge hm)
  have he : ((places + 1 : Nat) : Int) - 1 = places := by omega
  rw [leadingPower, if_pos hu, hl, he]
  refine ⟨?_, ?_, by omega, by omega⟩
  · rw [tens_natCast, tenths_of_nonneg (by omega), Nat.mul_one]
    exact (Nat.le_div_iff_mul_le unitsPerOne_pos).mp hge
  · rw [← Int.natCast_succ, tens_natCast, tenths_of_nonneg (by omega), Nat.mul_one]
    exact (Nat.div_lt_iff_lt_mul unitsPerOne_pos).mp hlt

theorem leads_leadingPower_of_lt (hd : d.magnitude ≠ 0) (hu : d.magnitude < unitsPerOne) :
    d.Leads d.leadingPower := by
  obtain ⟨k, hk, hle, hlow, hhigh⟩ := leadingBelowOne_eq d.magnitude unitsPerOne 330
  have hlt : k < 330 := by
    refine Nat.lt_of_le_of_ne hle fun he => ?_
    have hs : d.magnitude * 10 ^ 329 < unitsPerOne := hlow 329 (by omega)
    have hm : 1 * 10 ^ 329 ≤ d.magnitude * 10 ^ 329 :=
      Nat.mul_le_mul_right _ (Nat.pos_of_ne_zero hd)
    have hu : unitsPerOne ≤ 1 * 10 ^ 329 := by decide +kernel
    omega
  have hpos : 0 < k := by
    refine Nat.pos_of_ne_zero fun hz => ?_
    have hs := hhigh hlt
    rw [hz, Nat.pow_zero, Nat.mul_one] at hs
    exact Nat.not_le_of_gt hu hs
  rw [leadingPower, if_neg (Nat.not_le_of_gt hu), hk]
  refine ⟨?_, ?_, by omega, by omega⟩
  · rw [tens_of_nonpos (by omega), tenths_neg_natCast, Nat.one_mul]
    exact hhigh hlt
  · have hn : -(k : Int) + 1 = -((k - 1 : Nat) : Int) := by omega
    rw [hn, tens_of_nonpos (by omega), tenths_neg_natCast, Nat.one_mul]
    exact hlow (k - 1) (by omega)

theorem leads_leadingPower (hd : d.magnitude ≠ 0) : d.Leads d.leadingPower := by
  rcases Nat.lt_or_ge d.magnitude unitsPerOne with hu | hu
  · exact leads_leadingPower_of_lt hd hu
  · exact leads_leadingPower_of_le hu

theorem Leads.bounds (h : d.Leads (e + 16)) :
    10 ^ 16 * (unitsPerOne * tens e) ≤ d.magnitude * tenths e ∧
      d.magnitude * tenths e < 10 ^ 17 * (unitsPerOne * tens e) := by
  constructor
  · have ht : tens (e + 16) * tenths e = 10 ^ 16 * (tens e * tenths (e + 16)) :=
      tens_mul_tenths e 16
    refine Nat.le_of_mul_le_mul_right ?_ (tenths_pos (e + 16))
    calc 10 ^ 16 * (unitsPerOne * tens e) * tenths (e + 16)
        = 10 ^ 16 * (tens e * tenths (e + 16)) * unitsPerOne := by ac_rfl
      _ = tens (e + 16) * unitsPerOne * tenths e := by
        rw [← ht]
        exact Nat.mul_right_comm _ _ _
      _ ≤ d.magnitude * tenths (e + 16) * tenths e := Nat.mul_le_mul_right _ h.lower
      _ = d.magnitude * tenths e * tenths (e + 16) := Nat.mul_right_comm _ _ _
  · have ht : tens (e + 17) * tenths e = 10 ^ 17 * (tens e * tenths (e + 17)) :=
      tens_mul_tenths e 17
    have hu := h.upper
    rw [Int.add_assoc] at hu
    refine Nat.lt_of_mul_lt_mul_right ?_ (a := tenths (e + 17))
    calc d.magnitude * tenths e * tenths (e + 17)
        = d.magnitude * tenths (e + 17) * tenths e := Nat.mul_right_comm _ _ _
      _ < tens (e + 17) * unitsPerOne * tenths e := Nat.mul_lt_mul_of_pos_right hu (tenths_pos e)
      _ = 10 ^ 17 * (tens e * tenths (e + 17)) * unitsPerOne := by
        rw [← ht]
        exact Nat.mul_right_comm _ _ _
      _ = 10 ^ 17 * (unitsPerOne * tens e) * tenths (e + 17) := by ac_rfl

/-- The nearest number with seventeen digits is close to a double. -/
theorem ofDecimal?_of_leads (h : d.Leads (e + 16)) :
    ofDecimal? d.negative
      ⟨roundHalfEven (d.magnitude * tenths e) (unitsPerOne * tens e), e⟩ = some d := by
  obtain ⟨hlo, hhi⟩ := h.bounds
  have hD : 0 < unitsPerOne * tens e := Nat.mul_pos unitsPerOne_pos (Nat.pow_pos (by decide))
  obtain ⟨hl, hu⟩ := roundHalfEven_close (d.magnitude * tenths e) hD
  have hge := roundHalfEven_mono (unitsPerOne * tens e) hlo
  have hle := roundHalfEven_mono (unitsPerOne * tens e) (Nat.le_of_lt hhi)
  rw [roundHalfEven_multiple _ hD] at hge hle
  generalize hr : roundHalfEven (d.magnitude * tenths e) (unitsPerOne * tens e) = r at *
  have hclose : Close d.magnitude (r * tens e * unitsPerOne) (tenths e) := by
    have he : r * tens e * unitsPerOne = r * (unitsPerOne * tens e) := by ac_rfl
    refine ⟨tenths_pos e, ?_, ?_⟩ <;> rw [he] <;> omega
  have hlow : 16 < (Text.Numeral.digits r).length := by
    refine Nat.lt_of_not_le fun hn => ?_
    have hr := (Nat.length_toDigits_le_iff (by decide) (by decide)).mp hn
    omega
  have hhigh : (Text.Numeral.digits r).length ≤ 18 :=
    (Nat.length_toDigits_le_iff (by decide) (by decide)).mpr (by omega)
  have hge := h.ge
  have hle := h.le
  rw [ofDecimal?_eq, if_neg (show r ≠ 0 by omega), if_neg, if_neg, nearest?_of_close hclose]
  · simp only [leading, digits]
    omega
  · simp only [leading, digits]
    omega

theorem of_shortestOf? (h : d.shortestOf? n = some x) : ofDecimal? d.negative x = some d := by
  unfold shortestOf? at h
  have hx := List.find?_some h
  exact eq_of_beq hx

theorem isSome_shortestOf? (hd : d.magnitude ≠ 0) : (d.shortestOf? 17).isSome = true := by
  obtain ⟨e, he⟩ : ∃ e, d.leadingPower = e + 16 := ⟨d.leadingPower - 16, by omega⟩
  have hl := leads_leadingPower hd
  rw [he] at hl
  have hx := ofDecimal?_of_leads hl
  have hn : e + 16 - ((17 : Nat) : Int) + 1 = e := by omega
  have hnumerator : (if 0 ≤ e then d.magnitude else d.magnitude * Nat.pow 10 e.natAbs) =
      d.magnitude * tenths e := by
    split
    next h => rw [tenths_of_nonneg h, Nat.mul_one]
    next h => rw [pow_natAbs (by omega)]
  have hdenominator : (if 0 ≤ e then unitsPerOne * Nat.pow 10 e.toNat else unitsPerOne) =
      unitsPerOne * tens e := by
    split
    next h => rfl
    next h => rw [tens_of_nonpos (by omega), Nat.mul_one]
  simp only [shortestOf?, he, hn, hnumerator, hdenominator]
  rw [List.find?_isSome]
  refine ⟨_, ?_, beq_iff_eq.mpr hx⟩
  rcases roundHalfEven_cases (d.magnitude * tenths e) (unitsPerOne * tens e) with ⟨hr, _⟩ | ⟨hr, _⟩
  · simp [hr]
  · simp [hr]

/-- The shortest decimal of a double reads back to it. -/
theorem ofDecimal?_shortest (d : Double) : ofDecimal? d.negative d.shortest = some d := by
  unfold shortest
  split
  next hz =>
    have hs : d.significand = 0 := by simpa [isZero] using hz
    have hn : d.shift = 0 := by
      rcases d.canonical.2.1 with h | h
      · exact h
      · rw [hs] at h
        exact absurd h (by decide)
    obtain ⟨negative, significand, shift, hc⟩ := d
    simp only at hs hn
    subst hs hn
    rfl
  next hz =>
    have hm : d.magnitude ≠ 0 := by
      rw [magnitude, Nat.shiftLeft_eq]
      exact Nat.mul_ne_zero (by simpa [isZero] using hz) (Nat.ne_of_gt (Nat.two_pow_pos _))
    rw [ofDecimal?_strip]
    cases hf : (List.range 17).findSome? fun n => d.shortestOf? (n + 1) with
    | none =>
      have hn := List.findSome?_eq_none_iff.mp hf 16 (List.mem_range.mpr (by decide))
      have hs := isSome_shortestOf? hm
      rw [hn] at hs
      cases hs
    | some x =>
      obtain ⟨n, _, hx⟩ := List.exists_of_findSome?_eq_some hf
      exact of_shortestOf? hx

end Double

end Stepwise
