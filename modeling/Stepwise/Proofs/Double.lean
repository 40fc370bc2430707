import Mathlib.Algebra.Order.Ring.Int
import Stepwise.Double.Basic

namespace Stepwise.Double

variable {a b d k m : Nat} {n : Int}

theorem roundHalfEven_cases (a d : Nat) :
    (roundHalfEven a d = a / d ∧ 2 * (a % d) ≤ d) ∨
      (roundHalfEven a d = a / d + 1 ∧ d ≤ 2 * (a % d)) := by
  unfold roundHalfEven
  dsimp only
  split
  · exact .inl ⟨rfl, by omega⟩
  · exact .inr ⟨rfl, by omega⟩

theorem roundHalfEven_mul_right (a d : Nat) (hk : 0 < k) :
    roundHalfEven (a * k) (d * k) = roundHalfEven a d := by
  have hl : 2 * (a % d * k) < d * k ↔ 2 * (a % d) < d := by
    rw [← Nat.mul_assoc, Nat.mul_lt_mul_right hk]
  have he : 2 * (a % d * k) = d * k ↔ 2 * (a % d) = d := by
    rw [← Nat.mul_assoc, Nat.mul_right_cancel_iff hk]
  simp only [roundHalfEven, Nat.mul_div_mul_right _ _ hk, Nat.mul_mod_mul_right, hl, he]

theorem roundHalfEven_multiple (a : Nat) (hd : 0 < d) : roundHalfEven (a * d) d = a := by
  have hq := Nat.mul_div_cancel a hd
  have hr := Nat.mul_mod_left a d
  rcases roundHalfEven_cases (a * d) d with ⟨h, _⟩ | ⟨_, h⟩ <;> omega

theorem roundHalfEven_one (a : Nat) : roundHalfEven a 1 = a := by
  simpa using roundHalfEven_multiple a Nat.one_pos

theorem roundHalfEven_mono (d : Nat) (h : a ≤ b) : roundHalfEven a d ≤ roundHalfEven b d := by
  have ha := Nat.div_add_mod a d
  have hb := Nat.div_add_mod b d
  rcases Nat.lt_or_eq_of_le (Nat.div_le_div_right h : a / d ≤ b / d) with hlt | he
  · have hra := roundHalfEven_cases a d
    have hrb := roundHalfEven_cases b d
    omega
  · rw [he] at ha
    have hr : a % d ≤ b % d := by omega
    simp only [roundHalfEven, he]
    split <;> split <;> omega

/-- The nearest multiple is off by half a step at most. -/
theorem roundHalfEven_close (a : Nat) (hd : 0 < d) :
    2 * (roundHalfEven a d * d) ≤ 2 * a + d ∧ 2 * a ≤ 2 * (roundHalfEven a d * d) + d := by
  have hm : a / d * d + a % d = a := by
    rw [Nat.mul_comm]
    exact Nat.div_add_mod a d
  have hr := Nat.mod_lt a hd
  rcases roundHalfEven_cases a d with ⟨h, hh⟩ | ⟨h, hh⟩
  · rw [h]
    omega
  · have hs : (a / d + 1) * d = a / d * d + d := Nat.succ_mul _ _
    rw [h, hs]
    omega

/-- How many bits of a whole number a significand has no room for. -/
def spareBits (m : Nat) : Nat := m.log2 - 52

/-- A whole number rounded to the bits that a significand has room for. -/
def nearestWhole (m : Nat) : Nat := roundHalfEven m (2 ^ spareBits m) * 2 ^ spareBits m

theorem nearestWhole_of_spareBits (h : spareBits m = 0) : nearestWhole m = m := by
  rw [nearestWhole, h, Nat.pow_zero, roundHalfEven_one, Nat.mul_one]

theorem leadingBit_mul_le (hs : spareBits m ≠ 0) : leadingBit * 2 ^ spareBits m ≤ m := by
  have hm : m ≠ 0 := by
    rintro rfl
    exact hs rfl
  have he : 52 + spareBits m = m.log2 := by
    unfold spareBits at *
    omega
  calc leadingBit * 2 ^ spareBits m = 2 ^ (52 + spareBits m) := by rw [Nat.pow_add]; rfl
    _ = 2 ^ m.log2 := by rw [he]
    _ ≤ m := Nat.log2_self_le hm

theorem lt_leadingBit_mul (m : Nat) : m < 2 * leadingBit * 2 ^ spareBits m := by
  have he : m.log2 + 1 ≤ 53 + spareBits m := by
    unfold spareBits
    omega
  calc m < 2 ^ (m.log2 + 1) := Nat.lt_log2_self
    _ ≤ 2 ^ (53 + spareBits m) := Nat.pow_le_pow_right (by decide) he
    _ = 2 * leadingBit * 2 ^ spareBits m := by rw [Nat.pow_add]; rfl

/-- The rounded significand has 53 bits, or it is the next power of two. -/
theorem roundHalfEven_le (m : Nat) : roundHalfEven m (2 ^ spareBits m) ≤ 2 * leadingBit := by
  have hq : m / 2 ^ spareBits m < 2 * leadingBit :=
    (Nat.div_lt_iff_lt_mul (Nat.two_pow_pos _)).mpr (lt_leadingBit_mul m)
  have hr := roundHalfEven_cases m (2 ^ spareBits m)
  omega

theorem le_roundHalfEven (hs : spareBits m ≠ 0) :
    leadingBit ≤ roundHalfEven m (2 ^ spareBits m) := by
  have hq : leadingBit ≤ m / 2 ^ spareBits m :=
    (Nat.le_div_iff_mul_le (Nat.two_pow_pos _)).mpr (leadingBit_mul_le hs)
  have hr := roundHalfEven_cases m (2 ^ spareBits m)
  omega

theorem spareBits_eq_zero (h : m < 2 ^ 53) : spareBits m = 0 := by
  rcases Nat.eq_zero_or_pos (spareBits m) with hs | hs
  · exact hs
  · have hm := leadingBit_mul_le (Nat.ne_of_gt hs)
    have hp : 2 ^ 1 ≤ 2 ^ spareBits m := Nat.pow_le_pow_right (by decide) hs
    unfold leadingBit at hm
    omega

theorem nearestWhole_of_le (h : m ≤ 2 ^ 53) : nearestWhole m = m := by
  rcases Nat.lt_or_eq_of_le h with hlt | rfl
  · exact nearestWhole_of_spareBits (spareBits_eq_zero hlt)
  · decide

/-- The nearest number is off by one part in `2^53` at most. -/
theorem nearestWhole_close (m : Nat) :
    2 ^ 53 * nearestWhole m ≤ 2 ^ 53 * m + m ∧ 2 ^ 53 * m ≤ 2 ^ 53 * nearestWhole m + m := by
  by_cases hs : spareBits m = 0
  · rw [nearestWhole_of_spareBits hs]
    omega
  · have hm := leadingBit_mul_le hs
    have hc := roundHalfEven_close m (Nat.two_pow_pos (spareBits m))
    unfold nearestWhole
    unfold leadingBit at hm
    omega

theorem nearestWhole_bounds (hm : m ≠ 0) :
    2 ^ m.log2 ≤ nearestWhole m ∧ nearestWhole m ≤ 2 ^ (m.log2 + 1) := by
  by_cases hs : spareBits m = 0
  · rw [nearestWhole_of_spareBits hs]
    exact ⟨Nat.log2_self_le hm, Nat.le_of_lt Nat.lt_log2_self⟩
  · have he : m.log2 = 52 + spareBits m := by
      unfold spareBits at *
      omega
    have hlo := Nat.mul_le_mul_right (2 ^ spareBits m) (le_roundHalfEven hs)
    have hhi := Nat.mul_le_mul_right (2 ^ spareBits m) (roundHalfEven_le m)
    unfold nearestWhole
    rw [he, Nat.pow_succ, Nat.pow_add]
    unfold leadingBit at hlo hhi
    omega

theorem nearestWhole_mono (h : a ≤ b) : nearestWhole a ≤ nearestWhole b := by
  rcases Nat.eq_zero_or_pos a with rfl | ha
  · exact Nat.zero_le _
  have hb : 0 < b := Nat.lt_of_lt_of_le ha h
  have hl : a.log2 ≤ b.log2 :=
    (Nat.le_log2 (Nat.ne_of_gt hb)).mpr (Nat.le_trans (Nat.log2_self_le (Nat.ne_of_gt ha)) h)
  -- a power of two lies between numbers of different lengths; others are rounded to one step
  rcases Nat.lt_or_eq_of_le hl with hlt | he
  · calc nearestWhole a ≤ 2 ^ (a.log2 + 1) := (nearestWhole_bounds (Nat.ne_of_gt ha)).2
      _ ≤ 2 ^ b.log2 := Nat.pow_le_pow_right (by decide) hlt
      _ ≤ nearestWhole b := (nearestWhole_bounds (Nat.ne_of_gt hb)).1
  · have hs : spareBits a = spareBits b := congrArg (· - 52) he
    unfold nearestWhole
    rw [hs]
    exact Nat.mul_le_mul_right _ (roundHalfEven_mono _ h)

theorem log2_mul_two_pow (hm : m ≠ 0) (k : Nat) : (m * 2 ^ k).log2 = m.log2 + k := by
  induction k with
  | zero => simp
  | succ k ih =>
    have hk : m * 2 ^ k ≠ 0 := Nat.mul_ne_zero hm (Nat.ne_of_gt (Nat.two_pow_pos k))
    rw [Nat.pow_succ, ← Nat.mul_assoc, Nat.mul_comm _ 2, Nat.log2_two_mul hk, ih]
    omega

theorem nearestWhole_mul_two_pow (m k : Nat) :
    nearestWhole (m * 2 ^ k) = nearestWhole m * 2 ^ k := by
  rcases Nat.eq_zero_or_pos m with rfl | hm
  · simp [nearestWhole_of_le]
  have hl := log2_mul_two_pow (Nat.ne_of_gt hm) k
  by_cases hs : spareBits m = 0
  · -- the bits without room are zeros that the shift has brought in
    have hk : spareBits (m * 2 ^ k) ≤ k := by
      unfold spareBits at *
      omega
    obtain ⟨j, hj⟩ := Nat.exists_eq_add_of_le' hk
    have he : m * 2 ^ k = m * 2 ^ j * 2 ^ spareBits (m * 2 ^ k) := by
      rw [Nat.mul_assoc, ← Nat.pow_add, ← hj]
    have hr := roundHalfEven_multiple (m * 2 ^ j) (Nat.two_pow_pos (spareBits (m * 2 ^ k)))
    rw [← he] at hr
    rw [nearestWhole_of_spareBits hs, nearestWhole, hr, ← he]
  · have he : spareBits (m * 2 ^ k) = spareBits m + k := by
      unfold spareBits at *
      omega
    rw [nearestWhole, he, Nat.pow_add, roundHalfEven_mul_right _ _ (Nat.two_pow_pos k),
      ← Nat.mul_assoc]
    rfl

/-- An integer rounded by its size. -/
def nearestInt (n : Int) : Int := n.sign * nearestWhole n.natAbs

theorem nearestInt_of_nonneg (h : 0 ≤ n) : nearestInt n = nearestWhole n.natAbs := by
  rcases Int.lt_or_eq_of_le h with hp | rfl
  · rw [nearestInt, Int.sign_eq_one_of_pos hp, Int.one_mul]
  · rfl

theorem nearestInt_of_neg (h : n < 0) : nearestInt n = -nearestWhole n.natAbs := by
  rw [nearestInt, Int.sign_eq_neg_one_of_neg h, Int.neg_mul, Int.one_mul]

theorem nearestInt_of_le (h : n.natAbs ≤ 2 ^ 53) : nearestInt n = n := by
  rw [nearestInt, nearestWhole_of_le h, Int.sign_mul_natAbs]

/-- Rounding keeps the order of integers, though not strictly. -/
theorem nearestInt_mono {i j : Int} (h : i ≤ j) : nearestInt i ≤ nearestInt j := by
  rcases Int.lt_or_le i 0 with hi | hi <;> rcases Int.lt_or_le j 0 with hj | hj
  · have hm := nearestWhole_mono (by omega : j.natAbs ≤ i.natAbs)
    rw [nearestInt_of_neg hi, nearestInt_of_neg hj]
    omega
  · rw [nearestInt_of_neg hi, nearestInt_of_nonneg hj]
    omega
  · omega
  · have hm := nearestWhole_mono (by omega : i.natAbs ≤ j.natAbs)
    rw [nearestInt_of_nonneg hi, nearestInt_of_nonneg hj]
    omega

theorem nearestInt_close (n : Int) : 2 ^ 53 * (nearestInt n - n).natAbs ≤ n.natAbs := by
  have hc := nearestWhole_close n.natAbs
  rcases Int.lt_or_le n 0 with hn | hn
  · rw [nearestInt_of_neg hn]
    omega
  · rw [nearestInt_of_nonneg hn]
    omega

/-- No other integer is rounded to one below `2^53`. -/
theorem eq_of_nearestInt_eq {i j : Int} (hi : i.natAbs < 2 ^ 53)
    (h : nearestInt i = nearestInt j) : i = j := by
  have hn := nearestInt_of_le (Nat.le_of_lt hi)
  rcases Nat.lt_or_ge j.natAbs (2 ^ 53) with hj | hj
  · have hm := nearestInt_of_le (Nat.le_of_lt hj)
    omega
  · -- a greater number is not rounded below the bound
    have hpos : nearestInt (2 ^ 53) = 2 ^ 53 := nearestInt_of_le (Nat.le_refl _)
    have hneg : nearestInt (-2 ^ 53) = -2 ^ 53 := nearestInt_of_le (Nat.le_refl _)
    rcases Int.lt_or_le j 0 with hs | hs
    · have hm := nearestInt_mono (by omega : j ≤ -2 ^ 53)
      omega
    · have hm := nearestInt_mono (by omega : 2 ^ 53 ≤ j)
      omega

/-- Integers that are rounded to the same one are close to each other. -/
theorem close_of_nearestInt_eq {i j : Int} (h : nearestInt i = nearestInt j) :
    2 ^ 53 * (i - j).natAbs ≤ i.natAbs + j.natAbs := by
  have hi := nearestInt_close i
  have hj := nearestInt_close j
  omega

/-- The power stands behind a variable, so that nothing computes it. -/
theorem unitsPerOne_eq : ∃ k, k = 1074 ∧ unitsPerOne = 2 ^ k := by
  refine ⟨_, rfl, ?_⟩
  unfold unitsPerOne
  generalize 1074 = k
  exact Nat.one_shiftLeft k

theorem unitsPerOne_pos : 0 < unitsPerOne := by
  obtain ⟨k, _, hu⟩ := unitsPerOne_eq
  rw [hu]
  exact Nat.two_pow_pos k

theorem nearestInt_mul_unitsPerOne (n : Int) :
    nearestInt (n * unitsPerOne) = nearestInt n * unitsPerOne := by
  obtain ⟨k, _, hu⟩ := unitsPerOne_eq
  have hs : (unitsPerOne : Int).sign = 1 :=
    Int.sign_natCast_of_ne_zero (Nat.ne_of_gt unitsPerOne_pos)
  rw [nearestInt, nearestInt, Int.sign_mul, hs, Int.mul_one, Int.natAbs_mul, Int.natAbs_natCast,
    hu, nearestWhole_mul_two_pow, Int.natCast_mul, Int.mul_assoc]

theorem make?_eq_some (negative : Bool) {significand shift : Nat}
    (h : significand < 2 * leadingBit) (hn : shift = 0 ∨ leadingBit ≤ significand)
    (hs : shift ≤ 2045) :
    ∃ d, make? negative significand shift = some d ∧ d.negative = negative ∧
      d.magnitude = significand * 2 ^ shift :=
  ⟨⟨negative, significand, shift, h, hn, hs⟩, by simp [make?, h, hn, hs], rfl,
    Nat.shiftLeft_eq _ _⟩

theorem nearest?_of_whole (negative : Bool) (hl : m.log2 ≤ 2096) :
    ∃ d, nearest? negative m 1 = some d ∧ d.negative = negative ∧
      d.magnitude = nearestWhole m := by
  have hb : m.log2 - 52 ≤ 2044 := by omega
  have hle := roundHalfEven_le m
  have hlow : spareBits m = 0 ∨ leadingBit ≤ roundHalfEven m (2 ^ spareBits m) := by
    by_cases hs : spareBits m = 0
    · exact .inl hs
    · exact .inr (le_roundHalfEven hs)
  have hd : 1 <<< (m.log2 - 52) = 2 ^ spareBits m := by rw [Nat.shiftLeft_eq, Nat.one_mul]; rfl
  simp only [nearest?, Nat.div_one, hd]
  split
  next hlt => exact make?_eq_some negative hlt hlow (Nat.le_succ_of_le hb)
  next hge =>
    obtain ⟨d, hd, hn, hm⟩ := make?_eq_some negative (by decide) (.inr (Nat.le_refl leadingBit))
      (Nat.succ_le_succ hb)
    refine ⟨d, hd, hn, ?_⟩
    have he : roundHalfEven m (2 ^ spareBits m) = 2 * leadingBit := by omega
    rw [hm, nearestWhole, he, Nat.pow_succ, ← Nat.mul_assoc, Nat.mul_right_comm,
      Nat.mul_comm leadingBit]
    rfl

/-- The double of an integer counts as many units as are left of those of the integer. -/
theorem scaled_ofInt (h : n.natAbs.log2 ≤ 1022) :
    (ofInt n).scaled = nearestInt (n * unitsPerOne) := by
  obtain ⟨k, hk, hu⟩ := unitsPerOne_eq
  have hl : (n.natAbs * unitsPerOne).log2 ≤ 2096 := by
    rcases Nat.eq_zero_or_pos n.natAbs with hz | hp
    · simp [hz]
    · rw [hu, log2_mul_two_pow (Nat.ne_of_gt hp)]
      omega
  obtain ⟨d, hd, hn, hm⟩ := nearest?_of_whole (decide (n < 0)) hl
  have hw : d.magnitude = nearestWhole n.natAbs * unitsPerOne := by
    rw [hm, hu, nearestWhole_mul_two_pow]
  rw [ofInt, hd, Option.getD_some, scaled, hn, hw, nearestInt_mul_unitsPerOne]
  rcases Int.lt_or_le n 0 with hlt | hge
  · rw [nearestInt_of_neg hlt, Int.neg_mul]
    simp [hlt]
  · rw [nearestInt_of_nonneg hge]
    simp [Int.not_lt.mpr hge]

/-- All bits of a double have room in a significand. -/
theorem nearestInt_scaled (d : Double) : nearestInt d.scaled = d.scaled := by
  have hm : nearestWhole d.magnitude = d.magnitude := by
    rw [magnitude, Nat.shiftLeft_eq, nearestWhole_mul_two_pow,
      nearestWhole_of_le (Nat.le_of_lt d.canonical.1)]
  have ha : d.scaled.natAbs = d.magnitude := by
    unfold scaled
    split <;> omega
  rw [nearestInt, ha, hm, ← ha, Int.sign_mul_natAbs]

end Stepwise.Double
