import Stepwise.Json.Printer
import Stepwise.Proofs.Double.Shortest
import Stepwise.Proofs.Json.Document

namespace Stepwise

namespace Document

variable {s rest digits : List Char} {c : Char} {m : Numeral}

/-- A text that ends a value, if it holds anything at all. -/
def Delimited (s : List Char) : Prop := ∀ c ∈ s.head?, c = ',' ∨ c = ']' ∨ c = '\x7d'

theorem isDigit_eq (c : Char) : isDigit c = c.isDigit := rfl

theorem isDigit_of_mem_digits {n : Nat} (h : c ∈ Text.Numeral.digits n) : isDigit c = true := by
  rw [isDigit_eq]
  exact Text.Numeral.isDigit_of_mem_digits h

theorem digitsValue_eq (s : List Char) : digitsValue s = Nat.ofDigitChars 10 s 0 := by
  rw [digitsValue, Nat.ofDigitChars_eq_foldl]
  simp only [Nat.mul_comm 10]
  rfl

@[simp] theorem digitsValue_digits (n : Nat) : digitsValue (Text.Numeral.digits n) = n := by
  rw [digitsValue_eq]
  exact Nat.ofDigitChars_ten_toDigits

theorem span_isDigit (hs : ∀ c ∈ s, isDigit c = true) (hr : ∀ c ∈ rest.head?, isDigit c = false) :
    (s ++ rest).takeWhile isDigit = s ∧ (s ++ rest).dropWhile isDigit = rest := by
  rw [List.takeWhile_append_of_pos hs, List.dropWhile_append_of_pos hs]
  cases rest with
  | nil => exact ⟨List.append_nil s, rfl⟩
  | cons c rest =>
    have hc := hr c rfl
    rw [List.takeWhile_cons_of_neg (by simp [hc]), List.dropWhile_cons_of_neg (by simp [hc])]
    exact ⟨List.append_nil s, rfl⟩

def fractionText : Option (List Char) → List Char
  | none => []
  | some digits => '.' :: digits

def exponentText : Option Int → List Char
  | none => []
  | some e => 'e' :: (if e < 0 then '-' else '+') :: Text.Numeral.digits e.natAbs

def Numeral.text (m : Numeral) : List Char :=
  (if m.negative then ['-'] else []) ++
    (m.whole ++ (fractionText m.fraction ++ exponentText m.exponent))

/-- A number as it is written: all parts have digits, and none of them stands behind a zero. -/
structure Numeral.Written (m : Numeral) : Prop where
  whole : ∀ c ∈ m.whole, isDigit c = true
  whole_ne_nil : m.whole ≠ []
  whole_zero : m.whole.head? = some '0' → m.whole = ['0']
  fraction : ∀ digits ∈ m.fraction, digits ≠ [] ∧ ∀ c ∈ digits, isDigit c = true

theorem Numeral.Written.exists_cons (h : m.Written) :
    ∃ c s, m.text = c :: s ∧ (c = '-' ∨ isDigit c = true) := by
  obtain ⟨c, others, hc⟩ := List.exists_cons_of_ne_nil h.whole_ne_nil
  have hd := h.whole c (by rw [hc]; exact List.mem_cons_self)
  cases hn : m.negative with
  | true => exact ⟨'-', _, by rw [text, hn]; rfl, .inl rfl⟩
  | false => exact ⟨c, _, by rw [text, hn, hc]; rfl, .inr hd⟩

theorem Delimited.isDigit (h : Delimited rest) : ∀ c ∈ rest.head?, isDigit c = false := by
  intro c hc
  rcases h c hc with rfl | rfl | rfl <;> decide

theorem exponent?_text (hr : Delimited rest) (e : Option Int) :
    exponent? (exponentText e ++ rest) = some (e, rest) := by
  cases e with
  | none =>
    cases rest with
    | nil => rfl
    | cons c rest =>
      have hn : (c == 'e' || c == 'E') = false := by
        rcases hr c rfl with rfl | rfl | rfl <;> decide
      change (if (c == 'e' || c == 'E') = true then _ else _) = _
      rw [hn]
      rfl
  | some e =>
    have hd : ∀ c ∈ Text.Numeral.digits e.natAbs, isDigit c = true :=
      fun c hc => isDigit_of_mem_digits hc
    obtain ⟨ht, hr⟩ := span_isDigit hd hr.isDigit
    have hn : (Text.Numeral.digits e.natAbs).isEmpty = false :=
      List.isEmpty_eq_false_iff.mpr Nat.toDigits_ne_nil
    have hv : ∀ negative, exponentDigits? negative (Text.Numeral.digits e.natAbs ++ rest) =
        some (some (if negative then -(e.natAbs : Int) else e.natAbs), rest) := by
      intro negative
      simp [exponentDigits?, ht, hr, hn]
    rw [exponentText]
    split
    next he =>
      have hs : (if true then -(e.natAbs : Int) else e.natAbs) = e := by
        rw [if_pos rfl]
        omega
      exact (hv true).trans (by rw [hs])
    next he =>
      have hs : (if false then -(e.natAbs : Int) else e.natAbs) = e := by
        rw [if_neg (by decide)]
        omega
      exact (hv false).trans (by rw [hs])

/-- What stands behind the fraction of a number. -/
theorem exponentText_not_digit (hr : Delimited rest) (e : Option Int) :
    ∀ c ∈ (exponentText e ++ rest).head?, isDigit c = false ∧ c ≠ '.' := by
  intro c hc
  cases e with
  | none => rcases hr c hc with rfl | rfl | rfl <;> decide
  | some e =>
    cases hc
    decide

theorem fraction?_text (hr : Delimited rest) {fraction : Option (List Char)}
    (hf : ∀ digits ∈ fraction, digits ≠ [] ∧ ∀ c ∈ digits, isDigit c = true) (e : Option Int) :
    fraction? (fractionText fraction ++ (exponentText e ++ rest)) =
      some (fraction, exponentText e ++ rest) := by
  have hn := exponentText_not_digit hr e
  cases fraction with
  | none =>
    rw [fractionText, List.nil_append]
    unfold fraction?
    split
    next c he => exact absurd rfl (hn '.' (by rw [he]; rfl)).2
    next => rfl
  | some digits =>
    obtain ⟨hne, hd⟩ := hf digits rfl
    obtain ⟨ht, hd⟩ := span_isDigit hd fun c hc => (hn c hc).1
    have hempty : digits.isEmpty = false := List.isEmpty_eq_false_iff.mpr hne
    simp [fractionText, fraction?, ht, hd, hempty]

theorem fractionText_not_digit (hr : Delimited rest) (fraction : Option (List Char))
    (e : Option Int) :
    ∀ c ∈ (fractionText fraction ++ (exponentText e ++ rest)).head?, isDigit c = false := by
  intro c hc
  cases fraction with
  | none => exact (exponentText_not_digit hr e c hc).1
  | some digits =>
    cases hc
    decide

/-- A number that was written is read up to what ends it. -/
theorem numeral?_text (hm : m.Written) (hr : Delimited rest) :
    numeral? (m.text ++ rest) = some (m, rest) := by
  obtain ⟨negative, whole, fraction, exponent⟩ := m
  obtain ⟨hw, hne, hz, hf⟩ := hm
  obtain ⟨c, others, rfl⟩ := List.exists_cons_of_ne_nil hne
  have htail := fractionText_not_digit hr fraction exponent
  have hfraction := fraction?_text hr hf exponent
  generalize htext : fractionText fraction ++ (exponentText exponent ++ rest) = tail at *
  have hwhole : (if (c :: others ++ tail).head? == some '0' then ['0']
      else (c :: others ++ tail).takeWhile isDigit) = c :: others := by
    split
    next h =>
      have hc : c = '0' := by simpa using h
      exact (hz (by rw [hc]; rfl)).symm
    next => exact (span_isDigit hw htail).1
  have hminus : ((c :: others ++ tail).head? == some '-') = false := by
    have hc : c ≠ '-' := by
      rintro rfl
      exact absurd (hw '-' List.mem_cons_self) (by decide)
    simpa using hc
  have hs : (Numeral.mk negative (c :: others) fraction exponent).text ++ rest =
      (if negative then ['-'] else []) ++ (c :: others ++ tail) := by
    simp [Numeral.text, ← htext]
  rw [hs]
  cases negative with
  | false =>
    simp only [Bool.false_eq_true, if_false, List.nil_append, numeral?, hminus, hwhole]
    simp [hfraction, exponent?_text hr]
  | true =>
    have hd : (['-'] ++ (c :: others ++ tail)).drop 1 = c :: others ++ tail := rfl
    have hh : ((['-'] ++ (c :: others ++ tail)).head? == some '-') = true := rfl
    simp only [if_true, numeral?, hh, hd, hwhole]
    simp [hfraction, exponent?_text hr]

theorem written_digits (negative : Bool) (n : Nat) :
    (Numeral.mk negative (Text.Numeral.digits n) none none).Written where
  whole c hc := isDigit_of_mem_digits hc
  whole_ne_nil := Nat.toDigits_ne_nil
  whole_zero h := by
    rcases Nat.eq_zero_or_pos n with rfl | hn
    · rfl
    · exact absurd h (Text.Numeral.head?_digits (Nat.ne_of_gt hn))
  fraction := by simp

theorem exists_numeral_int {n : Int} (hn : Number.Fits n) :
    ∃ m : Numeral, m.Written ∧ m.value? = some (.int n) ∧
      (Text.Numeral.writeInt n).toList = m.text := by
  obtain ⟨hl, hu⟩ := hn
  cases n with
  | ofNat k =>
    have hk : k < Text.Numeral.wordBound := Int.ofNat_lt.mp hu
    refine ⟨_, written_digits false k, ?_, ?_⟩
    · simp [Numeral.value?, hk]
    · simp [Text.Numeral.writeInt, Text.Numeral.write, Numeral.text, fractionText, exponentText]
  | negSucc k =>
    have hk : k + 1 ≤ Text.Numeral.signedBound := by omega
    refine ⟨_, written_digits true (k + 1), ?_, ?_⟩
    · simp [Numeral.value?, hk]
      omega
    · simp [Text.Numeral.writeInt, Text.Numeral.write, Numeral.text, fractionText, exponentText]

theorem sign_text (d : Double) (s : List Char) :
    d.sign ++ s = (if d.negative then ['-'] else []) ++ s := rfl

/-- A number with a fraction or an exponent is the float nearest to its decimal. -/
theorem value?_float {d : Double} {c : Nat} {e : Int} (k : Nat)
    (hm : m.fraction.isSome ∨ m.exponent.isSome) (hn : m.negative = d.negative)
    (hc : digitsValue (m.whole ++ m.fraction.getD []) = c * 10 ^ k)
    (he : m.exponent.getD 0 - ((m.fraction.getD []).length : Int) = e - k)
    (hx : Double.ofDecimal? d.negative ⟨c, e⟩ = some d) : m.value? = some (.float d) := by
  have hp : (m.fraction.isSome || m.exponent.isSome) = true := by simpa using hm
  simp only [Numeral.value?, if_pos hp, hn, hc, he, Double.ofDecimal?_mul_ten_pow, hx,
    Option.map_some]

theorem digitsValue_zeros_append (k : Nat) (s : List Char) :
    digitsValue (List.replicate k '0' ++ s) = digitsValue s := by
  rw [digitsValue_eq, digitsValue_eq, Nat.ofDigitChars_append, Nat.ofDigitChars_replicate_zero,
    Nat.mul_zero]

theorem digitsValue_append_zeros (s : List Char) (k : Nat) :
    digitsValue (s ++ List.replicate k '0') = digitsValue s * 10 ^ k := by
  rw [digitsValue_eq, digitsValue_eq, Nat.ofDigitChars_append, Nat.ofDigitChars_replicate_zero,
    Nat.mul_comm]

theorem isDigit_of_mem_zeros {k : Nat} (h : c ∈ List.replicate k '0') : isDigit c = true := by
  rw [List.eq_of_mem_replicate h]
  rfl

/-- All digits stand before the point, and a zero behind it. -/
theorem exists_numeral_whole {d : Double} {c places : Nat}
    (hx : Double.ofDecimal? d.negative ⟨c, places⟩ = some d) (hz : c ≠ 0 ∨ places = 0) :
    ∃ m : Numeral, m.Written ∧ m.value? = some (.float d) ∧
      d.sign ++ Decimal.positional 1 ⟨c, places⟩ = m.text := by
  refine ⟨⟨d.negative, Text.Numeral.digits c ++ List.replicate places '0', some ['0'], none⟩,
    ⟨?_, by simp [Nat.toDigits_ne_nil, Text.Numeral.digits], fun h => ?_, by simp [isDigit]⟩,
    value?_float (places + 1) (.inl rfl) rfl ?_ ?_ hx, ?_⟩
  · exact List.forall_mem_append.mpr
      ⟨fun c hc => isDigit_of_mem_digits hc, fun c hc => isDigit_of_mem_zeros hc⟩
  · obtain ⟨first, others, hd⟩ :=
      List.exists_cons_of_ne_nil (Nat.toDigits_ne_nil (n := c) (b := 10))
    have hh : (Text.Numeral.digits c).head? = some '0' := by
      rw [Text.Numeral.digits, hd] at h ⊢
      exact h
    have hc : c = 0 := by
      refine Nat.eq_zero_of_not_pos fun hp => ?_
      exact Text.Numeral.head?_digits (Nat.ne_of_gt hp) hh
    rw [hc, hz.resolve_left (not_not_intro hc)]
    rfl
  · have hs : Text.Numeral.digits c ++ List.replicate places '0' ++ ['0'] =
        Text.Numeral.digits c ++ List.replicate (places + 1) '0' := by
      rw [List.replicate_succ', List.append_assoc]
    rw [Option.getD_some, hs, digitsValue_append_zeros, digitsValue_digits]
  · simp
  · simp [Decimal.positional, Decimal.digits, sign_text, Numeral.text, fractionText, exponentText]

/-- The point stands among the digits. -/
theorem exists_numeral_among {d : Double} {c places : Nat} (hp : 0 < places) (hc : c ≠ 0)
    (hlt : places < (Text.Numeral.digits c).length)
    (hx : Double.ofDecimal? d.negative ⟨c, -(places : Int)⟩ = some d) :
    ∃ m : Numeral, m.Written ∧ m.value? = some (.float d) ∧
      d.sign ++ Decimal.positional 1 ⟨c, -(places : Int)⟩ = m.text := by
  have hd : ∀ c' ∈ Text.Numeral.digits c, isDigit c' = true :=
    fun c' h => isDigit_of_mem_digits h
  generalize hl : (Text.Numeral.digits c).length = length at hlt
  have hk : (Text.Numeral.digits c).take (length - places) ≠ [] := by
    intro h
    have hz := congrArg List.length h
    rw [List.length_take, List.length_nil] at hz
    omega
  have hf : ((Text.Numeral.digits c).drop (length - places)).length = places := by
    rw [List.length_drop]
    omega
  refine ⟨⟨d.negative, (Text.Numeral.digits c).take (length - places),
    some ((Text.Numeral.digits c).drop (length - places)), none⟩,
    ⟨fun c' h => hd c' (List.mem_of_mem_take h), hk, fun h => ?_, ?_⟩,
    value?_float 0 (.inl rfl) rfl ?_ ?_ hx, ?_⟩
  · rw [List.head?_take, if_neg (by omega)] at h
    exact absurd h (Text.Numeral.head?_digits hc)
  · rintro _ ⟨⟩
    refine ⟨fun h => ?_, fun c' h => hd c' (List.mem_of_mem_drop h)⟩
    rw [h, List.length_nil] at hf
    omega
  · simp
  · simp [hf]
  · have hn : ¬ (0 : Int) ≤ -(places : Int) := by omega
    have hz : places - length = 0 := by omega
    have ho : 1 - places = 0 := by omega
    simp [Decimal.positional, Decimal.digits, Nat.ne_of_gt hp, hl, hz, ho, hk, hf, sign_text,
      Numeral.text, fractionText, exponentText]
    omega

/-- The point stands before all of the digits, with zeros between them. -/
theorem exists_numeral_before {d : Double} {c places : Nat} (hp : 0 < places)
    (hge : (Text.Numeral.digits c).length ≤ places)
    (hx : Double.ofDecimal? d.negative ⟨c, -(places : Int)⟩ = some d) :
    ∃ m : Numeral, m.Written ∧ m.value? = some (.float d) ∧
      d.sign ++ Decimal.positional 1 ⟨c, -(places : Int)⟩ = m.text := by
  generalize hl : (Text.Numeral.digits c).length = length at hge
  refine ⟨⟨d.negative, ['0'],
    some (List.replicate (places - length) '0' ++ Text.Numeral.digits c), none⟩,
    ⟨by simp [isDigit], by simp, fun _ => rfl, ?_⟩, value?_float 0 (.inl rfl) rfl ?_ ?_ hx, ?_⟩
  · rintro _ ⟨⟩
    refine ⟨fun h => Nat.toDigits_ne_nil (List.append_eq_nil_iff.mp h).2, ?_⟩
    exact List.forall_mem_append.mpr
      ⟨fun c' h => isDigit_of_mem_zeros h, fun c' h => isDigit_of_mem_digits h⟩
  · have hs : ['0'] ++ (List.replicate (places - length) '0' ++ Text.Numeral.digits c) =
        List.replicate (places - length + 1) '0' ++ Text.Numeral.digits c := rfl
    rw [Option.getD_some, hs, digitsValue_zeros_append, digitsValue_digits, Nat.pow_zero,
      Nat.mul_one]
  · simp [hl]
    omega
  · have hn : ¬ (0 : Int) ≤ -(places : Int) := by omega
    have hz : length - places = 0 := by omega
    have ho : 1 - (places - length + length) = 0 := by omega
    simp [Decimal.positional, Decimal.digits, Nat.ne_of_gt hp, hl, hz, ho, sign_text,
      Numeral.text, fractionText, exponentText]
    exact fun _ => Nat.toDigits_ne_nil

theorem exists_numeral_positional {d : Double} {x : Decimal}
    (hx : Double.ofDecimal? d.negative x = some d) (hz : x.coefficient ≠ 0 ∨ x.exponent = 0) :
    ∃ m : Numeral, m.Written ∧ m.value? = some (.float d) ∧ d.sign ++ x.positional 1 = m.text := by
  obtain ⟨c, e⟩ := x
  change c ≠ 0 ∨ e = 0 at hz
  rcases Int.lt_or_le e 0 with he | he
  · obtain ⟨places, rfl⟩ : ∃ places : Nat, e = -(places : Int) := ⟨e.natAbs, by omega⟩
    rcases Nat.lt_or_ge places (Text.Numeral.digits c).length with hlt | hge
    · exact exists_numeral_among (by omega) (hz.resolve_right (by omega)) hlt hx
    · exact exists_numeral_before (by omega) hge hx
  · obtain ⟨places, rfl⟩ := Int.eq_ofNat_of_zero_le he
    exact exists_numeral_whole hx (hz.imp id (by omega))

theorem exists_numeral_scientific {d : Double} {x : Decimal}
    (hx : Double.ofDecimal? d.negative x = some d) :
    ∃ m : Numeral, m.Written ∧ m.value? = some (.float d) ∧ d.sign ++ x.scientific = m.text := by
  obtain ⟨c, e⟩ := x
  obtain ⟨first, others, hd⟩ := List.exists_cons_of_ne_nil (Nat.toDigits_ne_nil (n := c) (b := 10))
  change Text.Numeral.digits c = first :: others at hd
  have hdigits : ∀ c' ∈ first :: others, isDigit c' = true := fun c' h =>
    isDigit_of_mem_digits (n := c) (by rwa [hd])
  have hv : digitsValue (first :: others) = c * 10 ^ 0 := by
    rw [← hd, digitsValue_digits, Nat.pow_zero, Nat.mul_one]
  have hl : Decimal.leading ⟨c, e⟩ = e + others.length := by
    simp only [Decimal.leading, Decimal.digits, hd, List.length_cons]
    omega
  have hwhole : ∀ c' ∈ [first], isDigit c' = true :=
    List.forall_mem_singleton.mpr (hdigits first List.mem_cons_self)
  have hzero : [first].head? = some '0' → [first] = ['0'] := by simp
  cases others with
  | nil =>
    refine ⟨⟨d.negative, [first], none, some e⟩, ⟨hwhole, by simp, hzero, by simp⟩,
      value?_float 0 (.inr rfl) rfl hv (by simp) hx, ?_⟩
    simp [Decimal.scientific, Decimal.digits, hd, hl, sign_text, Numeral.text, fractionText,
      exponentText]
  | cons second others =>
    refine ⟨⟨d.negative, [first], some (second :: others), some (e + (others.length + 1))⟩,
      ⟨hwhole, by simp, hzero, ?_⟩, value?_float 0 (.inl rfl) rfl hv (by simp) hx, ?_⟩
    · rintro _ ⟨⟩
      exact ⟨by simp, fun c' h => hdigits c' (List.mem_cons_of_mem _ h)⟩
    · simp [Decimal.scientific, Decimal.digits, hd, hl, sign_text, Numeral.text, fractionText,
        exponentText]

theorem coefficient_shortest {d : Double} (hd : d.isZero = false) :
    d.shortest.coefficient ≠ 0 := by
  intro hc
  have hx := d.ofDecimal?_shortest
  rw [Double.ofDecimal?, if_pos hc] at hx
  rw [← Option.some.inj hx] at hd
  cases hd

/-- What is written for a number is a number in the text. -/
theorem exists_numeral {n : Number} (hn : n.InRange) :
    ∃ m : Numeral, m.Written ∧ m.value? = some n ∧ n.write.toList = m.text := by
  cases n with
  | int n => exact exists_numeral_int hn
  | float d =>
    have hx := d.ofDecimal?_shortest
    change ∃ m : Numeral, m.Written ∧ m.value? = some (.float d) ∧ d.write.toList = m.text
    unfold Double.write
    dsimp only
    split
    next =>
      rw [Double.writePositional, String.toList_ofList]
      refine exists_numeral_positional hx ?_
      cases hz : d.isZero with
      | true => exact .inr (by rw [Double.shortest, if_pos hz])
      | false => exact .inl (coefficient_shortest hz)
    next =>
      rw [String.toList_ofList]
      exact exists_numeral_scientific hx

end Document

end Stepwise
