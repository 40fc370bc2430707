import Stepwise.Text.Blank
import Stepwise.Text.Numeral
import Stepwise.Text.Pieces

namespace Stepwise.Text

theorem after?_append (head text : List Char) : after? head (head ++ text) = some text := by
  induction head with
  | nil => rfl
  | cons c head ih => simp [after?, ih]

theorem before?_append (tail text : List Char) : before? tail (text ++ tail) = some text := by
  simp [before?, after?_append]

theorem eq_append_of_after? {head text rest : List Char} (h : after? head text = some rest) :
    text = head ++ rest := by
  induction head generalizing text with
  | nil => exact Option.some.inj h
  | cons c head ih =>
    cases text with
    | nil => simp [after?] at h
    | cons d text =>
      simp only [after?] at h
      split at h
      next hc => rw [← hc, ih h, List.cons_append]
      next => simp at h

theorem before?_eq_some_iff {tail text front : List Char} :
    before? tail text = some front ↔ text = front ++ tail := by
  constructor
  · intro h
    obtain ⟨rest, hr, rfl⟩ := Option.map_eq_some_iff.mp h
    rw [← List.reverse_inj, eq_append_of_after? hr, List.reverse_append, List.reverse_reverse]
  · rintro rfl
    exact before?_append tail front

theorem mem_of_after? {head text rest : List Char} (h : after? head text = some rest) {c : Char}
    (hc : c ∈ head) : c ∈ text := by
  rw [eq_append_of_after? h]
  exact List.mem_append_left rest hc

/-- A text does not end with characters that it does not hold. -/
theorem before?_eq_none {tail text : List Char} {c : Char} (hc : c ∈ tail) (hn : c ∉ text) :
    before? tail text = none := by
  cases ha : after? tail.reverse text.reverse with
  | none => simp [before?, ha]
  | some rest =>
    have hm := mem_of_after? ha (List.mem_reverse.mpr hc)
    exact absurd (List.mem_reverse.mp hm) hn

theorem trimChars_of_no_blank {s : List Char} (h : ∀ c ∈ s, isBlank c = false) :
    trimChars s = s := by
  have hd : ∀ t : List Char, (∀ c ∈ t, isBlank c = false) → t.dropWhile isBlank = t := by
    intro t ht
    cases t with
    | nil => rfl
    | cons c rest => simp [ht c List.mem_cons_self]
  rw [trimChars, hd s h, hd s.reverse (by simpa using h), List.reverse_reverse]

theorem dropWhile_of_blank {s : List Char} (h : ∀ c ∈ s, isBlank c = true) :
    s.dropWhile isBlank = [] := by
  have hd : (s ++ []).dropWhile isBlank = [] := List.dropWhile_append_of_pos h
  rwa [List.append_nil] at hd

/-- Blanks around a text are trimmed with it. -/
theorem trimChars_append_left {front : List Char} (h : ∀ c ∈ front, isBlank c = true)
    (s : List Char) : trimChars (front ++ s) = trimChars s := by
  rw [trimChars, List.dropWhile_append_of_pos h, trimChars]

theorem trimChars_append_right {back : List Char} (h : ∀ c ∈ back, isBlank c = true)
    (s : List Char) : trimChars (s ++ back) = trimChars s := by
  have hb : ∀ c ∈ back.reverse, isBlank c = true := by simpa using h
  simp only [trimChars, List.dropWhile_append]
  split
  next hn => rw [List.isEmpty_iff.mp hn, dropWhile_of_blank h]
  next => rw [List.reverse_append, List.dropWhile_append_of_pos hb]

/-- Nothing is trimmed from a text that starts and ends with something else than a blank. -/
theorem trimChars_of_ends {c d : Char} (hc : isBlank c = false) (hd : isBlank d = false)
    (s : List Char) : trimChars (c :: s ++ [d]) = c :: s ++ [d] := by
  have hf : (c :: s ++ [d]).dropWhile isBlank = c :: s ++ [d] :=
    List.dropWhile_cons_of_neg (by simp [hc])
  have hr : (c :: s ++ [d]).reverse = d :: (c :: s).reverse := List.reverse_concat
  have hl : (c :: s ++ [d]).reverse.dropWhile isBlank = (c :: s ++ [d]).reverse := by
    rw [hr]
    exact List.dropWhile_cons_of_neg (by simp [hd])
  rw [trimChars, hf, hl, List.reverse_reverse]

theorem exists_blanks_append (s : List Char) :
    ∃ blanks, (∀ c ∈ blanks, isBlank c = true) ∧ s = blanks ++ s.dropWhile isBlank :=
  ⟨s.takeWhile isBlank, List.all_eq_true.mp List.all_takeWhile,
    List.takeWhile_append_dropWhile.symm⟩

theorem exists_trimChars_append (s : List Char) :
    ∃ front back, (∀ c ∈ front, isBlank c = true) ∧ (∀ c ∈ back, isBlank c = true) ∧
      s = front ++ (trimChars s ++ back) := by
  obtain ⟨front, hf, hs⟩ := exists_blanks_append s
  obtain ⟨back, hb, hr⟩ := exists_blanks_append (s.dropWhile isBlank).reverse
  have he : trimChars s ++ back.reverse = s.dropWhile isBlank := by
    rw [trimChars, ← List.reverse_append, ← hr, List.reverse_reverse]
  exact ⟨front, back.reverse, hf, by simpa using hb, by rwa [he]⟩

theorem length_trimChars_le (s : List Char) : (trimChars s).length ≤ s.length := by
  obtain ⟨front, back, _, _, hs⟩ := exists_trimChars_append s
  have hl := congrArg List.length hs
  simp only [List.length_append] at hl
  omega

theorem trimChars_trimChars (s : List Char) : trimChars (trimChars s) = trimChars s := by
  obtain ⟨front, back, hf, hb, hs⟩ := exists_trimChars_append s
  have ht : trimChars s = trimChars (front ++ (trimChars s ++ back)) := congrArg trimChars hs
  rw [trimChars_append_left hf, trimChars_append_right hb] at ht
  exact ht.symm

/-- A text that is trimmed already does not start with blanks. -/
theorem eq_nil_of_trimChars {front s : List Char} (hf : ∀ c ∈ front, isBlank c = true)
    (h : trimChars (front ++ s) = front ++ s) : front = [] := by
  rw [trimChars_append_left hf] at h
  have hl := congrArg List.length h
  have hs := length_trimChars_le s
  rw [List.length_append] at hl
  exact List.length_eq_zero_iff.mp (by omega)

namespace Numeral

variable {bound value n : Nat} {s : List Char} {c : Char}

theorem le_toNat_of_isDigit (h : c.isDigit = true) : 48 ≤ c.toNat ∧ c.toNat ≤ 57 := by
  simp only [Char.isDigit, Bool.and_eq_true, decide_eq_true_eq] at h
  exact h

theorem digit?_of_isDigit (h : c.isDigit = true) : digit? c = some (c.toNat - '0'.toNat) :=
  if_pos (le_toNat_of_isDigit h)

/-- Digits make a number no smaller. -/
theorem le_ofDigitChars (s : List Char) (value : Nat) : value ≤ Nat.ofDigitChars 10 s value := by
  induction s generalizing value with
  | nil => simp
  | cons c rest ih =>
    rw [Nat.ofDigitChars_cons]
    have hr := ih (10 * value + (c.toNat - '0'.toNat))
    omega

theorem readDigits_of_isDigit (hs : ∀ c ∈ s, c.isDigit = true)
    (hb : Nat.ofDigitChars 10 s value < bound) :
    readDigits bound value s = .ok (Nat.ofDigitChars 10 s value) := by
  induction s generalizing value with
  | nil => simp [readDigits]
  | cons c rest ih =>
    rw [Nat.ofDigitChars_cons, Nat.mul_comm] at hb ⊢
    have hl := Nat.lt_of_le_of_lt (le_ofDigitChars rest _) hb
    rw [readDigits, digit?_of_isDigit (hs c List.mem_cons_self)]
    simp only [if_pos hl]
    exact ih (fun d hd => hs d (List.mem_cons_of_mem _ hd)) hb

theorem isDigit_of_digit? {d : Nat} (h : digit? c = some d) : c.isDigit = true := by
  unfold digit? at h
  split at h
  next hc => simpa [Char.isDigit, Char.le_def] using hc
  next => simp at h

theorem of_readDigits (h : readDigits bound value s = .ok n) :
    (∀ c ∈ s, c.isDigit = true) ∧ n = Nat.ofDigitChars 10 s value := by
  induction s generalizing value with
  | nil =>
    cases h
    simp
  | cons c rest ih =>
    unfold readDigits at h
    split at h
    next => simp at h
    next d hd =>
      have hc := isDigit_of_digit? hd
      obtain rfl := Option.some.inj (hd.symm.trans (digit?_of_isDigit hc))
      split at h
      next =>
        obtain ⟨hr, rfl⟩ := ih h
        rw [Nat.ofDigitChars_cons, Nat.mul_comm 10]
        exact ⟨List.forall_mem_cons.mpr ⟨hc, hr⟩, rfl⟩
      next => simp at h

/-- A text that counts: one digit or more, with or without a plus sign before them. -/
def Counts (s : List Char) (n : Nat) : Prop :=
  ∃ sign digits, s = sign ++ digits ∧ (sign = [] ∨ sign = ['+']) ∧ digits ≠ [] ∧
    (∀ c ∈ digits, c.isDigit = true) ∧ n = Nat.ofDigitChars 10 digits 0

theorem counts_of_read (h : read bound s = .ok n) : Counts s n := by
  unfold read at h
  split at h
  next => simp at h
  next => simp at h
  next rest hne =>
    obtain ⟨hd, hn⟩ := of_readDigits h
    exact ⟨['+'], rest, rfl, .inr rfl, hne, hd, hn⟩
  next hne _ _ =>
    obtain ⟨hd, hn⟩ := of_readDigits h
    exact ⟨[], s, rfl, .inl rfl, hne, hd, hn⟩

theorem read_of_counts (h : Counts s n) (hn : n < bound) : read bound s = .ok n := by
  obtain ⟨sign, digits, rfl, hs, hne, hd, rfl⟩ := h
  obtain ⟨c, rest, rfl⟩ := List.exists_cons_of_ne_nil hne
  have hr : readDigits bound 0 (c :: rest) = .ok (Nat.ofDigitChars 10 (c :: rest) 0) :=
    readDigits_of_isDigit hd hn
  rcases hs with rfl | rfl
  · have hc : c ≠ '+' := by
      rintro rfl
      exact absurd (hd '+' List.mem_cons_self) (by decide)
    rw [← hr, List.nil_append]
    unfold read
    split
    next h => cases h
    next h => exact absurd (List.cons.inj h).1 hc
    next h => exact absurd (List.cons.inj h).1 hc
    next => rfl
  · exact hr

theorem not_mem_of_counts (h : Counts s n) (hc : c.isDigit = false) (hp : c ≠ '+') : c ∉ s := by
  obtain ⟨sign, digits, rfl, hs, _, hd, _⟩ := h
  intro hm
  rcases List.mem_append.mp hm with hm | hm
  · rcases hs with rfl | rfl
    · cases hm
    · exact hp (List.mem_singleton.mp hm)
  · rw [hd c hm] at hc
    cases hc

theorem isDigit_of_mem_digits (h : c ∈ digits n) : c.isDigit = true :=
  Nat.isDigit_of_mem_toDigits (by decide) (by decide) h

/-- The first digit of a number other than zero is not zero. -/
theorem head?_digits (hn : n ≠ 0) : (digits n).head? ≠ some '0' := by
  induction n using Nat.strongRecOn with
  | ind n ih =>
    rw [digits, Nat.toDigits_eq_if (by decide)]
    split
    next => simpa using hn
    next hge =>
      obtain ⟨c, rest, hc⟩ :=
        List.exists_cons_of_ne_nil (Nat.toDigits_ne_nil (n := n / 10) (b := 10))
      have hi := ih (n / 10) (by omega) (by omega)
      rw [digits, hc] at hi
      rw [hc]
      exact hi

theorem counts_digits (n : Nat) : Counts (digits n) n :=
  ⟨[], digits n, rfl, .inl rfl, Nat.toDigits_ne_nil, fun _ hc => isDigit_of_mem_digits hc,
    Nat.ofDigitChars_ten_toDigits.symm⟩

theorem lt_of_readDigits {bound value : Nat} (h : readDigits bound value s = .ok n)
    (hv : value < bound) : n < bound := by
  induction s generalizing value with
  | nil =>
    cases h
    exact hv
  | cons c rest ih =>
    unfold readDigits at h
    split at h
    next => simp at h
    next =>
      split at h
      next hl => exact ih h hl
      next => simp at h

theorem lt_of_read {bound : Nat} (h : read bound s = .ok n) (hb : 0 < bound) :
    n < bound := by
  unfold read at h
  split at h
  next => simp at h
  next => simp at h
  next => exact lt_of_readDigits h hb
  next => exact lt_of_readDigits h hb

theorem isBlank_of_isDigit (h : c.isDigit = true) : isBlank c = false := by
  obtain ⟨hl, hu⟩ := le_toNat_of_isDigit h
  simp only [isBlank, Bool.or_eq_false_iff, Bool.and_eq_false_iff, decide_eq_false_iff_not,
    beq_eq_false_iff_ne]
  omega

end Numeral

end Stepwise.Text
