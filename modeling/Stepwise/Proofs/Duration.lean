import Stepwise.Proofs.Duration.Grammar

namespace Stepwise.Duration

open Text Text.Numeral

/-- The durations that texts and counts of milliseconds denote. -/
def InRange (d : Duration) : Prop :=
  d.milliseconds < wordBound ∨ ∃ n < wordBound, d = ofSeconds n

variable {d e : Duration} {n count : Nat} {unit : TimeUnit}

theorem TimeUnit.Fits.inRange (h : unit.Fits count) : (unit.times count).InRange := by
  have hseconds : unit.milliseconds = unit.factor * 1000 → (unit.times count).InRange :=
    fun hu => .inr ⟨count * unit.factor, h.scaled_lt, times_of_factor hu count⟩
  cases unit with
  | bare | millisecond =>
    refine .inl ?_
    simpa only [times, milliseconds, Nat.mul_one] using h.count_lt
  | second | minute | hour => exact hseconds rfl

theorem inRange_of_parse {text : String} (h : parse text = .ok d) : d.InRange := by
  obtain ⟨count, unit, _, hf, rfl⟩ := spells_of_parse h
  exact hf.inRange

/-- A multiple of a second is in range when its seconds are. -/
theorem InRange.seconds_lt (h : d.InRange) : d.milliseconds / 1000 < wordBound := by
  rcases h with h | ⟨n, hn, rfl⟩
  · exact Nat.lt_of_le_of_lt (Nat.div_le_self _ _) h
  · simpa [ofSeconds] using hn

/-- A count and the letters of a unit, with nothing between them. -/
def written (count : Nat) (unit : TimeUnit) : String := String.ofList (digits count ++ unit.letters)

theorem spells_written (count : Nat) (unit : TimeUnit) :
    Spells (trimChars (written count unit).toList) count unit := by
  have hb : ∀ c ∈ digits count ++ unit.letters, isBlank c = false := by
    intro c hc
    rcases List.mem_append.mp hc with hd | hu
    · exact isBlank_of_isDigit (isDigit_of_mem_digits hd)
    · exact isBlank_of_letter hu
  rw [written, String.toList_ofList, trimChars_of_no_blank hb]
  exact ⟨digits count, [], by rw [List.append_nil], counts_digits count, nofun⟩

theorem parse_written (h : unit.Fits count) : parse (written count unit) = .ok (unit.times count) :=
  parse_of_spells (spells_written count unit) h

theorem write_append (count : Nat) (letters : List Char) :
    write count ++ String.ofList letters = String.ofList (digits count ++ letters) :=
  (String.ofList_append).symm

/-- A multiple of a unit is a count of it, which fits when the seconds do. -/
theorem fits_of_multiple (hu : unit.milliseconds = unit.factor * 1000) (hf : 0 < unit.factor)
    (hs : d.milliseconds / 1000 < wordBound) (hd : d.milliseconds % unit.milliseconds = 0) :
    unit.Fits (d.milliseconds / unit.milliseconds) ∧
      d = unit.times (d.milliseconds / unit.milliseconds) := by
  have hm : d.milliseconds / unit.milliseconds * unit.milliseconds = d.milliseconds :=
    Nat.div_mul_cancel (Nat.dvd_of_mod_eq_zero hd)
  have hl : d.milliseconds / unit.milliseconds * unit.factor < wordBound := by
    have hk : d.milliseconds / unit.milliseconds * unit.factor * 1000 = d.milliseconds := by
      rw [Nat.mul_assoc, ← hu, hm]
    omega
  exact ⟨⟨Nat.lt_of_le_of_lt (Nat.le_mul_of_pos_right _ hf) hl, hl⟩, congrArg mk hm.symm⟩

/-- Every duration in range is written with a unit of which it is a count that fits. -/
theorem exists_written (h : d.InRange) :
    ∃ count unit, d.format = written count unit ∧ unit.Fits count ∧ d = unit.times count := by
  have hs := h.seconds_lt
  unfold format
  simp only
  split
  next hn =>
    exact ⟨_, .hour, write_append _ ['h'], fits_of_multiple rfl (by decide) hs hn.2⟩
  next =>
    split
    next hn =>
      exact ⟨_, .minute, write_append _ ['m'], fits_of_multiple rfl (by decide) hs hn.2⟩
    next =>
      split
      next hn =>
        exact ⟨_, .second, write_append _ ['s'], fits_of_multiple rfl (by decide) hs hn.2⟩
      next hn =>
        -- what is no whole number of seconds was given in milliseconds
        have hw : d.milliseconds < wordBound := by
          rcases h with h | ⟨n, hl, rfl⟩
          · exact h
          · simp only [ofSeconds] at hn ⊢
            omega
        have hm : d.milliseconds * 1 = d.milliseconds := Nat.mul_one _
        exact ⟨_, .millisecond, write_append _ ['m', 's'], ⟨hw, by rwa [TimeUnit.factor, hm]⟩,
          congrArg mk hm.symm⟩

/-- A duration in range is read back from its text. -/
theorem parse_format (h : d.InRange) : parse d.format = .ok d := by
  obtain ⟨count, unit, hw, hf, rfl⟩ := exists_written h
  rw [hw]
  exact parse_written hf

theorem inRange_iff : (∃ text, parse text = .ok d) ↔ d.InRange :=
  ⟨fun ⟨_, h⟩ => inRange_of_parse h, fun h => ⟨d.format, parse_format h⟩⟩

/-- The numbers that a duration is held in fit: its whole seconds in a word, and its milliseconds in
two of them. -/
structure Held (d : Duration) : Prop where
  seconds_lt : d.milliseconds / 1000 < wordBound
  milliseconds_lt : d.milliseconds < wordBound * wordBound

theorem InRange.held (h : d.InRange) : d.Held := by
  have hs := h.seconds_lt
  refine ⟨hs, ?_⟩
  rw [wordBound] at hs ⊢
  omega

/-- A duration that a text denotes, or a number of milliseconds in a word. -/
def Denoted (d : Duration) : Prop := (∃ text, parse text = .ok d) ∨ d.milliseconds < wordBound

theorem Denoted.inRange (h : d.Denoted) : d.InRange := by
  rcases h with h | h
  · exact inRange_iff.mp h
  · exact .inl h

/-- What a text or a number of milliseconds denotes is read back from the text that is written for
it, so different durations are written differently; every whole number of seconds in a word is
among them. On both ways the count fits in a word, as do the seconds that it is multiplied to, and
the duration is just that count of its unit. -/
theorem format_round_trip :
    (∀ d : Duration, d.Denoted → parse d.format = .ok d) ∧
    (∀ d e : Duration, d.Denoted → e.Denoted → d.format = e.format → d = e) ∧
    (∀ n < wordBound, (ofSeconds n).Denoted) ∧
    (∀ d : Duration, d.Denoted → d.Held ∧
      ∃ count unit, d.format = written count unit ∧ unit.Fits count ∧ d = unit.times count) ∧
    ∀ (text : String) (d : Duration), parse text = .ok d → d.Held ∧
      ∃ count unit, Spells (trimChars text.toList) count unit ∧ unit.Fits count ∧
        d = unit.times count := by
  refine ⟨?_, ?_, ?_, ?_, ?_⟩
  · intro d hd
    exact parse_format hd.inRange
  · intro d e hd he h
    have hp := parse_format hd.inRange
    rw [h, parse_format he.inRange] at hp
    exact (Except.ok.inj hp).symm
  · intro n hn
    exact .inl (inRange_iff.mpr (.inr ⟨n, hn, rfl⟩))
  · intro d hd
    exact ⟨hd.inRange.held, exists_written hd.inRange⟩
  · intro text d hp
    exact ⟨(inRange_of_parse hp).held, spells_of_parse hp⟩

/-- The most seconds that a word holds, and an hour and a half of minutes. -/
theorem format_round_trip_longest :
    (18446744073709551615 < wordBound ∧ (ofSeconds 18446744073709551615).Denoted ∧
      parse (ofSeconds 18446744073709551615).format = .ok (ofSeconds 18446744073709551615)) ∧
    (parse " +90 m" = .ok ⟨5400000⟩ ∧ (Duration.mk 5400000).Denoted ∧ (ofSeconds 5400).Denoted ∧
      (Duration.mk 5400000).format = (ofSeconds 5400).format ∧
      Duration.mk 5400000 = ofSeconds 5400) ∧
    (Duration.mk 5400000).Held := by
  have hb : 18446744073709551615 < wordBound := by decide
  have hp : parse " +90 m" = .ok ⟨5400000⟩ := rfl
  have hd : (Duration.mk 5400000).Denoted := .inl ⟨_, hp⟩
  have hf : (Duration.mk 5400000).format = (ofSeconds 5400).format := rfl
  obtain ⟨hback, hinj, hseconds, _, hread⟩ := format_round_trip
  have hlast := hseconds 18446744073709551615 hb
  have hs := hseconds 5400 (by decide)
  exact ⟨⟨hb, hlast, hback _ hlast⟩, ⟨hp, hd, hs, hf, hinj _ _ hd hs hf⟩, (hread _ _ hp).1⟩

end Stepwise.Duration
