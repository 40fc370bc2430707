import Stepwise.Duration
import Stepwise.Proofs.Text

namespace Stepwise.Duration

open Text Text.Numeral

/-- The units of durations; a bare count is one of milliseconds. -/
inductive TimeUnit where
  | bare
  | millisecond
  | second
  | minute
  | hour
deriving DecidableEq, Repr

namespace TimeUnit

def letters : TimeUnit → List Char
  | .bare => []
  | .millisecond => ['m', 's']
  | .second => ['s']
  | .minute => ['m']
  | .hour => ['h']

theorem letters_subset (unit : TimeUnit) : unit.letters ⊆ ['m', 's', 'h'] := by
  cases unit <;> simp [letters]

/-- How many seconds a count stands for, or milliseconds if the unit is shorter than a second. -/
def factor : TimeUnit → Nat
  | .bare | .millisecond | .second => 1
  | .minute => 60
  | .hour => 3600

def milliseconds : TimeUnit → Nat
  | .bare | .millisecond => 1
  | .second => 1000
  | .minute => 60000
  | .hour => 3600000

/-- A count of the unit. -/
def times (unit : TimeUnit) (count : Nat) : Duration := ⟨count * unit.milliseconds⟩

theorem times_bare : times .bare = mk := funext fun n => congrArg mk (Nat.mul_one n)

theorem times_millisecond : times .millisecond = mk := times_bare

theorem times_of_factor {unit : TimeUnit} (hu : unit.milliseconds = unit.factor * 1000)
    (count : Nat) : unit.times count = ofSeconds (count * unit.factor) := by
  rw [times, hu, ← Nat.mul_assoc]
  rfl

/-- The count fits in a word, and so does what it is multiplied to. -/
structure Fits (unit : TimeUnit) (count : Nat) : Prop where
  count_lt : count < wordBound
  scaled_lt : count * unit.factor < wordBound

end TimeUnit

/-- A text that is a count and a unit with blanks between them or without. -/
def Spells (s : List Char) (count : Nat) (unit : TimeUnit) : Prop :=
  ∃ number gap, s = number ++ gap ++ unit.letters ∧ Counts number count ∧
    ∀ c ∈ gap, isBlank c = true

variable {s number gap front text : List Char} {d : Duration} {n count : Nat} {unit : TimeUnit}
  {c : Char}

theorem isBlank_of_counts (h : Counts number n) (hc : c ∈ number) : isBlank c = false := by
  cases hb : isBlank c with
  | false => rfl
  | true =>
    have hd : c.isDigit = false := by
      cases hd : c.isDigit with
      | false => rfl
      | true => exact hb.symm.trans (isBlank_of_isDigit hd)
    have hp : c ≠ '+' := by
      rintro rfl
      exact absurd hb (by decide)
    exact absurd hc (not_mem_of_counts h hd hp)

theorem readCount_eq_ok_iff :
    readCount s = .ok n ↔ Numeral.read wordBound (trimChars s) = .ok n := by
  unfold readCount
  cases Numeral.read wordBound (trimChars s) with
  | error fault => exact ⟨nofun, nofun⟩
  | ok m => exact ⟨fun h => congrArg _ (Except.ok.inj h), fun h => congrArg _ (Except.ok.inj h)⟩

theorem readCount_of_counts (h : Counts number n) (hn : n < wordBound)
    (hg : ∀ c ∈ gap, isBlank c = true) : readCount (number ++ gap) = .ok n := by
  have ht : trimChars (number ++ gap) = number := by
    rw [trimChars_append_right hg, trimChars_of_no_blank fun c hc => isBlank_of_counts h hc]
  rw [readCount_eq_ok_iff, ht]
  exact read_of_counts h hn

/-- In a trimmed text only blanks after the count are left out. -/
theorem counts_of_readCount (ht : trimChars (front ++ text) = front ++ text)
    (h : readCount front = .ok n) :
    n < wordBound ∧ ∃ number gap, front = number ++ gap ∧ Counts number n ∧
      ∀ c ∈ gap, isBlank c = true := by
  have hr := readCount_eq_ok_iff.mp h
  obtain ⟨before, gap, hb, hg, hf⟩ := exists_trimChars_append front
  have hn : before = [] := by
    rw [hf, List.append_assoc] at ht
    exact eq_nil_of_trimChars hb ht
  rw [hn, List.nil_append] at hf
  exact ⟨lt_of_read hr (by decide), trimChars front, gap, hf, counts_of_read hr, hg⟩

theorem spells_of_readCount (ht : trimChars s = s) (hs : before? unit.letters s = some front)
    (h : readCount front = .ok n) : n < wordBound ∧ Spells s n unit := by
  have he := before?_eq_some_iff.mp hs
  rw [he] at ht
  obtain ⟨hn, number, gap, hf, hc, hg⟩ := counts_of_readCount ht h
  exact ⟨hn, number, gap, by rw [he, hf], hc, hg⟩

theorem spells_of_map (unit : TimeUnit) (ht : trimChars s = s)
    (hs : before? unit.letters s = some front) (hf : unit.factor = 1)
    (h : (readCount front).map unit.times = .ok d) :
    ∃ count unit, Spells s count unit ∧ unit.Fits count ∧ d = unit.times count := by
  cases hr : readCount front with
  | error fault => simp [hr, Except.map] at h
  | ok n =>
    rw [hr] at h
    cases h
    obtain ⟨hn, hp⟩ := spells_of_readCount ht hs hr
    exact ⟨n, unit, hp, ⟨hn, by rwa [hf, Nat.mul_one]⟩, rfl⟩

theorem spells_of_readSeconds (unit : TimeUnit) (ht : trimChars s = s)
    (hs : before? unit.letters s = some front) (hf : unit.milliseconds = unit.factor * 1000)
    (h : readSeconds s front unit.factor = .ok d) :
    ∃ count unit, Spells s count unit ∧ unit.Fits count ∧ d = unit.times count := by
  unfold readSeconds at h
  cases hr : readCount front with
  | error fault => simp [hr, bind, Except.bind] at h
  | ok n =>
    simp only [hr, bind, Except.bind] at h
    split at h
    next hl =>
      cases h
      obtain ⟨hn, hp⟩ := spells_of_readCount ht hs hr
      exact ⟨n, unit, hp, ⟨hn, hl⟩, (TimeUnit.times_of_factor hf n).symm⟩
    next => simp [throw, throwThe, MonadExceptOf.throw] at h

theorem spells_of_readTrimmed (ht : trimChars s = s) (h : readTrimmed s = .ok d) :
    ∃ count unit, Spells s count unit ∧ unit.Fits count ∧ d = unit.times count := by
  unfold readTrimmed at h
  split at h
  next front hs =>
    rw [← TimeUnit.times_millisecond] at h
    exact spells_of_map .millisecond ht hs rfl h
  next =>
    split at h
    next front hs => exact spells_of_map .second ht hs rfl h
    next =>
      split at h
      next front hs => exact spells_of_readSeconds .minute ht hs rfl h
      next =>
        split at h
        next front hs => exact spells_of_readSeconds .hour ht hs rfl h
        next =>
          split at h
          next n hr =>
            cases h
            have hn : n * 1 < wordBound := by
              rw [Nat.mul_one]
              exact lt_of_read hr (by decide)
            have hs : s = s ++ [] ++ [] := by simp
            exact ⟨n, .bare, ⟨s, [], hs, counts_of_read hr, nofun⟩, ⟨by omega, hn⟩,
              congrArg (· n) TimeUnit.times_bare.symm⟩
          next => simp at h

theorem exists_before?_of_spells (hs : Spells s count unit) (hn : count < wordBound) :
    ∃ front, before? unit.letters s = some front ∧ readCount front = .ok count := by
  obtain ⟨number, gap, rfl, hc, hg⟩ := hs
  exact ⟨number ++ gap, before?_append _ _, readCount_of_counts hc hn hg⟩

theorem not_body_of_letter (hc : c ∈ ['m', 's', 'h']) :
    c.isDigit = false ∧ isBlank c = false ∧ c ≠ '+' := by
  simp only [List.mem_cons, List.not_mem_nil, or_false] at hc
  rcases hc with rfl | rfl | rfl <;> decide

theorem isBlank_of_letter (hc : c ∈ unit.letters) : isBlank c = false :=
  (not_body_of_letter (unit.letters_subset hc)).2.1

/-- A text has no letters but those of its unit. -/
theorem not_mem_of_spells (hs : Spells s count unit) (hc : c ∈ ['m', 's', 'h'])
    (hu : c ∉ unit.letters) : c ∉ s := by
  obtain ⟨number, gap, rfl, hn, hg⟩ := hs
  obtain ⟨hd, hb, hp⟩ := not_body_of_letter hc
  intro hm
  rcases List.mem_append.mp hm with hm | hm
  · rcases List.mem_append.mp hm with hm | hm
    · exact not_mem_of_counts hn hd hp hm
    · rw [hg c hm] at hb
      cases hb
  · exact hu hm

theorem readSeconds_of_fits (unit : TimeUnit) (hu : unit.milliseconds = unit.factor * 1000)
    (hr : readCount front = .ok count) (hf : unit.Fits count) :
    readSeconds s front unit.factor = .ok (unit.times count) := by
  simp only [readSeconds, hr, bind, Except.bind, if_pos hf.scaled_lt, TimeUnit.times_of_factor hu]
  rfl

theorem readTrimmed_of_spells (ht : trimChars s = s) (hs : Spells s count unit)
    (hf : unit.Fits count) : readTrimmed s = .ok (unit.times count) := by
  obtain ⟨front, hb, hr⟩ := exists_before?_of_spells hs hf.count_lt
  have no_m : 'm' ∉ unit.letters → 'm' ∉ s := not_mem_of_spells hs (by decide)
  have no_s : 's' ∉ unit.letters → 's' ∉ s := not_mem_of_spells hs (by decide)
  have no_h : 'h' ∉ unit.letters → 'h' ∉ s := not_mem_of_spells hs (by decide)
  -- the letters that are tried before those of the unit do not end the text
  cases unit with
  | bare =>
    have hms : before? ['m', 's'] s = none := before?_eq_none List.mem_cons_self (no_m nofun)
    have hsec : before? ['s'] s = none := before?_eq_none List.mem_cons_self (no_s nofun)
    have hmin : before? ['m'] s = none := before?_eq_none List.mem_cons_self (no_m nofun)
    have hhour : before? ['h'] s = none := before?_eq_none List.mem_cons_self (no_h nofun)
    have hn : Numeral.read wordBound s = .ok count := by
      have he := before?_eq_some_iff.mp hb
      rw [TimeUnit.letters, List.append_nil] at he
      rw [← he, readCount_eq_ok_iff, ht] at hr
      exact hr
    simp only [readTrimmed, hms, hsec, hmin, hhour, hn, TimeUnit.times_bare]
  | millisecond =>
    rw [TimeUnit.letters] at hb
    simp only [readTrimmed, hb, hr, TimeUnit.times_millisecond]
    rfl
  | second =>
    have hms : before? ['m', 's'] s = none :=
      before?_eq_none List.mem_cons_self (no_m (by decide))
    rw [TimeUnit.letters] at hb
    simp only [readTrimmed, hms, hb, hr]
    rfl
  | minute =>
    have hms : before? ['m', 's'] s = none := before?_eq_none (by simp) (no_s (by decide))
    have hsec : before? ['s'] s = none :=
      before?_eq_none List.mem_cons_self (no_s (by decide))
    rw [TimeUnit.letters] at hb
    simp only [readTrimmed, hms, hsec, hb]
    exact readSeconds_of_fits .minute rfl hr hf
  | hour =>
    have hms : before? ['m', 's'] s = none :=
      before?_eq_none List.mem_cons_self (no_m (by decide))
    have hsec : before? ['s'] s = none :=
      before?_eq_none List.mem_cons_self (no_s (by decide))
    have hmin : before? ['m'] s = none :=
      before?_eq_none List.mem_cons_self (no_m (by decide))
    rw [TimeUnit.letters] at hb
    simp only [readTrimmed, hms, hsec, hmin, hb]
    exact readSeconds_of_fits .hour rfl hr hf

theorem spells_of_parse {text : String} (h : parse text = .ok d) :
    ∃ count unit, Spells (trimChars text.toList) count unit ∧ unit.Fits count ∧
      d = unit.times count := spells_of_readTrimmed (trimChars_trimChars _) h

theorem parse_of_spells {text : String} (hs : Spells (trimChars text.toList) count unit)
    (hf : unit.Fits count) : parse text = .ok (unit.times count) :=
  readTrimmed_of_spells (trimChars_trimChars _) hs hf

/-- A text denotes a duration when it is, but for blanks around it, a count and a unit that fit in
words, and then it denotes that count of the unit. Every other text is refused. -/
theorem parse_eq_ok_iff_spells (text : String) :
    (∀ d, parse text = .ok d ↔ ∃ count unit, Spells (trimChars text.toList) count unit ∧
      unit.Fits count ∧ d = unit.times count) ∧
    ((∃ fault, parse text = .error fault) ↔
      ¬∃ count unit, Spells (trimChars text.toList) count unit ∧ unit.Fits count) := by
  refine ⟨?_, ?_, ?_⟩
  · intro d
    constructor
    · exact spells_of_parse
    · rintro ⟨count, unit, hs, hf, rfl⟩
      exact parse_of_spells hs hf
  · rintro ⟨fault, hp⟩ ⟨count, unit, hs, hf⟩
    cases hp.symm.trans (parse_of_spells hs hf)
  · intro hn
    cases hp : parse text with
    | error fault => exact ⟨fault, rfl⟩
    | ok d =>
      obtain ⟨count, unit, hs, hf, _⟩ := spells_of_parse hp
      exact absurd ⟨count, unit, hs, hf⟩ hn

/-- A sign, a fraction, a unit twice and an upper-case unit. -/
example : ∀ text ∈ ["-5s", "1.5h", "5ss", "5S"], (parse text).toOption = none := by
  decide +kernel

end Stepwise.Duration
