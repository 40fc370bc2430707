import Stepwise.Proofs.Template
import Stepwise.Vars

namespace Stepwise.Template

variable {s run front back inner after : List Char} {c : Char}

/-- What a placeholder has between its braces. -/
def Fills (inner : List Char) : Prop := inner ≠ [] ∧ ∀ c ∈ inner, isInner c = true

instance : DecidablePred Fills := fun inner =>
  decidable_of_iff (inner ≠ [] ∧ inner.all isInner = true) (and_congr_right' List.all_eq_true)

/-- No placeholder stands in the text. -/
def Plain (text : List Char) : Prop :=
  ∀ inner, Fills inner → ¬(Piece.placeholder inner).written <:+: text

theorem written_placeholder (inner after : List Char) :
    (Piece.placeholder inner).written ++ after =
      '$' :: '\x7b' :: (inner ++ '\x7d' :: after) := by
  simp [Piece.written]

theorem placeholder?_written (h : Fills inner) (after : List Char) :
    placeholder? ((Piece.placeholder inner).written ++ after) = some (inner, after) := by
  obtain ⟨first, rest, rfl⟩ := List.exists_cons_of_ne_nil h.1
  have ht : (first :: rest ++ '\x7d' :: after).takeWhile isInner = first :: rest := by
    rw [List.takeWhile_append_of_pos h.2, List.takeWhile_cons_of_neg (by decide), List.append_nil]
  have hd : (first :: rest ++ '\x7d' :: after).dropWhile isInner = '\x7d' :: after := by
    rw [List.dropWhile_append_of_pos h.2, List.dropWhile_cons_of_neg (by decide)]
  rw [written_placeholder]
  simp only [placeholder?, ht, hd]

theorem written_of_placeholder? (h : placeholder? s = some (inner, after)) :
    Fills inner ∧ s = (Piece.placeholder inner).written ++ after := by
  unfold placeholder? at h
  split at h
  next rest =>
    split at h
    next first more tail ht hd =>
      cases h
      have hf : ∀ c ∈ first :: more, isInner c = true := by
        rw [← ht]
        exact List.all_eq_true.mp List.all_takeWhile
      refine ⟨⟨List.cons_ne_nil _ _, hf⟩, ?_⟩
      rw [written_placeholder, ← ht, ← hd, List.takeWhile_append_dropWhile]
    next => cases h
  next => cases h

/-- A placeholder that starts in a placeholder is all of it, since it has no dollar sign before an
opening brace but its first. -/
theorem eq_nil_of_written (h : Fills inner) (hw : (Piece.placeholder inner).written =
    c :: front ++ '$' :: back) (hb : ∀ d rest, back = d :: rest → d = '\x7b') : False := by
  have hi : '\x7b' :: (inner ++ ['\x7d']) = front ++ '$' :: back := (List.cons.inj hw).2
  cases front with
  | nil => exact absurd (List.cons.inj hi).1 (by decide)
  | cons d front =>
    have ht : inner ++ ['\x7d'] = front ++ '$' :: back := (List.cons.inj hi).2
    cases back with
    | nil =>
      have hl := (List.append_inj' ht rfl).2
      exact absurd (List.cons.inj hl).1 (by decide)
    | cons d rest =>
      obtain rfl := hb d rest rfl
      have hm : '\x7b' ∈ inner ++ ['\x7d'] := by simp [ht]
      rcases List.mem_append.mp hm with hm | hm
      · exact absurd (h.2 _ hm) (by decide)
      · exact absurd (List.mem_singleton.mp hm) (by decide)

theorem plain_nil : Plain [] := by
  intro inner _ hi
  have hl := hi.length_le
  simp [Piece.written] at hl

theorem Plain.tail (h : Plain (c :: run)) : Plain run :=
  fun inner hf hi => h inner hf (List.infix_cons hi)

theorem plain_cons (hc : placeholder? (c :: run ++ back) = none) (h : Plain run) :
    Plain (c :: run) := by
  intro inner hf hi
  rcases List.infix_cons_iff.mp hi with ⟨rest, hp⟩ | hi
  · rw [← hp, List.append_assoc, placeholder?_written hf] at hc
    cases hc
  · exact h inner hf hi

/-- Without a closing brace there is no placeholder. -/
theorem plain_of_not_mem (h : '\x7d' ∉ run) : Plain run := by
  intro inner _ hi
  have hm : '\x7d' ∈ (Piece.placeholder inner).written := by simp [Piece.written]
  exact h (hi.subset hm)

/-- Nothing between the braces makes no placeholder. -/
theorem plain_empty : Plain ['$', '\x7b', '\x7d'] := by
  intro inner hf hi
  have hl := hi.length_le
  have hn : 0 < inner.length := List.length_pos_iff.mpr hf.1
  simp only [Piece.written, List.length_append, List.length_cons, List.length_nil] at hl
  omega

/-- A text in which no placeholder stands. -/
abbrev PlainText := { text : List Char // Plain text }

/-- What stands between the braces of a placeholder. -/
abbrev Inner := { inner : List Char // Fills inner }

/-- Literal text, and placeholders each with the literal text after it. -/
structure Layout where
  lead : PlainText
  parts : List (Inner × PlainText)

namespace Layout

/-- The texts of the parts, with something in place of each placeholder. -/
def fillParts (f : Inner → List Char) (parts : List (Inner × PlainText)) : List Char :=
  parts.flatMap fun part => f part.1 ++ part.2.val

def fill (d : Layout) (f : Inner → List Char) : List Char := d.lead.val ++ fillParts f d.parts

def written (inner : Inner) : List Char := (Piece.placeholder inner.val).written

/-- The text that is laid out so. -/
def text (d : Layout) : List Char := d.fill written

theorem fillParts_cons (f : Inner → List Char) (part : Inner × PlainText)
    (parts : List (Inner × PlainText)) :
    fillParts f (part :: parts) = f part.1 ++ (part.2.val ++ fillParts f parts) := by
  rw [fillParts, List.flatMap_cons, List.append_assoc, fillParts]

theorem scan_written (inner : Inner) (after : List Char) :
    scan (written inner ++ after) = .placeholder inner.val :: scan after := by
  have hp := placeholder?_written inner.property after
  rw [scan, written]
  split
  next found rest hf =>
    cases hp.symm.trans hf
    rfl
  next hn => simp [hp] at hn

theorem scan_literal (h : placeholder? (c :: s) = none) :
    scan (c :: s) = .literal c :: scan s := by
  rw [scan]
  split
  next hf => simp [h] at hf
  next => rfl

/-- What follows a literal text starts with a placeholder, so no placeholder starts in the text and
ends behind it. -/
theorem placeholder?_plain (h : Plain (c :: run)) (parts : List (Inner × PlainText)) :
    placeholder? (c :: run ++ fillParts written parts) = none := by
  cases hp : placeholder? (c :: run ++ fillParts written parts) with
  | none => rfl
  | some found =>
    obtain ⟨inner, after⟩ := found
    exfalso
    obtain ⟨hf, he⟩ := written_of_placeholder? hp
    rcases List.append_eq_append_iff.mp he with ⟨back, hw, hb⟩ | ⟨rest, hw, _⟩
    · cases parts with
      | nil =>
        obtain rfl : back = [] := (List.append_eq_nil_iff.mp hb.symm).1
        rw [List.append_nil] at hw
        exact h _ hf (hw ▸ List.infix_rfl)
      | cons part parts =>
        rw [fillParts_cons, written, written_placeholder] at hb
        cases back with
        | nil =>
          rw [List.append_nil] at hw
          exact h _ hf (hw ▸ List.infix_rfl)
        | cons d back =>
          obtain ⟨rfl, hr⟩ := List.cons.inj hb
          refine eq_nil_of_written hf hw ?_
          rintro d rest rfl
          exact (List.cons.inj hr).1.symm
    · exact h _ hf (hw ▸ (List.prefix_append _ _).isInfix)

theorem scan_plain (h : Plain run) (parts : List (Inner × PlainText)) :
    scan (run ++ fillParts written parts) = run.map .literal ++ scan (fillParts written parts) := by
  induction run with
  | nil => rfl
  | cons c rest ih =>
    rw [List.map_cons, List.cons_append, List.cons_append, ← ih h.tail]
    exact scan_literal (placeholder?_plain h parts)

/-- The pieces of the parts, the characters of the literal texts one by one. -/
def pieces : List (Inner × PlainText) → List Piece
  | [] => []
  | part :: parts =>
    .placeholder part.1.val :: (part.2.val.map .literal ++ pieces parts)

theorem scan_parts (parts : List (Inner × PlainText)) :
    scan (fillParts written parts) = pieces parts := by
  induction parts with
  | nil => simp [fillParts, scan, placeholder?, pieces]
  | cons part parts ih => rw [fillParts_cons, scan_written, scan_plain part.2.property, ih, pieces]

theorem scan_text (d : Layout) : scan d.text = d.lead.val.map .literal ++ pieces d.parts := by
  rw [text, fill, scan_plain d.lead.property, scan_parts]

/-- Literal characters put together again to texts. -/
def gather : List Piece → List Char × List (List Char × List Char)
  | [] => ([], [])
  | .literal c :: rest => (c :: (gather rest).1, (gather rest).2)
  | .placeholder inner :: rest => ([], (inner, (gather rest).1) :: (gather rest).2)

theorem gather_literals (run : List Char) (rest : List Piece) :
    gather (run.map .literal ++ rest) = (run ++ (gather rest).1, (gather rest).2) := by
  induction run with
  | nil => rfl
  | cons c run ih => simp only [List.map_cons, List.cons_append, gather, ih]

theorem gather_pieces (parts : List (Inner × PlainText)) :
    gather (pieces parts) = ([], parts.map fun part => (part.1.val, part.2.val)) := by
  induction parts with
  | nil => rfl
  | cons part parts ih =>
    simp only [pieces, gather, gather_literals, ih, List.append_nil, List.map_cons]

/-- The layout is read off the text. -/
theorem gather_scan_text (d : Layout) :
    gather (scan d.text) = (d.lead.val, d.parts.map fun part => (part.1.val, part.2.val)) := by
  rw [scan_text, gather_literals, gather_pieces, List.append_nil]

theorem eq_of_text_eq {d other : Layout} (h : d.text = other.text) : d = other := by
  have hg : gather (scan d.text) = gather (scan other.text) := by rw [h]
  rw [gather_scan_text, gather_scan_text] at hg
  obtain ⟨hl, hp⟩ := Prod.mk.inj hg
  have hi : Function.Injective fun part : Inner × PlainText => (part.1.val, part.2.val) := by
    intro a b hab
    obtain ⟨ha, hb⟩ := Prod.mk.inj hab
    exact Prod.ext (Subtype.ext ha) (Subtype.ext hb)
  cases d
  cases other
  exact congr (congrArg mk (Subtype.ext hl)) ((List.map_inj_right @hi).mp hp)

theorem exists_text_eq (s : List Char) : ∃ d : Layout, d.text = s := by
  fun_induction scan s with
  | case1 s inner after hp ih =>
    obtain ⟨d, rfl⟩ := ih
    obtain ⟨hf, rfl⟩ := written_of_placeholder? hp
    refine ⟨⟨⟨[], plain_nil⟩, (⟨inner, hf⟩, d.lead) :: d.parts⟩, ?_⟩
    exact fillParts_cons written _ _
  | case2 hp => exact ⟨⟨⟨[], plain_nil⟩, []⟩, rfl⟩
  | case3 c rest hp ih =>
    obtain ⟨d, rfl⟩ := ih
    exact ⟨⟨⟨c :: d.lead.val, plain_cons hp d.lead.property⟩, d.parts⟩, rfl⟩

/-- The form of the variable that a placeholder names, or the placeholder itself when there is no
such variable. -/
def shown (lookUp : String → Option Json) (inner : Inner) : List Char :=
  match lookUp (pathOf inner.val) with
  | some value => value.display.toList
  | none => written inner

variable {lookUp : String → Option Json}

theorem expand_literals (run : List Char) :
    (run.map .literal).flatMap (Piece.expand lookUp) = run := by
  induction run with
  | nil => rfl
  | cons c run ih => rw [List.map_cons, List.flatMap_cons, ih, Piece.expand, List.singleton_append]

theorem expand_pieces (parts : List (Inner × PlainText)) :
    (pieces parts).flatMap (Piece.expand lookUp) = fillParts (shown lookUp) parts := by
  induction parts with
  | nil => rfl
  | cons part parts ih =>
    rw [pieces, List.flatMap_cons, List.flatMap_append, expand_literals, ih, fillParts_cons]
    rfl

theorem interpolate_text (lookUp : String → Option Json) (d : Layout) :
    interpolate lookUp (String.ofList d.text) = String.ofList (d.fill (shown lookUp)) := by
  rw [interpolate, String.toList_ofList, scan_text, List.flatMap_append, expand_literals,
    expand_pieces, fill]

theorem fillParts_congr {f g : Inner → List Char} {parts : List (Inner × PlainText)}
    (h : ∀ part ∈ parts, f part.1 = g part.1) : fillParts f parts = fillParts g parts := by
  induction parts with
  | nil => rfl
  | cons part parts ih =>
    obtain ⟨hp, hr⟩ := List.forall_mem_cons.mp h
    rw [fillParts_cons, fillParts_cons, hp, ih hr]

/-- Where no variable is bound every placeholder stands for itself. -/
theorem fill_shown_of_none {d : Layout} (h : ∀ part ∈ d.parts, lookUp (pathOf part.1.val) = none) :
    d.fill (shown lookUp) = d.text := by
  have hs : ∀ part ∈ d.parts, shown lookUp part.1 = written part.1 := by
    intro part hp
    rw [shown, h part hp]
  rw [fill, text, fill, fillParts_congr hs]

/-- A text without a closing brace, whatever openings are in it, and a placeholder after it. -/
def closing (run : List Char) (h : '\x7d' ∉ run) (inner : Inner) : Layout :=
  ⟨⟨run, plain_of_not_mem h⟩, [(inner, ⟨[], plain_nil⟩)]⟩

theorem fill_closing (f : Inner → List Char) {run : List Char} (h : '\x7d' ∉ run) (inner : Inner) :
    (closing run h inner).fill f = run ++ f inner := by
  simp [closing, fill, fillParts]

end Layout

open Layout (shown written)

/-- A text is made up of literal texts and placeholders in one way only, and the variables of a run
fill it in placeholder by placeholder: each becomes the form of the variable at its trimmed path,
whatever is in that form, and stays as it is where there is no such variable. Openings that are not
closed, or closed at once, are literal text. -/
theorem resolveText_of_layout :
    (∀ text : String, ∃ d : Layout, d.text = text.toList ∧
      (∀ other : Layout, other.text = text.toList → other = d) ∧
      ∀ vars : Vars, vars.resolveText text = String.ofList (d.fill (shown vars.get?)) ∧
        ((∀ part ∈ d.parts, vars.get? (pathOf part.1.val) = none) →
          vars.resolveText text = text)) ∧
    (∀ (vars : Vars) (run : List Char) (inner : Inner), '\x7d' ∉ run →
      vars.resolveText (String.ofList (run ++ written inner)) =
        String.ofList (run ++ shown vars.get? inner)) ∧
    ∀ vars : Vars, vars.resolveText "$\x7b\x7d" = "$\x7b\x7d" := by
  refine ⟨?_, ?_, ?_⟩
  · intro text
    obtain ⟨d, hd⟩ := Layout.exists_text_eq text.toList
    have ht : text = String.ofList d.text := by rw [hd, String.ofList_toList]
    have hv : ∀ vars : Vars, vars.resolveText text = String.ofList (d.fill (shown vars.get?)) := by
      intro vars
      rw [ht]
      exact Layout.interpolate_text vars.get? d
    have hone : ∀ other : Layout, other.text = text.toList → other = d :=
      fun other ho => Layout.eq_of_text_eq (ho.trans hd.symm)
    refine ⟨d, hd, hone, fun vars => ⟨hv vars, ?_⟩⟩
    intro hn
    rw [hv vars, Layout.fill_shown_of_none hn, ← ht]
  · intro vars run inner hc
    have hf := Layout.interpolate_text vars.get? (Layout.closing run hc inner)
    rwa [Layout.text, Layout.fill_closing, Layout.fill_closing] at hf
  · intro vars
    have hf := Layout.interpolate_text vars.get? ⟨⟨_, plain_empty⟩, []⟩
    simpa [Vars.resolveText, Layout.text, Layout.fill, Layout.fillParts] using hf

/-- An opening that is not closed, a placeholder with blanks around its path, an empty opening, and
a placeholder without a variable. -/
def greeting : Layout where
  lead := ⟨['$', '\x7b'], plain_of_not_mem (by decide)⟩
  parts := [
    (⟨" who ".toList, by decide⟩, ⟨['$', '\x7b', '\x7d'], plain_empty⟩),
    (⟨"gone".toList, by decide⟩, ⟨[], plain_nil⟩)]

def greetingText : String := "$\x7b$\x7b who \x7d$\x7b\x7d$\x7bgone\x7d"

/-- The value of the variable has the form of a placeholder itself. -/
def guests : Vars := ⟨[("who", .str "$\x7bwho\x7d")]⟩

theorem resolveText_greeting :
    greeting.text = greetingText.toList ∧
      guests.resolveText greetingText = "$\x7b$\x7bwho\x7d$\x7b\x7d$\x7bgone\x7d" ∧
      (∀ part ∈ greeting.parts, Vars.empty.get? (pathOf part.1.val) = none) ∧
      Vars.empty.resolveText greetingText = greetingText ∧
      '\x7d' ∉ ['$', '\x7b', 'a'] ∧
      guests.resolveText "$\x7ba$\x7bwho\x7d" = "$\x7ba$\x7bwho\x7d" := by
  obtain ⟨hall, hopen, _⟩ := resolveText_of_layout
  obtain ⟨d, _, hone, hv⟩ := hall greetingText
  have ht : greeting.text = greetingText.toList := by decide +kernel
  obtain rfl : greeting = d := hone greeting ht
  have hn : ∀ part ∈ greeting.parts, Vars.empty.get? (pathOf part.1.val) = none := by decide +kernel
  have hc : '\x7d' ∉ ['$', '\x7b', 'a'] := by decide
  refine ⟨ht, (hv guests).1.trans (by decide +kernel), hn, (hv .empty).2 hn, hc, ?_⟩
  have ho := hopen guests _ ⟨"who".toList, by decide⟩ hc
  exact (congrArg _ (by decide +kernel)).trans (ho.trans (by decide +kernel))

end Stepwise.Template
