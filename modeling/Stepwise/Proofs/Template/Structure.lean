import Stepwise.Proofs.Json.Path
import Stepwise.Proofs.Template.Layout

namespace Stepwise.Template

variable {lookUp : String → Option Json} {s segment : String} {inner : List Char}
  {t part : Json}

theorem sole?_eq_some_iff :
    sole? s = some inner ↔ Fills inner ∧ s.toList = (Piece.placeholder inner).written := by
  constructor
  · intro h
    unfold sole? at h
    split at h
    next found hp =>
      obtain rfl : found = inner := Option.some.inj h
      obtain ⟨hf, hs⟩ := written_of_placeholder? hp
      rw [List.append_nil] at hs
      exact ⟨hf, hs⟩
    next => cases h
  · rintro ⟨hf, hs⟩
    have hp : placeholder? s.toList = some (inner, []) := by
      have hw := placeholder?_written hf []
      rwa [List.append_nil, ← hs] at hw
    simp only [sole?, hp]

theorem resolve_of_sole? (h : sole? s = some inner) :
    resolve lookUp (.str s) = (lookUp (pathOf inner)).getD (.str s) := by
  simp only [resolve, resolveText, h]

theorem resolve_of_not_sole? (h : sole? s = none) :
    resolve lookUp (.str s) = .str (interpolate lookUp s) := by
  simp only [resolve, resolveText, h]

theorem interpolate_of_sole? (h : sole? s = some inner) :
    interpolate lookUp s = ((lookUp (pathOf inner)).getD (.str s)).display := by
  have hs := (sole?_eq_some_iff.mp h).2
  have he : interpolate lookUp s =
      String.ofList ((Piece.placeholder inner).expand lookUp) := by
    rw [interpolate, scan_of_sole? h, List.flatMap_cons, List.flatMap_nil, List.append_nil]
  rw [he, Piece.expand]
  cases lookUp (pathOf inner) with
  | none =>
    -- the placeholder stands for itself, which is the whole text
    show String.ofList (Piece.placeholder inner).written = s
    rw [← hs, String.ofList_toList]
  | some value => exact String.ofList_toList

/-- The pieces of a text make up the text. -/
theorem flatMap_written (s : List Char) : (scan s).flatMap Piece.written = s := by
  fun_induction scan s with
  | case1 s inner after hp ih =>
    rw [List.flatMap_cons, ih]
    exact (written_of_placeholder? hp).2.symm
  | case2 => rfl
  | case3 c rest hp ih =>
    rw [List.flatMap_cons, ih]
    rfl

theorem expand_of_unbound {piece : Piece}
    (h : ∀ path, piece.path? = some path → lookUp path = none) :
    piece.expand lookUp = piece.written := by
  cases piece with
  | literal c => rfl
  | placeholder inner => simp only [Piece.expand, h _ rfl]

/-- A text whose placeholders name nothing stays as it is. -/
theorem resolve_of_unbound (h : ∀ path ∈ textPaths s, lookUp path = none) :
    resolve lookUp (.str s) = .str s := by
  cases hs : sole? s with
  | some inner =>
    have hm : pathOf inner ∈ textPaths s := by
      rw [textPaths, scan_of_sole? hs]
      exact List.mem_singleton_self _
    rw [resolve_of_sole? hs, h _ hm, Option.getD_none]
  | none =>
    have hp : ∀ piece ∈ scan s.toList, piece.expand lookUp = piece.written := by
      intro piece hm
      exact expand_of_unbound fun path hp => h path (List.mem_filterMap.mpr ⟨piece, hm, hp⟩)
    rw [resolve_of_not_sole? hs, interpolate, List.flatMap_def, List.map_congr_left hp,
      ← List.flatMap_def, flatMap_written, String.ofList_toList]

/-- There is no placeholder without an opening brace. -/
theorem textPaths_eq_nil (h : '\x7b' ∉ s.toList) : textPaths s = [] := by
  refine List.filterMap_eq_nil_iff.mpr fun piece hm => ?_
  cases piece with
  | literal c => rfl
  | placeholder inner =>
    refine absurd ?_ h
    rw [← flatMap_written s.toList]
    exact List.mem_flatMap.mpr ⟨_, hm, by simp [Piece.written]⟩

/-- A text is shown in the same form whether the values of its variables keep their type or not. -/
theorem display_resolve_text (lookUp : String → Option Json) (s : String) :
    (resolve lookUp (.str s)).display = interpolate lookUp s := by
  cases hs : sole? s with
  | none =>
    rw [resolve_of_not_sole? hs]
    rfl
  | some inner => rw [resolve_of_sole? hs, interpolate_of_sole? hs]

/-- What does not stay a text is one placeholder, and becomes the value of its variable. -/
theorem exists_inner_of_text?_eq_none (h : (resolve lookUp (.str s)).text? = none) :
    ∃ inner, (Fills inner ∧ s.toList = (Piece.placeholder inner).written) ∧
      lookUp (pathOf inner) = some (resolve lookUp (.str s)) := by
  cases hs : sole? s with
  | none =>
    rw [resolve_of_not_sole? hs] at h
    cases h
  | some inner =>
    refine ⟨inner, sole?_eq_some_iff.mp hs, ?_⟩
    rw [resolve_of_sole? hs] at h ⊢
    cases hv : lookUp (pathOf inner) with
    | none =>
      rw [hv] at h
      cases h
    | some value => rfl

theorem resolve_arr (lookUp : String → Option Json) (items : List Json) :
    resolve lookUp (.arr items) = .arr (items.map (resolve lookUp)) := by
  rw [resolve, resolveItems_eq_map]

theorem child?_resolve (h : t.child? segment = some part) :
    (resolve lookUp t).child? segment = some (resolve lookUp part) := by
  cases t with
  | arr items =>
    obtain ⟨position, hp, hi⟩ := Option.bind_eq_some_iff.mp h
    rw [resolve_arr]
    refine Option.bind_eq_some_iff.mpr ⟨position, hp, ?_⟩
    rw [List.getElem?_map, hi]
    rfl
  | obj fields =>
    have hf : Entries.get? fields segment = some part := h
    show Entries.get? (resolveFields lookUp fields) segment = _
    rw [get?_resolveFields, hf]
    rfl
  | _ => cases h

theorem walk?_resolve {segments : List String} (h : Json.walk? segments t = some part) :
    Json.walk? segments (resolve lookUp t) = some (resolve lookUp part) := by
  induction segments generalizing t with
  | nil =>
    cases h
    rfl
  | cons segment rest ih =>
    obtain ⟨child, hc, hr⟩ := Option.bind_eq_some_iff.mp h
    rw [Json.walk?, child?_resolve hc]
    exact ih hr

/-- A text that is resolved to a value and one that is filled in come to the same when shown, and
only a text that is one placeholder can become something other than a text: then it becomes the
value of its variable. What is read along a path of a template becomes what is read along it in the
resolved value, and wherever there is an array or an object in the template, there is one in the
resolved value, with as many items or with the same keys. -/
theorem resolve_laws (vars : Vars) :
    (∀ s : String, (vars.resolve (.str s)).display = vars.resolveText s ∧
      ((∀ text, vars.resolve (.str s) ≠ .str text) → ∃ inner,
        (Fills inner ∧ s.toList = (Piece.placeholder inner).written) ∧
          vars.get? (pathOf inner) = some (vars.resolve (.str s)))) ∧
    (∀ (t part : Json) (path : String), t.atPath? path = some part →
      (vars.resolve t).atPath? path = some (vars.resolve part)) ∧
    ∀ (t : Json) (segments : List String),
      (∀ items, t.walk? segments = some (.arr items) → ∃ resolved,
        (vars.resolve t).walk? segments = some (.arr resolved) ∧
          resolved.length = items.length) ∧
      ∀ fields, t.walk? segments = some (.obj fields) → ∃ resolved,
        (vars.resolve t).walk? segments = some (.obj resolved) ∧
          Entries.keys resolved = Entries.keys fields := by
  refine ⟨?texts, ?reading, ?shape⟩
  case texts =>
    intro s
    refine ⟨display_resolve_text vars.get? s, fun h => ?_⟩
    have hn : (vars.resolve (.str s)).text? = none := by
      cases hr : vars.resolve (.str s) with
      | str text => exact absurd hr (h text)
      | _ => rfl
    exact exists_inner_of_text?_eq_none hn
  case reading =>
    intro t part path h
    exact walk?_resolve h
  case shape =>
    intro t segments
    constructor
    · intro items h
      have hr : (vars.resolve t).walk? segments = some (vars.resolve (.arr items)) :=
        walk?_resolve h
      have ha : vars.resolve (.arr items) = .arr (items.map vars.resolve) := resolve_arr _ items
      exact ⟨_, ha ▸ hr, List.length_map _⟩
    · intro fields h
      exact ⟨_, walk?_resolve h, keys_resolveFields _ _⟩

/-- Two items, and a name that looks like a placeholder. -/
def basket : Vars := ⟨[("items", .arr [.ofNat 1, .ofNat 2]), ("name", .str "$\x7bitems\x7d")]⟩

/-- A placeholder alone, one in a longer text, and one in a key. -/
def letter : Json := .obj [
  ("$\x7bname\x7d", .arr [.obj [("list", .str "$\x7b items \x7d")], .null]),
  ("to", .str "for $\x7bname\x7d")]

/-- The list in the letter keeps its type. -/
theorem resolve_laws_letter :
    ((∀ text, basket.resolve (.str "$\x7b items \x7d") ≠ .str text) ∧ ∃ inner,
      (Fills inner ∧ "$\x7b items \x7d".toList = (Piece.placeholder inner).written) ∧
        basket.get? (pathOf inner) = some (.arr [.ofNat 1, .ofNat 2])) ∧
    (letter.atPath? "$\x7bname\x7d.0.list" = some (.str "$\x7b items \x7d") ∧
      (basket.resolve letter).atPath? "$\x7bname\x7d.0.list" =
        some (.arr [.ofNat 1, .ofNat 2])) ∧
    (∃ items resolved, letter.walk? ["$\x7bname\x7d"] = some (.arr items) ∧
      (basket.resolve letter).walk? ["$\x7bname\x7d"] = some (.arr resolved) ∧
        resolved.length = items.length) ∧
    ∃ fields resolved, letter.walk? [] = some (.obj fields) ∧
      (basket.resolve letter).walk? [] = some (.obj resolved) ∧
        Entries.keys resolved = Entries.keys fields := by
  have hv : basket.resolve (.str "$\x7b items \x7d") = .arr [.ofNat 1, .ofNat 2] := by
    decide +kernel
  have hn : ∀ text, basket.resolve (.str "$\x7b items \x7d") ≠ .str text := by
    intro text ht
    cases hv.symm.trans ht
  have hp : letter.atPath? "$\x7bname\x7d.0.list" = some (.str "$\x7b items \x7d") := by
    decide +kernel
  obtain ⟨htexts, hreading, hshape⟩ := resolve_laws basket
  obtain ⟨inner, hi, hg⟩ := (htexts _).2 hn
  obtain ⟨items, hw⟩ : ∃ items, letter.walk? ["$\x7bname\x7d"] = some (.arr items) := ⟨_, rfl⟩
  obtain ⟨fields, ho⟩ : ∃ fields, letter.walk? [] = some (.obj fields) := ⟨_, rfl⟩
  obtain ⟨resolved, hr, hl⟩ := (hshape letter _).1 items hw
  obtain ⟨bound, hb, hk⟩ := (hshape letter _).2 fields ho
  have hread := hreading _ _ _ hp
  rw [hv] at hg hread
  exact ⟨⟨hn, inner, hi, hg⟩, ⟨hp, hread⟩, ⟨items, resolved, hw, hr, hl⟩, fields, bound, ho, hb, hk⟩

end Stepwise.Template
