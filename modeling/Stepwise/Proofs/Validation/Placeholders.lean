import Stepwise.Proofs.Template.Structure
import Stepwise.Proofs.Text
import Stepwise.Proofs.Validation.Operators

namespace Stepwise

/-- Some value has a given value at a place. -/
theorem Json.exists_walk? (segments : List String) (v : Json) : ∃ j, walk? segments j = some v := by
  induction segments with
  | nil => exact ⟨v, rfl⟩
  | cons segment rest ih =>
    obtain ⟨inner, hi⟩ := ih
    refine ⟨.obj [(segment, inner)], ?_⟩
    have hc : (Json.obj [(segment, inner)]).child? segment = some inner := if_pos rfl
    rw [walk?, hc]
    exact hi

theorem Vars.exists_get? (path : String) (v : Json) : ∃ vars : Vars, vars.get? path = some v := by
  obtain ⟨head, rest, hs⟩ : ∃ head rest, Json.segments path = head :: rest :=
    ⟨_, _, segments_eq path⟩
  obtain ⟨root, hr⟩ := Json.exists_walk? rest v
  refine ⟨⟨[(head, root)]⟩, ?_⟩
  have hc : (toJson ⟨[(head, root)]⟩).child? head = some root := if_pos rfl
  rw [get?_eq_atPath?, Json.atPath?, hs, Json.walk?, hc]
  exact hr

namespace Template

variable {s : String} {inner other : List Char}

/-- The text is one placeholder and nothing else. -/
def IsPlaceholder (s : String) : Prop :=
  ∃ inner, Fills inner ∧ s.toList = (Piece.placeholder inner).written

theorem isPlaceholder_iff_sole? : IsPlaceholder s ↔ (sole? s).isSome = true := by
  rw [Option.isSome_iff_exists]
  exact exists_congr fun inner => sole?_eq_some_iff.symm

instance (s : String) : Decidable (IsPlaceholder s) :=
  decidable_of_iff _ isPlaceholder_iff_sole?.symm

theorem written_inj (h : (Piece.placeholder inner).written = (Piece.placeholder other).written) :
    inner = other := by
  have ht : inner ++ ['\x7d'] = other ++ ['\x7d'] := (List.cons.inj (List.cons.inj h).2).2
  exact List.append_cancel_right ht

theorem resolve_of_not_isPlaceholder (vars : Vars) (h : ¬IsPlaceholder s) :
    vars.resolve (.str s) = .str (vars.resolveText s) := by
  rw [isPlaceholder_iff_sole?, Option.not_isSome_iff_eq_none] at h
  exact resolve_of_not_sole? h

/-- The texts that become an array for some variables are those that are one placeholder. -/
theorem exists_array_iff :
    (∃ (vars : Vars) (items : List Json), vars.resolve (.str s) = .arr items) ↔
      IsPlaceholder s := by
  constructor
  · rintro ⟨vars, items, h⟩
    by_cases hp : IsPlaceholder s
    · exact hp
    · cases h.symm.trans (resolve_of_not_isPlaceholder vars hp)
  · rintro ⟨inner, hi⟩
    obtain ⟨vars, hv⟩ := Vars.exists_get? (pathOf inner) (.arr [])
    refine ⟨vars, [], ?_⟩
    have hr : vars.resolve (.str s) = (vars.get? (pathOf inner)).getD (.str s) :=
      resolve_of_sole? (sole?_eq_some_iff.mpr hi)
    rw [hr, hv]
    rfl

end Template

namespace Validation

open Condition (Stands Operator)
open Template (Piece Fills IsPlaceholder)

variable {s : String} {op : Operator}

/-- A text that looks like a placeholder and is none: there are blanks around it, or what stands
between its outer braces is empty or has braces of its own. -/
def Disguised (s : String) : Prop :=
  ∃ front inner back, s.toList = front ++ ((Piece.placeholder inner).written ++ back) ∧
    (∀ c ∈ front, Text.isBlank c = true) ∧ (∀ c ∈ back, Text.isBlank c = true) ∧
      ¬(front = [] ∧ back = [] ∧ Fills inner)

/-- A text that starts and ends as a placeholder does. -/
theorem written_iff {text : List Char} :
    ['$', '\x7b'] <+: text ∧ ['\x7d'] <:+ text ↔
      ∃ inner, text = (Piece.placeholder inner).written := by
  constructor
  · rintro ⟨⟨rest, rfl⟩, ⟨front, hf⟩⟩
    rcases List.eq_nil_or_concat rest with rfl | ⟨inner, last, rfl⟩
    · -- the opening brace would have to be the closing one
      have he : front ++ ['\x7d'] = ['$'] ++ ['\x7b'] := hf
      cases (List.append_inj' he rfl).2
    · rw [List.concat_eq_append] at hf ⊢
      have he : front ++ ['\x7d'] = ('$' :: '\x7b' :: inner) ++ [last] := hf
      cases (List.append_inj' he rfl).2
      exact ⟨inner, rfl⟩
  · rintro ⟨inner, rfl⟩
    exact ⟨⟨inner ++ ['\x7d'], rfl⟩, ⟨'$' :: '\x7b' :: inner, rfl⟩⟩

theorem looksLikePlaceholder_iff :
    looksLikePlaceholder (.str s) = true ↔
      ∃ inner, Text.trimChars s.toList = (Piece.placeholder inner).written := by
  rw [← written_iff]
  simp [looksLikePlaceholder, Text.trim, Text.startsWith, Text.endsWith]

theorem trimChars_written (inner : List Char) :
    Text.trimChars (Piece.placeholder inner).written = (Piece.placeholder inner).written :=
  Text.trimChars_of_ends (by decide) (by decide) _

theorem looksLikePlaceholder_iff_or :
    looksLikePlaceholder (.str s) = true ↔ IsPlaceholder s ∨ Disguised s := by
  rw [looksLikePlaceholder_iff]
  constructor
  · rintro ⟨inner, ht⟩
    obtain ⟨front, back, hf, hb, hs⟩ := Text.exists_trimChars_append s.toList
    rw [ht] at hs
    by_cases he : front = [] ∧ back = [] ∧ Fills inner
    · obtain ⟨rfl, rfl, hi⟩ := he
      rw [List.nil_append, List.append_nil] at hs
      exact .inl ⟨inner, hi, hs⟩
    · exact .inr ⟨front, inner, back, hs, hf, hb, he⟩
  · rintro (⟨inner, _, hs⟩ | ⟨front, inner, back, hs, hf, hb, _⟩)
    · exact ⟨inner, by rw [hs, trimChars_written]⟩
    · refine ⟨inner, ?_⟩
      rw [hs, Text.trimChars_append_left hf, Text.trimChars_append_right hb, trimChars_written]

/-- A placeholder has no blank at its ends, so a disguised text is none. -/
theorem not_isPlaceholder_of_disguised (h : Disguised s) : ¬IsPlaceholder s := by
  rintro ⟨inside, hi, hp⟩
  obtain ⟨front, inner, back, hs, hf, hb, hn⟩ := h
  have he := hs.symm.trans hp
  have ht : (Piece.placeholder inner).written = (Piece.placeholder inside).written := by
    rw [← trimChars_written inside, ← he, Text.trimChars_append_left hf,
      Text.trimChars_append_right hb, trimChars_written]
  obtain rfl : inner = inside := Template.written_inj ht
  have hl := congrArg List.length he
  simp only [List.length_append] at hl
  have hlf : front.length = 0 := by omega
  have hlb : back.length = 0 := by omega
  exact hn ⟨List.length_eq_zero_iff.mp hlf, List.length_eq_zero_iff.mp hlb, hi⟩

/-- What an operator that needs an array says of a text. -/
def notAnArray (op : Operator) (text : String) : String :=
  op.key ++ " expects an array operand, got " ++ (Json.str text).compact

theorem operatorFindings_text (ha : needsArray op = true) (location s : String) :
    operatorFindings location op.key (.str s) =
      if looksLikePlaceholder (.str s) then []
      else [error conditionRule (notAnArray op s) location] := by
  simp only [operatorFindings, Operator.ofKey?_key, operandFindings, ha, Bool.true_and]
  cases looksLikePlaceholder (.str s) <;> rfl

theorem eval_text (ha : needsArray op = true) (value : Option Json) (text : String) :
    Condition.eval value (.obj [(op.key, .str text)]) =
      .error (.invalidCondition (notAnArray op text)) := by
  have ht : Condition.evalOne value op.key (.str text) =
      .error (.invalidCondition (notAnArray op text)) := by
    simp only [Condition.evalOne, Operator.ofKey?_key]
    cases op with
    | isIn => rfl
    | notIn => rfl
    | or => rfl
    | _ => cases ha
  simp only [Condition.eval, Condition.checkKeys, Operator.ofKey?_key, Except.bind,
    Condition.evalAll, ht]

theorem eval_resolved (ha : needsArray op = true) (hn : ¬IsPlaceholder s) (vars : Vars)
    (value : Option Json) : Condition.eval value (vars.resolve (.obj [(op.key, .str s)])) =
      .error (.invalidCondition (notAnArray op (vars.resolveText s))) := by
  have hr : vars.resolve (.obj [(op.key, .str s)]) = .obj [(op.key, .str (vars.resolveText s))] :=
    congrArg (fun j => Json.obj [(op.key, j)]) (Template.resolve_of_not_isPlaceholder vars hn)
  rw [hr]
  exact eval_text ha value _

/-- A rule that finds nothing in an object has nothing to say of its operators. -/
theorem silent_operator {location key : String} {operand : Json} {fields : List (String × Json)}
    (h : Silent (operatorsFindings location fields)) (hm : (key, operand) ∈ fields) :
    Silent (operatorFindings location key operand) := by
  induction fields with
  | nil => cases hm
  | cons field rest ih =>
    obtain ⟨hf, hr⟩ := silent_append.mp h
    rcases List.mem_cons.mp hm with rfl | hm
    · exact hf
    · exact ih hr hm

theorem silent_branch {location : String} {index : Nat} {branches : List Json} {branch : Json}
    (h : Silent (branchesFindings location index branches)) (hm : branch ∈ branches) :
    ∃ place, Silent (conditionFindings place branch) := by
  induction branches generalizing index with
  | nil => cases hm
  | cons first rest ih =>
    obtain ⟨hf, hr⟩ := silent_append.mp h
    rcases List.mem_cons.mp hm with rfl | hm
    · exact ⟨_, hf⟩
    · exact ih hr hm

/-- Nor has it of an operator at any depth. -/
theorem silent_of_stands {condition operand : Json} {location : String}
    (hs : Stands op operand condition) (h : Silent (conditionFindings location condition)) :
    ∃ place, Silent (operatorFindings place op.key operand) := by
  induction hs generalizing location with
  | here hm => exact ⟨_, silent_operator h hm⟩
  | @inBranch fields branches branch hm hb _ ih =>
    have ho : Silent (operatorFindings location Operator.or.key (.arr branches)) :=
      silent_operator h hm
    simp only [operatorFindings, Operator.ofKey?_key] at ho
    obtain ⟨place, hp⟩ := silent_branch ho hb
    exact ih hp

/-- A text can become an array just when it is one placeholder. Over such a text an operator that
needs an array passes the rules, and so it does over a disguised one, but over no other text: in a
workflow without errors there is none in a guard, in a branch at any depth included. A text that is
not one placeholder fails the condition for all variables and values, reported or not. -/
theorem passes_iff_isPlaceholder_or_disguised (s : String) :
    ((∃ (vars : Vars) (items : List Json), vars.resolve (.str s) = .arr items) ↔
      IsPlaceholder s) ∧
    (looksLikePlaceholder (.str s) = true ↔ IsPlaceholder s ∨ Disguised s) ∧
    (Disguised s → ¬IsPlaceholder s) ∧
    ∀ op : Operator, needsArray op = true →
      (¬IsPlaceholder s → ¬Disguised s → ∀ location, operatorFindings location op.key (.str s) =
        [error conditionRule (notAnArray op s) location]) ∧
      (∀ (w : Workflow) (step : Step) (guard : Entries Json) (path : String) (condition : Json),
        Silent (findings builtin w) → step ∈ w.steps → step.condition = some guard →
          (path, condition) ∈ guard → Stands op (.str s) condition →
            IsPlaceholder s ∨ Disguised s) ∧
      (¬IsPlaceholder s → ∀ (vars : Vars) (value : Option Json),
        Condition.eval value (vars.resolve (.obj [(op.key, .str s)])) =
          .error (.invalidCondition (notAnArray op (vars.resolveText s)))) := by
  refine ⟨Template.exists_array_iff, looksLikePlaceholder_iff_or,
    not_isPlaceholder_of_disguised, fun op ha => ⟨?reported, ?accepted, ?failing⟩⟩
  case reported =>
    intro hp hd location
    have hn : ¬looksLikePlaceholder (.str s) = true := by
      rw [looksLikePlaceholder_iff_or]
      exact not_or.mpr ⟨hp, hd⟩
    rw [operatorFindings_text ha, if_neg hn]
  case accepted =>
    intro w step guard path condition hw hs hg hm hst
    obtain ⟨place, hf⟩ := condition_of_silent hw hs hg hm
    obtain ⟨_, ho⟩ := silent_of_stands hst hf
    rcases items_of_silent (Operator.ofKey?_key op) ha ho with ⟨items, hi⟩ | hl
    · cases hi
    · exact looksLikePlaceholder_iff_or.mp hl
  case failing =>
    intro hn vars value
    exact eval_resolved ha hn vars value

/-- Starts with one placeholder and ends with another. -/
def twoInARow : String := "$\x7ba\x7d$\x7bb\x7d"

def twoInARowGuard : Entries Json := [("lang", .obj [("$in", .str twoInARow)])]

def picky : Step where
  name := "go"
  condition := some twoInARowGuard
  output := some "result"

def picking : Workflow where
  name := "picking"
  steps := [picky]

/-- Over a text without a placeholder an operator that needs an array is reported, and a guard of
it fails. Over the two placeholders it is not, so they are disguised. -/
theorem passes_iff_isPlaceholder_or_disguised_draft :
    (¬IsPlaceholder "draft" ∧ ¬Disguised "draft" ∧ needsArray .notIn = true ∧
      operatorFindings "here" "$nin" (.str "draft") =
        [error conditionRule (notAnArray .notIn "draft") "here"] ∧
      ∀ (vars : Vars) (value : Option Json),
        Condition.eval value (vars.resolve (.obj [("$nin", .str "draft")])) =
          .error (.invalidCondition (notAnArray .notIn (vars.resolveText "draft")))) ∧
    (Silent (findings builtin picking) ∧ picky ∈ picking.steps ∧
      Stands .isIn (.str twoInARow) (.obj [("$in", .str twoInARow)]) ∧
      (IsPlaceholder twoInARow ∨ Disguised twoInARow)) ∧
    Disguised twoInARow ∧ ¬IsPlaceholder twoInARow := by
  obtain ⟨_, hlooks, _, hop⟩ := passes_iff_isPlaceholder_or_disguised "draft"
  have hn : looksLikePlaceholder (.str "draft") = false := by decide +kernel
  have hno : ¬(IsPlaceholder "draft" ∨ Disguised "draft") := by
    rw [← hlooks, hn]
    exact Bool.false_ne_true
  obtain ⟨hp, hd⟩ := not_or.mp hno
  have ha : needsArray .notIn = true := rfl
  obtain ⟨hfind, _, heval⟩ := hop .notIn ha
  have hw : Silent (findings builtin picking) := by decide +kernel
  have hs : picky ∈ picking.steps := List.mem_singleton_self _
  have hst : Stands .isIn (.str twoInARow) (.obj [("$in", .str twoInARow)]) :=
    .here (List.mem_singleton_self _)
  obtain ⟨_, _, hnone, htwo⟩ := passes_iff_isPlaceholder_or_disguised twoInARow
  have haccepted := (htwo .isIn rfl).2.1 picking picky twoInARowGuard "lang" _ hw hs rfl
    (List.mem_singleton_self _) hst
  have hdis : Disguised twoInARow := haccepted.resolve_left (by decide +kernel)
  exact ⟨⟨hp, hd, ha, hfind hp hd "here", heval hp⟩, ⟨hw, hs, hst, haccepted⟩, hdis, hnone hdis⟩

/-- The two are no placeholder and never become an array, so the guard fails for all variables; but
they look like a placeholder, and nothing is reported. -/
theorem twoInARow_unreported :
    looksLikePlaceholder (.str twoInARow) = true ∧
    (∀ (vars : Vars) (items : List Json), vars.resolve (.str twoInARow) ≠ .arr items) ∧
    check builtin picking = .ok [] ∧
    ∀ vars : Vars, vars.meets twoInARowGuard =
      .error (.invalidCondition (notAnArray .isIn (vars.resolveText twoInARow))) := by
  have hn : ¬IsPlaceholder twoInARow := by decide +kernel
  refine ⟨by decide +kernel, ?_, rfl, ?_⟩
  · intro vars items h
    exact hn (Template.exists_array_iff.mp ⟨vars, items, h⟩)
  · intro vars
    have ha : needsArray .isIn = true := rfl
    have he := eval_resolved ha hn vars (vars.get? "lang")
    exact congrArg (Except.bind · _) he

end Validation

end Stepwise
