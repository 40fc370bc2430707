import Stepwise.Json.Path
import Stepwise.Json.Printer
import Stepwise.Text.Blank

namespace Stepwise.Template

/-- The text of a template is made of literals and of placeholders. A placeholder opens with a
dollar sign and a brace, holds at least one character and no brace, and closes with a brace. -/
inductive Piece where
  | literal (c : Char)
  /-- What stands between the braces of a placeholder. -/
  | placeholder (inner : List Char)
deriving DecidableEq, Repr

def isInner (c : Char) : Bool := c != '\x7b' && c != '\x7d'

/-- The placeholder at the start of a text, and the text after it. -/
def placeholder? : List Char → Option (List Char × List Char)
  | '$' :: '\x7b' :: rest =>
    match rest.takeWhile isInner, rest.dropWhile isInner with
    | c :: inner, '\x7d' :: after => some (c :: inner, after)
    | _, _ => none
  | _ => none

theorem length_of_placeholder? {s inner after : List Char}
    (h : placeholder? s = some (inner, after)) : after.length < s.length := by
  unfold placeholder? at h
  split at h
  next rest =>
    split at h
    next c more tail _ hd =>
      have hl := (List.dropWhile_suffix (l := rest) isInner).length_le
      cases h
      simp only [hd, List.length_cons] at hl ⊢
      omega
    next => simp at h
  next => simp at h

def scan (s : List Char) : List Piece :=
  match _h : placeholder? s with
  | some (inner, after) => .placeholder inner :: scan after
  | none =>
    match s with
    | [] => []
    | c :: rest => .literal c :: scan rest
termination_by s.length
decreasing_by
  · exact length_of_placeholder? _h
  · simp

def Piece.written : Piece → List Char
  | .literal c => [c]
  | .placeholder inner => '$' :: '\x7b' :: inner ++ ['\x7d']

def pathOf (inner : List Char) : String := String.ofList (Text.trimChars inner)

/-- What a piece stands for; a placeholder of an absent variable stands for itself. -/
def Piece.expand (lookUp : String → Option Json) : Piece → List Char
  | .literal c => [c]
  | .placeholder inner =>
    match lookUp (pathOf inner) with
    | some value => value.display.toList
    | none => (Piece.placeholder inner).written

/-- Replaces the placeholders; what takes the place of one is not looked at again. -/
def interpolate (lookUp : String → Option Json) (text : String) : String :=
  String.ofList ((scan text.toList).flatMap (Piece.expand lookUp))

/-- The inside of the placeholder that a text consists of. -/
def sole? (text : String) : Option (List Char) :=
  match placeholder? text.toList with
  | some (inner, []) => some inner
  | _ => none

/-- A text that is one placeholder becomes the value itself, every other text stays a text. -/
def resolveText (lookUp : String → Option Json) (text : String) : Json :=
  match sole? text with
  | some inner => (lookUp (pathOf inner)).getD (.str text)
  | none => .str (interpolate lookUp text)

mutual

/-- Replaces the placeholders in all texts of a value, keys of objects apart. -/
def resolve (lookUp : String → Option Json) : Json → Json
  | .str s => resolveText lookUp s
  | .arr items => .arr (resolveItems lookUp items)
  | .obj fields => .obj (resolveFields lookUp fields)
  | .null => .null
  | .bool value => .bool value
  | .num n => .num n

def resolveItems (lookUp : String → Option Json) : List Json → List Json
  | [] => []
  | item :: rest => resolve lookUp item :: resolveItems lookUp rest

def resolveFields (lookUp : String → Option Json) : List (String × Json) → List (String × Json)
  | [] => []
  | (key, value) :: rest => (key, resolve lookUp value) :: resolveFields lookUp rest

end

end Stepwise.Template
