import Stepwise.Text.Numeral
import Stepwise.Text.Pieces

namespace Stepwise.Settings

inductive Step where
  | field (key : String)
  | item (position : Int)
deriving DecidableEq, Repr

namespace Step

def isNameChar (c : Char) : Bool := c.isAlphanum || c == '_' || c == '-' || c == ' '

def isGap (c : Char) : Bool := c == ' ' || c == '\t'

/-- A whole number of digits after an optional hyphen. -/
def number? (s : List Char) : Option Int :=
  if s.head? = some '+' then none else Text.Numeral.readSigned? s

/-- The position in brackets, with gaps around it. -/
def position? (inside : List Char) : Option Int :=
  number? ((inside.dropWhile isGap).reverse.dropWhile isGap).reverse

theorem length_after_splitOnce {separator : Char} {s head tail : List Char}
    (h : Text.splitOnce separator s = (head, some tail)) : tail.length < s.length := by
  induction s generalizing head with
  | nil => simp [Text.splitOnce] at h
  | cons c rest ih =>
    simp only [Text.splitOnce] at h
    split at h
    · simp only [Prod.mk.injEq, Option.some.injEq] at h
      simp [h.2]
    · simp only [Prod.mk.injEq] at h
      have := ih (Prod.ext rfl h.2)
      simp only [List.length_cons]
      omega

/-- Steps as they are written one after the other, a point before each field. -/
def list? : List Char → Option (List Step)
  | [] => some []
  | '.' :: rest =>
    let name := rest.takeWhile isNameChar
    if name.isEmpty then none
    else (list? (rest.dropWhile isNameChar)).map (.field (String.ofList name) :: ·)
  | '[' :: rest =>
    match _ : Text.splitOnce ']' rest with
    | (inside, some rest) => do
      let position ← position? inside
      return .item position :: (← list? rest)
    | (_, none) => none
  | _ :: _ => none
termination_by s => s.length
decreasing_by
  · have := (List.dropWhile_sublist isNameChar (l := rest)).length_le
    simp only [List.length_cons]
    omega
  · have := length_after_splitOnce ‹_›
    simp only [List.length_cons]
    omega

end Step

/-- The way to a place in settings, `activities.overrides.mail[0].retry`: a position stands in
brackets, and a negative one counts from the end. -/
def pathOf (key : String) : List Step := (Step.list? ('.' :: key.toList)).getD [.field key]

end Stepwise.Settings
