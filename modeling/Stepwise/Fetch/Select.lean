import Stepwise.Json.Path
import Stepwise.Text.Blank

namespace Stepwise.Fetch

def isSeparator (c : Char) : Bool := c == ',' || Text.isBlank c

/-- The words of a text between separators, the current one in reverse. -/
def wordsFrom (current : List Char) : List Char → List (List Char)
  | [] => if current.isEmpty then [] else [current.reverse]
  | c :: rest =>
    if isSeparator c then
      if current.isEmpty then wordsFrom [] rest else current.reverse :: wordsFrom [] rest
    else wordsFrom (c :: current) rest

/-- The paths that a select text lists. -/
def selectedPaths (select : String) : List String := (wordsFrom [] select.toList).map String.ofList

/-- The selected fields of an object, at the paths where they stand; anything else stays as it
is. -/
def restrict (record : Json) (fields : List String) : Json :=
  match record with
  | .obj _ =>
    fields.foldl (fun out field =>
      match record.atPath? field with
      | some value => (out.setAtPath? field value).getD out
      | none => out) (.obj [])
  | other => other

end Stepwise.Fetch
