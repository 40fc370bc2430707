import Stepwise.Double.Decimal
import Stepwise.Json.Basic

namespace Stepwise

/-- Exponents of the first digit for which a float is written without an exponent. -/
def Number.writtenPlainly (power : Int) : Bool := -5 ≤ power && power ≤ 15

/-- A float has the fewest digits that read back; zero has a sign. -/
def Double.write (d : Double) : String :=
  let decimal := d.shortest
  if d.isZero || Number.writtenPlainly decimal.leading then d.writePositional 1
  else String.ofList (d.sign ++ decimal.scientific)

def Number.write : Number → String
  | .int n => Text.Numeral.writeInt n
  | .float d => d.write

namespace Json

def hexDigit (n : Nat) : Char := Nat.digitChar n

def escapeChar (c : Char) : List Char :=
  if c = '"' then ['\\', '"']
  else if c = '\\' then ['\\', '\\']
  else if c.toNat = 8 then ['\\', 'b']
  else if c.toNat = 9 then ['\\', 't']
  else if c.toNat = 10 then ['\\', 'n']
  else if c.toNat = 12 then ['\\', 'f']
  else if c.toNat = 13 then ['\\', 'r']
  else if c.toNat < 0x20 then
    ['\\', 'u', '0', '0', hexDigit (c.toNat / 16), hexDigit (c.toNat % 16)]
  else [c]

/-- Only quotes, backslashes and control characters are escaped. -/
def quote (s : String) : String := String.ofList ('"' :: s.toList.flatMap escapeChar ++ ['"'])

mutual

def compact : Json → String
  | .null => "null"
  | .bool value => if value then "true" else "false"
  | .num n => n.write
  | .str s => quote s
  | .arr items => "[" ++ String.intercalate "," (compactItems items) ++ "]"
  | .obj fields => "\x7b" ++ String.intercalate "," (compactFields fields) ++ "\x7d"

def compactItems : List Json → List String
  | [] => []
  | item :: rest => item.compact :: compactItems rest

def compactFields : List (String × Json) → List String
  | [] => []
  | (key, value) :: rest => (quote key ++ ":" ++ value.compact) :: compactFields rest

end

def indentation (level : Nat) : String := String.ofList ('\n' :: List.replicate (2 * level) ' ')

/-- The lines of a container between its brackets. -/
def enclose (opening closing : String) (level : Nat) (lines : List String) : String :=
  if lines.isEmpty then opening ++ closing
  else
    opening ++ String.intercalate "," (lines.map (indentation (level + 1) ++ ·)) ++
      indentation level ++ closing

mutual

/-- The text with a line for each item and field, at a nesting level. -/
def prettyAt (level : Nat) : Json → String
  | .null => "null"
  | .bool value => if value then "true" else "false"
  | .num n => n.write
  | .str s => quote s
  | .arr items => enclose "[" "]" level (prettyItems (level + 1) items)
  | .obj fields => enclose "\x7b" "\x7d" level (prettyFields (level + 1) fields)

def prettyItems (level : Nat) : List Json → List String
  | [] => []
  | item :: rest => prettyAt level item :: prettyItems level rest

def prettyFields (level : Nat) : List (String × Json) → List String
  | [] => []
  | (key, value) :: rest => (quote key ++ ": " ++ prettyAt level value) :: prettyFields level rest

end

def pretty (j : Json) : String := prettyAt 0 j

/-- The form of a value inside a text: a string stands for itself, everything else is JSON text. -/
def display : Json → String
  | .str s => s
  | j => j.compact

end Json

end Stepwise
