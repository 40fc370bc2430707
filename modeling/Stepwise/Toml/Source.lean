import Stepwise.Reading.Source
import Stepwise.Toml.Value

namespace Stepwise.Toml

def flag? : Toml → Option Bool
  | .flag value => some value
  | _ => none

def items? : Toml → Option (List Toml)
  | .array items => some items
  | _ => none

/-- A whole number below a bound. -/
def below? (bound : Nat) : Toml → Option Nat
  | .int (.ofNat n) => if n < bound then some n else none
  | _ => none

/-- A text; a moment is none. -/
def text? : Toml → Option String
  | .text s => some s
  | _ => none

def floating? : Toml → Option Floating
  | .int n => some (.finite (.ofInt n))
  | .float x => some x
  | _ => none

/-- The fields of a table. A moment counts as a table of one field that no record has. -/
def fields? : Toml → Option (List (String × Toml))
  | .table fields => some fields
  | .moment written => some [("moment", .text written)]
  | _ => none

/-- Each value stands for what it is. -/
def source : Source Toml where
  isNull _ := false
  flag? := flag?
  text? := text?
  count? := below? Text.Numeral.wordBound
  attempts? := below? Text.Numeral.halfWordBound
  floating? := floating?
  milliseconds? := below? Text.Numeral.wordBound
  literal? := text?
  items? := items?
  fields? := fields?
  value? _ := none
  exactLength := false

end Stepwise.Toml
