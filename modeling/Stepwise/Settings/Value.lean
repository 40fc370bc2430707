import Stepwise.Double.Text
import Stepwise.Reading.Source
import Stepwise.Toml.Value
import Stepwise.Unicode.LowerCase

namespace Stepwise

/-- The whole number nearest to the size of a double, a half going up. -/
def Double.rounded (d : Double) : Nat := (2 * d.magnitude + unitsPerOne) / (2 * unitsPerOne)

/-- A float as a count: rounded, none below zero, and none beyond the largest. -/
def Floating.count : Floating → Nat
  | .finite d => if d.negative then 0 else min d.rounded (Text.Numeral.wordBound - 1)
  | .infinite negative => if negative then 0 else Text.Numeral.wordBound - 1
  | .notANumber => 0

namespace Settings

/-- A value in a layer of settings. Numbers, truth values and texts stand for each other where a
setting of another kind is read. -/
inductive Value where
  /-- A place that nothing has been laid at. -/
  | unset
  | flag (value : Bool)
  | int (value : Int)
  | float (value : Floating)
  | text (value : String)
  | array (items : List Value)
  | table (fields : List (String × Value))
deriving Inhabited

namespace Value

mutual

/-- A value of a document; a moment is the text that it is written as. -/
def ofToml : Toml → Value
  | .text value => .text value
  | .int value => .int value
  | .float value => .float value
  | .flag value => .flag value
  | .moment written => .text written
  | .array items => .array (ofItems items)
  | .table fields => .table (ofFields fields)

def ofItems : List Toml → List Value
  | [] => []
  | item :: rest => ofToml item :: ofItems rest

def ofFields : List (String × Toml) → List (String × Value)
  | [] => []
  | (key, value) :: rest => (key, ofToml value) :: ofFields rest

end

/-- The value of an environment variable: a truth value, a number or a text. -/
def ofVariable (text : String) : Value :=
  match Unicode.LowerCase.lower text with
  | "true" => .flag true
  | "false" => .flag false
  | _ =>
    match Text.Numeral.readSigned? text.toList with
    | some n => .int n
    | none =>
      match Floating.parse? text.toList with
      | some x => .float x
      | none => .text text

def isUnset : Value → Bool
  | .unset => true
  | _ => false

def flag? : Value → Option Bool
  | .flag value => some value
  | _ => none

def truthOf? (word : String) : Option Bool :=
  if ["true", "on", "yes"].contains word then some true
  else if ["false", "off", "no"].contains word then some false
  else none

def truthCount (value : Bool) : Nat := if value then 1 else 0

def text? : Value → Option String
  | .text s => some s
  | .flag value => some (if value then "true" else "false")
  | .int n => some (Text.Numeral.writeInt n)
  | .float x => some x.write
  | _ => none

def countOf? (s : String) : Option Nat :=
  let word := Unicode.LowerCase.lower s
  match truthOf? word with
  | some value => some (truthCount value)
  | none => Text.Numeral.index? word

/-- A scalar as a count, when it stands for one. -/
def count? : Value → Option Nat
  | .int (.ofNat n) => some n
  | .flag value => some (truthCount value)
  | .float x => some x.count
  | .text s => countOf? s
  | _ => none

def floatOf? (s : String) : Option Floating :=
  let word := Unicode.LowerCase.lower s
  match truthOf? word with
  | some value => some (.finite (.ofInt (truthCount value)))
  | none => Floating.parse? word.toList

/-- A scalar as a float, when it stands for one. -/
def floating? : Value → Option Floating
  | .int n => some (.finite (.ofInt n))
  | .flag value => some (.finite (.ofInt (truthCount value)))
  | .float x => some x
  | .text s => floatOf? s
  | _ => none

def milliseconds? : Value → Option Nat
  | .int (.ofNat n) => if n < Text.Numeral.wordBound then some n else none
  | _ => none

def literal? : Value → Option String
  | .text s => some s
  | _ => none

def items? : Value → Option (List Value)
  | .array items => some items
  | _ => none

def fields? : Value → Option (List (String × Value))
  | .table fields => some fields
  | _ => none

/-- Scalars stand for each other, within the bounds of what is read; an unset value is null. -/
def source : Source Value where
  isNull := isUnset
  flag? := flag?
  text? := text?
  count? := count?
  attempts? value := (count? value).filter (· < Text.Numeral.halfWordBound)
  floating? := floating?
  milliseconds? := milliseconds?
  literal? := literal?
  items? := items?
  fields? := fields?
  value? _ := none
  exactLength := false

end Value

end Settings

end Stepwise
