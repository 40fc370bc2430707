import Stepwise.Text.Blank
import Stepwise.Text.Numeral
import Stepwise.Text.Pieces

namespace Stepwise

/-- A duration in whole milliseconds. Its texts are a count and a unit, `250ms`, `30s`, `5m`, `1h`,
or a bare count of milliseconds. -/
structure Duration where
  milliseconds : Nat
deriving DecidableEq, Repr

namespace Duration

def ofSeconds (n : Nat) : Duration := ⟨n * 1000⟩

inductive Fault where
  | count (fault : Text.Numeral.Fault)
  | outOfRange (text : String)
  | unknownForm (text : String)
deriving DecidableEq, Repr

def Fault.message : Fault → String
  | .count fault => fault.message
  | .outOfRange text => "Duration '" ++ text ++ "' is out of range"
  | .unknownForm text =>
    "Invalid duration '" ++ text ++ "'. Use '250ms', '30s', '5m', '1h' or milliseconds"

def readCount (s : List Char) : Except Fault Nat :=
  (Text.Numeral.read Text.Numeral.wordBound (Text.trimChars s)).mapError .count

/-- Counts a unit of some seconds; the seconds stay below the bound of counts. -/
def readSeconds (text count : List Char) (unit : Nat) : Except Fault Duration := do
  let n ← readCount count
  if n * unit < Text.Numeral.wordBound then return ofSeconds (n * unit)
  else throw (.outOfRange (String.ofList text))

/-- Reads a duration from a text without blanks around it. -/
def readTrimmed (s : List Char) : Except Fault Duration :=
  match Text.before? ['m', 's'] s with
  | some count => (readCount count).map Duration.mk
  | none =>
    match Text.before? ['s'] s with
    | some count => (readCount count).map ofSeconds
    | none =>
      match Text.before? ['m'] s with
      | some count => readSeconds s count 60
      | none =>
        match Text.before? ['h'] s with
        | some count => readSeconds s count 3600
        | none =>
          match Text.Numeral.read Text.Numeral.wordBound s with
          | .ok n => .ok ⟨n⟩
          | .error _ => .error (.unknownForm (String.ofList s))

def parse (text : String) : Except Fault Duration := readTrimmed (Text.trimChars text.toList)

/-- The largest unit that the duration is a multiple of. -/
def format (d : Duration) : String :=
  let n := d.milliseconds
  if n ≠ 0 ∧ n % 3600000 = 0 then Text.Numeral.write (n / 3600000) ++ "h"
  else if n ≠ 0 ∧ n % 60000 = 0 then Text.Numeral.write (n / 60000) ++ "m"
  else if n ≠ 0 ∧ n % 1000 = 0 then Text.Numeral.write (n / 1000) ++ "s"
  else Text.Numeral.write n ++ "ms"

/-- The thousandths of a unit without the zeros at their end. -/
def thousandths (n : Nat) : List Char :=
  let digits := [n / 100 % 10, n / 10 % 10, n % 10].map Nat.digitChar
  (digits.reverse.dropWhile (· == '0')).reverse

/-- Seconds with a fraction from one second on, and milliseconds below. -/
def describe (d : Duration) : String :=
  let n := d.milliseconds
  if n = 0 then "0ns"
  else if n < 1000 then Text.Numeral.write n ++ "ms"
  else
    let fraction := thousandths (n % 1000)
    let point := if fraction.isEmpty then [] else '.' :: fraction
    Text.Numeral.write (n / 1000) ++ String.ofList point ++ "s"

end Duration

end Stepwise
