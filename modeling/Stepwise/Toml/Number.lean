import Stepwise.Double.Text
import Stepwise.Toml.Quoted

namespace Stepwise.Toml

/-- Digits and single underscores between them, without the underscores. -/
def digitsTail (ok : Char → Bool) : List Char → List Char × List Char
  | [] => ([], [])
  | '_' :: c :: rest =>
    if ok c then
      let (digits, after) := digitsTail ok rest
      (c :: digits, after)
    else ([], '_' :: c :: rest)
  | c :: rest =>
    if ok c then
      let (digits, after) := digitsTail ok rest
      (c :: digits, after)
    else ([], c :: rest)

/-- At least one digit. -/
def digits? (ok : Char → Bool) : Reader (List Char)
  | [] => none
  | c :: rest =>
    if ok c then
      let (digits, after) := digitsTail ok rest
      some (c :: digits, after)
    else none

def isDigit (c : Char) : Bool := '0' ≤ c && c ≤ '9'

/-- The digits of a whole number, without zeros before it. -/
def wholeDigits? : Reader (List Char)
  | '0' :: rest => some (['0'], rest)
  | s => digits? isDigit s

def sign : List Char → Bool × List Char
  | '-' :: rest => (true, rest)
  | '+' :: rest => (false, rest)
  | s => (false, s)

def valueOf (base : Nat) (digits : List Char) : Nat :=
  digits.foldl (fun value c => value * base + (hexDigit? c).getD 0) 0

/-- A number of 64 bits with a sign. -/
def integerOf? (negative : Bool) (magnitude : Nat) : Option Toml :=
  if negative then
    if magnitude ≤ Text.Numeral.signedBound then some (.int (-(magnitude : Int))) else none
  else if magnitude < Text.Numeral.signedBound then some (.int magnitude)
  else none

def based? (base : Nat) (s : List Char) : Option (Toml × List Char) := do
  let (digits, rest) ← digits? (fun c => (hexDigit? c).any (· < base)) s
  return (← integerOf? false (valueOf base digits), rest)

def integer? : Reader Toml
  | '0' :: 'x' :: rest => based? 16 rest
  | '0' :: 'o' :: rest => based? 8 rest
  | '0' :: 'b' :: rest => based? 2 rest
  | s => do
    let (negative, s) := sign s
    let (digits, rest) ← wholeDigits? s
    return (← integerOf? negative (valueOf 10 digits), rest)

def fraction? : Reader (List Char)
  | '.' :: rest => digits? isDigit rest
  | _ => none

def exponent? : Reader Int
  | c :: rest =>
    if c = 'e' ∨ c = 'E' then do
      let (negative, rest) := sign rest
      let (digits, rest) ← digits? isDigit rest
      let value : Int := valueOf 10 digits
      return (if negative then -value else value, rest)
    else none
  | [] => none

/-- The names of floats that are no finite numbers. -/
def namedFloat? (negative : Bool) : Reader Toml
  | 'i' :: 'n' :: 'f' :: rest => some (.float (.infinite negative), rest)
  | 'n' :: 'a' :: 'n' :: rest => some (.float .notANumber, rest)
  | _ => none

/-- A number with a fraction, an exponent or both. A positive one has to be finite. -/
def decimalFloat? (negative : Bool) (s : List Char) : Option (Toml × List Char) := do
  let (whole, s) ← wholeDigits? s
  let (fraction, exponent, rest) ←
    match fraction? s with
    | some (fraction, s) =>
      match exponent? s with
      | some (exponent, rest) => some (fraction, exponent, rest)
      | none => some (fraction, 0, s)
    | none => (exponent? s).map fun (exponent, rest) => ([], exponent, rest)
  let value := Floating.ofDecimal negative
    ⟨valueOf 10 (whole ++ fraction), exponent - (fraction.length : Int)⟩
  if value = .infinite false then none else some (.float value, rest)

def float? (s : List Char) : Option (Toml × List Char) :=
  let (negative, s) := sign s
  (decimalFloat? negative s).or (namedFloat? negative s)

end Stepwise.Toml
