import Stepwise.Double.Decimal

namespace Stepwise.Floating

/-- The double nearest to a decimal number, infinite beyond the largest one. -/
def ofDecimal (negative : Bool) (d : Decimal) : Floating :=
  match Double.ofDecimal? negative d with
  | some value => .finite value
  | none => .infinite negative

def isDigit (c : Char) : Bool := '0' ≤ c && c ≤ '9'

def digitsValue (digits : List Char) : Nat :=
  digits.foldl (fun value c => value * 10 + (c.toNat - 48)) 0

def splitSign : List Char → Bool × List Char
  | '-' :: rest => (true, rest)
  | '+' :: rest => (false, rest)
  | s => (false, s)

def ofName? (negative : Bool) (name : List Char) : Option Floating :=
  match String.ofList (name.map Char.toLower) with
  | "inf" => some (.infinite negative)
  | "infinity" => some (.infinite negative)
  | "nan" => some .notANumber
  | _ => none

/-- An exponent that takes up the rest of a text; zero when nothing is left. -/
def exponent? : List Char → Option Int
  | [] => some 0
  | c :: rest =>
    if c = 'e' ∨ c = 'E' then
      let (negative, digits) := splitSign rest
      if digits.isEmpty || !digits.all isDigit then none
      else
        let value : Int := digitsValue digits
        some (if negative then -value else value)
    else none

/-- Digits after a point, and the text after them. -/
def fraction : List Char → List Char × List Char
  | '.' :: rest => (rest.takeWhile isDigit, rest.dropWhile isDigit)
  | s => ([], s)

def ofDigits? (negative : Bool) (s : List Char) : Option Floating :=
  let whole := s.takeWhile isDigit
  let (digits, rest) := fraction (s.dropWhile isDigit)
  if whole.isEmpty && digits.isEmpty then none
  else
    (exponent? rest).map fun exponent =>
      ofDecimal negative ⟨digitsValue (whole ++ digits), exponent - (digits.length : Int)⟩

/-- Reads a float as people write it: digits with or without a point on either side, an exponent, a
sign, and names for infinity and for what is no number. -/
def parse? (s : List Char) : Option Floating :=
  let (negative, rest) := splitSign s
  (ofName? negative rest).or (ofDigits? negative rest)

end Stepwise.Floating
