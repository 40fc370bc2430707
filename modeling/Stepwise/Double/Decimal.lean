import Stepwise.Double.Basic
import Stepwise.Text.Numeral

namespace Stepwise

/-- The number `coefficient · 10^exponent`. -/
structure Decimal where
  coefficient : Nat
  exponent : Int
deriving DecidableEq, Repr

namespace Decimal

/-- Takes zeros off the end of the coefficient, at most `count` of them. -/
def strip : (count : Nat) → Decimal → Decimal
  | 0, d => d
  | count + 1, d =>
    if d.coefficient ≠ 0 ∧ d.coefficient % 10 = 0 then
      strip count ⟨d.coefficient / 10, d.exponent + 1⟩
    else d

def digits (d : Decimal) : List Char := Text.Numeral.digits d.coefficient

/-- The power of ten of the first digit. -/
def leading (d : Decimal) : Int := d.exponent + (d.digits.length : Int) - 1

/-- All digits written out, with at least `places` of them after the point and no point without
one. -/
def positional (places : Nat) (d : Decimal) : List Char :=
  let whole :=
    if 0 ≤ d.exponent then d.digits ++ List.replicate d.exponent.toNat '0'
    else
      let kept := d.digits.take (d.digits.length - d.exponent.natAbs)
      if kept.isEmpty then ['0'] else kept
  let fraction :=
    if 0 ≤ d.exponent then []
    else
      List.replicate (d.exponent.natAbs - d.digits.length) '0' ++
        d.digits.drop (d.digits.length - d.exponent.natAbs)
  let padded := fraction ++ List.replicate (places - fraction.length) '0'
  if padded.isEmpty then whole else whole ++ '.' :: padded

/-- One digit, the others after a point, and a signed exponent. -/
def scientific (d : Decimal) : List Char :=
  let power := d.leading
  let sign := if power < 0 then '-' else '+'
  let tail := 'e' :: sign :: Text.Numeral.digits power.natAbs
  match d.digits with
  | [] => tail
  | [first] => first :: tail
  | first :: others => first :: '.' :: others ++ tail

end Decimal

namespace Double

/-- The double nearest to a decimal number; none when it lies beyond the largest double. -/
def ofDecimal? (negative : Bool) (d : Decimal) : Option Double :=
  if d.coefficient = 0 then some (zero negative)
  else if 310 < d.leading then none
  else if d.leading < -345 then some (zero negative)
  else if 0 ≤ d.exponent then
    nearest? negative (d.coefficient * Nat.pow 10 d.exponent.toNat * unitsPerOne) 1
  else nearest? negative (d.coefficient * unitsPerOne) (Nat.pow 10 d.exponent.natAbs)

/-- The power of ten of the first digit of a positive quotient below one. -/
def leadingBelowOne (numerator denominator : Nat) : (count : Nat) → Int
  | 0 => 0
  | count + 1 =>
    if denominator ≤ numerator then 0
    else leadingBelowOne (numerator * 10) denominator count - 1

/-- The power of ten of the first digit of a double other than zero. -/
def leadingPower (d : Double) : Int :=
  if unitsPerOne ≤ d.magnitude then
    ((Text.Numeral.digits (d.magnitude / unitsPerOne)).length : Int) - 1
  else leadingBelowOne d.magnitude unitsPerOne 330

/-- The numbers of `count` digits next to a double that read back to it, the nearer one first. -/
def shortestOf? (d : Double) (count : Nat) : Option Decimal :=
  let exponent := d.leadingPower - (count : Int) + 1
  let numerator := if 0 ≤ exponent then d.magnitude else d.magnitude * Nat.pow 10 exponent.natAbs
  let denominator := if 0 ≤ exponent then unitsPerOne * Nat.pow 10 exponent.toNat else unitsPerOne
  let below : Decimal := ⟨numerator / denominator, exponent⟩
  let above : Decimal := ⟨numerator / denominator + 1, exponent⟩
  let nearer :=
    if roundHalfEven numerator denominator = below.coefficient then [below, above]
    else [above, below]
  nearer.find? fun candidate => ofDecimal? d.negative candidate == some d

/-- The fewest digits that read back to the double, and of those the nearest. -/
def shortest (d : Double) : Decimal :=
  if d.isZero then ⟨0, 0⟩
  else (((List.range 17).findSome? fun n => d.shortestOf? (n + 1)).getD ⟨0, 0⟩).strip 30

def sign (d : Double) : List Char := if d.negative then ['-'] else []

/-- All digits written out, with at least `places` of them after the point. -/
def writePositional (places : Nat) (d : Double) : String :=
  String.ofList (d.sign ++ d.shortest.positional places)

end Double

/-- All digits written out, and the usual names of the values that are no numbers. -/
def Floating.write : Floating → String
  | .finite d => d.writePositional 0
  | .infinite negative => if negative then "-inf" else "inf"
  | .notANumber => "NaN"

end Stepwise
