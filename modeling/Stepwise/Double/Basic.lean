namespace Stepwise

/-- The least significand of a double that is not near zero, `2^52`. -/
def Double.leadingBit : Nat := 4503599627370496

/-- A finite double: `± significand · 2^shift` units. -/
structure Double where
  negative : Bool
  significand : Nat
  shift : Nat
  canonical : significand < 2 * Double.leadingBit ∧
    (shift = 0 ∨ Double.leadingBit ≤ significand) ∧ shift ≤ 2045
deriving DecidableEq

namespace Double

/-- One, counted in units of `2^-1074`. -/
def unitsPerOne : Nat := 1 <<< 1074

def zero (negative : Bool) : Double := ⟨negative, 0, 0, by decide⟩

instance : Inhabited Double := ⟨zero false⟩

def isZero (d : Double) : Bool := d.significand == 0

def magnitude (d : Double) : Nat := d.significand <<< d.shift

/-- The number counted in units of `2^-1074`; both zeros are 0. -/
def scaled (d : Double) : Int := if d.negative then -(d.magnitude : Int) else d.magnitude

def make? (negative : Bool) (significand shift : Nat) : Option Double :=
  if h : significand < 2 * leadingBit ∧ (shift = 0 ∨ leadingBit ≤ significand) ∧ shift ≤ 2045 then
    some ⟨negative, significand, shift, h⟩
  else none

/-- The whole number nearest to a quotient, a tie going to the even one. -/
def roundHalfEven (numerator denominator : Nat) : Nat :=
  let whole := numerator / denominator
  let rest := numerator % denominator
  if 2 * rest < denominator ∨ (2 * rest = denominator ∧ whole % 2 = 0) then whole else whole + 1

/-- The double nearest to a quotient of units; none when it lies beyond the largest double. -/
def nearest? (negative : Bool) (numerator denominator : Nat) : Option Double :=
  let shift := (numerator / denominator).log2 - 52
  let rounded := roundHalfEven numerator (denominator <<< shift)
  if rounded < 2 * leadingBit then make? negative rounded shift
  else make? negative leadingBit (shift + 1)

def ofInt (n : Int) : Double := (nearest? (n < 0) (n.natAbs * unitsPerOne) 1).getD (zero false)

/-- Both zeros are equal, and no other two doubles are. -/
def same (a b : Double) : Bool := a.scaled == b.scaled

end Double

/-- A double, or one of the values that stand for no number. -/
inductive Floating where
  | finite (value : Double)
  | infinite (negative : Bool)
  | notANumber
deriving DecidableEq

end Stepwise
