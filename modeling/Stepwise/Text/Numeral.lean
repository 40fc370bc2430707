namespace Stepwise.Text.Numeral

inductive Fault where
  | empty
  | invalidDigit
  | tooLarge
deriving DecidableEq, Repr

def Fault.message : Fault → String
  | .empty => "cannot parse integer from empty string"
  | .invalidDigit => "invalid digit found in string"
  | .tooLarge => "number too large to fit in target type"

def digit? (c : Char) : Option Nat :=
  if '0' ≤ c ∧ c ≤ '9' then some (c.toNat - '0'.toNat) else none

/-- Continues a number with the digits of a text. -/
def readDigits (bound : Nat) : (value : Nat) → List Char → Except Fault Nat
  | value, [] => .ok value
  | value, c :: rest =>
    match digit? c with
    | none => .error .invalidDigit
    | some d =>
      if value * 10 + d < bound then readDigits bound (value * 10 + d) rest else .error .tooLarge

/-- Reads an optional plus sign and decimal digits. -/
def read (bound : Nat) : List Char → Except Fault Nat
  | [] => .error .empty
  | ['+'] => .error .invalidDigit
  | '+' :: rest => readDigits bound 0 rest
  | s => readDigits bound 0 s

/-- Counts, sizes and positions have 64 bits and are below this bound. -/
def wordBound : Nat := 18446744073709551616

/-- The size of the least number of 64 bits with a sign; all sizes of the others are below. -/
def signedBound : Nat := 9223372036854775808

/-- Numbers of 32 bits are below this bound. -/
def halfWordBound : Nat := 4294967296

/-- The position that a text denotes. -/
def index? (s : String) : Option Nat := (read wordBound s.toList).toOption

def readSigned? : List Char → Option Int
  | ['-'] => none
  | '-' :: rest => (readDigits (signedBound + 1) 0 rest).toOption.map fun n => -(n : Int)
  | s => (read signedBound s).toOption.map fun n => (n : Int)

def digits (n : Nat) : List Char := Nat.toDigits 10 n

def write (n : Nat) : String := String.ofList (digits n)

def writeInt : Int → String
  | .ofNat n => write n
  | .negSucc n => "-" ++ write (n + 1)

end Stepwise.Text.Numeral
