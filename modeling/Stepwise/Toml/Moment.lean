import Stepwise.Toml.Number

namespace Stepwise.Toml

/-- A number of exactly so many digits. -/
def fixed? (count : Nat) (s : List Char) : Option (Nat × List Char) :=
  let digits := s.take count
  if digits.length = count && digits.all isDigit then some (valueOf 10 digits, s.drop count)
  else none

/-- A number of two digits within bounds. -/
def pair? (low high : Nat) (s : List Char) : Option (Nat × List Char) :=
  (fixed? 2 s).filter fun (n, _) => low ≤ n && n ≤ high

def mark? (c : Char) : List Char → Option (List Char)
  | [] => none
  | d :: rest => if d = c then some rest else none

def isLeap (year : Nat) : Bool := year % 4 == 0 && (year % 100 != 0 || year % 400 == 0)

def daysIn (year month : Nat) : Nat :=
  if month = 2 then if isLeap year then 29 else 28
  else if month = 4 ∨ month = 6 ∨ month = 9 ∨ month = 11 then 30
  else 31

/-- A number with zeros before it up to a width. -/
def padded (width n : Nat) : List Char :=
  let digits := Nat.toDigits 10 n
  List.replicate (width - digits.length) '0' ++ digits

def date? (s : List Char) : Option (List Char × List Char) := do
  let (year, s) ← fixed? 4 s
  let s ← mark? '-' s
  let (month, s) ← pair? 1 12 s
  let s ← mark? '-' s
  let (day, s) ← pair? 1 (daysIn year month) s
  return (padded 4 year ++ '-' :: padded 2 month ++ '-' :: padded 2 day, s)

/-- A fraction of a second, cut to nanoseconds. -/
def secondFraction : List Char → List Char × List Char
  | '.' :: rest =>
    let digits := rest.takeWhile isDigit
    if digits.isEmpty then ([], '.' :: rest)
    else
      let kept := ((digits.take 9).reverse.dropWhile (· == '0')).reverse
      (if kept.isEmpty then [] else '.' :: kept, rest.dropWhile isDigit)
  | s => ([], s)

def time? (s : List Char) : Option (List Char × List Char) := do
  let (hour, s) ← pair? 0 23 s
  let s ← mark? ':' s
  let (minute, s) ← pair? 0 59 s
  let s ← mark? ':' s
  let (second, s) ← pair? 0 60 s
  let (fraction, s) := secondFraction s
  return (padded 2 hour ++ ':' :: padded 2 minute ++ ':' :: padded 2 second ++ fraction, s)

def offset? : Reader (List Char)
  | c :: rest =>
    if c = 'Z' ∨ c = 'z' then some (['Z'], rest)
    else if c = '+' ∨ c = '-' then do
      let (hour, rest) ← pair? 0 23 rest
      let rest ← mark? ':' rest
      let (minute, rest) ← pair? 0 59 rest
      let shown := if hour = 0 ∧ minute = 0 then '+' else c
      return (shown :: padded 2 hour ++ ':' :: padded 2 minute, rest)
    else none
  | [] => none

def timeOfDay? : Reader (List Char)
  | c :: rest =>
    if c = 'T' ∨ c = 't' ∨ c = ' ' then do
      let (time, rest) ← time? rest
      match offset? rest with
      | some (offset, rest) => return ('T' :: time ++ offset, rest)
      | none => return ('T' :: time, rest)
    else none
  | [] => none

/-- Reads a date or time in the form in which it is written back: a `T` between date and time, no
zeros at the end of a fraction, and a sign before every offset but `Z`. -/
def moment? (s : List Char) : Option (Toml × List Char) :=
  match date? s with
  | some (date, rest) =>
    match timeOfDay? rest with
    | some (time, rest) => some (.moment (String.ofList (date ++ time)), rest)
    | none => some (.moment (String.ofList date), rest)
  | none => (time? s).map fun (time, rest) => (.moment (String.ofList time), rest)

end Stepwise.Toml
