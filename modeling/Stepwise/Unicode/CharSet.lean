import Stepwise.Text.Pieces

namespace Stepwise.Unicode

/-- First and last code points of ranges. -/
abbrev CharSet := List (Nat × Nat)

namespace CharSet

def lastCodePoint : Nat := 0x10FFFF

def every : CharSet := [(0, lastCodePoint)]

def surrogates : CharSet := [(0xD800, 0xDFFF)]

/-- What a set holds besides surrogates. -/
def withoutSurrogates (set : CharSet) : CharSet :=
  set.flatMap fun (a, b) =>
    [(a, min b 0xD7FF), (max a 0xE000, b)].filter fun (first, last) => first ≤ last

def contains (set : CharSet) (c : Nat) : Bool := set.any fun r => r.1 ≤ c && c ≤ r.2

/-- Joins neighbours in a list of ranges in increasing order; the result is in reverse. -/
def joinNeighbours (done : CharSet) : CharSet → CharSet
  | [] => done
  | (first, last) :: rest =>
    match done with
    | (a, b) :: earlier =>
      if first ≤ b + 1 then joinNeighbours ((a, max b last) :: earlier) rest
      else joinNeighbours ((first, last) :: (a, b) :: earlier) rest
    | [] => joinNeighbours [(first, last)] rest

/-- The same set as disjoint ranges in increasing order. -/
def normalise (set : CharSet) : CharSet :=
  (joinNeighbours [] (set.mergeSort fun a b => a.1 ≤ b.1)).reverse

def union (a b : CharSet) : CharSet := normalise (a ++ b)

/-- The gaps between ranges in increasing order, from `next` to `last`. -/
def gaps (last next : Nat) : CharSet → CharSet
  | [] => if next ≤ last then [(next, last)] else []
  | (a, b) :: rest =>
    if next < a then (next, a - 1) :: gaps last (b + 1) rest else gaps last (b + 1) rest

/-- The code points up to `last` outside a set. -/
def complementTo (last : Nat) (set : CharSet) : CharSet := gaps last 0 (normalise set)

def complement (set : CharSet) : CharSet := complementTo lastCodePoint set

def inter (a b : CharSet) : CharSet := complement (union (complement a) (complement b))

def diff (a b : CharSet) : CharSet := inter a (complement b)

/-- The code points in just one of two sets. -/
def symmetricDiff (a b : CharSet) : CharSet := union (diff a b) (diff b a)

/-- The words of a text, separated by blanks and line breaks. -/
def words (text : String) : List String :=
  let flat := text.toList.map fun c => if c = '\n' then ' ' else c
  ((Text.splitOn ' ' flat).filter fun w => !w.isEmpty).map String.ofList

def hexDigitValue (c : Char) : Nat :=
  if c.toNat < 58 then c.toNat - 48 else c.toNat - 55

def hexValue (digits : List Char) : Nat :=
  digits.foldl (fun value c => value * 16 + hexDigitValue c) 0

/-- The numbers of a word, separated by hyphens. -/
def numbers (word : String) : List Nat := (Text.splitOn '-' word.toList).map hexValue

def ofText (text : String) : CharSet :=
  (words text).filterMap fun word =>
    match numbers word with
    | [a] => some (a, a)
    | [a, b] => some (a, b)
    | _ => none

/-- The text in the row of a table that has a name. -/
def row? (table : List (String × String)) (name : String) : Option String :=
  (table.find? fun row => (words row.1).contains name).map (·.2)

end CharSet

end Stepwise.Unicode
