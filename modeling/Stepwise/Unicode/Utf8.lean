import Stepwise.Unicode.CharSet

namespace Stepwise.Unicode.Utf8

/-- First and last bytes. -/
abbrev ByteRange := Nat × Nat

/-- A range for each byte of an encoding. -/
abbrev Sequence := List ByteRange

/-- How many characters differ in the last `count` bytes only. -/
def block : (count : Nat) → Nat
  | 0 => 1
  | count + 1 => 64 * block count

def continuations (count : Nat) : Sequence := List.replicate count (0x80, 0xBF)

/-- The encodings of the numbers from `first` to `last`, in one byte from `lead` on and `count`
others. Numbers that share their first byte only in part have sequences of their own. -/
def sequences : (count : Nat) → (lead first last : Nat) → List Sequence
  | 0, lead, first, last => [[(lead + first, lead + last)]]
  | count + 1, lead, first, last =>
    let size := block (count + 1)
    let within (first last : Nat) : List Sequence :=
      (sequences count 0x80 (first % size) (last % size)).map fun rest =>
        (lead + first / size, lead + first / size) :: rest
    if first / size = last / size then within first last
    else
      let whole := (first + size - 1) / size
      let after := (last + 1) / size
      (if first % size = 0 then [] else within first (whole * size - 1)) ++
        (if whole < after then [(lead + whole, lead + after - 1) :: continuations (count + 1)]
          else []) ++
        (if (last + 1) % size = 0 then [] else within (after * size) last)

/-- The characters whose encodings have the same length, without surrogates: the first and the last,
the number of bytes after the first byte, and the first byte of number zero. -/
def lengths : List (Nat × Nat × Nat × Nat) :=
  [(0, 0x7F, 0, 0), (0x80, 0x7FF, 1, 0xC0), (0x800, 0xD7FF, 2, 0xE0), (0xE000, 0xFFFF, 2, 0xE0),
    (0x10000, 0x10FFFF, 3, 0xF0)]

def ofRange (range : Nat × Nat) : List Sequence :=
  lengths.flatMap fun (low, high, count, lead) =>
    let first := max range.1 low
    let last := min range.2 high
    if first ≤ last then sequences count lead first last else []

/-- The sequences of a set given as disjoint ranges in increasing order. -/
def ofSet (set : CharSet) : List Sequence := set.flatMap ofRange

/-- The number of bytes of the encoding of a code point. -/
def length (c : Nat) : Nat :=
  if c < 0x80 then 1 else if c < 0x800 then 2 else if c < 0x10000 then 3 else 4

/-- How many ranges two sequences begin with in common. -/
def shared : Sequence → Sequence → Nat
  | a :: s, b :: t => if a = b then shared s t + 1 else 0
  | _, _ => 0

/-- How many different beginnings sequences in increasing order have. -/
def beginnings (before : Sequence) : List Sequence → Nat
  | [] => 0
  | s :: rest => s.length - shared before s + beginnings s rest

/-- Sequences that may follow the same beginning, by their first ranges. -/
def branches : List Sequence → List (ByteRange × List Sequence)
  | [] => []
  | [] :: rest => branches rest
  | (range :: tail) :: rest =>
    match branches rest with
    | (next, tails) :: others =>
      if range = next then (range, tail :: tails) :: others
      else (range, [tail]) :: (next, tails) :: others
    | [] => [(range, [tail])]

/-- What may follow the first ranges, where something has to. -/
def continued (node : List Sequence) : List (List Sequence) :=
  ((branches node).map (·.2)).filter fun tails => tails.any fun s => !s.isEmpty

/-- The different ways to go on after some beginning; encodings have up to four bytes. -/
def nodes (all : List Sequence) : List (List Sequence) :=
  let second := (continued all).eraseDups
  let third := (second.flatMap continued).eraseDups
  let fourth := (third.flatMap continued).eraseDups
  ([all] ++ second ++ third ++ fourth).eraseDups

end Stepwise.Unicode.Utf8
