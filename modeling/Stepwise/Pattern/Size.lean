import Stepwise.Pattern.Expr
import Stepwise.Unicode.Utf8

namespace Stepwise.Pattern

open Unicode

namespace Expr

/-- The least of some numbers; none when there are none or one of them is missing. -/
def leastOf : List (Option Nat) → Option Nat
  | [] => none
  | [n] => n
  | n :: rest => do return min (← n) (← leastOf rest)

def total : List (Option Nat) → Option Nat
  | [] => some 0
  | n :: rest => do return (← n) + (← total rest)

def byteCount (content : List Char) : Nat := (String.ofList content).utf8ByteSize

mutual

/-- The bytes of the shortest match; none of what never matches. -/
def shortest : Expr → Option Nat
  | .empty => some 0
  | .text content => some (byteCount content)
  | .chars set => set.head?.map fun r => Utf8.length r.1
  | .look _ => some 0
  | .group _ body => body.shortest
  | .loop least _ body => body.shortest.map (least * ·)
  | .all parts => total (shortestOf parts)
  | .any options => leastOf (shortestOf options)

def shortestOf : List Expr → List (Option Nat)
  | [] => []
  | e :: rest => e.shortest :: shortestOf rest

end

/-- The bytes of a state. -/
def state : Nat := 32

/-- The bytes of one of several ranges of bytes that lead out of a state. -/
def transition : Nat := 8

/-- The bytes of one of several branches that lead out of a state. -/
def branch : Nat := 4

/-- The end of a text at which an automaton starts to read. -/
inductive Start where
  | first
  | last
deriving DecidableEq

/-- A state for ranges of bytes. -/
def rangesSize (count : Nat) : Nat := state + transition * count

/-- Read from the first byte on, encodings share how they go on; read from the last, only how they
begin. -/
def setSize (start : Start) (set : CharSet) : Nat :=
  if set.all fun r => r.2 < 0x80 then state + rangesSize set.length
  else
    let sequences := Utf8.ofSet set
    match start with
    | .first =>
      (Utf8.nodes sequences).foldl (fun size node => size + rangesSize (Utf8.branches node).length)
        state
    | .last => 2 * state + branch * sequences.length + state * Utf8.beginnings [] sequences

/-- Texts by their first bytes. -/
abbrev Tails := List (UInt8 × List (List UInt8))

def Tails.add (b : UInt8) (tail : List UInt8) : Tails → Tails
  | [] => [(b, [tail])]
  | (c, tails) :: rest =>
    if b = c then (c, tails ++ [tail]) :: rest else (c, tails) :: Tails.add b tail rest

/-- Texts in the order of their alternatives, cut at those that are empty. -/
def stretches (before : Tails) : List (List UInt8) → List Tails
  | [] => [before]
  | [] :: rest => before :: stretches [] rest
  | (b :: tail) :: rest => stretches (before.add b tail) rest

/-- Empty texts before all others count once. -/
def oneEnding : List (List UInt8) → List (List UInt8)
  | [] :: rest => [] :: rest.dropWhile List.isEmpty
  | words => words

/-- The branch to the first bytes of texts and the state that passes them, when there are any. -/
def firstBytesSize (count : Nat) : Nat :=
  if count = 0 then 0 else if count = 1 then branch + state else branch + rangesSize count

/-- The states that tell texts apart by their bytes. Texts share the states of a common beginning
unless one between them ends there. -/
def wordsSize : (depth : Nat) → List (List UInt8) → Nat
  | 0, _ => 0
  | depth + 1, words =>
    if words.all List.isEmpty then 0
    else
      let parts := stretches [] (oneEnding words)
      parts.foldl (fun size tails =>
        tails.foldl (fun size tail => size + wordsSize depth tail.2)
          (size + firstBytesSize tails.length)) (state + branch * (parts.length - 1))

def bytes (content : List Char) : List UInt8 := content.flatMap String.utf8EncodeChar

def words? (options : List Expr) : Option (List (List UInt8)) :=
  options.mapM fun
    | .text content => some (bytes content)
    | _ => none

/-- The bytes of the states of a repetition whose body takes `size`. -/
def loopSize (nullable : Bool) (size least : Nat) : (most : Option Nat) → Nat
  | none =>
    if least = 0 then if nullable then size + 3 * state + 4 * branch else size + state + 2 * branch
    else least * size + state + 2 * branch
  | some most =>
    if least = 0 ∧ most = 1 then size + 2 * state + 2 * branch
    else if least = most then least * size
    else
      (if least = 0 then state else least * size) + state +
        (most - least) * (size + state + 2 * branch)

mutual

def size (start : Start) : Expr → Nat
  | .empty => state
  | .text content => state * byteCount content
  | .chars set => setSize start set
  | .look _ => state
  | .group _ body => body.size start + if start = .first then 2 * state else 0
  | .loop least most body =>
    loopSize (body.shortest.getD 0 == 0) (body.size start) least most
  | .all parts => sizeOf start parts
  | .any options =>
    match words? options with
    | some words =>
      let words := if start = .first then words else words.map List.reverse
      state + wordsSize ((words.map List.length).foldl max 0 + 1) words
    | none => 2 * state + branch * options.length + sizeOf start options

def sizeOf (start : Start) : List Expr → Nat
  | [] => 0
  | e :: rest => e.size start + sizeOf start rest

end

/-- Whether a condition holds at the border of a sequence, from whether its parts ask for it and
whether they match the empty text only. -/
def atBorder : List (Bool × Bool) → Bool
  | [] => false
  | (asked, isVoid) :: rest => asked || (isVoid && atBorder rest)

mutual

/-- Whether every match has to start, or to end, where a condition holds. -/
def asks (start : Start) (condition : Look) : Expr → Bool
  | .look found => found = condition
  | .group _ body => body.asks start condition
  | .loop least _ body => 0 < least && body.asks start condition
  | .all parts =>
    let marks := (asksOf start condition parts).zip (parts.map isVoid)
    atBorder (if start = .first then marks else marks.reverse)
  | .any options => (asksOf start condition options).all id
  | _ => false

def asksOf (start : Start) (condition : Look) : List Expr → List Bool
  | [] => []
  | e :: rest => e.asks start condition :: asksOf start condition rest

end

/-- The bytes of what skips the text before a match, unless a match is at the start anyway. -/
def skipSize (start : Start) (e : Expr) : Nat :=
  let border := if start = .first then Look.textStart else Look.textEnd
  if e.asks start border then state else 2 * state + rangesSize 1 + 2 * branch

/-- The bytes of the automaton that reads texts from one of their ends. -/
def automatonSize (start : Start) (e : Expr) : Nat :=
  e.skipSize start + (group 0 e).size start + state

/-- An automaton may take this many bytes. -/
def sizeLimit : Nat := 10485760

/-- Whether the automata of a pattern are within bounds. -/
def fits (e : Expr) : Bool :=
  e.automatonSize .first ≤ sizeLimit && e.automatonSize .last ≤ sizeLimit

end Expr

end Stepwise.Pattern
