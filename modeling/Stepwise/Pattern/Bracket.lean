import Stepwise.Pattern.Escape

namespace Stepwise.Pattern

open Unicode (CharSet)

inductive SetOperation where
  | intersection
  | difference
  | symmetricDifference

def SetOperation.apply : SetOperation → CharSet → CharSet → CharSet
  | .intersection, a, b => a.inter b
  | .difference, a, b => a.diff b
  | .symmetricDifference, a, b => a.symmetricDiff b

/-- The items of a class side by side. -/
structure Items where
  set : CharSet := []
  count : Nat := 0
  /-- How deep the deepest of them nests. -/
  deepest : Nat := 0

def Items.add (items : Items) (set : CharSet) (depth : Nat) : Items :=
  ⟨set ++ items.set, items.count + 1, max items.deepest depth⟩

def Items.addLiteral (items : Items) (c : Char) : Items := items.add [(c.toNat, c.toNat)] 0

/-- Several items together nest deeper than each of them. -/
def Items.depth (items : Items) : Nat :=
  if items.count ≤ 1 then items.deepest else items.deepest + 1

/-- An operation that waits for its right operand. -/
structure Pending where
  operation : SetOperation
  left : CharSet
  depth : Nat

structure Bracket where
  negated : Bool
  pending : Option Pending
  items : Items

/-- The set of a bracket as far as it is read. -/
def Bracket.current (flags : Flags) (b : Bracket) : CharSet :=
  match b.pending with
  | none => b.items.set
  | some p => p.operation.apply (flags.fold p.left) (flags.fold b.items.set)

/-- How deep the inside of a bracket nests; an operation nests deeper than its operands. -/
def Bracket.depth (b : Bracket) : Nat :=
  match b.pending with
  | none => b.items.depth
  | some p => max p.depth b.items.depth + 1

def Bracket.close (flags : Flags) (b : Bracket) : CharSet :=
  flags.foldAndNegate b.negated (CharSet.normalise (b.current flags))

def Bracket.add (b : Bracket) (set : CharSet) (depth : Nat) : Bracket :=
  { b with items := b.items.add set depth }

def Bracket.operate (flags : Flags) (b : Bracket) (operation : SetOperation) : Bracket :=
  { b with pending := some ⟨operation, b.current flags, b.depth⟩, items := {} }

/-- Hyphens and a closing bracket at the start of a class stand for themselves. -/
def leadingLiterals (flags : Flags) : (room : Nat) → Items → List Char →
    Except Fault (Items × List Char)
  | 0, _, _ => .error .unclosedClass
  | room + 1, items, s =>
    match s with
    | [] => .error .unclosedClass
    | c :: rest =>
      if c = '-' then leadingLiterals flags room (items.addLiteral c) (flags.skip rest)
      else if c = ']' ∧ items.count = 0 then
        match flags.skip rest with
        | [] => .error .unclosedClass
        | rest => .ok (items.addLiteral c, rest)
      else .ok (items, s)

def openBracket (flags : Flags) (s : List Char) : Except Fault (Bracket × List Char) := do
  match flags.skip s with
  | [] => throw .unclosedClass
  | '^' :: rest =>
    let rest := flags.skip rest
    let (items, rest) ← leadingLiterals flags (rest.length + 1) {} rest
    return (⟨true, none, items⟩, rest)
  | rest =>
    let (items, rest) ← leadingLiterals flags (rest.length + 1) {} rest
    return (⟨false, none, items⟩, rest)

def asciiClass? (name : String) : Option CharSet :=
  match name with
  | "alnum" => some [(48, 57), (65, 90), (97, 122)]
  | "alpha" => some [(65, 90), (97, 122)]
  | "ascii" => some [(0, 127)]
  | "blank" => some [(9, 9), (32, 32)]
  | "cntrl" => some [(0, 31), (127, 127)]
  | "digit" => some [(48, 57)]
  | "graph" => some [(33, 126)]
  | "lower" => some [(97, 122)]
  | "print" => some [(32, 126)]
  | "punct" => some [(33, 47), (58, 64), (91, 96), (123, 126)]
  | "space" => some [(9, 13), (32, 32)]
  | "upper" => some [(65, 90)]
  | "word" => some asciiWord
  | "xdigit" => some [(48, 57), (65, 70), (97, 102)]
  | _ => none

/-- A named class such as `[:digit:]`, after its bracket; none when the text is something else. -/
def namedClass? (flags : Flags) (s : List Char) : Option (CharSet × List Char) :=
  match s with
  | ':' :: rest =>
    let negated := rest.head? == some '^'
    let rest := if negated then rest.drop 1 else rest
    let name := rest.takeWhile (· != ':')
    match rest.dropWhile (· != ':') with
    | ':' :: ']' :: after =>
      (asciiClass? (String.ofList name)).map fun set => (flags.foldAndNegate negated set, after)
    | _ => none
  | _ => none

def readItem (flags : Flags) : List Char → Except Fault (Primitive × List Char)
  | [] => .error .unclosedClass
  | '\\' :: rest => readEscape flags rest
  | c :: rest => .ok (.literal c false, rest)

/-- Without Unicode no part of a class may hold a byte that is no character of its own, whatever
becomes of it in the whole. -/
def Flags.textual (flags : Flags) (set : CharSet) : Except Fault CharSet :=
  if !flags.unicode && set.any fun r => 0x80 ≤ r.2 then .error .notText else .ok set

def itemSet (flags : Flags) : Primitive → Except Fault CharSet
  | .literal c _ => flags.textual [(c.toNat, c.toNat)]
  | .set set => flags.textual set
  | .look _ => .error .invalidClassItem

def rangeEnd : Primitive → Except Fault Nat
  | .literal c _ => .ok c.toNat
  | _ => .error .invalidRange

def readRange (flags : Flags) (s : List Char) : Except Fault (CharSet × List Char) := do
  let (first, rest) ← readItem flags s
  let rest := flags.skip rest
  if rest.isEmpty then throw .unclosedClass
  let next := flags.peekAfter rest
  if rest.head? != some '-' || next == some ']' || next == some '-' then
    return (← itemSet flags first, rest)
  else
    let rest := flags.skip (rest.drop 1)
    if rest.isEmpty then throw .unclosedClass
    let (last, rest) ← readItem flags rest
    let a ← rangeEnd first
    let b ← rangeEnd last
    if b < a then throw .reversedRange
    return (← flags.textual [(a, b)], rest)

/-- Reads the rest of the open classes, the innermost first. The number is how deep they nest. -/
def readBrackets (flags : Flags) : (room : Nat) → Bracket → List Bracket → List Char →
    Except Fault (CharSet × Nat × List Char)
  | 0, _, _, _ => .error .unclosedClass
  | room + 1, b, outer, s =>
    match flags.skip s with
    | [] => .error .unclosedClass
    | '[' :: rest =>
      match namedClass? flags rest with
      | some (set, rest) => do
        readBrackets flags room (b.add (← flags.textual set) 0) outer rest
      | none => do
        let (inner, rest) ← openBracket flags rest
        readBrackets flags room inner (b :: outer) rest
    | ']' :: rest => do
      let set ← flags.textual (b.close flags)
      let depth := b.depth + 1
      match outer with
      | [] => .ok (set, depth, rest)
      | parent :: outer => readBrackets flags room (parent.add set depth) outer rest
    | '&' :: '&' :: rest => readBrackets flags room (b.operate flags .intersection) outer rest
    | '-' :: '-' :: rest => readBrackets flags room (b.operate flags .difference) outer rest
    | '~' :: '~' :: rest =>
      readBrackets flags room (b.operate flags .symmetricDifference) outer rest
    | s => do
      let (set, rest) ← readRange flags s
      readBrackets flags room (b.add set 0) outer rest

def readClass (flags : Flags) (s : List Char) : Except Fault (CharSet × Nat × List Char) := do
  let (b, rest) ← openBracket flags s
  readBrackets flags (rest.length + 1) b [] rest

end Stepwise.Pattern
