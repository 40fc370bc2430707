import Stepwise.Pattern.Bracket
import Stepwise.Pattern.Size
import Stepwise.Unicode.Alphanumeric

namespace Stepwise.Pattern

open Unicode (CharSet)

structure Piece where
  expr : Expr
  depth : Nat

/-- An element of a sequence; flags match nothing and cannot be repeated. -/
inductive Item where
  | piece (piece : Piece)
  | flags

/-- Alternatives that are not complete yet: the sequences before the current one and the items of
the current one, in reverse. -/
structure Level where
  branches : List Piece
  items : List Item

/-- A group that is open, and what goes on after it. -/
structure OpenGroup where
  flags : Flags
  level : Level
  /-- Its number, unless it is there for its flags or for repetition only. -/
  index : Option Nat

structure State where
  flags : Flags
  level : Level := ⟨[], []⟩
  /-- The open groups, innermost first. -/
  groups : List OpenGroup := []
  /-- How many groups have a number. -/
  numbered : Nat := 0
  names : List (List Char) := []

def Item.piece? : Item → Option Piece
  | .piece p => some p
  | .flags => none

def deepest (pieces : List Piece) : Nat := (pieces.map (·.depth)).foldl max 0

def Level.sequence (level : Level) : Piece :=
  let pieces := (level.items.reverse).filterMap Item.piece?
  match level.items with
  | [] => ⟨.empty, 0⟩
  | [_] => ⟨.ofParts (pieces.map (·.expr)), deepest pieces⟩
  | _ => ⟨.ofParts (pieces.map (·.expr)), deepest pieces + 1⟩

def Level.close (level : Level) : Piece :=
  let last := level.sequence
  match level.branches with
  | [] => last
  | branches =>
    let pieces := (last :: branches).reverse
    ⟨.ofOptions (pieces.map (·.expr)), deepest pieces + 1⟩

def State.push (state : State) (item : Item) : State :=
  { state with level := { state.level with items := item :: state.level.items } }

def State.pushExpr (state : State) (expr : Expr) (depth : Nat) : State :=
  state.push (.piece ⟨expr, depth⟩)

def startsGroupName (c : Char) : Bool := c == '_' || Unicode.Alphanumeric.isLetter c

def continuesGroupName (c : Char) : Bool :=
  c == '_' || c == '.' || c == '[' || c == ']' || Unicode.Alphanumeric.isLetterOrNumber c

/-- Reads the name of a group up to the angle bracket after it. -/
def readGroupName (names : List (List Char)) (s : List Char) :
    Except Fault (List Char × List Char) := do
  let name := s.takeWhile (· != '>')
  match name with
  | [] => if s.isEmpty then throw .unexpectedEnd else throw .emptyGroupName
  | c :: others =>
    if !startsGroupName c || !others.all continuesGroupName then throw .invalidGroupName
    match s.dropWhile (· != '>') with
    | [] => throw .unexpectedEnd
    | _ :: rest => if names.contains name then throw .duplicateGroupName else return (name, rest)

def State.openGroup (state : State) (inner : Flags) (index : Option Nat) : State :=
  { state with
    flags := inner
    level := ⟨[], []⟩
    groups := ⟨state.flags, state.level, index⟩ :: state.groups }

def State.openNumberedGroup (state : State) : State :=
  { state.openGroup state.flags (some (state.numbered + 1)) with numbered := state.numbered + 1 }

def State.openNamedGroup (state : State) (s : List Char) : Except Fault (State × List Char) := do
  let (name, rest) ← readGroupName state.names s
  return ({ state.openNumberedGroup with names := name :: state.names }, rest)

/-- Takes an opening parenthesis and what tells its kind. -/
def State.takeGroup (state : State) (s : List Char) : Except Fault (State × List Char) := do
  match state.flags.skip s with
  | '?' :: '=' :: _ => throw .lookAround
  | '?' :: '!' :: _ => throw .lookAround
  | '?' :: '<' :: '=' :: _ => throw .lookAround
  | '?' :: '<' :: '!' :: _ => throw .lookAround
  | '?' :: 'P' :: '<' :: rest => state.openNamedGroup rest
  | '?' :: '<' :: rest => state.openNamedGroup rest
  | '?' :: rest =>
    if rest.isEmpty then throw .unclosedGroup
    let list ← FlagList.read state.flags true [] rest
    if list.stop = ')' then
      if list.seen.isEmpty then throw .nothingToRepeat
      return ({ state with flags := list.flags }.push .flags, list.rest)
    else return (state.openGroup list.flags none, list.rest)
  | rest => return (state.openNumberedGroup, rest)

def State.closeGroup (state : State) : Except Fault State :=
  match state.groups with
  | [] => .error .unopenedGroup
  | group :: groups =>
    let body := state.level.close
    let outer := { state with flags := group.flags, level := group.level, groups := groups }
    let expr := (group.index.map (Expr.group · body.expr)).getD body.expr
    .ok (outer.pushExpr expr (body.depth + 1))

def State.repeatLast (state : State) (least : Nat) (most : Option Nat) : Except Fault State :=
  match state.level.items with
  | .piece p :: items =>
    .ok { state with level := { state.level with
      items := .piece ⟨.ofLoop least most p.expr, p.depth + 1⟩ :: items } }
  | _ => .error .nothingToRepeat

def State.canRepeat (state : State) : Except Fault Unit :=
  match state.level.items with
  | .piece _ :: _ => .ok ()
  | _ => .error .nothingToRepeat

/-- A question mark after a repetition changes which match is preferred, not whether there is
one. -/
def dropLazy : List Char → List Char
  | '?' :: rest => rest
  | rest => rest

/-- Reads decimal digits with blanks around them; no digits at all count as none. -/
def readCount (flags : Flags) : (room : Nat) → (digits : List Char) → List Char →
    List Char × List Char
  | 0, digits, s => (digits.reverse, s)
  | room + 1, digits, s =>
    match s with
    | [] => (digits.reverse, [])
    | c :: rest =>
      if c.isDigit then readCount flags room (c :: digits) (flags.skip rest)
      else (digits.reverse, s)

def dropBlanks (flags : Flags) : (room : Nat) → List Char → List Char
  | 0, s => s
  | room + 1, s =>
    match s with
    | [] => []
    | c :: rest => if Text.isBlank c then dropBlanks flags room (flags.skip rest) else s

def count (flags : Flags) (s : List Char) : Except Fault Nat × List Char :=
  let (digits, rest) := readCount flags (s.length + 1) [] (s.dropWhile Text.isBlank)
  let rest := dropBlanks flags (rest.length + 1) rest
  if digits.isEmpty then (.error .missingCount, rest)
  else
    match Text.Numeral.readDigits Text.Numeral.halfWordBound 0 digits with
    | .ok n => (.ok n, rest)
    | .error _ => (.error .invalidCount, rest)

/-- Reads a counted repetition after its opening brace. -/
def State.takeCounts (state : State) (s : List Char) : Except Fault (State × List Char) := do
  state.canRepeat
  let flags := state.flags
  let s := flags.skip s
  if s.isEmpty then throw .unclosedRepetition
  let (least, s) := count flags s
  let finish (least : Nat) (most : Option Nat) (s : List Char) :
      Except Fault (State × List Char) := do
    match s with
    | '\x7d' :: rest =>
      if (most.map fun m => decide (m < least)).getD false then throw .reversedCounts
      return (← state.repeatLast least most, dropLazy (flags.skip rest))
    | _ => throw .unclosedRepetition
  match s with
  | [] => throw .unclosedRepetition
  | ',' :: rest =>
    match flags.skip rest with
    | [] => throw .unclosedRepetition
    | '\x7d' :: rest => finish (← least) none ('\x7d' :: rest)
    | rest =>
      let least ← least
      let (most, rest) := count flags rest
      finish least (some (← most)) rest
  | s =>
    let least ← least
    finish least (some least) s

/-- The characters that a dot stands for. -/
def dotSet (flags : Flags) : CharSet :=
  if flags.dotAll then CharSet.every
  else if flags.crlf then CharSet.complement [(10, 10), (13, 13)]
  else CharSet.complement [(10, 10)]

def primitiveExpr (flags : Flags) : Primitive → Except Fault Expr
  | .literal c isByte =>
    if !flags.unicode && isByte && 0x80 ≤ c.toNat then .error .notText
    else if !flags.unicode && 0x80 ≤ c.toNat then .ok (.text [c])
    else .ok (.ofSet (flags.fold [(c.toNat, c.toNat)]))
  | .set set => (flags.textual set).map .ofSet
  | .look look => .ok (.look look)

def State.takePrimitive (state : State) (c : Char) (rest : List Char) :
    Except Fault (State × List Char) := do
  let flags := state.flags
  if c = '\\' then
    let (primitive, rest) ← readEscape flags rest
    return (state.pushExpr (← primitiveExpr flags primitive) 0, rest)
  else if c = '.' then
    if flags.unicode then return (state.pushExpr (.ofSet (dotSet flags)) 0, rest)
    else throw .notText
  else if c = '^' then
    let look := if flags.multiLine then Look.lineStart flags.crlf else .textStart
    return (state.pushExpr (.look look) 0, rest)
  else if c = '$' then
    let look := if flags.multiLine then Look.lineEnd flags.crlf else .textEnd
    return (state.pushExpr (.look look) 0, rest)
  else return (state.pushExpr (← primitiveExpr flags (.literal c false)) 0, rest)

def State.take (state : State) (c : Char) (rest : List Char) :
    Except Fault (State × List Char) := do
  if c = '(' then state.takeGroup rest
  else if c = ')' then return (← state.closeGroup, rest)
  else if c = '|' then
    return ({ state with level := ⟨state.level.sequence :: state.level.branches, []⟩ }, rest)
  else if c = '[' then
    let (set, depth, rest) ← readClass state.flags rest
    return (state.pushExpr (.ofSet set) depth, rest)
  else if c = '?' then return (← state.repeatLast 0 (some 1), dropLazy rest)
  else if c = '*' then return (← state.repeatLast 0 none, dropLazy rest)
  else if c = '+' then return (← state.repeatLast 1 none, dropLazy rest)
  else if c = '\x7b' then state.takeCounts rest
  else state.takePrimitive c rest

/-- Reads a text of fewer than `room` characters. -/
def readFrom : (room : Nat) → State → List Char → Except Fault State
  | 0, _, _ => .error .unexpectedEnd
  | room + 1, state, s =>
    match state.flags.skip s with
    | [] => .ok state
    | c :: rest => do
      let (state, rest) ← state.take c rest
      readFrom room state rest

/-- Groups, classes and repetitions may nest this deep. -/
def maxDepth : Nat := 250

/-- Reads a pattern from left to right with the open groups on a stack, so that flags set in a group
hold up to its end. -/
def read (flags : Flags) (text : String) : Except Fault Expr := do
  let s := text.toList
  let state ← readFrom (s.length + 1) { flags := flags } s
  if !state.groups.isEmpty then throw .unclosedGroup
  let piece := state.level.close
  if maxDepth < piece.depth then throw .tooDeep
  if !piece.expr.fits then throw .tooLarge
  return piece.expr

end Stepwise.Pattern
