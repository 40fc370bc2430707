import Stepwise.Text.Pieces
import Stepwise.Toml.Moment
import Stepwise.Toml.Table

namespace Stepwise.Toml

/-- Arrays and inline tables nest at most this deep, and keys have at most so many parts. -/
def maxDepth : Nat := 79

def skipBlanks (s : List Char) : List Char := s.dropWhile isBlank

/-- Skips blanks, line breaks and comments. -/
def skipTrivia (inComment : Bool) : List Char → List Char
  | [] => []
  | '\n' :: rest => skipTrivia false rest
  | '\r' :: '\n' :: rest => skipTrivia false rest
  | c :: rest =>
    if inComment then if isVisible c then skipTrivia true rest else c :: rest
    else if c = '#' then skipTrivia true rest
    else if isBlank c then skipTrivia false rest
    else c :: rest

/-- The text after the end of a line, which may hold a comment. -/
def lineEnd? (s : List Char) : Option (List Char) :=
  let s := skipBlanks s
  let s := if s.head? = some '#' then s.dropWhile isVisible else s
  if s.isEmpty then some [] else lineBreak? s

def isBare (c : Char) : Bool :=
  ('a' ≤ c && c ≤ 'z') || ('A' ≤ c && c ≤ 'Z') || isDigit c || c = '_' || c = '-'

def simpleKey? (s : List Char) : Option (String × List Char) :=
  match s.takeWhile isBare with
  | [] => lineText? s
  | name => some (String.ofList name, s.dropWhile isBare)

/-- A key of at most `room` parts. -/
def keyIn? : (room : Nat) → Reader (List String)
  | 0, _ => none
  | room + 1, s => do
    let (part, s) ← simpleKey? (skipBlanks s)
    match skipBlanks s with
    | '.' :: rest =>
      let (parts, rest) ← keyIn? room rest
      return (part :: parts, rest)
    | rest => return ([part], rest)

/-- Parts between points; blanks may stand around each of them. -/
def key? : Reader (List String) := keyIn? maxDepth

/-- Values of an array up to its end, at most `count` of them. -/
def itemsRest? (value? : Reader Toml) (done : List Toml) : (count : Nat) → Reader (List Toml)
  | 0, _ => none
  | count + 1, s =>
    match skipTrivia false s with
    | ']' :: rest => some (done.reverse, rest)
    | s => do
      let (item, s) ← value? s
      match skipTrivia false s with
      | ',' :: rest => itemsRest? value? (item :: done) count rest
      | ']' :: rest => return ((item :: done).reverse, rest)
      | _ => none

def pairOf? (value? : Reader Toml) (s : List Char) : Option ((List String × Toml) × List Char) := do
  let (key, s) ← key? s
  let s ← mark? '=' s
  let (value, s) ← value? (skipBlanks s)
  return ((key, value), skipBlanks s)

/-- Assignments of an inline table up to its end, at most `count` of them. -/
def pairsRest? (value? : Reader Toml) (done : Entries Item) : (count : Nat) → Reader (Entries Item)
  | 0, _ => none
  | count + 1, s => do
    let ((key, value), s) ← pairOf? value? s
    let done ← assign? value key done
    match s with
    | ',' :: rest => pairsRest? value? done count rest
    | '\x7d' :: rest => return (done, rest)
    | _ => none

def array? (value? : Reader Toml) (s : List Char) : Option (Toml × List Char) :=
  (itemsRest? value? [] (s.length + 1) s).map fun (items, rest) => (.array items, rest)

def inlineTable? (value? : Reader Toml) (s : List Char) : Option (Toml × List Char) :=
  match skipBlanks s with
  | '\x7d' :: rest => some (.table [], rest)
  | _ =>
    (pairsRest? value? [] (s.length + 1) s).map fun (items, rest) =>
      (.table (closeFields items), rest)

def scalar? : Reader Toml
  | [] => none
  | 't' :: 'r' :: 'u' :: 'e' :: rest => some (.flag true, rest)
  | 'f' :: 'a' :: 'l' :: 's' :: 'e' :: rest => some (.flag false, rest)
  | c :: rest =>
    if c = '"' ∨ c = '\'' then (readText? (c :: rest)).map fun (s, after) => (.text s, after)
    else (moment? (c :: rest)).or ((float? (c :: rest)).or (integer? (c :: rest)))

/-- A value in which arrays and inline tables nest at most `room` deep. -/
def valueIn? : (room : Nat) → Reader Toml
  | 0 => scalar?
  | room + 1 => fun s =>
    match s with
    | '[' :: rest => array? (valueIn? room) rest
    | '\x7b' :: rest => inlineTable? (valueIn? room) rest
    | s => scalar? s

def value? : Reader Toml := valueIn? maxDepth

inductive Statement where
  | assign (key : List String) (value : Toml)
  | table (key : List String)
  | element (key : List String)

/-- The statement on a line; none on a line without one. -/
def statement? (s : List Char) : Option (Option Statement × List Char) :=
  match skipBlanks s with
  | [] => some (none, [])
  | '#' :: rest => (lineEnd? ('#' :: rest)).map fun rest => (none, rest)
  | '[' :: '[' :: rest => do
    let (key, s) ← key? rest
    let s ← mark? ']' s
    let s ← mark? ']' s
    return (some (.element key), ← lineEnd? s)
  | '[' :: rest => do
    let (key, s) ← key? rest
    let s ← mark? ']' s
    return (some (.table key), ← lineEnd? s)
  | s =>
    match lineBreak? s with
    | some rest => some (none, rest)
    | none => do
      let ((key, value), s) ← pairOf? value? s
      return (some (.assign key value), ← lineEnd? s)

/-- The statements on at most `count` lines. -/
def statementsIn? : (count : Nat) → List Char → Option (List Statement)
  | _, [] => some []
  | 0, _ :: _ => none
  | count + 1, s => do
    let (found, rest) ← statement? s
    let others ← statementsIn? count rest
    return found.toList ++ others

structure Draft where
  root : Entries Item := []
  current : List String := []

def Draft.enter? (d : Draft) (key : List String)
    (openAt? : String → Entries Item → Option (Entries Item)) : Option Draft := do
  let last ← key.getLast?
  let root ← within? (openAt? last) key.dropLast d.root
  return ⟨root, key⟩

def Draft.add? (d : Draft) : Statement → Option Draft
  | .assign key value =>
    (within? (assign? value key) d.current d.root).map fun root => { d with root := root }
  | .table key => d.enter? key openTable?
  | .element key => d.enter? key openElement?

/-- Reads a document, which is a table; a byte order mark may stand before it. -/
def parse? (text : String) : Option Toml := do
  let s := Text.afterMark text.toList
  let statements ← statementsIn? (s.length + 1) s
  let draft ← statements.foldlM Draft.add? {}
  return .table (closeFields draft.root)

end Stepwise.Toml
