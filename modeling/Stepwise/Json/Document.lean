import Stepwise.Double.Decimal
import Stepwise.Json.Basic

namespace Stepwise

/-- The syntax tree of a JSON text. -/
inductive Document where
  | null
  | bool (value : Bool)
  /-- A number, or none when it is beyond the largest double. -/
  | num (value : Option Number)
  /-- A string, or none when an escape is half of a surrogate pair. -/
  | str (value : Option String)
  | arr (items : List Document)
  | obj (fields : List (Option String × Document))
deriving Inhabited

namespace Document

mutual

/-- The value of a document that nests at most `room` deep. -/
def toJson? (room : Nat) : Document → Option Json
  | .null => some .null
  | .bool value => some (.bool value)
  | .num value => value.map .num
  | .str value => value.map .str
  | .arr items => if room = 0 then none else (itemsToJson? (room - 1) items).map .arr
  | .obj fields => if room = 0 then none else (fieldsToJson? (room - 1) fields).map Json.record

def itemsToJson? (room : Nat) : List Document → Option (List Json)
  | [] => some []
  | item :: rest => do
    let value ← item.toJson? room
    let values ← itemsToJson? room rest
    return value :: values

def fieldsToJson? (room : Nat) : List (Option String × Document) → Option (List (String × Json))
  | [] => some []
  | (key, item) :: rest => do
    let key ← key
    let value ← item.toJson? room
    let values ← fieldsToJson? room rest
    return (key, value) :: values

end

/-- Arrays and objects may nest this deep in a text that is read as a value. -/
def maxDepth : Nat := 127

inductive Token where
  | openArray
  | closeArray
  | openObject
  | closeObject
  | comma
  | colon
  | null
  | bool (value : Bool)
  | num (value : Option Number)
  | str (value : Option String)

/-- A character of a string, or a unit of UTF-16 that is written as an escape. -/
inductive StringPart where
  | char (c : Char)
  | escaped (code : Nat)

def hexValue? (c : Char) : Option Nat :=
  let n := c.toNat
  if 48 ≤ n && n ≤ 57 then some (n - 48)
  else if 97 ≤ n && n ≤ 102 then some (n - 87)
  else if 65 ≤ n && n ≤ 70 then some (n - 55)
  else none

def hexNumber? (digits : List Char) : Option Nat :=
  digits.foldlM (fun value c => (hexValue? c).map (value * 16 + ·)) 0

def simpleEscape? : Char → Option Char
  | '"' => some '"'
  | '\\' => some '\\'
  | '/' => some '/'
  | 'b' => some (Char.ofNat 8)
  | 'f' => some (Char.ofNat 12)
  | 'n' => some '\n'
  | 'r' => some '\r'
  | 't' => some '\t'
  | _ => none

/-- The rest of a string up to its closing quote, and the text after it. -/
def stringParts? (parts : List StringPart) : List Char → Option (List StringPart × List Char)
  | [] => none
  | '"' :: rest => some (parts.reverse, rest)
  | '\\' :: 'u' :: a :: b :: c :: d :: rest =>
    match hexNumber? [a, b, c, d] with
    | some code => stringParts? (.escaped code :: parts) rest
    | none => none
  | '\\' :: c :: rest =>
    match simpleEscape? c with
    | some e => stringParts? (.char e :: parts) rest
    | none => none
  | c :: rest => if c.toNat < 0x20 || c == '\\' then none else stringParts? (.char c :: parts) rest

def isHighSurrogate (code : Nat) : Bool := 0xD800 ≤ code && code < 0xDC00

def isLowSurrogate (code : Nat) : Bool := 0xDC00 ≤ code && code < 0xE000

/-- Joins surrogate pairs; none when half of a pair stands alone. -/
def joinParts? (text : List Char) : List StringPart → Option String
  | [] => some (String.ofList text.reverse)
  | .char c :: rest => joinParts? (c :: text) rest
  | .escaped high :: .escaped low :: rest =>
    if isHighSurrogate high then
      if isLowSurrogate low then
        joinParts? (Char.ofNat (0x10000 + (high - 0xD800) * 0x400 + (low - 0xDC00)) :: text) rest
      else none
    else if isLowSurrogate high then none
    else joinParts? (Char.ofNat high :: text) (.escaped low :: rest)
  | .escaped code :: rest =>
    if isHighSurrogate code || isLowSurrogate code then none
    else joinParts? (Char.ofNat code :: text) rest

def isDigit (c : Char) : Bool := '0' ≤ c && c ≤ '9'

def digitsValue (digits : List Char) : Nat :=
  digits.foldl (fun value c => value * 10 + (c.toNat - 48)) 0

/-- The parts of a number: its sign, the digits before and after the point, and the exponent. -/
structure Numeral where
  negative : Bool
  whole : List Char
  fraction : Option (List Char)
  exponent : Option Int

def fraction? : List Char → Option (Option (List Char) × List Char)
  | '.' :: rest =>
    let digits := rest.takeWhile isDigit
    if digits.isEmpty then none else some (some digits, rest.dropWhile isDigit)
  | rest => some (none, rest)

def exponentDigits? (negative : Bool) (s : List Char) : Option (Option Int × List Char) :=
  let digits := s.takeWhile isDigit
  if digits.isEmpty then none
  else
    let value : Int := digitsValue digits
    some (some (if negative then -value else value), s.dropWhile isDigit)

def exponent? : List Char → Option (Option Int × List Char)
  | c :: rest =>
    if c == 'e' || c == 'E' then
      match rest with
      | '+' :: digits => exponentDigits? false digits
      | '-' :: digits => exponentDigits? true digits
      | digits => exponentDigits? false digits
    else some (none, c :: rest)
  | [] => some (none, [])

/-- The number at the start of a text. A zero is followed by no further digit. -/
def numeral? (s : List Char) : Option (Numeral × List Char) := do
  let negative := s.head? == some '-'
  let s := if negative then s.drop 1 else s
  let whole := if s.head? == some '0' then ['0'] else s.takeWhile isDigit
  if whole.isEmpty then none
  let (fraction, s) ← fraction? (s.drop whole.length)
  let (exponent, s) ← exponent? s
  return (⟨negative, whole, fraction, exponent⟩, s)

/-- Integers of 64 bits are kept exactly, and everything else is the nearest double; zero with a
minus sign is a float. -/
def Numeral.value? (n : Numeral) : Option Number :=
  let whole := digitsValue n.whole
  let float := (Double.ofDecimal? n.negative
    ⟨digitsValue (n.whole ++ n.fraction.getD []),
      n.exponent.getD 0 - ((n.fraction.getD []).length : Int)⟩).map Number.float
  if n.fraction.isSome || n.exponent.isSome then float
  else if n.negative then
    if whole ≠ 0 ∧ whole ≤ Text.Numeral.signedBound then some (.int (-(whole : Int))) else float
  else if whole < Text.Numeral.wordBound then some (.int whole)
  else float

/-- The token that starts with a character, and the text after it. -/
def token? (c : Char) (rest : List Char) : Option (Token × List Char) :=
  match c, rest with
  | '[', rest => some (.openArray, rest)
  | ']', rest => some (.closeArray, rest)
  | '\x7b', rest => some (.openObject, rest)
  | '\x7d', rest => some (.closeObject, rest)
  | ',', rest => some (.comma, rest)
  | ':', rest => some (.colon, rest)
  | 'n', 'u' :: 'l' :: 'l' :: rest => some (.null, rest)
  | 't', 'r' :: 'u' :: 'e' :: rest => some (.bool true, rest)
  | 'f', 'a' :: 'l' :: 's' :: 'e' :: rest => some (.bool false, rest)
  | '"', rest => (stringParts? [] rest).map fun (parts, rest) => (.str (joinParts? [] parts), rest)
  | c, rest => (numeral? (c :: rest)).map fun (n, rest) => (.num n.value?, rest)

/-- The tokens of a text of at most `room` characters. -/
def tokensIn? : (room : Nat) → (done : List Token) → List Char → Option (List Token)
  | _, done, [] => some done.reverse
  | 0, _, _ :: _ => none
  | room + 1, done, c :: rest =>
    if c == ' ' || c == '\t' || c == '\n' || c == '\r' then tokensIn? room done rest
    else
      match token? c rest with
      | some (token, rest) => tokensIn? room (token :: done) rest
      | none => none

def tokens? (s : List Char) : Option (List Token) := tokensIn? s.length [] s

/-- A container that is not closed yet, with what it holds in reverse. -/
inductive Frame where
  | array (done : List Document)
  | object (done : List (Option String × Document)) (key : Option String)

inductive Expected where
  | value
  | firstItem
  | firstKey
  | key
  | colon
  | separator
  | nothing (result : Document)

/-- The open containers, innermost first, and what may come next. -/
structure Progress where
  frames : List Frame
  expected : Expected

/-- Hands a complete value to the innermost container. -/
def Progress.finish (value : Document) : List Frame → Progress
  | [] => ⟨[], .nothing value⟩
  | .array done :: frames => ⟨.array (value :: done) :: frames, .separator⟩
  | .object done key :: frames => ⟨.object ((key, value) :: done) key :: frames, .separator⟩

/-- Takes a token as the start of a value. -/
def Progress.start? (frames : List Frame) : Token → Option Progress
  | .openArray => some ⟨.array [] :: frames, .firstItem⟩
  | .openObject => some ⟨.object [] none :: frames, .firstKey⟩
  | .null => some (finish .null frames)
  | .bool value => some (finish (.bool value) frames)
  | .num value => some (finish (.num value) frames)
  | .str value => some (finish (.str value) frames)
  | _ => none

def Progress.takeKey? (frames : List Frame) (key : Option String) : Option Progress :=
  match frames with
  | .object done _ :: frames => some ⟨.object done key :: frames, .colon⟩
  | _ => none

/-- What a token makes of the text read so far. -/
def Progress.next? (p : Progress) (token : Token) : Option Progress :=
  match p.expected, token, p.frames with
  | .firstItem, .closeArray, .array _ :: frames => some (finish (.arr []) frames)
  | .firstItem, token, frames => start? frames token
  | .value, token, frames => start? frames token
  | .firstKey, .closeObject, .object _ _ :: frames => some (finish (.obj []) frames)
  | .firstKey, .str key, frames => takeKey? frames key
  | .key, .str key, frames => takeKey? frames key
  | .colon, .colon, frames => some ⟨frames, .value⟩
  | .separator, .comma, .array done :: frames => some ⟨.array done :: frames, .value⟩
  | .separator, .comma, .object done key :: frames => some ⟨.object done key :: frames, .key⟩
  | .separator, .closeArray, .array done :: frames => some (finish (.arr done.reverse) frames)
  | .separator, .closeObject, .object done _ :: frames => some (finish (.obj done.reverse) frames)
  | _, _, _ => none

def parse? (s : String) : Option Document := do
  let tokens ← tokens? s.toList
  let last ← tokens.foldlM Progress.next? ⟨[], .value⟩
  match last.expected with
  | .nothing result => some result
  | _ => none

end Document

def Json.parse? (s : String) : Option Json := (Document.parse? s).bind (·.toJson? Document.maxDepth)

end Stepwise
