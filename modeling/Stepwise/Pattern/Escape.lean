import Stepwise.Pattern.Expr
import Stepwise.Pattern.Flags
import Stepwise.Text.Numeral
import Stepwise.Unicode.Age
import Stepwise.Unicode.Break
import Stepwise.Unicode.CaseFold
import Stepwise.Unicode.Category
import Stepwise.Unicode.Property
import Stepwise.Unicode.Script

namespace Stepwise.Pattern

open Unicode (CharSet)

/-- One element of a pattern that is neither a group nor a class in brackets. -/
inductive Primitive where
  /-- A character; a byte is one that is written with two hexadecimal digits. -/
  | literal (c : Char) (isByte : Bool)
  | set (set : CharSet)
  | look (look : Look)

def asciiDigits : CharSet := [(48, 57)]

def asciiSpaces : CharSet := [(9, 13), (32, 32)]

def asciiWord : CharSet := [(48, 57), (65, 90), (95, 95), (97, 122)]

def category (name : String) : CharSet := (Unicode.Category.find? name).getD []

def property (name : String) : CharSet := (Unicode.Property.find? name).getD []

def wordChars : CharSet :=
  CharSet.normalise (property "alphabetic" ++ category "m" ++ category "nd" ++ category "pc" ++
    property "joincontrol")

def Flags.word (flags : Flags) : CharSet := if flags.unicode then wordChars else asciiWord

/-- Without Unicode the characters are the bytes. -/
def Flags.complement (flags : Flags) (set : CharSet) : CharSet :=
  if flags.unicode then set.complement else set.complementTo 0xFF

def foldAscii (set : CharSet) : CharSet :=
  let letters := (List.range 26).flatMap fun i =>
    if set.contains (65 + i) || set.contains (97 + i) then [(65 + i, 65 + i), (97 + i, 97 + i)]
    else []
  CharSet.normalise (set ++ letters)

/-- Adds what differs in case only, where the flags ask for it. -/
def Flags.fold (flags : Flags) (set : CharSet) : CharSet :=
  if flags.caseInsensitive then
    if flags.unicode then Unicode.CaseFold.close set else foldAscii set
  else set

def Flags.foldAndNegate (flags : Flags) (negated : Bool) (set : CharSet) : CharSet :=
  let folded := flags.fold set
  if negated then flags.complement folded else folded

def perlClass (flags : Flags) (letter : Char) : CharSet :=
  let set :=
    if letter = 'd' ∨ letter = 'D' then if flags.unicode then category "nd" else asciiDigits
    else if letter = 's' ∨ letter = 'S' then
      if flags.unicode then property "whitespace" else asciiSpaces
    else flags.word
  if letter.isUpper then flags.complement set else set

def isNameSeparator (c : Char) : Bool := c == ' ' || c == '_' || c == '-'

/-- A name without case, separators and a leading "is". -/
def normaliseName (name : List Char) : String :=
  let startsWithIs :=
    match name with
    | a :: b :: _ => (a == 'i' || a == 'I') && (b == 's' || b == 'S')
    | _ => false
  let body := if startsWithIs then name.drop 2 else name
  let plain := (body.filter fun c => !isNameSeparator c && c.toNat < 0x80).map Char.toLower
  if startsWithIs && plain == ['c'] then "isc" else String.ofList plain

/-- Names that are short for another property than the category or script they look like. -/
def namedSet? (name : String) : Option CharSet :=
  let asProperty :=
    if name == "cf" || name == "sc" || name == "lc" then none else Unicode.Property.find? name
  asProperty <|> Unicode.Category.find? name <|> Unicode.Script.find? name

/-- The code points that have a value of a property. -/
def valuedSet? (property value : String) : Option CharSet :=
  match property with
  | "generalcategory" | "gc" => Unicode.Category.find? value
  | "script" | "sc" => Unicode.Script.find? value
  | "scriptextensions" | "scx" => Unicode.Script.findExtended? value
  | "age" => Unicode.Age.find? value
  | "graphemeclusterbreak" | "gcb" => Unicode.Break.findGrapheme? value
  | "wordbreak" | "wb" => Unicode.Break.findWord? value
  | "sentencebreak" | "sb" => Unicode.Break.findSentence? value
  | _ => none

def cutAt? (separator : List Char) : List Char → Option (List Char × List Char)
  | [] => none
  | c :: rest =>
    match Text.after? separator (c :: rest) with
    | some tail => some ([], tail)
    | none => (cutAt? separator rest).map fun (head, tail) => (c :: head, tail)

structure PropertyQuery where
  set : CharSet
  /-- Whether the code points outside the set are meant. -/
  negated : Bool

def valuedQuery? (negated : Bool) (name value : List Char) : Option PropertyQuery :=
  (valuedSet? (normaliseName name) (normaliseName value)).map fun set => ⟨set, negated⟩

def PropertyQuery.ofText? (text : List Char) : Option PropertyQuery :=
  match cutAt? ['!', '='] text with
  | some (name, value) => valuedQuery? true name value
  | none =>
    match (cutAt? [':'] text).or (cutAt? ['='] text) with
    | some (name, value) => valuedQuery? false name value
    | none => (namedSet? (normaliseName text)).map fun set => ⟨set, false⟩

/-- Reads up to a closing brace, skipping blanks of a verbose pattern. -/
def readBraced (flags : Flags) : (room : Nat) → (done : List Char) → List Char →
    Except Fault (List Char × List Char)
  | 0, _, _ => .error .unexpectedEnd
  | room + 1, done, s =>
    match flags.skip s with
    | [] => .error .unexpectedEnd
    | '\x7d' :: rest => .ok (done.reverse, rest)
    | c :: rest => readBraced flags room (c :: done) rest

def propertyClass (flags : Flags) (negated : Bool) (s : List Char) :
    Except Fault (Primitive × List Char) := do
  let (text, rest) ←
    match flags.skip s with
    | [] => throw .unexpectedEnd
    | '\x7b' :: rest => readBraced flags (rest.length + 1) [] rest
    | c :: rest => if c = '\\' then throw .invalidProperty else pure ([c], flags.skip rest)
  if !flags.unicode then throw .notText
  match PropertyQuery.ofText? text with
  | some query => return (.set (flags.foldAndNegate (negated != query.negated) query.set), rest)
  | none => throw .unknownProperty

def hexDigit? (c : Char) : Option Nat :=
  if '0' ≤ c ∧ c ≤ '9' then some (c.toNat - 48)
  else if 'a' ≤ c ∧ c ≤ 'f' then some (c.toNat - 87)
  else if 'A' ≤ c ∧ c ≤ 'F' then some (c.toNat - 55)
  else none

def readHex (flags : Flags) : (count : Nat) → (value : Nat) → List Char →
    Except Fault (Nat × List Char)
  | 0, value, s => .ok (value, s)
  | count + 1, value, s =>
    match s with
    | [] => .error .unexpectedEnd
    | c :: rest =>
      match hexDigit? c with
      | none => .error .invalidHexadecimal
      | some d => readHex flags count (value * 16 + d) (flags.skip rest)

def scalar (code : Nat) : Except Fault Char :=
  if code < 0xD800 ∨ (0xE000 ≤ code ∧ code ≤ 0x10FFFF) then .ok (Char.ofNat code)
  else .error .invalidHexadecimal

/-- A code in hexadecimal. Of the forms only the two-digit one without braces names a byte where
bytes are matched. -/
def hexLiteral (flags : Flags) (digits : Nat) (s : List Char) :
    Except Fault (Primitive × List Char) := do
  match flags.skip s with
  | [] => throw .unexpectedEnd
  | '\x7b' :: rest =>
    let (text, rest) ← readBraced flags (rest.length + 1) [] rest
    if text.isEmpty then throw .invalidHexadecimal
    match text.foldlM (fun value c => (hexDigit? c).map (value * 16 + ·)) 0 with
    | none => throw .invalidHexadecimal
    | some code => return (.literal (← scalar code) false, flags.skip rest)
  | s =>
    let (code, rest) ← readHex flags digits 0 s
    return (.literal (← scalar code) (digits == 2), rest)

def isMeta (c : Char) : Bool := "\\.+*?()|[]\x7b\x7d^$#&-~".toList.contains c

/-- ASCII characters other than letters, digits and angle brackets stand for themselves after a
backslash. -/
def isEscapable (c : Char) : Bool :=
  isMeta c || (c.toNat < 0x80 && !c.isAlphanum && c != '<' && c != '>')

def controlEscape? : Char → Option Char
  | 'a' => some (Char.ofNat 7)
  | 'f' => some (Char.ofNat 12)
  | 't' => some '\t'
  | 'n' => some '\n'
  | 'r' => some '\r'
  | 'v' => some (Char.ofNat 11)
  | _ => none

def isBoundaryChar (c : Char) : Bool := c.isAlpha || c == '-'

def readBoundaryName (flags : Flags) : (room : Nat) → (done : List Char) → List Char →
    List Char × List Char
  | 0, done, s => (done.reverse, s)
  | room + 1, done, s =>
    match s with
    | [] => (done.reverse, [])
    | c :: rest =>
      if isBoundaryChar c then readBoundaryName flags room (c :: done) (flags.skip rest)
      else (done.reverse, s)

def boundaryNamed? (word : CharSet) (name : List Char) : Option Look :=
  if name = "start".toList then some (.wordStart word)
  else if name = "end".toList then some (.wordEnd word)
  else if name = "start-half".toList then some (.wordStartHalf word)
  else if name = "end-half".toList then some (.wordEndHalf word)
  else none

/-- A boundary, with a name in braces when letters follow the opening one. -/
def boundary (flags : Flags) (s : List Char) : Except Fault (Primitive × List Char) := do
  let word := flags.word
  match s with
  | '\x7b' :: inner =>
    match flags.skip inner with
    | [] => throw .unexpectedEnd
    | c :: rest =>
      if isBoundaryChar c then
        let (name, rest) := readBoundaryName flags (rest.length + 2) [] (c :: rest)
        match rest with
        | '\x7d' :: rest =>
          match boundaryNamed? word name with
          | some look => return (.look look, rest)
          | none => throw .unknownBoundary
        | _ => throw .unknownBoundary
      else return (.look (.boundary word), s)
  | s => return (.look (.boundary word), s)

def readEscape (flags : Flags) : List Char → Except Fault (Primitive × List Char)
  | [] => .error .unexpectedEnd
  | c :: rest =>
    if c.isDigit then .error .backReference
    else if c = 'x' then hexLiteral flags 2 rest
    else if c = 'u' then hexLiteral flags 4 rest
    else if c = 'U' then hexLiteral flags 8 rest
    else if c = 'p' ∨ c = 'P' then propertyClass flags (c = 'P') rest
    else if ['d', 'D', 's', 'S', 'w', 'W'].contains c then .ok (.set (perlClass flags c), rest)
    else if isEscapable c then .ok (.literal c false, rest)
    else
      match controlEscape? c with
      | some control => .ok (.literal control false, rest)
      | none =>
        if c = 'A' then .ok (.look .textStart, rest)
        else if c = 'z' then .ok (.look .textEnd, rest)
        else if c = 'b' then boundary flags rest
        else if c = 'B' then .ok (.look (.noBoundary flags.word), rest)
        else if c = '<' then .ok (.look (.wordStart flags.word), rest)
        else if c = '>' then .ok (.look (.wordEnd flags.word), rest)
        else .error .unknownEscape

end Stepwise.Pattern
