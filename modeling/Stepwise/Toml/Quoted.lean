import Stepwise.Toml.Value

namespace Stepwise.Toml

def isBlank (c : Char) : Bool := c = ' ' || c = '\t'

/-- The characters that may stand in comments and strings; line breaks are none of them. -/
def isVisible (c : Char) : Bool := c = '\t' || (0x20 ≤ c.toNat && c.toNat ≠ 0x7F)

/-- The text after a line break at its start. -/
def lineBreak? : List Char → Option (List Char)
  | '\n' :: rest => some rest
  | '\r' :: '\n' :: rest => some rest
  | _ => none

def hexDigit? (c : Char) : Option Nat :=
  let n := c.toNat
  if 48 ≤ n && n ≤ 57 then some (n - 48)
  else if 97 ≤ n && n ≤ 102 then some (n - 87)
  else if 65 ≤ n && n ≤ 70 then some (n - 55)
  else none

/-- The character whose code point the hexadecimal digits are. -/
def codePoint? (digits : List Char) : Option Char := do
  let n ← digits.foldlM (fun value c => (hexDigit? c).map (value * 16 + ·)) 0
  if h : n.isValidChar then some (Char.ofNatAux n h) else none

def simpleEscape? : Char → Option Char
  | 'b' => some (Char.ofNat 8)
  | 't' => some '\t'
  | 'n' => some '\n'
  | 'f' => some (Char.ofNat 12)
  | 'r' => some '\r'
  | '"' => some '"'
  | '\\' => some '\\'
  | _ => none

def basicRest? (done : List Char) : Reader String
  | [] => none
  | '"' :: rest => some (String.ofList done.reverse, rest)
  | '\\' :: 'u' :: a :: b :: c :: d :: rest =>
    match codePoint? [a, b, c, d] with
    | some x => basicRest? (x :: done) rest
    | none => none
  | '\\' :: 'U' :: a :: b :: c :: d :: e :: f :: g :: h :: rest =>
    match codePoint? [a, b, c, d, e, f, g, h] with
    | some x => basicRest? (x :: done) rest
    | none => none
  | '\\' :: c :: rest =>
    match simpleEscape? c with
    | some x => basicRest? (x :: done) rest
    | none => none
  | c :: rest => if isVisible c && c != '\\' then basicRest? (c :: done) rest else none

def literalRest? (done : List Char) : Reader String
  | [] => none
  | c :: rest =>
    if c = '\'' then some (String.ofList done.reverse, rest)
    else if isVisible c then literalRest? (c :: done) rest
    else none

/-- What a backslash at the end of a line does to the characters after it. -/
inductive Joining where
  | none
  /-- Blanks up to the line break. -/
  | beforeBreak
  /-- Blanks and line breaks up to the next other character. -/
  | afterBreak
deriving DecidableEq

/-- The rest of a basic string on several lines. Up to two quotes may stand in it anywhere. -/
def basicLinesRest? (joining : Joining) (done : List Char) : Reader String
  | [] => none
  | '\n' :: rest =>
    if joining = .none then basicLinesRest? .none ('\n' :: done) rest
    else basicLinesRest? .afterBreak done rest
  | '\r' :: '\n' :: rest =>
    if joining = .none then basicLinesRest? .none ('\n' :: done) rest
    else basicLinesRest? .afterBreak done rest
  | c :: rest =>
    if joining ≠ .none ∧ isBlank c then basicLinesRest? joining done rest
    else if joining = .beforeBreak then none
    else
      match c, rest with
      | '"', '"' :: '"' :: '"' :: '"' :: rest =>
        some (String.ofList ('"' :: '"' :: done).reverse, rest)
      | '"', '"' :: '"' :: '"' :: rest => some (String.ofList ('"' :: done).reverse, rest)
      | '"', '"' :: '"' :: rest => some (String.ofList done.reverse, rest)
      | '\\', 'u' :: a :: b :: c :: d :: rest =>
        match codePoint? [a, b, c, d] with
        | some x => basicLinesRest? .none (x :: done) rest
        | none => none
      | '\\', 'U' :: a :: b :: c :: d :: e :: f :: g :: h :: rest =>
        match codePoint? [a, b, c, d, e, f, g, h] with
        | some x => basicLinesRest? .none (x :: done) rest
        | none => none
      | '\\', e :: rest =>
        match simpleEscape? e with
        | some x => basicLinesRest? .none (x :: done) rest
        | none =>
          if isBlank e then basicLinesRest? .beforeBreak done rest
          else if e = '\n' then basicLinesRest? .afterBreak done rest
          else if e = '\r' then
            match rest with
            | '\n' :: rest => basicLinesRest? .afterBreak done rest
            | _ => none
          else none
      | c, rest => if isVisible c && c != '\\' then basicLinesRest? .none (c :: done) rest else none

/-- The rest of a literal string on several lines. Up to two quotes may stand in it anywhere. -/
def literalLinesRest? (done : List Char) : Reader String
  | [] => none
  | '\n' :: rest => literalLinesRest? ('\n' :: done) rest
  | '\r' :: '\n' :: rest => literalLinesRest? ('\n' :: done) rest
  | '\'' :: '\'' :: '\'' :: '\'' :: '\'' :: rest =>
    some (String.ofList ('\'' :: '\'' :: done).reverse, rest)
  | '\'' :: '\'' :: '\'' :: '\'' :: rest => some (String.ofList ('\'' :: done).reverse, rest)
  | '\'' :: '\'' :: '\'' :: rest => some (String.ofList done.reverse, rest)
  | c :: rest => if isVisible c then literalLinesRest? (c :: done) rest else none

def lineText? : Reader String
  | '"' :: rest => basicRest? [] rest
  | '\'' :: rest => literalRest? [] rest
  | _ => none

def readText? : Reader String
  | '"' :: '"' :: '"' :: rest => basicLinesRest? .none [] ((lineBreak? rest).getD rest)
  | '\'' :: '\'' :: '\'' :: rest => literalLinesRest? [] ((lineBreak? rest).getD rest)
  | s => lineText? s

end Stepwise.Toml
