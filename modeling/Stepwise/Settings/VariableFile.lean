import Stepwise.Entries
import Stepwise.Text.Blank
import Stepwise.Text.Pieces
import Stepwise.Unicode.Alphanumeric

namespace Stepwise.Settings.VariableFile

/-- Where a line stands with its quotes. -/
inductive Quoting where
  | plain
  | afterBlank
  | escape
  | double
  | doubleEscape
  | single
  | singleEscape
deriving DecidableEq

/-- What a character does to the quoting; none at the start of a comment. -/
def Quoting.next? (q : Quoting) (c : Char) : Option Quoting :=
  match q with
  | .escape => some .plain
  | .double => some (if c = '\\' then .doubleEscape else if c = '"' then .plain else .double)
  | .doubleEscape => some .double
  | .single => some (if c = '\\' then .singleEscape else if c = '\'' then .plain else .single)
  | .singleEscape => some .single
  | .plain =>
    some (if c = '\\' then .escape
      else if c = '"' then .double
      else if c = '\'' then .single
      else if Text.isBlank c && c != '\n' && c != '\r' then .afterBlank
      else .plain)
  | .afterBlank =>
    if c = '#' then none
    else
      some (if c = '\\' then .escape
        else if c = '"' then .double
        else if c = '\'' then .single
        else .plain)

/-- The quoting after a line, or the part of the line before a comment. -/
def quotingAfter (q : Quoting) (before : List Char) : List Char → Quoting ⊕ List Char
  | [] => .inl q
  | c :: rest =>
    match q.next? c with
    | some next => quotingAfter next (c :: before) rest
    | none => .inr before.reverse

/-- The lines of a text with their ends, the current one in reverse. -/
def rawLines (current : List Char) : List Char → List (List Char)
  | [] => if current.isEmpty then [] else [current.reverse]
  | '\n' :: rest => ('\n' :: current).reverse :: rawLines [] rest
  | c :: rest => rawLines (c :: current) rest

def withoutEnd (line : List Char) : List Char :=
  match line.reverse with
  | '\n' :: '\r' :: rest => rest.reverse
  | '\n' :: rest => rest.reverse
  | _ => line

def isComment (line : List Char) : Bool := (line.dropWhile Text.isBlank).head? = some '#'

/-- Lines joined over open quotes; none for one that the text leaves open. -/
def lines (q : Quoting) (opened : List Char) : List (List Char) → List (Option (List Char))
  | [] => if opened.isEmpty then [] else [none]
  | line :: rest =>
    if isComment (opened ++ line) then some [] :: lines .plain [] rest
    else
      match quotingAfter q [] line with
      | .inr kept => some (opened ++ kept) :: lines .plain [] rest
      | .inl .plain => some (withoutEnd (opened ++ line)) :: lines .plain [] rest
      | .inl next => lines next (opened ++ line) rest

/-- How far the name of another variable is read. -/
inductive Naming where
  | none
  /-- After a dollar sign. -/
  | bare
  /-- After a dollar sign and a brace. -/
  | braced
deriving DecidableEq

structure Draft where
  output : List Char := []
  single : Bool := false
  double : Bool := false
  escaped : Bool := false
  /-- Whether only blanks and a comment may follow. -/
  ended : Bool := false
  /-- Whether a comment has begun. -/
  closed : Bool := false
  naming : Naming := .none
  /-- The name of the other variable in reverse. -/
  name : List Char := []

def Draft.substitute (lookUp : String → Option String) (d : Draft) : Draft :=
  { d with
    output := ((lookUp (String.ofList d.name.reverse)).getD "").toList.reverse ++ d.output
    name := []
    naming := .none }

def Draft.push (d : Draft) (c : Char) : Draft := { d with output := c :: d.output }

def Draft.unescape? (d : Draft) (c : Char) : Option Draft :=
  let d := { d with escaped := false }
  if c = 'n' then some (d.push '\n')
  else if ['\\', '\'', '"', '$', ' '].contains c then some (d.push c)
  else none

/-- A character of the name of another variable, or the one after it. -/
def Draft.continueName (lookUp : String → Option String) (d : Draft) (c : Char) : Draft :=
  if Unicode.Alphanumeric.isLetterOrNumber c then { d with name := c :: d.name }
  else if d.naming = .braced then
    if c = '\x7d' then d.substitute lookUp else { d with name := c :: d.name }
  else if c = '\x7b' && d.name.isEmpty then { d with naming := .braced }
  else if c = '$' then { d.substitute lookUp with naming := .bare }
  else (d.substitute lookUp).push c

/-- A character outside of single quotes and of names. -/
def Draft.continuePlain (d : Draft) (c : Char) : Draft :=
  if c = '$' then { d with naming := .bare }
  else if c = '\\' then { d with escaped := true }
  else if d.double then if c = '"' then { d with double := false } else d.push c
  else if c = '\'' then { d with single := true }
  else if c = '"' then { d with double := true }
  else if c = ' ' || c = '\t' then { d with ended := true }
  else d.push c

def Draft.take? (lookUp : String → Option String) (d : Draft) (c : Char) : Option Draft :=
  if d.closed then some d
  else if d.ended then
    if c = ' ' || c = '\t' then some d
    else if c = '#' then some { d with closed := true }
    else none
  else if d.escaped then d.unescape? c
  else if d.single then some (if c = '\'' then { d with single := false } else d.push c)
  else if d.naming ≠ .none then some (d.continueName lookUp c)
  else some (d.continuePlain c)

def value? (lookUp : String → Option String) (s : List Char) : Option String := do
  let d ← s.foldlM (Draft.take? lookUp) {}
  if d.naming = .braced || d.single || d.double then none
  else return String.ofList (d.substitute lookUp).output.reverse

def isNameStart (c : Char) : Bool := c.isAlpha || c == '_'

def isNameChar (c : Char) : Bool := c.isAlphanum || c == '_' || c == '.'

def skipBlanks (s : List Char) : List Char := s.dropWhile Text.isBlank

def name? (s : List Char) : Option (String × List Char) :=
  if s.head?.any isNameStart then
    some (String.ofList (s.takeWhile isNameChar), s.dropWhile isNameChar)
  else none

def afterEquals? : List Char → Option (List Char)
  | '=' :: rest => some rest
  | _ => none

/-- The name on a line and the text of its value; `export` may stand before a name and may be
one. -/
def assigned? (s : List Char) : Option (String × List Char) := do
  let (name, s) ← name? s
  match afterEquals? (skipBlanks s) with
  | some rest => return (name, skipBlanks rest)
  | none =>
    if name = "export" then
      let (name, s) ← name? (skipBlanks s)
      let rest ← afterEquals? (skipBlanks s)
      return (name, skipBlanks rest)
    else none

/-- The assignment on a line; none on a line without one. Blanks around the line do not count. -/
def assignment? (lookUp : String → Option String) (line : List Char) :
    Option (Option (String × String)) :=
  let s := Text.trimChars line
  if s.isEmpty || s.head? = some '#' then some none
  else do
    let (name, text) ← assigned? s
    if text.isEmpty || text.head? = some '#' then return some (name, "")
    else return some (name, ← value? lookUp text)

/-- Variables with the ones that a file adds, and the values that the file itself has given. -/
structure Reading where
  environment : Entries String
  given : Entries String := []

/-- A variable has the value it is set to, or else the one that the file has given. -/
def Reading.lookUp (r : Reading) (name : String) : Option String :=
  (r.environment.get? name).or (r.given.get? name)

def Reading.add (r : Reading) (name value : String) : Reading where
  environment :=
    if r.environment.contains name then r.environment else r.environment.insert name value
  given := r.given.insert name value

/-- Takes lines up to the first that is none. -/
def Reading.addLines (r : Reading) : List (Option (List Char)) → Reading
  | [] => r
  | none :: _ => r
  | some line :: rest =>
    match assignment? r.lookUp line with
    | none => r
    | some none => addLines r rest
    | some (some (name, value)) => addLines (r.add name value) rest

/-- Variables together with those of a file, after a byte order mark if there is one. -/
def extend (environment : Entries String) (text : String) : Entries String :=
  let found := lines .plain [] (rawLines [] (Text.afterMark text.toList))
  (Reading.addLines ⟨environment, []⟩ found).environment

end Stepwise.Settings.VariableFile
