import Stepwise.Pattern.Fault
import Stepwise.Text.Blank

namespace Stepwise.Pattern

structure Flags where
  caseInsensitive : Bool := false
  multiLine : Bool := false
  dotAll : Bool := false
  verbose : Bool := false
  unicode : Bool := true
  crlf : Bool := false
  lazy : Bool := false

def Flags.set? (flags : Flags) (letter : Char) (on : Bool) : Option Flags :=
  match letter with
  | 'i' => some { flags with caseInsensitive := on }
  | 'm' => some { flags with multiLine := on }
  | 's' => some { flags with dotAll := on }
  | 'x' => some { flags with verbose := on }
  | 'u' => some { flags with unicode := on }
  | 'R' => some { flags with crlf := on }
  | 'U' => some { flags with lazy := on }
  | _ => none

structure FlagList where
  flags : Flags
  /-- What stands there, the hyphen included. -/
  seen : List Char
  /-- The character that ends the list. -/
  stop : Char
  rest : List Char

/-- Reads the flags of a group after its question mark. -/
def FlagList.read (flags : Flags) (on : Bool) (seen : List Char) :
    List Char → Except Fault FlagList
  | [] => .error .unexpectedEnd
  | c :: rest =>
    if c = ':' ∨ c = ')' then
      if seen.head? = some '-' then .error .danglingNegation
      else .ok ⟨flags, seen, c, rest⟩
    else if seen.contains c then .error .duplicateFlag
    else if c = '-' then read flags false (c :: seen) rest
    else
      match flags.set? c on with
      | some changed => read changed on (c :: seen) rest
      | none => .error .unknownFlag

mutual

def skipBlanks : List Char → List Char
  | [] => []
  | c :: rest =>
    if Text.isBlank c then skipBlanks rest
    else if c = '#' then skipComment rest
    else c :: rest

def skipComment : List Char → List Char
  | [] => []
  | c :: rest => if c = '\n' then skipBlanks rest else skipComment rest

end

/-- Blanks and comments count for nothing in a verbose pattern. -/
def Flags.skip (flags : Flags) (s : List Char) : List Char :=
  if flags.verbose then skipBlanks s else s

/-- The character after the first one, blanks of a verbose pattern apart. -/
def Flags.peekAfter (flags : Flags) (s : List Char) : Option Char :=
  let rest := s.drop 1
  if flags.verbose then
    let rest := rest.dropWhile Text.isBlank
    match rest with
    | '#' :: comment => (comment.dropWhile Text.isBlank).head?
    | rest => rest.head?
  else rest.head?

end Stepwise.Pattern
