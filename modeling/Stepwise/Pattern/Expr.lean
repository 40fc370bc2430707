import Stepwise.Unicode.CharSet

namespace Stepwise.Pattern

open Unicode (CharSet)

/-- A condition on a position of a text; a word is told apart by a set of characters. -/
inductive Look where
  | textStart
  | textEnd
  | lineStart (crlf : Bool)
  | lineEnd (crlf : Bool)
  | boundary (word : CharSet)
  | noBoundary (word : CharSet)
  | wordStart (word : CharSet)
  | wordEnd (word : CharSet)
  | wordStartHalf (word : CharSet)
  | wordEndHalf (word : CharSet)
deriving DecidableEq

/-- A pattern over sets of characters, in a plain form: neighbouring characters are one text,
sequences and alternatives are flat, and a beginning that all alternatives share stands before them.
-/
inductive Expr where
  | empty
  /-- One character or more. -/
  | text (content : List Char)
  /-- A set of characters that is not a single one. -/
  | chars (set : CharSet)
  | look (condition : Look)
  /-- A group with its number. -/
  | group (index : Nat) (body : Expr)
  /-- At least `least` and at most `most` times in a row. -/
  | loop (least : Nat) (most : Option Nat) (body : Expr)
  | all (parts : List Expr)
  | any (options : List Expr)

namespace Expr

mutual

def same : Expr → Expr → Bool
  | .empty, .empty => true
  | .text s, .text t => s == t
  | .chars s, .chars t => s == t
  | .look a, .look b => a == b
  | .group i a, .group j b => i == j && same a b
  | .loop least most a, .loop least' most' b => least == least' && most == most' && same a b
  | .all s, .all t => sameList s t
  | .any s, .any t => sameList s t
  | _, _ => false

def sameList : List Expr → List Expr → Bool
  | [], [] => true
  | a :: s, b :: t => same a b && sameList s t
  | _, _ => false

end

mutual

/-- Whether an expression matches the empty text only. -/
def isVoid : Expr → Bool
  | .empty => true
  | .text _ => false
  | .chars _ => false
  | .look _ => true
  | .group _ body => body.isVoid
  | .loop _ most body => most == some 0 || (most.isSome && body.isVoid)
  | .all parts => areVoid parts
  | .any options => areVoid options

def areVoid : List Expr → Bool
  | [] => true
  | e :: rest => e.isVoid && areVoid rest

end

/-- A single character is a text, and what is left without surrogates is a set. -/
def ofSet (set : CharSet) : Expr :=
  match CharSet.withoutSurrogates set with
  | [(a, b)] => if a = b then .text [Char.ofNat a] else .chars [(a, b)]
  | set => .chars set

/-- What matches the empty text only need not be repeated. -/
def ofLoop (least : Nat) (most : Option Nat) (body : Expr) : Expr :=
  let least := if body.isVoid then min least 1 else least
  let most := if body.isVoid then some ((most.map (min · 1)).getD 1) else most
  if least = 0 ∧ most = some 0 then .empty
  else if least = 1 ∧ most = some 1 then body
  else .loop least most body

def parts : Expr → List Expr
  | .empty => []
  | .all parts => parts
  | e => [e]

/-- Parts with neighbouring texts put together. -/
def joinTexts : List Expr → List Expr
  | [] => []
  | .text s :: rest =>
    match joinTexts rest with
    | .text t :: others => .text (s ++ t) :: others
    | others => .text s :: others
  | e :: rest => e :: joinTexts rest

def ofParts (list : List Expr) : Expr :=
  match joinTexts (list.flatMap parts) with
  | [] => .empty
  | [e] => e
  | parts => .all parts

def options : Expr → List Expr
  | .any options => options
  | e => [e]

/-- The set of the characters that an expression stands for, where it stands for single ones. -/
def set? : Expr → Option CharSet
  | .chars set => some set
  | .text [c] => some [(c.toNat, c.toNat)]
  | _ => none

/-- One of several, without a look at their beginnings. -/
def ofBranches (options : List Expr) : Expr :=
  match options with
  | [] => .chars []
  | [e] => e
  | options =>
    match options.mapM set? with
    | some sets => ofSet (CharSet.normalise sets.flatten)
    | none => .any options

def isSequence : Expr → Bool
  | .all _ => true
  | _ => false

/-- How many parts two sequences begin with in common. -/
def sharedParts : List Expr → List Expr → Nat
  | a :: s, b :: t => if same a b then sharedParts s t + 1 else 0
  | _, _ => 0

/-- One of several; the parts that all of them begin with stand before the choice. -/
def ofOptions (list : List Expr) : Expr :=
  let branches := list.flatMap options
  match branches with
  | [] => ofBranches branches
  | first :: rest =>
    let count := rest.foldl (fun n e => min n (sharedParts first.parts e.parts)) first.parts.length
    if rest.isEmpty || count = 0 || !branches.all isSequence then ofBranches branches
    else
      let tails := branches.map fun e => ofParts (e.parts.drop count)
      ofParts (first.parts.take count ++ [ofBranches (tails.flatMap options)])

end Expr

end Stepwise.Pattern
