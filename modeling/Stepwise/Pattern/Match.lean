import Stepwise.Pattern.Expr

namespace Stepwise.Pattern

open Unicode (CharSet)

/-- An expression bound to a text: sets of characters have become sets of positions. -/
inductive Route where
  | stay
  /-- Passes a character that starts at one of the positions. -/
  | step (positions : Nat)
  /-- Goes on from the positions only. -/
  | gate (positions : Nat)
  | seq (first second : Route)
  | alt (left right : Route)
  | loop (least : Nat) (most : Option Nat) (body : Route)

/-- The positions at which a condition holds. -/
def positionsWhere (count : Nat) (p : Nat → Bool) : Nat :=
  (List.range count).foldl (fun bits i => if p i then bits ||| (1 <<< i) else bits) 0

def isWordAt (word : CharSet) (text : Array Char) (i : Nat) : Bool :=
  (text[i]?.map fun c => word.contains c.toNat).getD false

def isWordBefore (word : CharSet) (text : Array Char) (i : Nat) : Bool :=
  0 < i && isWordAt word text (i - 1)

def charAt (text : Array Char) (i : Nat) : Option Char := text[i]?

def charBefore (text : Array Char) (i : Nat) : Option Char := if i = 0 then none else text[i - 1]?

def Look.holds (text : Array Char) : Look → Nat → Bool
  | .textStart, i => i = 0
  | .textEnd, i => i = text.size
  | .lineStart false, i => i = 0 || charBefore text i == some '\n'
  | .lineStart true, i =>
    i = 0 || charBefore text i == some '\n' ||
      (charBefore text i == some '\r' && charAt text i != some '\n')
  | .lineEnd false, i => i = text.size || charAt text i == some '\n'
  | .lineEnd true, i =>
    i = text.size || charAt text i == some '\r' ||
      (charAt text i == some '\n' && charBefore text i != some '\r')
  | .boundary w, i => isWordBefore w text i != isWordAt w text i
  | .noBoundary w, i => isWordBefore w text i == isWordAt w text i
  | .wordStart w, i => !isWordBefore w text i && isWordAt w text i
  | .wordEnd w, i => isWordBefore w text i && !isWordAt w text i
  | .wordStartHalf w, i => !isWordBefore w text i
  | .wordEndHalf w, i => !isWordAt w text i

def Route.ofSet (text : Array Char) (set : CharSet) : Route :=
  .step (positionsWhere text.size fun i => isWordAt set text i)

def Route.ofText (text : Array Char) (content : List Char) : Route :=
  content.foldr (fun c rest => .seq (.ofSet text [(c.toNat, c.toNat)]) rest) .stay

mutual

def Expr.bind (text : Array Char) : Expr → Route
  | .empty => .stay
  | .text content => .ofText text content
  | .chars set => .ofSet text set
  | .look condition => .gate (positionsWhere (text.size + 1) fun i => condition.holds text i)
  | .group _ body => body.bind text
  | .loop least most body => .loop least most (body.bind text)
  | .all parts => Expr.bindAll text parts
  | .any options => Expr.bindAny text options

def Expr.bindAll (text : Array Char) : List Expr → Route
  | [] => .stay
  | e :: rest => .seq (e.bind text) (Expr.bindAll text rest)

def Expr.bindAny (text : Array Char) : List Expr → Route
  | [] => .step 0
  | e :: rest => .alt (e.bind text) (Expr.bindAny text rest)

end

/-- Goes on `count` times; once nothing changes, nothing will. -/
def goTimes (go : Nat → Nat) : (count : Nat) → Nat → Nat
  | 0, positions => positions
  | count + 1, positions =>
    if go positions = positions then positions else goTimes go count (go positions)

/-- Goes on up to `count` times and keeps the positions on the way. -/
def gather (go : Nat → Nat) : (count : Nat) → Nat → Nat
  | 0, positions => positions
  | count + 1, positions =>
    let more := positions ||| go positions
    if more = positions then positions else gather go count more

/-- The positions at which a route may end when it starts at the given ones; `span` is the number of
positions there are. -/
def Route.reach (span : Nat) : Route → Nat → Nat
  | .stay, positions => positions
  | .step there, positions => (positions &&& there) <<< 1
  | .gate there, positions => positions &&& there
  | .seq a b, positions => b.reach span (a.reach span positions)
  | .alt a b, positions => a.reach span positions ||| b.reach span positions
  | .loop least most body, positions =>
    gather (body.reach span) ((most.map (· - least)).getD span)
      (goTimes (body.reach span) least positions)

def Expr.occursIn (e : Expr) (text : String) : Bool :=
  let chars := text.toList.toArray
  (e.bind chars).reach (chars.size + 1) ((1 <<< (chars.size + 1)) - 1) != 0

end Stepwise.Pattern
