import Stepwise.Json.Document
import Stepwise.Reading.Source

namespace Stepwise

/-- A number as a count below a bound. -/
def Number.below? (bound : Nat) : Number → Option Nat
  | .int (.ofNat n) => if n < bound then some n else none
  | _ => none

namespace Json

def flag? : Json → Option Bool
  | .bool value => some value
  | _ => none

def number? : Json → Option Number
  | .num n => some n
  | _ => none

def source : Source Json where
  isNull := isNull
  flag? := flag?
  text? := text?
  count? j := j.number?.bind (·.below? Text.Numeral.wordBound)
  attempts? j := j.number?.bind (·.below? Text.Numeral.halfWordBound)
  floating? j := j.number?.map fun n => .finite n.toDouble
  milliseconds? j := j.number?.bind (·.below? Text.Numeral.wordBound)
  literal? := text?
  items? := items?
  fields? := fields?
  value? := some
  exactLength := true

end Json

namespace Document

/-- A node of a text, and how deep arrays and objects may still nest in it. -/
structure Node where
  room : Nat
  document : Document

namespace Node

def isNull (n : Node) : Bool :=
  match n.document with
  | .null => true
  | _ => false

def flag? (n : Node) : Option Bool :=
  match n.document with
  | .bool value => some value
  | _ => none

def text? (n : Node) : Option String :=
  match n.document with
  | .str value => value
  | _ => none

def number? (n : Node) : Option Number :=
  match n.document with
  | .num value => value
  | _ => none

def items? (n : Node) : Option (List Node) :=
  match n.document with
  | .arr items => if n.room = 0 then none else some (items.map (Node.mk (n.room - 1)))
  | _ => none

def fields? (n : Node) : Option (List (String × Node)) :=
  match n.document with
  | .obj fields =>
    if n.room = 0 then none
    else fields.mapM fun e => e.1.map fun key => (key, Node.mk (n.room - 1) e.2)
  | _ => none

def source : Source Node where
  isNull := isNull
  flag? := flag?
  text? := text?
  count? n := n.number?.bind (·.below? Text.Numeral.wordBound)
  attempts? n := n.number?.bind (·.below? Text.Numeral.halfWordBound)
  floating? n := n.number?.map fun n => .finite n.toDouble
  milliseconds? n := n.number?.bind (·.below? Text.Numeral.wordBound)
  literal? := text?
  items? := items?
  fields? := fields?
  value? n := n.document.toJson? n.room
  exactLength := true

end Node

def readText? {β : Type} (read : Node → Option β) (text : String) : Option β :=
  (parse? text).bind fun document => read ⟨maxDepth, document⟩

end Document

end Stepwise
