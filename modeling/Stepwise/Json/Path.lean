import Stepwise.Json.Basic
import Stepwise.Text.Numeral
import Stepwise.Text.Pieces

namespace Stepwise.Json

/-- The segments of a path; there is always one. -/
def segments (path : String) : List String := (Text.splitOn '.' path.toList).map String.ofList

def child? (segment : String) : Json → Option Json
  | .obj fields => Entries.get? fields segment
  | .arr items => (Text.Numeral.index? segment).bind (items[·]?)
  | _ => none

def walk? : List String → Json → Option Json
  | [], j => some j
  | segment :: rest, j => (j.child? segment).bind (walk? rest)

def atPath? (j : Json) (path : String) : Option Json := j.walk? (segments path)

/-- An array with null up to a position. -/
def fillTo (items : List Json) (position : Nat) : List Json :=
  items ++ List.replicate (position + 1 - items.length) .null

/-- Where writing along a segment goes on. -/
inductive Slot where
  | item (items : List Json) (position : Nat)
  | field (fields : Entries Json) (key : String)

/-- A segment that is a position of an array stands for an item, and every other for a field of an
object, which takes the place of anything that is none. -/
def slot (segment : String) : Json → Slot
  | .arr items =>
    match Text.Numeral.index? segment with
    | some position => .item items position
    | none => .field [] segment
  | .obj fields => .field fields segment
  | _ => .field [] segment

def Slot.value : Slot → Json
  | .item items position => (items[position]?).getD .null
  | .field fields key => (fields.get? key).getD .null

/-- The container with another value in the slot; none when the position has no successor among the
numbers of 64 bits, which would be the length of the array. Memory is not modelled, and neither is
the bound on the bytes of an array: all other positions are taken to have room. -/
def Slot.fill? (value : Json) : Slot → Option Json
  | .item items position =>
    if position + 1 < Text.Numeral.wordBound then
      some (.arr ((fillTo items position).set position value))
    else none
  | .field fields key => some (.obj (fields.insert key value))

/-- Puts a value where a list of segments leads. -/
def put? (value : Json) : List String → Json → Option Json
  | [], _ => some value
  | segment :: rest, j => do
    let place := j.slot segment
    let inner ← put? value rest place.value
    place.fill? inner

def setAtPath? (j : Json) (path : String) (value : Json) : Option Json :=
  put? value (segments path) j

end Stepwise.Json
