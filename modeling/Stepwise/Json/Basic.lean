import Stepwise.Double.Basic
import Stepwise.Entries

namespace Stepwise

/-- An integer, or a number written with a fraction or an exponent. -/
inductive Number where
  | int (value : Int)
  | float (value : Double)
deriving DecidableEq

/-- The double that stands for a number when it is compared. -/
def Number.toDouble : Number → Double
  | .int n => .ofInt n
  | .float d => d

/-- A JSON value. The fields of an object stand in key order and no key stands twice: that is the
predicate `WellFormed`, and reading a text establishes it. -/
inductive Json where
  | null
  | bool (value : Bool)
  | num (value : Number)
  | str (value : String)
  | arr (items : List Json)
  | obj (fields : List (String × Json))
deriving Inhabited

namespace Json

mutual

/-- Equality of values as trees. -/
def equal : Json → Json → Bool
  | .null, .null => true
  | .bool a, .bool b => a == b
  | .num a, .num b => a == b
  | .str a, .str b => a == b
  | .arr as, .arr bs => equalItems as bs
  | .obj as, .obj bs => equalFields as bs
  | _, _ => false

def equalItems : List Json → List Json → Bool
  | [], [] => true
  | a :: as, b :: bs => equal a b && equalItems as bs
  | _, _ => false

def equalFields : List (String × Json) → List (String × Json) → Bool
  | [], [] => true
  | (j, a) :: as, (k, b) :: bs => j == k && equal a b && equalFields as bs
  | _, _ => false

end

mutual

theorem equal_iff : ∀ a b : Json, equal a b = true ↔ a = b
  | .null, b => by cases b <;> simp [equal]
  | .bool _, b => by cases b <;> simp [equal]
  | .num _, b => by cases b <;> simp [equal]
  | .str _, b => by cases b <;> simp [equal]
  | .arr as, b => by cases b <;> simp [equal, equalItems_iff as]
  | .obj as, b => by cases b <;> simp [equal, equalFields_iff as]

theorem equalItems_iff : ∀ as bs : List Json, equalItems as bs = true ↔ as = bs
  | [], bs => by cases bs <;> simp [equalItems]
  | a :: as, bs => by cases bs <;> simp [equalItems, equal_iff a, equalItems_iff as]

theorem equalFields_iff : ∀ as bs : List (String × Json), equalFields as bs = true ↔ as = bs
  | [], bs => by cases bs <;> simp [equalFields]
  | (j, a) :: as, bs => by
    rcases bs with _ | ⟨⟨k, b⟩, bs⟩ <;> simp [equalFields, equal_iff a, equalFields_iff as]

end

instance : DecidableEq Json := fun a b => decidable_of_iff _ (equal_iff a b)

def ofNat (n : Nat) : Json := .num (.int n)

def record (fields : List (String × Json)) : Json := .obj (Entries.ofList fields)

def isNull : Json → Bool
  | .null => true
  | _ => false

def text? : Json → Option String
  | .str s => some s
  | _ => none

def items? : Json → Option (List Json)
  | .arr items => some items
  | _ => none

def fields? : Json → Option (Entries Json)
  | .obj fields => some fields
  | _ => none

/-- The field of an object; none on every other value. -/
def field? (j : Json) (key : String) : Option Json := j.fields?.bind (·.get? key)

mutual

/-- Every object lists its keys in increasing order. -/
def WellFormed : Json → Prop
  | .arr items => WellFormedItems items
  | .obj fields => Entries.Sorted fields ∧ WellFormedFields fields
  | _ => True

def WellFormedItems : List Json → Prop
  | [] => True
  | item :: rest => item.WellFormed ∧ WellFormedItems rest

def WellFormedFields : List (String × Json) → Prop
  | [] => True
  | (_, value) :: rest => value.WellFormed ∧ WellFormedFields rest

end

theorem wellFormedItems_iff {items : List Json} :
    WellFormedItems items ↔ ∀ item ∈ items, item.WellFormed := by
  induction items with
  | nil => simp [WellFormedItems]
  | cons item rest ih => simp [WellFormedItems, ih]

theorem wellFormedFields_iff {fields : List (String × Json)} :
    WellFormedFields fields ↔ ∀ e ∈ fields, e.2.WellFormed := by
  induction fields with
  | nil => simp [WellFormedFields]
  | cons e rest ih => simp [WellFormedFields, ih]

theorem WellFormed.item {items : List Json} {item : Json} (h : (arr items).WellFormed)
    (hm : item ∈ items) : item.WellFormed := wellFormedItems_iff.mp h item hm

theorem WellFormed.field {fields : List (String × Json)} {e : String × Json}
    (h : (obj fields).WellFormed) (hm : e ∈ fields) : e.2.WellFormed :=
  wellFormedFields_iff.mp h.2 e hm

/-- What holds of an array when it holds of its items, and of an object when it holds of the values
of its fields, holds of every value. -/
@[elab_as_elim] theorem parts_induction {motive : Json → Prop} (null : motive .null)
    (bool : ∀ value, motive (.bool value)) (num : ∀ value, motive (.num value))
    (str : ∀ value, motive (.str value))
    (arr : ∀ items, (∀ item ∈ items, motive item) → motive (.arr items))
    (obj : ∀ fields : List (String × Json), (∀ e ∈ fields, motive e.2) → motive (.obj fields)) :
    ∀ j, motive j
  | .null => null
  | .bool value => bool value
  | .num value => num value
  | .str value => str value
  | .arr items => arr items fun item hm =>
      have : sizeOf item < sizeOf items := List.sizeOf_lt_of_mem hm
      parts_induction null bool num str arr obj item
  | .obj fields => obj fields fun e hm =>
      have : sizeOf e < sizeOf fields := List.sizeOf_lt_of_mem hm
      have : sizeOf e.2 < sizeOf e := by
        cases e
        simp only [Prod.mk.sizeOf_spec]
        omega
      parts_induction null bool num str arr obj e.2

mutual

/-- How deep arrays and objects nest in a value. -/
def depth : Json → Nat
  | .arr items => depthItems items + 1
  | .obj fields => depthFields fields + 1
  | _ => 0

def depthItems : List Json → Nat
  | [] => 0
  | item :: rest => max item.depth (depthItems rest)

def depthFields : List (String × Json) → Nat
  | [] => 0
  | (_, value) :: rest => max value.depth (depthFields rest)

end

end Json

end Stepwise
