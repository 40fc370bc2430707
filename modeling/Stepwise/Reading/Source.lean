import Stepwise.Json.Basic
import Stepwise.Text.Numeral

namespace Stepwise

/-- The questions a reader asks of a node. -/
structure Source (α : Type) where
  isNull : α → Bool
  flag? : α → Option Bool
  text? : α → Option String
  /-- A whole number below `2^64`. -/
  count? : α → Option Nat
  /-- A whole number below `2^32`. -/
  attempts? : α → Option Nat
  floating? : α → Option Floating
  /-- A whole number of milliseconds; no other kind of node is taken for one. -/
  milliseconds? : α → Option Nat
  /-- A text; no other kind of node is taken for one. -/
  literal? : α → Option String
  items? : α → Option (List α)
  /-- The fields of an object in their order; a key may stand twice. -/
  fields? : α → Option (List (String × α))
  value? : α → Option Json
  /-- Whether an array may not be longer than the record it stands for. -/
  exactLength : Bool

/-- A field of a record: its name and its other spellings. -/
structure FieldName where
  name : String
  aliases : List String := []

/-- The keys that stand for a field. -/
def FieldName.isKey (field : FieldName) (key : String) : Bool :=
  key = field.name || field.aliases.contains key

namespace Source

variable {α β : Type}

/-- The field of an object; none of it when no key stands for it, a failure when two do. -/
def fieldIn? (fields : List (String × α)) (field : FieldName) : Option (List (String × α)) :=
  match fields.filter fun e => field.isKey e.1 with
  | [] => some []
  | [(_, node)] => some [(field.name, node)]
  | _ => none

def fieldsIn? (fields : List (String × α)) : List FieldName → Option (List (String × α))
  | [] => some []
  | field :: rest => do
    let found ← fieldIn? fields field
    let others ← fieldsIn? fields rest
    return found ++ others

/-- The fields of a record, written as an object or as an array in the order of the layout. -/
def record? (S : Source α) (layout : List FieldName) (node : α) : Option (Entries α) :=
  match S.fields? node with
  | some fields => fieldsIn? fields layout
  | none => do
    let items ← S.items? node
    if S.exactLength && layout.length < items.length then none
    else some ((layout.map (·.name)).zip items)

/-- A field that has to be there. -/
def required (record : Entries α) (name : String) (read : α → Option β) : Option β :=
  (record.get? name).bind read

/-- A field that may be absent or null. -/
def optional (S : Source α) (record : Entries α) (name : String) (read : α → Option β) :
    Option (Option β) :=
  match record.get? name with
  | none => some none
  | some node => if S.isNull node then some none else (read node).map some

/-- A field that may be absent. -/
def defaulted (record : Entries α) (name : String) (default : β) (read : α → Option β) : Option β :=
  match record.get? name with
  | none => some default
  | some node => read node

def list? (S : Source α) (read : α → Option β) (node : α) : Option (List β) :=
  (S.items? node).bind fun items => items.mapM read

/-- A map with free keys; of two entries of one key the later holds. -/
def map? (S : Source α) (read : α → Option β) (node : α) : Option (Entries β) :=
  (S.fields? node).bind fun fields =>
    (fields.mapM fun e => (read e.2).map fun value => (e.1, value)).map Entries.ofList

def object? (S : Source α) (node : α) : Option (Entries Json) := S.map? S.value? node

/-- One of several names, alone or as the key of a null. -/
def choice? (S : Source α) (node : α) : Option String :=
  match S.literal? node with
  | some name => some name
  | none =>
    match S.fields? node with
    | some [(name, inner)] => if S.isNull inner then some name else none
    | _ => none

end Source

end Stepwise
