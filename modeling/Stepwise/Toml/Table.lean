import Stepwise.Toml.Value

namespace Stepwise.Toml

inductive Item where
  | value (v : Toml)
  /-- A table; `implicit` while no header has opened it, `dotted` when a dotted key has made it. -/
  | table (implicit dotted : Bool) (items : List (String × Item))
  /-- An array of tables; the earlier ones stand in reverse. -/
  | tables (earlier : List (List (String × Item))) (last : List (String × Item))

/-- Puts a value under a dotted key. The way leads through tables that dotted keys or other ways
have made, and the last of them has to be made by a dotted key. -/
def assign? (value : Toml) : List String → Entries Item → Option (Entries Item)
  | [], _ => none
  | [key], items => if items.contains key then none else some (items.insert key (.value value))
  | key :: next :: rest, items =>
    match items.get? key with
    | none =>
      (assign? value (next :: rest) []).map fun inner => items.insert key (.table true true inner)
    | some (.table implicit dotted inner) =>
      if implicit && (dotted || !rest.isEmpty) then
        (assign? value (next :: rest) inner).map fun inner =>
          items.insert key (.table implicit dotted inner)
      else none
    | some (.tables earlier last) =>
      if rest.isEmpty then none
      else
        (assign? value (next :: rest) last).map fun last => items.insert key (.tables earlier last)
    | some (.value _) => none

/-- Changes the table that a way leads to, making the tables that are not there yet. -/
def within? (change : Entries Item → Option (Entries Item)) :
    List String → Entries Item → Option (Entries Item)
  | [], items => change items
  | key :: rest, items =>
    match items.get? key with
    | none => (within? change rest []).map fun inner => items.insert key (.table true false inner)
    | some (.table implicit dotted inner) =>
      (within? change rest inner).map fun inner => items.insert key (.table implicit dotted inner)
    | some (.tables earlier last) =>
      (within? change rest last).map fun last => items.insert key (.tables earlier last)
    | some (.value _) => none

/-- Opens a table that is not there or that only the way to another one has made. -/
def openTable? (key : String) (items : Entries Item) : Option (Entries Item) :=
  match items.get? key with
  | none => some (items.insert key (.table false false []))
  | some (.table true false inner) => some (items.insert key (.table false false inner))
  | some _ => none

def openElement? (key : String) (items : Entries Item) : Option (Entries Item) :=
  match items.get? key with
  | none => some (items.insert key (.tables [] []))
  | some (.tables earlier last) => some (items.insert key (.tables (last :: earlier) []))
  | some _ => none

mutual

def Item.close : Item → Toml
  | .value v => v
  | .table _ _ items => .table (closeFields items)
  | .tables earlier last => .array ((closeTables earlier).reverse ++ [.table (closeFields last)])

def closeFields : List (String × Item) → List (String × Toml)
  | [] => []
  | (key, item) :: rest => (key, item.close) :: closeFields rest

def closeTables : List (List (String × Item)) → List Toml
  | [] => []
  | items :: rest => .table (closeFields items) :: closeTables rest

end

end Stepwise.Toml
