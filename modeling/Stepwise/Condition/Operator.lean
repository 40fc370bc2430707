namespace Stepwise.Condition

inductive Operator where
  | eq
  | ne
  | isIn
  | notIn
  | gt
  | lt
  | gte
  | lte
  | present
  | null
  | regexp
  | startsWith
  | endsWith
  | contains
  | or
deriving DecidableEq, Repr

namespace Operator

def all : List Operator :=
  [.eq, .ne, .isIn, .notIn, .gt, .lt, .gte, .lte, .present, .null, .regexp, .startsWith, .endsWith,
    .contains, .or]

def key : Operator → String
  | .eq => "$eq"
  | .ne => "$ne"
  | .isIn => "$in"
  | .notIn => "$nin"
  | .gt => "$gt"
  | .lt => "$lt"
  | .gte => "$gte"
  | .lte => "$lte"
  | .present => "$exists"
  | .null => "$null"
  | .regexp => "$regexp"
  | .startsWith => "$startsWith"
  | .endsWith => "$endsWith"
  | .contains => "$contains"
  | .or => "$or"

def ofKey? (key : String) : Option Operator := all.find? fun op => op.key = key

@[simp] theorem ofKey?_key (op : Operator) : ofKey? op.key = some op := by
  cases op <;> rfl

theorem key_of_ofKey? {key : String} {op : Operator} (h : ofKey? key = some op) : op.key = key := by
  simpa using List.find?_some h

end Operator

end Stepwise.Condition
