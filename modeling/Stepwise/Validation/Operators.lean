import Stepwise.Condition.Operator
import Stepwise.Json.Printer
import Stepwise.Projection
import Stepwise.Text.Blank
import Stepwise.Text.Pieces
import Stepwise.Validation.Rule

namespace Stepwise.Validation

open Condition (Operator)

/-- Whether a text looks like one placeholder, blanks around it apart. -/
def looksLikePlaceholder (value : Json) : Bool :=
  match value with
  | .str s =>
    let trimmed := Text.trim s
    Text.startsWith trimmed "$\x7b" && Text.endsWith trimmed "\x7d"
  | _ => false

/-- The operators whose operand is an array. -/
def needsArray (op : Operator) : Bool := op == .isIn || op == .notIn || op == .or

def conditionRule : String := "condition-operators"

/-- A branch of `$or` has a location of its own. -/
def branchLocation (location : String) (index : Nat) : String :=
  location ++ ".$or[" ++ Text.Numeral.write index ++ "]"

/-- What is wrong with an operand that is no array. -/
def operandFindings (location key : String) (op : Operator) (operand : Json) : List Diagnostic :=
  if needsArray op && !looksLikePlaceholder operand then
    [error conditionRule (key ++ " expects an array operand, got " ++ operand.compact) location]
  else []

def unknownOperator (location key : String) : Diagnostic :=
  error conditionRule ("unknown condition operator '" ++ key ++ "'") location

mutual

def conditionFindings (location : String) : Json → List Diagnostic
  | .obj fields => operatorsFindings location fields
  | other =>
    [error conditionRule ("condition must be an object of operators, got " ++ other.compact)
      location]

def operatorsFindings (location : String) : List (String × Json) → List Diagnostic
  | [] => []
  | (key, operand) :: rest =>
    operatorFindings location key operand ++ operatorsFindings location rest

def operatorFindings (location key : String) : Json → List Diagnostic
  | .arr branches =>
    match Operator.ofKey? key with
    | none => [unknownOperator location key]
    | some .or => branchesFindings location 0 branches
    | some _ => []
  | operand =>
    match Operator.ofKey? key with
    | none => [unknownOperator location key]
    | some op => operandFindings location key op operand

def branchesFindings (location : String) (index : Nat) : List Json → List Diagnostic
  | [] => []
  | branch :: rest =>
    conditionFindings (branchLocation location index) branch ++
      branchesFindings location (index + 1) rest

end

def conditionOperators : Rule where
  id := conditionRule
  description := "Condition operators must be known and their operands well-shaped"
  findings := atSteps fun location step =>
    (step.condition.getD []).flatMap fun (path, condition) =>
      conditionFindings (location ++ ".condition." ++ path) condition

def projectionRule : String := "projection-shape"

def sourceFindings (location : String) (args : Entries Json) : List Diagnostic :=
  match args.get? "from" with
  | some (.arr _) => []
  | some (.str _) => []
  | _ => [error projectionRule "$element needs an array or path in 'from'" location]

/-- Criteria that are no objects stand for equality and are always well formed. -/
def criterionFindings (location : String) (key : String) (c : Json) : List Diagnostic :=
  match c with
  | .obj fields => conditionFindings (location ++ ".$element.where." ++ key) (.obj fields)
  | _ => []

def criteriaFindings (location : String) (args : Entries Json) : List Diagnostic :=
  match args.get? "where" with
  | none => []
  | some .null => []
  | some (.obj criteria) => criteria.flatMap fun (key, c) => criterionFindings location key c
  | some other =>
    [error projectionRule ("$element.where must be an object, got " ++ other.compact) location]

def elementFindings (location : String) (operand : Json) : List Diagnostic :=
  match operand with
  | .obj args => sourceFindings location args ++ criteriaFindings location args
  | other => [error projectionRule ("$element expects an object, got " ++ other.compact) location]

def nodeFindings (location : String) (node : Json) : List Diagnostic :=
  match node with
  | .obj fields =>
    if (Entries.keys fields).any Projection.isOperatorKey then
      match fields with
      | [(key, operand)] =>
        match Projection.Operator.ofKey? key with
        | none => [error projectionRule ("unknown projection operator '" ++ key ++ "'") location]
        | some .element => elementFindings location operand
        | some .eval => []
      | _ => [error projectionRule (Projection.tooManyKeys fields) location]
    else []
  | _ => []

def projectionShape : Rule where
  id := projectionRule
  description := "Projection nodes must hold a single known operator"
  findings := atSteps fun location step =>
    (step.projection.getD []).flatMap fun (field, node) =>
      nodeFindings (location ++ ".projection." ++ field) node

end Stepwise.Validation
