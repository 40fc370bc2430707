import Stepwise.Text.Blank
import Stepwise.Text.Pieces
import Stepwise.Validation.Rule
import Stepwise.Vars

namespace Stepwise.Validation

def variableOf (path : String) : String :=
  String.ofList (Text.splitOnce '.' (Text.trimChars path.toList)).1

def isBlankText (s : String) : Bool := (Text.trimChars s.toList).isEmpty

/-- The names that are bound before the first step. -/
def namesAtStart (w : Workflow) : List String := w.vars.keys ++ [Vars.objectIds, Vars.objectId]

def outputFindings (location : String) (step : Step) : List Diagnostic :=
  if step.output.any isBlankText then
    [error "required-fields" "output must name a variable" (location ++ ".output")]
  else []

def nameFindings (location : String) (step : Step) : List Diagnostic :=
  if isBlankText step.name then [error "required-fields" "activity name is empty" location] else []

def requiredFields : Rule where
  id := "required-fields"
  description := "Workflow and activity names must be non-empty"
  findings w :=
    let unnamed :=
      if isBlankText w.name then [error "required-fields" "workflow name is empty" "name"] else []
    unnamed ++
      atSteps (fun location step => nameFindings location step ++ outputFindings location step) w

def fetchLocation (location param : String) : String := location ++ ".fetch." ++ param

def fetchFindings (location : String) (spec : Lookup) : List Diagnostic :=
  (if isBlankText spec.provider then [error "fetch-shape" "fetch type is empty" location]
    else []) ++
    (if spec.limit = some 0 then
      [error "fetch-shape" "fetch limit must be at least 1" location] else [])

def fetchShape : Rule where
  id := "fetch-shape"
  description := "Fetch declarations must name a provider type"
  findings := atSteps fun location step =>
    step.fetch.flatMap fun (param, spec) => fetchFindings (fetchLocation location param) spec

def unknownProvider (types : List String) (provider : String) : String :=
  "unknown fetch provider '" ++ provider ++ "' (known: " ++ String.intercalate ", " types ++ ")"

/-- The types of fetches, blanks around them apart, are among the given ones. -/
def knownProviders (types : List String) : Rule where
  id := "known-providers"
  description := "Fetch types must be registered providers"
  findings := atSteps fun location step =>
    step.fetch.flatMap fun (param, spec) =>
      let provider := Text.trim spec.provider
      if provider = "" || types.contains provider then []
      else [error "known-providers" (unknownProvider types provider) (fetchLocation location param)]

def reservedFindings (location : String) (step : Step) : List Diagnostic :=
  (if step.parallel.isSome then
    [warning "reserved-fields" "'parallel' is ignored; steps run sequentially" location]
  else []) ++
    (if step.await.isSome then
      [warning "reserved-fields" "'await' is ignored; steps run sequentially" location]
    else [])

def reservedFields : Rule where
  id := "reserved-fields"
  description := "Warns about fields that are accepted but have no effect"
  findings := atSteps reservedFindings

/-- An import without a default whose variable is not defined. -/
def importFindings (defined : List String) (location : String) (entry : Import) : List Diagnostic :=
  if entry.default.isSome || defined.contains (variableOf entry.path) then []
  else
    [warning "undefined-import" ("'" ++ entry.path ++ "' is not defined before this step")
      (location ++ ".import." ++ entry.param)]

def definedAfter (defined : List String) (step : Step) : List String :=
  match step.output with
  | some path => variableOf path :: defined
  | none => defined

def undefinedImports (defined : List String) (index : Nat) : List Step → List Diagnostic
  | [] => []
  | step :: rest =>
    ((step.imports.map Imports.entries).getD []).flatMap
        (importFindings defined (placeOf index step)) ++
      undefinedImports (definedAfter defined step) (index + 1) rest

def undefinedImport : Rule where
  id := "undefined-import"
  description := "Imported variables should be defined by vars or an earlier output"
  findings w := undefinedImports (namesAtStart w) 0 w.steps

/-- Whether some step or the start of a run defines a variable. -/
def isProduced (w : Workflow) (name : String) : Bool :=
  (namesAtStart w).contains name ||
    w.steps.any fun step => step.output.any fun path => variableOf path == name

def resultVariable : Rule where
  id := "result-variable"
  description := "The result variable should be produced by the workflow"
  findings w :=
    let result := variableOf w.resultPath
    if isProduced w result then []
    else
      [warning "result-variable"
        ("result variable '" ++ result ++ "' is never set; the workflow returns null") "result"]

end Stepwise.Validation
