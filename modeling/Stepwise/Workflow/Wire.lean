import Stepwise.Error
import Stepwise.Reading.Json
import Stepwise.Reading.Options
import Stepwise.Workflow.Basic

namespace Stepwise

variable {α : Type}

/-- The object form of an import source. -/
def ImportOrigin.readObject? (S : Source α) (node : α) : Option ImportOrigin := do
  let fields ← S.fields? node
  let r ← Source.fieldsIn? fields [⟨"var", []⟩, ⟨"default", []⟩]
  let path ← Source.required r "var" S.literal?
  let default ← S.optional r "default" S.value?
  return .withDefault path default

def ImportOrigin.read? (S : Source α) (node : α) : Option ImportOrigin :=
  match S.literal? node with
  | some path => some (.variable path)
  | none => readObject? S node

/-- A list of names or a mapping; everything inside has to denote something. -/
def Imports.read? (S : Source α) (node : α) : Option Imports := do
  let _ ← S.value? node
  match S.list? S.literal? node with
  | some list => return .names list
  | none => return .mapping (← S.map? (ImportOrigin.read? S) node)

def WhenMissing.name : WhenMissing → String
  | .ignore => "ignore"
  | .throw => "throw"

def WhenMissing.read? (S : Source α) (node : α) : Option WhenMissing :=
  match S.choice? node with
  | some "ignore" => some .ignore
  | some "throw" => some .throw
  | _ => none

def Lookup.layout : List FieldName :=
  [⟨"type", []⟩, ⟨"query", []⟩, ⟨"limit", []⟩, ⟨"select", []⟩, ⟨"onNotFound", []⟩]

def Lookup.read? (S : Source α) (node : α) : Option Lookup := do
  let r ← S.record? layout node
  return {
    provider := ← Source.required r "type" S.text?
    query := ← Source.defaulted r "query" [] S.object?
    limit := ← S.optional r "limit" S.count?
    select := ← S.optional r "select" S.text?
    whenMissing := ← Source.defaulted r "onNotFound" .ignore (WhenMissing.read? S) }

def Step.layout : List FieldName :=
  [⟨"name", []⟩, ⟨"title", []⟩, ⟨"description", []⟩, ⟨"params", []⟩, ⟨"output", []⟩,
    ⟨"condition", []⟩, ⟨"import", []⟩, ⟨"fetch", []⟩, ⟨"projection", []⟩, ⟨"parallel", []⟩,
    ⟨"await", []⟩]

def Step.read? (S : Source α) (node : α) : Option Step := do
  let r ← S.record? layout node
  return {
    name := ← Source.required r "name" S.text?
    title := ← S.optional r "title" S.text?
    description := ← S.optional r "description" S.text?
    params := ← Source.defaulted r "params" [] S.object?
    output := ← S.optional r "output" S.text?
    condition := ← S.optional r "condition" S.object?
    imports := ← S.optional r "import" (Imports.read? S)
    fetch := ← Source.defaulted r "fetch" [] (S.map? (Lookup.read? S))
    projection := ← S.optional r "projection" S.object?
    parallel := ← S.optional r "parallel" S.flag?
    await := ← S.optional r "await" S.text? }

def Workflow.layout : List FieldName :=
  [⟨"name", []⟩, ⟨"description", []⟩, ⟨"activities", []⟩, ⟨"vars", []⟩, ⟨"result", []⟩,
    ⟨"options", []⟩]

def Workflow.read? (S : Source α) (node : α) : Option Workflow := do
  let r ← S.record? layout node
  return {
    name := ← Source.required r "name" S.text?
    description := ← S.optional r "description" S.text?
    steps := ← Source.required r "activities" (S.list? (Step.read? S))
    vars := ← Source.defaulted r "vars" [] S.object?
    result := ← S.optional r "result" S.text?
    options := ← S.optional r "options" (ActivityOptions.read? S) }

def Workflow.ofJson? (j : Json) : Option Workflow := read? Json.source j

def Workflow.parse (text : String) : Except WorkflowError Workflow :=
  match Document.readText? (read? Document.Node.source) text with
  | some workflow => .ok workflow
  | none => .error (.unreadable "Invalid workflow JSON: the text is no workflow")

def Services.layout : List FieldName := [⟨"studio_url", []⟩, ⟨"store_url", []⟩]

def Services.read? (S : Source α) (node : α) : Option Services := do
  let r ← S.record? layout node
  return {
    studioUrl := ← Source.defaulted r "studio_url" "" S.text?
    storeUrl := ← Source.defaulted r "store_url" "" S.text? }

def Payload.layout : List FieldName :=
  [⟨"workflow", []⟩, ⟨"vars", []⟩, ⟨"objectIds", []⟩, ⟨"auth_token", []⟩, ⟨"config", []⟩,
    ⟨"debug_mode", []⟩]

def Payload.read? (S : Source α) (node : α) : Option Payload := do
  let r ← S.record? layout node
  return {
    workflow := ← Source.required r "workflow" (Workflow.read? S)
    vars := ← Source.defaulted r "vars" [] S.object?
    objectIds := ← S.optional r "objectIds" (S.list? S.text?)
    authToken := ← Source.required r "auth_token" S.text?
    config := ← Source.defaulted r "config" {} (Services.read? S)
    debugMode := ← Source.defaulted r "debug_mode" false S.flag? }

def ImportOrigin.write (record : List (String × Json) → Json) : ImportOrigin → Json
  | .variable path => .str path
  | .withDefault path default => record [("var", .str path), ("default", default.getD .null)]

def Imports.write (record : List (String × Json) → Json) : Imports → Json
  | .names list => .arr (list.map .str)
  | .mapping sources => .obj (sources.mapValues (ImportOrigin.write record))

def Lookup.write (record : List (String × Json) → Json) (f : Lookup) : Json :=
  record ([("type", .str f.provider), ("query", .obj f.query)] ++
    Json.whenSet "limit" Json.ofNat f.limit ++
    Json.whenSet "select" .str f.select ++
    [("onNotFound", .str f.whenMissing.name)])

def Step.write (record : List (String × Json) → Json) (s : Step) : Json :=
  record ([("name", .str s.name)] ++
    Json.whenSet "title" .str s.title ++
    Json.whenSet "description" .str s.description ++
    [("params", .obj s.params)] ++
    Json.whenSet "output" .str s.output ++
    Json.whenSet "condition" .obj s.condition ++
    Json.whenSet "import" (Imports.write record) s.imports ++
    (if s.fetch.isEmpty then [] else [("fetch", .obj (s.fetch.mapValues (Lookup.write record)))]) ++
    Json.whenSet "projection" .obj s.projection ++
    Json.whenSet "parallel" .bool s.parallel ++
    Json.whenSet "await" .str s.await)

def Workflow.write (record : List (String × Json) → Json) (w : Workflow) : Json :=
  record ([("name", .str w.name)] ++
    Json.whenSet "description" .str w.description ++
    [("activities", .arr (w.steps.map (Step.write record))), ("vars", .obj w.vars)] ++
    Json.whenSet "result" .str w.result ++
    Json.whenSet "options" (ActivityOptions.write record) w.options)

def Workflow.toJson (w : Workflow) : Json := w.write Json.record

def Services.write (record : List (String × Json) → Json) (c : Services) : Json :=
  record [("studio_url", .str c.studioUrl), ("store_url", .str c.storeUrl)]

def Payload.write (record : List (String × Json) → Json) (p : Payload) : Json :=
  record ([("workflow", p.workflow.write record), ("vars", .obj p.vars)] ++
    Json.whenSet "objectIds" (fun ids => .arr (ids.map .str)) p.objectIds ++
    [("auth_token", .str p.authToken), ("config", p.config.write record),
      ("debug_mode", .bool p.debugMode)])

def Payload.toJson (p : Payload) : Json := p.write Json.record

end Stepwise
