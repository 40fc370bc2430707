import Stepwise.Machine.Basic
import Stepwise.Workflow.Wire

namespace Stepwise

variable {α : Type}

def StepOutcome.name : StepOutcome → String
  | .executed => "executed"
  | .skipped => "skipped"

def StepTrace.write (record : List (String × Json) → Json) (r : StepTrace) : Json :=
  record ([("name", .str r.name)] ++ Json.whenSet "output" .str r.output ++
    [("status", .str r.status.name)])

def RecordQuery.write (record : List (String × Json) → Json) (p : RecordQuery) : Json :=
  record ([("query", .obj p.query)] ++ Json.whenSet "limit" Json.ofNat p.limit ++
    Json.whenSet "select" .str p.select)

def Phase.write (record : List (String × Json) → Json) : Phase → Json
  | .guard => record [("t", .str "Guard")]
  | .fetch index => record [("t", .str "Fetch"), ("idx", .ofNat index)]
  | .execute => record [("t", .str "Execute")]
  | .store result => record [("t", .str "Store"), ("result", result)]

def FetchCall.write (record : List (String × Json) → Json) (r : FetchCall) : Json :=
  record [("step", .str r.step), ("param", .str r.param), ("provider", .str r.provider),
    ("payload", r.payload.write record)]

def WorkCall.write (record : List (String × Json) → Json) (r : WorkCall) : Json :=
  record [("step_index", .ofNat r.stepIndex), ("activity", .str r.activity),
    ("params", .obj r.params)]

def Call.write (record : List (String × Json) → Json) : Call → Json
  | .fetch request => record [("t", .str "Fetch"), ("v", request.write record)]
  | .activity request => record [("t", .str "Activity"), ("v", request.write record)]

def Control.write (record : List (String × Json) → Json) : Control → Json
  | .running => record [("t", .str "None")]
  | .suspended call => record [("t", .str "Suspend"), ("v", call.write record)]
  | .finished result => record [("t", .str "Return"), ("v", result)]

/-- Writes a machine as it stands between two phases, with the way to make an object of fields in
their order. -/
def Machine.write (record : List (String × Json) → Json) (m : Machine) : Json :=
  record [("workflow", m.workflow.write record), ("vars", m.vars.toJson), ("pc", .ofNat m.pc),
    ("phase", m.phase.write record), ("params", .obj m.params),
    ("steps", .arr (m.trace.map (StepTrace.write record))), ("control", m.control.write record)]

def StepTrace.toJson (r : StepTrace) : Json := r.write Json.record

def RecordQuery.toJson (p : RecordQuery) : Json := p.write Json.record

def Phase.toJson (p : Phase) : Json := p.write Json.record

def FetchCall.toJson (r : FetchCall) : Json := r.write Json.record

def WorkCall.toJson (r : WorkCall) : Json := r.write Json.record

def Call.toJson (c : Call) : Json := c.write Json.record

def Control.toJson (c : Control) : Json := c.write Json.record

def Machine.toJson (m : Machine) : Json := m.write Json.record

/-- The text that a machine is stored as, its fields in the order in which they are declared. -/
def Machine.text (m : Machine) : String := (m.write Json.obj).compact

def StepOutcome.read? (S : Source α) (node : α) : Option StepOutcome :=
  match S.choice? node with
  | some "executed" => some .executed
  | some "skipped" => some .skipped
  | _ => none

def StepTrace.read? (S : Source α) (node : α) : Option StepTrace := do
  let r ← S.record? [⟨"name", []⟩, ⟨"output", []⟩, ⟨"status", []⟩] node
  return {
    name := ← Source.required r "name" S.text?
    output := ← S.optional r "output" S.text?
    status := ← Source.required r "status" (StepOutcome.read? S) }

def RecordQuery.read? (S : Source α) (node : α) : Option RecordQuery := do
  let r ← S.record? [⟨"query", []⟩, ⟨"limit", []⟩, ⟨"select", []⟩] node
  return {
    query := ← Source.defaulted r "query" [] S.object?
    limit := ← S.optional r "limit" S.count?
    select := ← S.optional r "select" S.text? }

def Phase.tag? (S : Source α) (node : α) : Option String :=
  match S.fields? node with
  | some fields => do
    let r ← Source.fieldsIn? fields [⟨"t", []⟩]
    Source.required r "t" S.literal?
  | none => do
    let items ← S.items? node
    let first ← items.head?
    S.literal? first

/-- The fields of a phase beside its tag; in an array they follow it. -/
def Phase.payload? (S : Source α) (names : List FieldName) (node : α) : Option (Entries α) :=
  match S.fields? node with
  | some fields => Source.fieldsIn? fields names
  | none => do
    let items ← S.items? node
    if names.length + 1 < items.length then none else some ((names.map (·.name)).zip (items.drop 1))

def Phase.read? (S : Source α) (node : α) : Option Phase := do
  match ← tag? S node with
  | "Guard" => (payload? S [] node).map fun _ => .guard
  | "Fetch" =>
    let r ← payload? S [⟨"idx", []⟩] node
    return .fetch (← Source.required r "idx" S.count?)
  | "Execute" => (payload? S [] node).map fun _ => .execute
  | "Store" =>
    let r ← payload? S [⟨"result", []⟩] node
    return .store (← Source.required r "result" S.value?)
  | _ => none

/-- A tag and the content beside it, written as an object or as an array of the two. -/
def Source.tagged? (S : Source α) (node : α) : Option (String × Option α) :=
  match S.fields? node with
  | some fields => do
    let r ← fieldsIn? fields [⟨"t", []⟩, ⟨"v", []⟩]
    let tag ← required r "t" S.choice?
    return (tag, Entries.get? r "v")
  | none => do
    match ← S.items? node with
    | [tag, content] => return (← S.choice? tag, some content)
    | _ => none

def FetchCall.read? (S : Source α) (node : α) : Option FetchCall := do
  let r ← S.record? [⟨"step", []⟩, ⟨"param", []⟩, ⟨"provider", []⟩, ⟨"payload", []⟩] node
  return {
    step := ← Source.required r "step" S.text?
    param := ← Source.required r "param" S.text?
    provider := ← Source.required r "provider" S.text?
    payload := ← Source.required r "payload" (RecordQuery.read? S) }

def WorkCall.read? (S : Source α) (node : α) : Option WorkCall := do
  let r ← S.record? [⟨"step_index", []⟩, ⟨"activity", []⟩, ⟨"params", []⟩] node
  return {
    stepIndex := ← Source.required r "step_index" S.count?
    activity := ← Source.required r "activity" S.text?
    params := ← Source.required r "params" S.object? }

def Call.read? (S : Source α) (node : α) : Option Call := do
  match ← S.tagged? node with
  | ("Fetch", some content) => return .fetch (← FetchCall.read? S content)
  | ("Activity", some content) => return .activity (← WorkCall.read? S content)
  | _ => none

def Control.read? (S : Source α) (node : α) : Option Control := do
  match ← S.tagged? node with
  | ("None", none) => return .running
  | ("None", some content) => if S.isNull content then return .running else none
  | ("Suspend", some content) => return .suspended (← Call.read? S content)
  | ("Return", some content) => return .finished (← S.value? content)
  | _ => none

def Machine.layout : List FieldName :=
  [⟨"workflow", []⟩, ⟨"vars", []⟩, ⟨"pc", []⟩, ⟨"phase", []⟩, ⟨"params", []⟩, ⟨"steps", []⟩,
    ⟨"control", []⟩]

def Machine.read? (S : Source α) (node : α) : Option Machine := do
  let r ← S.record? layout node
  return {
    workflow := ← Source.required r "workflow" (Workflow.read? S)
    vars := ⟨← Source.required r "vars" S.object?⟩
    pc := ← Source.required r "pc" S.count?
    phase := ← Source.required r "phase" (Phase.read? S)
    params := ← Source.required r "params" S.object?
    trace := ← Source.required r "steps" (S.list? (StepTrace.read? S))
    control := ← Source.required r "control" (Control.read? S) }

def Machine.ofJson? (j : Json) : Option Machine := read? Json.source j

/-- The machine that a text stores. -/
def Machine.ofText? (text : String) : Option Machine :=
  Document.readText? (read? Document.Node.source) text

end Stepwise
