import Stepwise.Projection
import Stepwise.Workflow.Input

namespace Stepwise

/-- A step goes from its guard to its fetches, to the activity, and to the storing of the result. -/
inductive Phase where
  | guard
  | fetch (index : Nat)
  | execute
  | store (result : Json)
deriving DecidableEq

structure FetchCall where
  /-- The activity of the step. -/
  step : String
  param : String
  provider : String
  payload : RecordQuery
deriving DecidableEq

structure WorkCall where
  stepIndex : Nat
  activity : String
  params : Entries Json
deriving DecidableEq

/-- Work outside the machine that it waits for. -/
inductive Call where
  /-- Answered with the array of the records found. -/
  | fetch (request : FetchCall)
  /-- Answered with the result of the activity. -/
  | activity (request : WorkCall)
deriving DecidableEq

inductive Control where
  | running
  | suspended (call : Call)
  | finished (result : Json)
deriving DecidableEq

inductive Progress where
  | continue
  | suspended
  | done
deriving DecidableEq, Repr

/-- A machine that walks the steps of a workflow. It does nothing outside itself: a fetch or an
activity is handed out as a `Call`, the machine is then suspended, and `resume` takes the answer.
`step` and `resume` answer with the machine after them, which on an error is the machine before. -/
structure Machine where
  workflow : Workflow
  vars : Vars
  pc : Nat := 0
  phase : Phase := .guard
  /-- The input of the current step as far as it is put together. -/
  params : Entries Json := []
  trace : List StepTrace := []
  control : Control := .running
deriving DecidableEq

namespace Machine

def start (workflow : Workflow) (vars : Vars) : Machine :=
  ⟨workflow, vars, 0, .guard, [], [], .running⟩

def current? (m : Machine) : Option Step := m.workflow.steps[m.pc]?

def pending? (m : Machine) : Option Call :=
  match m.control with
  | .suspended call => some call
  | _ => none

def result? (m : Machine) : Option Json :=
  match m.control with
  | .finished result => some result
  | _ => none

def isDone (m : Machine) : Bool := m.result?.isSome

def advance (m : Machine) (step : Step) (status : StepOutcome) : Machine :=
  { m with
    trace := m.trace ++ [⟨step.name, step.output, status⟩]
    pc := m.pc + 1
    phase := .guard
    params := [] }

/-- Skips the step when its guard does not hold, and otherwise starts its input from the imports. -/
def guard (m : Machine) (step : Step) : Except WorkflowError Progress × Machine :=
  match (step.condition.map m.vars.meets).getD (.ok true) with
  | .error e => (.error e, m)
  | .ok false => (.ok .continue, m.advance step .skipped)
  | .ok true =>
    let params := (step.imports.map m.vars.importing).getD []
    (.ok .continue, { m with params, phase := .fetch 0 })

/-- Asks for the records of the fetch with an index, in the order of the parameters. -/
def fetch (m : Machine) (step : Step) (index : Nat) : Progress × Machine :=
  match step.fetch[index]? with
  | none => (.continue, { m with phase := .execute })
  | some (param, spec) =>
    (.suspended, { m with
      control := .suspended (.fetch ⟨step.name, param, spec.provider, spec.payload m.vars⟩) })

/-- Lays the parameters over the input and asks for the activity. -/
def execute (m : Machine) (step : Step) : Progress × Machine :=
  let params := m.params.overlay (m.vars.resolveFields step.params)
  (.suspended, { m with
    params := params
    control := .suspended (.activity ⟨m.pc, step.name, params⟩) })

/-- The value that a step puts into its output. -/
def outcome (params : Entries Json) (step : Step) (result : Json) : Except WorkflowError Json :=
  match step.projection with
  | some projection => (Projection.project projection params result).map .obj
  | none => .ok result

def outOfSpace (path : String) : WorkflowError :=
  .invalidState ("no array can hold the position in '" ++ path ++ "'")

def varsAfter (m : Machine) (step : Step) (result : Json) : Except WorkflowError Vars :=
  match step.output with
  | none => .ok m.vars
  | some path =>
    (outcome m.params step result).bind fun value =>
      match m.vars.set? path value with
      | some vars => .ok vars
      | none => .error (outOfSpace path)

/-- Puts the projected result into the output of the step. -/
def store (m : Machine) (step : Step) (result : Json) : Except WorkflowError Progress × Machine :=
  match m.varsAfter step result with
  | .error e => (.error e, m)
  | .ok vars => (.ok .continue, { m with vars := vars }.advance step .executed)

/-- The machine at the end of its workflow, done. -/
def finish (m : Machine) : Machine :=
  { m with control := .finished ((m.vars.get? m.workflow.resultPath).getD .null) }

/-- Lets the machine go on by one phase. -/
def step (m : Machine) : Except WorkflowError Progress × Machine :=
  match m.control with
  | .suspended _ => (.ok .suspended, m)
  | .finished _ => (.ok .done, m)
  | .running =>
    match m.current? with
    | none => (.ok .done, m.finish)
    | some step =>
      match m.phase with
      | .guard => m.guard step
      | .fetch index => ((m.fetch step index).1 |> .ok, (m.fetch step index).2)
      | .execute => ((m.execute step).1 |> .ok, (m.execute step).2)
      | .store result => m.store step result

/-- The value of a parameter for the records found: the first of them when one was asked for. -/
def hydrate (spec : Lookup) (records : List Json) : Json :=
  if spec.limit = some 1 then records.head?.getD .null else .arr records

/-- The index after an index of fetches. There is none after the last number of 64 bits, which only
a restored machine can hold: an index within the fetches has one after it. -/
def indexAfter? (step : Step) (index : Nat) : Option Nat :=
  if index < step.fetch.length ∨ index + 1 < Text.Numeral.wordBound then some (index + 1) else none

theorem eq_of_indexAfter? {step : Step} {index next : Nat}
    (h : indexAfter? step index = some next) : next = index + 1 := by
  unfold indexAfter? at h
  split at h
  next => exact (Option.some.inj h).symm
  next => cases h

theorem indexAfter?_of_lt {step : Step} {index : Nat} (h : index < step.fetch.length) :
    indexAfter? step index = some (index + 1) := if_pos (.inl h)

def outOfIndices (param : String) : WorkflowError :=
  .invalidState ("no index comes after the last of 64 bits, in fetch '" ++ param ++ "'")

/-- Takes the records of a fetch into the input of the step. -/
def takeRecords (m : Machine) (request : FetchCall) (value : Json) : Except WorkflowError Machine :=
  match m.phase with
  | .fetch index =>
    match m.current?.bind fun step => (step.fetch.get? request.param).map (step, ·) with
    | none => .error (.invalidState ("no fetch declared for parameter '" ++ request.param ++ "'"))
    | some (step, spec) =>
      match value with
      | .arr records =>
        if records.isEmpty && spec.whenMissing == .throw then
          .error (.paramNotFound step.name request.param)
        else
          match indexAfter? step index with
          | none => .error (outOfIndices request.param)
          | some next =>
            .ok { m with
              params := m.params.insert request.param (hydrate spec records)
              phase := .fetch next
              control := .running }
      | other =>
        .error (.invalidState
          ("fetch '" ++ request.param ++ "' resumed with a non-array value " ++ other.compact))
  | _ => .error (.invalidState "fetch resumed outside of a fetch phase")

def answer (m : Machine) (call : Call) (value : Json) : Except WorkflowError Machine :=
  match call with
  | .fetch request => m.takeRecords request value
  | .activity _ => .ok { m with phase := .store value, control := .running }

/-- Hands the answer to the pending call to the machine; on an error the call stays pending. -/
def resume (m : Machine) (value : Json) : Except WorkflowError Unit × Machine :=
  match m.control with
  | .suspended call =>
    match m.answer call value with
    | .error e => (.error e, m)
    | .ok resumed => (.ok (), resumed)
  | _ => (.error (.invalidState "resume called on a machine that is not suspended"), m)

end Machine

end Stepwise
