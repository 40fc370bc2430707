import Stepwise.Activity.Executor
import Stepwise.Fetch.Provider
import Stepwise.Machine.Run
import Stepwise.Validation.Builtin
import Stepwise.Workflow.Version

namespace Stepwise

/-- Runs workflows: it checks them, drives their machines, asks providers for records and the
executor for activities, and settles the options that an activity runs with. -/
structure Engine (σ : Type) where
  execute : Activity.Executor σ
  providers : Fetch.Registry σ
  store : Fetch.Store σ
  options : OptionsRegistry
  defaults : ActivityOptions

namespace Engine

variable {σ : Type}

structure Parts (σ : Type) where
  executor : Option (Activity.Executor σ) := none
  /-- The providers in place of those of the store. -/
  providers : Option (Fetch.Registry σ) := none
  store : Option (Fetch.Store σ) := none
  options : OptionsRegistry := {}
  defaults : ActivityOptions := {}

inductive PartsFault where
  | noExecutor
deriving DecidableEq, Repr

def PartsFault.message : PartsFault → String
  | .noExecutor => "An activity executor is required"

/-- The store of an engine that was given none; every read fails. -/
def noStore : Fetch.Store σ := fun request s =>
  (.error ["no record store configured (reading '" ++ request.collection ++ "')"], s)

def build (parts : Parts σ) : Except PartsFault (Engine σ) :=
  match parts.executor with
  | none => .error .noExecutor
  | some execute => .ok {
      execute := execute
      providers := parts.providers.getD .builtin
      store := parts.store.getD noStore
      options := parts.options
      defaults := parts.defaults }

def rules (e : Engine σ) : List Validation.Rule := Validation.withProviders e.providers.types

/-- The warnings about a workflow, unless there are errors. -/
def validate (e : Engine σ) (w : Workflow) : Except WorkflowError (List Diagnostic) :=
  Validation.check e.rules w

/-- The options of the engine under those of a workflow. -/
def defaultsOf (e : Engine σ) (w : Option Workflow) : ActivityOptions :=
  match w.bind Workflow.options with
  | some options => e.defaults.overlaidBy options
  | none => e.defaults

/-- The options of an activity: its own over those of the workflow over those of the engine. -/
def optionsOf (e : Engine σ) (activity : String) (w : Option Workflow) : ActivityOptions :=
  e.options.optionsFor activity (e.defaultsOf w)

/-- Answers the calls of a machine for a workflow. -/
def environment (e : Engine σ) (w : Workflow) (context : RunContext) : Machine.Environment σ :=
  fun call s =>
    match call with
    | .fetch request =>
      match e.providers.get request.provider with
      | .error fault => (.error fault, s)
      | .ok provider =>
        let (records, t) := provider.fetch e.store context request.payload s
        (records.map .arr, t)
    | .activity request =>
      let options := e.optionsOf request.activity (some w)
      e.execute ⟨request.activity, request.params, context⟩ options s

def drive (e : Engine σ) (m : Machine) (context : RunContext) (s : σ) :
    Except WorkflowError Json × Machine × σ :=
  m.drive (e.environment m.workflow context) s

structure Report where
  workflow : String
  version : String
  result : Json
  trace : List StepTrace
deriving DecidableEq

def Report.executed (r : Report) (activity : String) : Nat :=
  r.trace.countP fun record => record.name == activity && record.status == .executed

def contextOf (p : Payload) : RunContext where
  workflowName := p.workflow.name
  authToken := p.authToken
  config := p.config
  objectIds := p.objectIds.getD []
  debugMode := p.debugMode

def machineOf (p : Payload) : Machine :=
  .start p.workflow (.initial p.workflow.vars p.vars (p.objectIds.getD []))

/-- Checks a workflow and runs it to its end. -/
def run (e : Engine σ) (p : Payload) (s : σ) : Except WorkflowError Report × σ :=
  match e.validate p.workflow with
  | .error fault => (.error fault, s)
  | .ok _ =>
    let (result, m, t) := e.drive (machineOf p) (contextOf p) s
    (result.map fun value => ⟨p.workflow.name, p.workflow.version, value, m.trace⟩, t)

end Engine

end Stepwise
