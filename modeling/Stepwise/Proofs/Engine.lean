import Stepwise.Proofs.Machine.Bounds
import Stepwise.Proofs.Options

namespace Stepwise.Engine

variable {σ : Type}

/-- An invocation, and the options that the executor was given with it. -/
abbrev Note := Activity.Invocation × ActivityOptions

/-- The provider over the same store, with notes kept beside the state. -/
def besideNotes (store : Fetch.Store σ) (p : Fetch.Provider σ) :
    Fetch.Provider (σ × List Note) where
  name := p.name
  primaryKey := p.primaryKey
  selects := p.selects
  read _ context payload s :=
    let (records, t) := p.read store context payload s.1
    (records, t, s.2)

/-- The engine with an executor that takes notes. -/
def noted (e : Engine σ) : Engine (σ × List Note) where
  execute call options s :=
    let (result, t) := e.execute call options s.1
    (result, t, s.2 ++ [(call, options)])
  providers := ⟨e.providers.providers.mapValues (besideNotes e.store)⟩
  store request s :=
    let (records, t) := e.store request s.1
    (records, t, s.2)
  options := e.options
  defaults := e.defaults

/-- The invocation that a call of a machine comes to, with the options of its activity. -/
def note? (e : Engine σ) (w : Workflow) (context : RunContext) : Call → Option Note
  | .fetch _ => none
  | .activity request =>
    some (⟨request.activity, request.params, context⟩, e.optionsOf request.activity (some w))

/-- The calls of a drive as invocations, in their order. -/
def handed (e : Engine σ) (m : Machine) (context : RunContext) (s : σ) : List Note :=
  (Machine.asked (e.environment m.workflow context) m s).filterMap (e.note? m.workflow context)

theorem fetch_besideNotes (store : Fetch.Store σ) (other : Fetch.Store (σ × List Note))
    (p : Fetch.Provider σ) (context : RunContext) (payload : RecordQuery) (s : σ)
    (notes : List Note) :
    (besideNotes store p).fetch other context payload (s, notes) =
      ((p.fetch store context payload s).1, (p.fetch store context payload s).2, notes) := by
  have hr : ∀ query, (besideNotes store p).read other context query (s, notes) =
      ((p.read store context query s).1, (p.read store context query s).2, notes) := fun _ => rfl
  have hk : (besideNotes store p).primaryKey = p.primaryKey := rfl
  simp only [Fetch.Provider.fetch, hr, hk]
  cases p.read store context
      { payload with query := Fetch.underPrimaryKey p.primaryKey payload.query } s with
  | mk answer t => cases answer <;> rfl

theorem get_noted (e : Engine σ) (type : String) :
    e.noted.providers.get type = (e.providers.get type).map (besideNotes e.store) := by
  simp only [Fetch.Registry.get, noted, Entries.get?_mapValues]
  cases e.providers.providers.get? type <;> rfl

theorem environment_noted (e : Engine σ) (w : Workflow) (context : RunContext) (call : Call) (s : σ)
    (notes : List Note) :
    e.noted.environment w context call (s, notes) =
      ((e.environment w context call s).1, (e.environment w context call s).2,
        notes ++ (e.note? w context call).toList) := by
  cases call with
  | fetch request =>
    simp only [environment, get_noted, note?, Option.toList_none, List.append_nil]
    cases e.providers.get request.provider with
    | error fault => rfl
    | ok p =>
      simp only [Except.map, fetch_besideNotes]
  | activity request => rfl

theorem validate_noted (e : Engine σ) (w : Workflow) : e.noted.validate w = e.validate w := by
  have ht : e.noted.providers.types = e.providers.types := Entries.keys_mapValues _ _
  rw [validate, rules, ht, validate, rules]

/-- A drive with notes is the drive without them, and the notes are the calls that it makes. -/
theorem drive_noted (e : Engine σ) (m : Machine) (context : RunContext) (s : σ) :
    e.noted.drive m context (s, []) =
      ((e.drive m context s).1, (e.drive m context s).2.1, (e.drive m context s).2.2,
        e.handed m context s) := by
  -- the notes are read off the log of the calls
  let read : σ × List Call → σ × List Note :=
    fun logged => (logged.1, logged.2.filterMap (e.note? m.workflow context))
  have hf : ∀ call logged, e.noted.environment m.workflow context call (read logged) =
      (((e.environment m.workflow context).logged call logged).1,
        read ((e.environment m.workflow context).logged call logged).2) := by
    intro call logged
    simp only [read, Machine.Environment.logged, environment_noted, List.filterMap_append]
    cases hn : e.note? m.workflow context call <;> simp [hn]
  have hd := Machine.drive_map read hf m (s, [])
  rw [drive, drive, Machine.drive_logged _ m s []]
  exact hd

/-- The same of runs; a refused workflow hands nothing to the executor. -/
theorem run_noted (e : Engine σ) (p : Payload) (s : σ) :
    e.noted.run p (s, []) =
      ((e.run p s).1, (e.run p s).2,
        match e.validate p.workflow with
        | .error _ => []
        | .ok _ => e.handed (machineOf p) (contextOf p) s) := by
  simp only [run, validate_noted]
  cases e.validate p.workflow with
  | error fault => rfl
  | ok warnings => simp only [drive_noted]

/-- Options laid over each other are a monoid in which the upper layer wins, every layer counting
once. Each setting of an activity is that of the first of its layers that has it, and it has a retry
policy if one of them does. Every drive, from the start of a workflow or from a saved machine, and
every run hands to the executor the calls of the machine with these options, and does nothing else
than it does without notes. -/
theorem layered_options :
    (∀ a b c : ActivityOptions, (a.overlaidBy b).overlaidBy c = a.overlaidBy (b.overlaidBy c)) ∧
    (∀ a : ActivityOptions, a.overlaidBy {} = a ∧ ActivityOptions.overlaidBy {} a = a ∧
      a.overlaidBy a = a) ∧
    ∀ (σ : Type) (e : Engine σ),
      (∀ (activity : String) (w : Option Workflow),
        (∀ setting, (e.optionsOf activity w).setting? setting =
          (e.layers activity w).findSome? (·.setting? setting)) ∧
        (e.optionsOf activity w).retry.isSome = (e.layers activity w).any (·.retry.isSome)) ∧
      (∀ (m : Machine) (context : RunContext) (s : σ),
        e.noted.drive m context (s, []) =
          ((e.drive m context s).1, (e.drive m context s).2.1, (e.drive m context s).2.2,
            e.handed m context s)) ∧
      ∀ (p : Payload) (s : σ),
        e.noted.run p (s, []) =
          ((e.run p s).1, (e.run p s).2,
            match e.validate p.workflow with
            | .error _ => []
            | .ok _ => e.handed (machineOf p) (contextOf p) s) := by
  refine ⟨ActivityOptions.overlaidBy_assoc, ?_, ?_⟩
  · intro a
    exact ⟨a.overlaidBy_empty, a.empty_overlaidBy, a.overlaidBy_self⟩
  · intro σ e
    refine ⟨?_, e.drive_noted, e.run_noted⟩
    intro activity w
    exact ⟨e.setting?_optionsOf activity w, e.isSome_retry_optionsOf activity w⟩

end Stepwise.Engine
