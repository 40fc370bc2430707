import Stepwise.Error
import Stepwise.Fetch.Select
import Stepwise.Workflow.Input

namespace Stepwise.Fetch

/-- A read of a collection, with the token that allows it. -/
structure StoreRequest where
  collection : String
  payload : RecordQuery
  token : Option String := none
deriving DecidableEq

/-- A store answers with records, or with the causes of a failure, outermost first. -/
abbrev Store (σ : Type) := StoreRequest → σ → Except (List String) (List Json) × σ

def chainText (causes : List String) : String := String.intercalate ": " causes

/-- Reads records from a store. Around the reading, `fetch` renames the `id` of a query to the
primary key, keeps to the limit and, where the store does not select fields, selects them. -/
structure Provider (σ : Type) where
  name : String
  /-- The field that identifies a record in the store. -/
  primaryKey : String := "_id"
  /-- Whether reading already selects fields. -/
  selects : Bool := false
  read : Store σ → RunContext → RecordQuery → σ → Except (List String) (List Json) × σ

/-- The query with its `id` under the primary key. -/
def underPrimaryKey (primaryKey : String) (query : Entries Json) : Entries Json :=
  if primaryKey = "id" then query
  else
    match query.get? "id" with
    | some id => (query.erase "id").insert primaryKey id
    | none => query

/-- At most as many records as the limit says. -/
def truncate (limit : Option Nat) (records : List Json) : List Json :=
  match limit with
  | some n => records.take n
  | none => records

/-- The selected fields of each record; a select text without fields selects everything. -/
def selectFields (select : Option String) (records : List Json) : List Json :=
  match select.map selectedPaths with
  | none => records
  | some [] => records
  | some fields => records.map (restrict · fields)

namespace Provider

variable {σ : Type}

def shape (p : Provider σ) (payload : RecordQuery) (records : List Json) : List Json :=
  let kept := truncate payload.limit records
  if p.selects then kept else selectFields payload.select kept

def fetch (p : Provider σ) (store : Store σ) (context : RunContext) (payload : RecordQuery)
    (s : σ) : Except WorkflowError (List Json) × σ :=
  let query := underPrimaryKey p.primaryKey payload.query
  match p.read store context { payload with query } s with
  | (.ok records, t) => (.ok (p.shape payload records), t)
  | (.error causes, t) => (.error (.fetchFailed p.name (chainText causes)), t)

end Provider

/-- A collection of the store as a provider of records. -/
structure Descriptor where
  name : String
  collection : String
  primaryKey : String := "_id"
  /-- Whether the store selects fields itself. -/
  selectsInStore : Bool := false
deriving DecidableEq, Repr

namespace Descriptor

def document : Descriptor := ⟨"document", "objects", "_id", true⟩

def documentType : Descriptor := ⟨"document_type", "types", "_id", false⟩

def interactionRun : Descriptor := ⟨"interaction_run", "runs", "_id", false⟩

/-- Reads with the token of the run; a store that does not select fields is not asked to. -/
def provider {σ : Type} (d : Descriptor) : Provider σ where
  name := d.name
  primaryKey := d.primaryKey
  selects := d.selectsInStore
  read store context payload := store {
    collection := d.collection
    payload := if d.selectsInStore then payload else { payload with select := none }
    token := some context.authToken }

end Descriptor

/-- A provider with a store of its own, in which it reads the collection of its name without a
token. -/
def Provider.over {σ : Type} (own : Store σ) (name primaryKey : String) (selects : Bool) :
    Provider σ where
  name := name
  primaryKey := primaryKey
  selects := selects
  read _ _ payload := own { collection := name, payload := payload }

structure Registry (σ : Type) where
  providers : Entries (Provider σ) := []

namespace Registry

variable {σ : Type}

def register (r : Registry σ) (type : String) (p : Provider σ) : Registry σ :=
  ⟨r.providers.insert type p⟩

/-- The registry with the providers of the store. -/
def builtin : Registry σ :=
  [Descriptor.document, Descriptor.documentType, Descriptor.interactionRun].foldl
    (fun r d => r.register d.name d.provider) {}

def contains (r : Registry σ) (type : String) : Bool := r.providers.contains type

def types (r : Registry σ) : List String := r.providers.keys

def get (r : Registry σ) (type : String) : Except WorkflowError (Provider σ) :=
  match r.providers.get? type with
  | some p => .ok p
  | none => .error (.unknownProvider type)

end Registry

end Stepwise.Fetch
