import Stepwise.Fetch.Provider
import Stepwise.Proofs.Entries

namespace Stepwise.Fetch

variable {σ : Type} {p : Provider σ} {d : Descriptor} {store : Store σ} {context : RunContext}
  {payload : RecordQuery} {s t : σ} {records : List Json} {causes : List String}
  {primaryKey text : String}

/-- A record as a select text leaves it: the fields that the text lists, or the whole record when it
lists none. -/
def selected (select : Option String) (record : Json) : Json :=
  match select with
  | none => record
  | some text =>
    if selectedPaths text = [] then record else restrict record (selectedPaths text)

theorem selected_of_selectedPaths_nil (h : selectedPaths text = []) :
    selected (some text) = id := funext fun _ => if_pos h

theorem selected_of_selectedPaths_cons {field : String} {fields : List String}
    (h : selectedPaths text = field :: fields) :
    selected (some text) = (restrict · (field :: fields)) := by
  funext record
  simp only [selected, h, reduceCtorEq, if_false]

theorem selectFields_eq_map (select : Option String) (records : List Json) :
    selectFields select records = records.map (selected select) := by
  cases select with
  | none => exact (List.map_id records).symm
  | some text =>
    simp only [selectFields, Option.map_some]
    cases hs : selectedPaths text with
    | nil => rw [selected_of_selectedPaths_nil hs, List.map_id]
    | cons field fields => rw [selected_of_selectedPaths_cons hs]

theorem truncate_map (f : Json → Json) (limit : Option Nat) (records : List Json) :
    truncate limit (records.map f) = (truncate limit records).map f := by
  cases limit with
  | none => rfl
  | some n => exact List.map_take.symm

theorem length_truncate (limit : Option Nat) (records : List Json) :
    (truncate limit records).length = min (limit.getD records.length) records.length := by
  cases limit with
  | none => exact (Nat.min_self _).symm
  | some n => exact List.length_take

theorem getElem?_truncate {limit : Option Nat} {i : Nat}
    (h : i < (truncate limit records).length) : (truncate limit records)[i]? = records[i]? := by
  cases limit with
  | none => rfl
  | some n =>
    rw [length_truncate] at h
    exact List.getElem?_take_of_lt (Nat.lt_of_lt_of_le h (Nat.min_le_left _ _))

/-- A query as a store finds it that knows records by its primary key. -/
structure Rekeyed (primaryKey : String) (query sent : Entries Json) : Prop where
  no_id : sent.get? "id" = none
  bound : ∀ value, query.get? "id" = some value → sent.get? primaryKey = some value
  others : ∀ key, key ≠ "id" → (key = primaryKey → query.get? "id" = none) →
    sent.get? key = query.get? key

theorem rekeyed_underPrimaryKey (hk : primaryKey ≠ "id") (query : Entries Json) :
    Rekeyed primaryKey query (underPrimaryKey primaryKey query) := by
  cases hq : query.get? "id" with
  | none =>
    have hu : underPrimaryKey primaryKey query = query := by
      simp only [underPrimaryKey, if_neg hk, hq]
    rw [hu]
    exact ⟨hq, fun value hv => (nomatch hq.symm.trans hv), fun _ _ _ => rfl⟩
  | some id =>
    have hu : underPrimaryKey primaryKey query = (query.erase "id").insert primaryKey id := by
      simp only [underPrimaryKey, if_neg hk, hq]
    rw [hu]
    refine ⟨?_, ?_, ?_⟩
    · rw [Entries.get?_insert_of_ne _ _ (Ne.symm hk), Entries.get?_erase_self]
    · intro value hv
      rw [Entries.get?_insert_self, ← hq, hv]
    · intro key hne hp
      have hkey : key ≠ primaryKey := fun he => (nomatch hq.symm.trans (hp he))
      rw [Entries.get?_insert_of_ne _ _ hkey, Entries.get?_erase_of_ne _ hne]

theorem Provider.fetch_of_read_ok
    (h : p.read store context { payload with query := underPrimaryKey p.primaryKey payload.query }
      s = (.ok records, t)) :
    p.fetch store context payload s = (.ok (p.shape payload records), t) := by
  simp only [Provider.fetch, h]

theorem Provider.fetch_of_read_error
    (h : p.read store context { payload with query := underPrimaryKey p.primaryKey payload.query }
      s = (.error causes, t)) :
    p.fetch store context payload s = (.error (.fetchFailed p.name (chainText causes)), t) := by
  simp only [Provider.fetch, h]

/-- The store with the same records that selects fields itself. -/
def Store.selecting (store : Store σ) : Store σ := fun request s =>
  let (answer, t) := store { request with payload := { request.payload with select := none } } s
  (answer.map (·.map (selected request.payload.select)), t)

/-- The store that notes the requests which come to it. -/
def Store.noting (store : Store σ) : Store (σ × List StoreRequest) := fun request s =>
  let (answer, t) := store request s.1
  (answer, t, s.2 ++ [request])

namespace Descriptor

/-- The collection in a store that selects fields itself. -/
def selectedInStore (d : Descriptor) : Descriptor := { d with selectsInStore := true }

/-- The collection with fields selected after the store has answered. -/
def selectedAfter (d : Descriptor) : Descriptor := { d with selectsInStore := false }

/-- What a fetch asks of the store. -/
def request (d : Descriptor) (context : RunContext) (payload : RecordQuery) : StoreRequest where
  collection := d.collection
  payload := {
    query := underPrimaryKey d.primaryKey payload.query
    limit := payload.limit
    select := if d.selectsInStore then payload.select else none }
  token := some context.authToken

/-- What a fetch still does to each record that the store has answered with. -/
def finish (d : Descriptor) (select : Option String) : Json → Json :=
  if d.selectsInStore then id else selected select

theorem read_provider (d : Descriptor) (store : Store σ) (context : RunContext)
    (payload : RecordQuery) (s : σ) :
    d.provider.read store context
        { payload with query := underPrimaryKey d.primaryKey payload.query } s =
      store (d.request context payload) s := by
  cases hs : d.selectsInStore <;> simp [provider, request, hs]

theorem shape_provider (d : Descriptor) (payload : RecordQuery) (records : List Json) :
    (d.provider : Provider σ).shape payload records =
      (truncate payload.limit records).map (d.finish payload.select) := by
  cases hs : d.selectsInStore <;>
    simp [Provider.shape, provider, finish, hs, selectFields_eq_map]

theorem fetch_of_ok (h : store (d.request context payload) s = (.ok records, t)) :
    d.provider.fetch store context payload s =
      (.ok ((truncate payload.limit records).map (d.finish payload.select)), t) := by
  rw [← shape_provider]
  exact Provider.fetch_of_read_ok ((read_provider d store context payload s).trans h)

theorem fetch_of_error
    (h : store (d.request context payload) s = (.error causes, t)) :
    d.provider.fetch store context payload s =
      (.error (.fetchFailed d.name (chainText causes)), t) :=
  Provider.fetch_of_read_error ((read_provider d store context payload s).trans h)

/-- Selecting in the store is selecting after it has answered. -/
theorem fetch_selecting (d : Descriptor) (store : Store σ) (context : RunContext)
    (payload : RecordQuery) (s : σ) :
    d.selectedInStore.provider.fetch (Store.selecting store) context payload s =
      d.selectedAfter.provider.fetch store context payload s := by
  have hs : Store.selecting store (d.selectedInStore.request context payload) s =
      ((store (d.selectedAfter.request context payload) s).1.map (·.map (selected payload.select)),
        (store (d.selectedAfter.request context payload) s).2) := rfl
  cases h : store (d.selectedAfter.request context payload) s with
  | mk answer t =>
    rw [h] at hs
    cases answer with
    | ok records =>
      rw [fetch_of_ok hs, fetch_of_ok h, truncate_map]
      exact congrArg (fun answer => (Except.ok answer, t)) (List.map_id _)
    | error causes => rw [fetch_of_error hs, fetch_of_error h]; rfl

theorem fetch_noting (d : Descriptor) (store : Store σ) (context : RunContext)
    (payload : RecordQuery) (s : σ) (log : List StoreRequest) :
    d.provider.fetch (Store.noting store) context payload (s, log) =
      ((d.provider.fetch store context payload s).1, (d.provider.fetch store context payload s).2,
        log ++ [d.request context payload]) := by
  have hs : Store.noting store (d.request context payload) (s, log) =
      ((store (d.request context payload) s).1, (store (d.request context payload) s).2,
        log ++ [d.request context payload]) := rfl
  cases h : store (d.request context payload) s with
  | mk answer t =>
    rw [h] at hs
    cases answer with
    | ok records => rw [fetch_of_ok hs, fetch_of_ok h]
    | error causes => rw [fetch_of_error hs, fetch_of_error h]

end Descriptor

/-- An answer that is, record by record, the front of what the store has found. -/
structure Front (limit : Option Nat) (f : Json → Json) (found answer : List Json) : Prop where
  within : ∀ n, limit = some n → answer.length ≤ n
  length : answer.length = min (limit.getD found.length) found.length
  record : ∀ i, i < answer.length → answer[i]? = (found[i]?).map f

theorem front_truncate (limit : Option Nat) (f : Json → Json) (found : List Json) :
    Front limit f found ((truncate limit found).map f) := by
  have hl : ((truncate limit found).map f).length = min (limit.getD found.length) found.length := by
    rw [List.length_map, length_truncate]
  refine ⟨?_, hl, ?_⟩
  · rintro n rfl
    rw [hl]
    exact Nat.min_le_left _ _
  · intro i hi
    rw [List.length_map] at hi
    rw [List.getElem?_map, getElem?_truncate hi]

/-- A collection answers a fetch with the same records whether its store selects fields or they are
selected afterwards. Every fetch asks its store once; what the store gets has the value of `id`
under the primary key and the other entries as they were, and the answer is the front of what the
store has found, with the fields selected if the store has not done it. -/
theorem select_in_store_or_after :
    (∀ (σ : Type) (d : Descriptor) (store : Store σ) (context : RunContext)
      (payload : RecordQuery) (s : σ),
      d.selectedInStore.provider.fetch (Store.selecting store) context payload s =
        d.selectedAfter.provider.fetch store context payload s) ∧
    ∀ (σ : Type) (d : Descriptor) (store : Store σ) (context : RunContext)
      (payload : RecordQuery) (s : σ),
      (∀ log, d.provider.fetch (Store.noting store) context payload (s, log) =
        ((d.provider.fetch store context payload s).1,
          (d.provider.fetch store context payload s).2, log ++ [d.request context payload])) ∧
      (∀ found t, store (d.request context payload) s = (.ok found, t) →
        ∃ answer, d.provider.fetch store context payload s = (.ok answer, t) ∧
          Front payload.limit (d.finish payload.select) found answer) ∧
      (d.primaryKey ≠ "id" →
        Rekeyed d.primaryKey payload.query (d.request context payload).payload.query) := by
  refine ⟨fun σ d => d.fetch_selecting, ?_⟩
  intro σ d store context payload s
  refine ⟨d.fetch_noting store context payload s, ?_, ?_⟩
  · intro found t h
    exact ⟨_, Descriptor.fetch_of_ok h, front_truncate _ _ _⟩
  · intro hk
    exact rekeyed_underPrimaryKey hk payload.query

/-- Two notes, whoever asks. -/
def twoNotes : List Json := [
  .obj [("body", .str "a"), ("title", .str "A")], .obj [("body", .str "b"), ("title", .str "B")]]

/-- A store that counts the requests. -/
def counting (found : List Json) : Store Nat := fun _ s => (.ok found, s + 1)

def visit : RunContext := { workflowName := "visit", authToken := "t" }

def firstTitle : RecordQuery :=
  { query := [("id", .str "7"), ("open", .bool true)], limit := some 1, select := some "title," }

theorem select_in_store_or_after_notes :
    (Descriptor.documentType.primaryKey ≠ "id" ∧
      counting twoNotes (Descriptor.documentType.request visit firstTitle) 0 = (.ok twoNotes, 1)) ∧
    Descriptor.documentType.selectedInStore.provider.fetch (Store.selecting (counting twoNotes))
        visit firstTitle 0 =
      Descriptor.documentType.selectedAfter.provider.fetch (counting twoNotes) visit firstTitle 0 ∧
    (∃ answer, Descriptor.documentType.provider.fetch (counting twoNotes) visit firstTitle 0 =
        (.ok answer, 1) ∧ answer.length = 1 ∧ answer[0]? = some (.obj [("title", .str "A")])) ∧
    Rekeyed "_id" firstTitle.query [("_id", .str "7"), ("open", .bool true)] := by
  have hk : Descriptor.documentType.primaryKey ≠ "id" := by decide
  have hs : counting twoNotes (Descriptor.documentType.request visit firstTitle) 0 =
      (.ok twoNotes, 1) := rfl
  obtain ⟨hsame, hlaws⟩ := select_in_store_or_after
  obtain ⟨_, hfront, hkey⟩ :=
    hlaws Nat .documentType (counting twoNotes) visit firstTitle 0
  obtain ⟨answer, ha, hf⟩ := hfront _ _ hs
  have hl : answer.length = 1 := hf.length
  have hr : answer[0]? = some (.obj [("title", .str "A")]) :=
    (hf.record 0 (by omega)).trans (by decide +kernel)
  have hq : (Descriptor.documentType.request visit firstTitle).payload.query =
      [("_id", .str "7"), ("open", .bool true)] := by decide +kernel
  exact ⟨⟨hk, hs⟩, hsame _ _ _ _ _ _, ⟨answer, ha, hl, hr⟩, hq ▸ hkey hk⟩

end Stepwise.Fetch
