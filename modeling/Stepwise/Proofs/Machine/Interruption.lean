import Stepwise.Proofs.Machine.Consistency
import Stepwise.Proofs.Machine.Snapshot
import Stepwise.Proofs.Template

namespace Stepwise

/-- Positions in a workflow have 64 bits, and no list in a memory is longer. -/
structure Workflow.Addressable (w : Workflow) : Prop where
  steps : w.steps.length < Text.Numeral.wordBound
  fetch : ∀ step ∈ w.steps, step.fetch.length < Text.Numeral.wordBound

theorem Vars.sorted_importing (vars : Vars) (imports : Imports) :
    (vars.importing imports).Sorted := by
  refine List.foldlRecOn imports.entries _ List.Pairwise.nil fun input hs entry _ => ?_
  split
  next => exact Entries.sorted_insert hs _ _
  next => exact hs

theorem Vars.sorted_set? {vars changed : Vars} {path : String} {value : Json}
    (hs : vars.entries.Sorted) (h : vars.set? path value = some changed) :
    changed.entries.Sorted := by
  unfold set? at h
  split at h
  next =>
    cases h
    exact Entries.sorted_insert hs _ _
  next =>
    obtain ⟨root, _, rfl⟩ := Option.map_eq_some_iff.mp h
    exact Entries.sorted_insert hs _ _

theorem Vars.sorted_resolveFields (vars : Vars) {fields : Entries Json} (hs : fields.Sorted) :
    (vars.resolveFields fields).Sorted := by
  have hk : (Entries.keys (vars.resolveFields fields)).Pairwise (· < ·) := by
    rw [resolveFields, Template.keys_resolveFields]
    exact List.pairwise_map.mpr hs
  exact List.pairwise_map.mp hk

namespace Machine

variable {w : Workflow} {m : Machine}

/-- The maps of a machine that grow in a run are in key order. -/
structure Tidy (m : Machine) : Prop where
  vars : m.vars.entries.Sorted
  params : m.params.Sorted

theorem sorted_varsAfter {step : Step} {result : Json} {vars : Vars} (hs : m.vars.entries.Sorted)
    (h : m.varsAfter step result = .ok vars) : vars.entries.Sorted := by
  rcases varsAfter_eq_ok h with ⟨_, rfl⟩ | ⟨path, outcome, _, _, hv⟩
  · exact hs
  · exact Vars.sorted_set? hs hv

theorem sorted_imported (vars : Vars) (step : Step) : (imported vars step).Sorted := by
  unfold imported
  cases step.imports with
  | none => exact List.Pairwise.nil
  | some imports => exact vars.sorted_importing imports

theorem tidy_step (h : Tidy m) : Tidy m.step.2 := by
  have hm := stepped m
  generalize m.step = outcome at hm
  cases hm with
  | waits => exact h
  | rests => exact h
  | guardFails => exact h
  | storeFails => exact h
  | finishes => exact ⟨h.vars, h.params⟩
  | skips => exact ⟨h.vars, List.Pairwise.nil⟩
  | enters => exact ⟨h.vars, sorted_imported _ _⟩
  | asks => exact ⟨h.vars, h.params⟩
  | gathered => exact ⟨h.vars, h.params⟩
  | submits => exact ⟨h.vars, Entries.sorted_overlay h.params _⟩
  | stores _ _ _ hv => exact ⟨sorted_varsAfter h.vars hv, List.Pairwise.nil⟩

theorem tidy_resume (h : Tidy m) (value : Json) : Tidy (m.resume value).2 := by
  have hm := resumed m value
  generalize m.resume value = outcome at hm
  cases hm with
  | notWaiting => exact h
  | refused => exact h
  | takesRecords => exact ⟨h.vars, Entries.sorted_insert h.params _ _⟩
  | takesResult => exact ⟨h.vars, h.params⟩

theorem wellFormed_payload (vars : Vars) {spec : Lookup} (h : spec.WellFormed) :
    (spec.payload vars).WellFormed :=
  ⟨vars.sorted_resolveFields h.query, h.limit⟩

theorem wellFormed_of_placed (hw : w.WellFormed) (ha : w.Addressable) (h : Placed w m)
    (ht : Tidy m) : m.WellFormed := by
  have hn : m.pc < Text.Numeral.wordBound := Nat.lt_of_le_of_lt h.pc_le ha.steps
  refine ⟨h.workflow ▸ hw, ht.vars, hn, ?_, ht.params, ?_⟩
  · cases hp : m.phase with
    | fetch index =>
      obtain ⟨step, hs, hl, _⟩ := h.position.of_fetch hp
      exact Nat.lt_of_le_of_lt hl (ha.fetch step (List.mem_of_getElem? hs))
    | _ => trivial
  · cases hc : m.control with
    | suspended call =>
      cases call with
      | fetch request =>
        obtain ⟨step, index, spec, hs, _, hf, hr, _⟩ := h.position.of_fetch_call hc
        have hl := (hw.steps step (List.mem_of_getElem? hs)).lookups _ (List.mem_of_getElem? hf)
        rw [hr]
        exact wellFormed_payload m.vars hl
      | activity request =>
        obtain ⟨step, _, _, hr, _⟩ := h.position.of_activity_call hc
        rw [hr]
        exact ⟨hn, ht.params⟩
    | _ => trivial

/-- What can happen to a machine in a run that is interrupted. -/
inductive Event where
  | operation (operation : Operation)
  /-- The machine is stored and read back. -/
  | reload

/-- The operations among some events. -/
def operations : List Event → List Operation
  | [] => []
  | .operation operation :: rest => operation :: operations rest
  | .reload :: rest => operations rest

/-- What some operations answer, and the machine after each of them. -/
def history (m : Machine) : List Operation → List (Reply × Machine)
  | [] => []
  | operation :: rest => m.perform operation :: history (m.perform operation).2 rest

/-- The history of an interrupted run; none when a stored machine is not read back. -/
def interrupted? (m : Machine) : List Event → Option (List (Reply × Machine))
  | [] => some []
  | .operation operation :: rest =>
    (interrupted? (m.perform operation).2 rest).map (m.perform operation :: ·)
  | .reload :: rest => (ofJson? m.toJson).bind fun same => interrupted? same rest

/-- The workflow was read from a JSON value or a JSON text. -/
def FromJson (w : Workflow) : Prop :=
  (∃ j, Workflow.ofJson? j = some w) ∨ ∃ text, Workflow.parse text = .ok w

theorem wellFormed_of_fromJson (h : FromJson w) : w.WellFormed := by
  rcases h with ⟨j, hj⟩ | ⟨text, ht⟩
  · exact Workflow.wellFormed_of_read? Json.source_lawful hj
  · unfold Workflow.parse at ht
    split at ht
    next found hf =>
      cases ht
      obtain ⟨document, _, hr⟩ := Option.bind_eq_some_iff.mp hf
      exact Workflow.wellFormed_of_read? Document.Node.source_lawful hr
    next => simp at ht

variable {vars : Vars}

theorem wellFormed_after (hw : FromJson w) (ha : w.Addressable) (hv : vars.entries.Sorted)
    (operations : List Operation) : ((start w vars).after operations).WellFormed := by
  have hs : Tidy (start w vars) := ⟨hv, List.Pairwise.nil⟩
  have ht : Tidy ((start w vars).after operations) :=
    after_induction (P := Tidy) (fun _ => tidy_step) (fun _ value h => tidy_resume h value) hs
      operations
  exact wellFormed_of_placed (wellFormed_of_fromJson hw) ha (placed_after w vars operations) ht

/-- As long as every machine that operations lead to is read back, interruptions change nothing. -/
theorem interrupted?_eq {m : Machine}
    (h : ∀ operations, ofJson? (m.after operations).toJson = some (m.after operations))
    (events : List Event) : m.interrupted? events = some (m.history (operations events)) := by
  induction events generalizing m with
  | nil => rfl
  | cons event rest ih =>
    cases event with
    | operation operation =>
      have hn := ih (m := (m.perform operation).2) fun next => h (operation :: next)
      rw [interrupted?, hn]
      rfl
    | reload =>
      have hs : ofJson? m.toJson = some m := h []
      rw [interrupted?, hs, Option.bind_some, ih h]
      rfl

/-- A run of a workflow from JSON can be interrupted at any points: the machine that was stored is
read back as it was, and every answer and every machine after it is the same. -/
theorem interrupted?_start (hw : FromJson w) (ha : w.Addressable) (hv : vars.entries.Sorted) :
    (∀ operations, ofJson? ((start w vars).after operations).toJson =
      some ((start w vars).after operations)) ∧
    ∀ events, (start w vars).interrupted? events =
      some ((start w vars).history (operations events)) := by
  have hj : ∀ operations, ofJson? ((start w vars).after operations).toJson =
      some ((start w vars).after operations) :=
    fun operations => ofJson?_toJson (wellFormed_after hw ha hv operations)
  exact ⟨hj, interrupted?_eq hj⟩

/-- A parameter with a default that is absent, and a timeout of one and a half minutes. -/
def letter : Workflow where
  name := "letter"
  steps := [
    { name := "write"
      imports := some (.mapping [("to", .withDefault "addressee" none)])
      fetch := [("paper", { provider := "stock", limit := some 1 })]
      output := some "result" }]
  options := some { startToCloseTimeout := some ⟨90000⟩ }

theorem interrupted?_letter :
    FromJson letter ∧ letter.Addressable ∧ Vars.empty.entries.Sorted ∧
      (start letter .empty).interrupted? [.operation .run, .reload,
          .operation (.resume (.arr [.null])), .reload, .operation .step, .reload] =
        some ((start letter .empty).history [.run, .resume (.arr [.null]), .step]) := by
  have hw : FromJson letter := .inl ⟨letter.toJson, rfl⟩
  have ha : letter.Addressable := ⟨by decide, by decide⟩
  have hv : Vars.empty.entries.Sorted := by decide
  exact ⟨hw, ha, hv, (interrupted?_start hw ha hv).2 _⟩

end Machine

end Stepwise
