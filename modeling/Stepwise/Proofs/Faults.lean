import Stepwise.Proofs.Machine.Stepping
import Stepwise.Proofs.Projection

namespace Stepwise

namespace Condition

/-- The failures of conditions. -/
inductive Fault : WorkflowError → Prop
  | unknown (key : String) : Fault (.unknownCondition key)
  | invalid (message : String) : Fault (.invalidCondition message)

variable {value : Option Json} {operand : Json} {e : WorkflowError}

theorem checkKeys_fault {fields : List (String × Json)} (h : checkKeys fields = .error e) :
    Fault e := by
  induction fields with
  | nil => cases h
  | cons field rest ih =>
    simp only [checkKeys] at h
    split at h
    next => exact ih h
    next =>
      cases h
      exact .unknown _

/-- The failure of a test: its operand is not what the operator needs. -/
def Malformed (e : WorkflowError) : Prop := ∃ message, e = .invalidCondition message

theorem Malformed.fault (h : Malformed e) : Fault e := by
  obtain ⟨message, rfl⟩ := h
  exact .invalid message

theorem patternOf_malformed (h : patternOf operand = .error e) : Malformed e := by
  unfold patternOf at h
  split at h
  next => cases h
  next =>
    split at h
    next => cases h
    next =>
      cases h
      exact ⟨_, rfl⟩
  next =>
    cases h
    exact ⟨_, rfl⟩

theorem patternFlags_malformed {letters : List Char} {flags : Pattern.Flags}
    (h : patternFlags flags letters = .error e) : Malformed e := by
  induction letters generalizing flags with
  | nil => cases h
  | cons c rest ih =>
    simp only [patternFlags] at h
    split at h
    next => exact ih h
    next =>
      cases h
      exact ⟨_, rfl⟩

theorem matchesPattern_malformed (h : matchesPattern value operand = .error e) : Malformed e := by
  simp only [matchesPattern, bind, Except.bind] at h
  split at h
  next hp =>
    cases h
    exact patternOf_malformed hp
  next =>
    split at h
    next hf =>
      cases h
      exact patternFlags_malformed hf
    next =>
      split at h
      next =>
        cases h
        exact ⟨_, rfl⟩
      next => cases h

theorem operandItems_malformed {op : Operator} (h : operandItems op operand = .error e) :
    Malformed e := by
  unfold operandItems at h
  split at h
  next => cases h
  next =>
    cases h
    exact ⟨_, rfl⟩

theorem test_malformed {op : Operator} (h : op.test value operand = .error e) : Malformed e := by
  have hm : ∀ {f : List Json → Bool}, (operandItems op operand).map f = .error e →
      Malformed e := by
    intro f hf
    cases hi : operandItems op operand with
    | error fault =>
      rw [hi] at hf
      cases hf
      exact operandItems_malformed hi
    | ok items =>
      rw [hi] at hf
      cases hf
  cases op with
  | isIn => exact hm h
  | notIn => exact hm h
  | or => exact hm h
  | regexp => exact matchesPattern_malformed h
  | _ => cases h

mutual

theorem eval_fault : ∀ (c : Json), eval value c = .error e → Fault e
  | .obj fields, h => by
    simp only [eval] at h
    cases hk : checkKeys fields with
    | error fault =>
      rw [hk] at h
      cases h
      exact checkKeys_fault hk
    | ok _ =>
      rw [hk] at h
      exact evalAll_fault fields h
  | .null, h | .bool _, h | .num _, h | .str _, h | .arr _, h => by
    cases h
    exact .invalid _

theorem evalOne_fault : ∀ (key : String) (c : Json), evalOne value key c = .error e → Fault e
  | _, .arr branches, h => by
    simp only [evalOne] at h
    split at h
    next =>
      cases h
      exact .unknown _
    next => exact evalAny_fault branches h
    next => exact (test_malformed h).fault
  | _, .null, h | _, .bool _, h | _, .num _, h | _, .str _, h | _, .obj _, h => by
    simp only [evalOne] at h
    split at h
    next =>
      cases h
      exact .unknown _
    next => exact (test_malformed h).fault

theorem evalAll_fault : ∀ (fields : List (String × Json)),
    evalAll value fields = .error e → Fault e
  | [], h => by simp [evalAll] at h
  | (key, operand) :: rest, h => by
    simp only [evalAll] at h
    rcases error_of_while h with ho | ⟨_, hr⟩
    · exact evalOne_fault key operand ho
    · exact evalAll_fault rest hr

theorem evalAny_fault : ∀ (branches : List Json), evalAny value branches = .error e → Fault e
  | [], h => by simp [evalAny] at h
  | branch :: rest, h => by
    simp only [evalAny] at h
    rcases error_of_until h with ho | ⟨_, hr⟩
    · exact eval_fault branch ho
    · exact evalAny_fault rest hr

end

end Condition

namespace Projection

/-- The failures of projections. -/
inductive Fault : WorkflowError → Prop
  | condition {e : WorkflowError} (h : Condition.Fault e) : Fault e
  | unknown (key : String) : Fault (.unknownProjection key)
  | invalid (message : String) : Fault (.invalidProjection message)

variable {scope : Vars} {spec params : Entries Json} {v result : Json} {e : WorkflowError}

theorem criteriaOf_fault {criteria : Option Json} (h : criteriaOf criteria = .error e) :
    Fault e := by
  unfold criteriaOf at h
  split at h <;> cases h
  exact .invalid _

theorem element_fault (h : element scope v = .error e) : Fault e := by
  cases v with
  | obj args =>
    rcases element_error h with hc | ⟨criteria, item, _, hm⟩
    · exact criteriaOf_fault hc
    · obtain ⟨key, c, _, hc⟩ := elementMeets_error hm
      exact .condition (Condition.eval_fault _ hc)
  | _ =>
    cases h
    exact .invalid _

theorem node_fault (h : node scope v = .error e) : Fault e := by
  unfold node at h
  split at h
  next fields =>
    split at h
    next =>
      split at h
      next key operand =>
        split at h
        next =>
          cases h
          exact .unknown _
        next => exact element_fault h
        next => cases h
      next =>
        cases h
        exact .invalid _
    next => cases h
  next => cases h

theorem project_fault (h : project spec params result = .error e) : Fault e := by
  obtain ⟨field, part, fault, _, rfl, hn⟩ := fieldsIn_error h
  cases node_fault hn with
  | condition hc => cases hc <;> exact .condition (by constructor)
  | unknown key => exact .unknown key
  | invalid message => exact .invalid _

end Projection

namespace Machine

/-- The failures of a machine by itself. -/
inductive Fault : WorkflowError → Prop
  | projection {e : WorkflowError} (h : Projection.Fault e) : Fault e
  | missing (activity param : String) : Fault (.paramNotFound activity param)
  | state (message : String) : Fault (.invalidState message)

variable {m next : Machine} {value : Json} {e : WorkflowError}

theorem verdict_fault {vars : Vars} {step : Step} (h : verdict vars step = .error e) :
    Condition.Fault e := by
  unfold verdict at h
  cases hc : step.condition with
  | none =>
    rw [hc] at h
    cases h
  | some guard =>
    rw [hc] at h
    obtain ⟨path, condition, _, hf⟩ := Vars.meets_error h
    exact Condition.eval_fault _ hf

theorem outcome_fault {params : Entries Json} {step : Step} {result : Json}
    (h : outcome params step result = .error e) : Projection.Fault e := by
  unfold outcome at h
  split at h
  next projection _ =>
    cases hp : Projection.project projection params result with
    | error fault =>
      rw [hp] at h
      cases h
      exact Projection.project_fault hp
    | ok fields =>
      rw [hp] at h
      cases h
  next => cases h

/-- A result is not stored where its projection fails, and where there is no room for it. -/
theorem varsAfter_error {step : Step} {result : Json} (h : m.varsAfter step result = .error e) :
    Projection.Fault e ∨ ∃ path value, step.output = some path ∧
      outcome m.params step result = .ok value ∧ m.vars.set? path value = none ∧
      e = outOfSpace path := by
  unfold varsAfter at h
  split at h
  next => cases h
  next path hp =>
    cases ho : outcome m.params step result with
    | error fault =>
      simp only [ho, Except.bind] at h
      cases h
      exact .inl (outcome_fault ho)
    | ok value =>
      simp only [ho, Except.bind] at h
      split at h
      next => cases h
      next hs =>
        cases h
        exact .inr ⟨path, value, hp, rfl, hs, rfl⟩

theorem step_fault (h : m.step = (.error e, next)) : Fault e := by
  have hs := stepped m
  rw [h] at hs
  cases hs with
  | guardFails _ _ _ hg => exact .projection (.condition (verdict_fault hg))
  | storeFails _ _ _ hv =>
    rcases varsAfter_error hv with hf | ⟨path, value, _, _, _, rfl⟩
    · exact .projection hf
    · exact .state _

theorem run_fault (h : m.run = (.error e, next)) : Fault e := by
  fun_induction run m with
  | case1 m mid _ ih => exact ih h
  | case2 m _ => exact step_fault h

theorem takeRecords_fault {request : FetchCall} (h : m.takeRecords request value = .error e) :
    Fault e := by
  unfold takeRecords at h
  split at h
  next =>
    split at h
    next =>
      cases h
      exact .state _
    next =>
      split at h
      next =>
        split at h
        next =>
          cases h
          exact .missing _ _
        next =>
          split at h
          next =>
            cases h
            exact .state _
          next => cases h
      next =>
        cases h
        exact .state _
  next =>
    cases h
    exact .state _

theorem resume_fault (h : (m.resume value).1 = .error e) : Fault e := by
  unfold resume at h
  split at h
  next call _ =>
    split at h
    next fault ha =>
      cases h
      cases call with
      | fetch request => exact takeRecords_fault ha
      | activity request => cases ha
    next => cases h
  next =>
    cases h
    exact .state _

end Machine

end Stepwise
