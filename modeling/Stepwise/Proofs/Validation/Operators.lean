import Stepwise.Proofs.Projection
import Stepwise.Proofs.Template
import Stepwise.Validation.Builtin

namespace Stepwise

/-- An operator stands over an operand in a condition: at its top, or in a branch of an `$or` at any
depth. -/
inductive Condition.Stands (op : Condition.Operator) (operand : Json) : Json → Prop
  | here {fields : List (String × Json)} (hm : (op.key, operand) ∈ fields) :
      Stands op operand (.obj fields)
  | inBranch {fields : List (String × Json)} {branches : List Json} {branch : Json}
      (hm : (Condition.Operator.or.key, .arr branches) ∈ fields) (hb : branch ∈ branches)
      (h : Stands op operand branch) : Stands op operand (.obj fields)

namespace Validation

open Condition (Stands Operator)

/-- An operand that no rule can vouch for: a pattern, or a text in the form of a placeholder where
an array has to come out. -/
def Deferred (op : Operator) (operand : Json) : Prop :=
  op = .regexp ∨ (needsArray op = true ∧ looksLikePlaceholder operand = true)

/-- A condition fails with an error at a deferred operand. -/
def FailsAtOperand (lookUp : String → Option Json) (value : Option Json) (e : WorkflowError)
    (condition : Json) : Prop :=
  ∃ op operand, Stands op operand condition ∧ Deferred op operand ∧
    Condition.evalOne value op.key (Template.resolve lookUp operand) = .error e

/-- Nothing that was found keeps a workflow from running. -/
def Silent (found : List Diagnostic) : Prop := ∀ d ∈ found, d.isError = false

instance (found : List Diagnostic) : Decidable (Silent found) :=
  inferInstanceAs (Decidable (∀ d ∈ found, d.isError = false))

theorem silent_append {front back : List Diagnostic} :
    Silent (front ++ back) ↔ Silent front ∧ Silent back := List.forall_mem_append

theorem not_silent_error (rule message location : String) :
    ¬Silent [error rule message location] := by
  intro h
  have he := h _ (List.mem_singleton_self _)
  exact Bool.noConfusion he

theorem silent_of_flatMap {α : Type} {items : List α} {find : α → List Diagnostic}
    (h : Silent (items.flatMap find)) {item : α} (hm : item ∈ items) : Silent (find item) :=
  fun d hd => h d (List.mem_flatMap.mpr ⟨item, hm, hd⟩)

theorem silent_of_rule {rules : List Rule} {rule : Rule} {w : Workflow}
    (h : Silent (findings rules w)) (hr : rule ∈ rules) : Silent (rule.findings w) :=
  silent_of_flatMap h hr

theorem silent_at_step {find : String → Step → List Diagnostic} {w : Workflow} {step : Step}
    (h : Silent (atSteps find w)) (hs : step ∈ w.steps) : ∃ place, Silent (find place step) := by
  obtain ⟨index, hl, rfl⟩ := List.mem_iff_getElem.mp hs
  have hm : (w.steps[index], index) ∈ w.steps.zipIdx :=
    List.mk_mem_zipIdx_iff_getElem?.mpr (List.getElem?_eq_getElem hl)
  exact ⟨_, silent_of_flatMap h hm⟩

variable {lookUp : String → Option Json} {value : Option Json} {location key : String}
  {operand : Json} {fields : List (String × Json)} {e : WorkflowError}

theorem ofKey?_of_silent (h : Silent (operatorFindings location key operand)) :
    ∃ op : Operator, op.key = key ∧ Operator.ofKey? key = some op := by
  cases hk : Operator.ofKey? key with
  | none =>
    have hu : Silent [unknownOperator location key] := by
      cases operand <;> simpa only [operatorFindings, hk] using h
    exact absurd hu (not_silent_error _ _ _)
  | some op => exact ⟨op, Operator.key_of_ofKey? hk, rfl⟩

theorem checkKeys_of_silent (h : Silent (operatorsFindings location fields)) :
    Condition.checkKeys (Template.resolveFields lookUp fields) = .ok () := by
  induction fields with
  | nil => rfl
  | cons field rest ih =>
    obtain ⟨hf, hr⟩ := silent_append.mp h
    obtain ⟨op, _, hk⟩ := ofKey?_of_silent hf
    simp only [Template.resolveFields, Condition.checkKeys, hk]
    exact ih hr

/-- An object of operators fails at one of them. -/
theorem evalAll_error (hs : Silent (operatorsFindings location fields))
    (he : Condition.evalAll value (Template.resolveFields lookUp fields) = .error e) :
    ∃ key operand, (key, operand) ∈ fields ∧ Silent (operatorFindings location key operand) ∧
      Condition.evalOne value key (Template.resolve lookUp operand) = .error e := by
  induction fields with
  | nil => simp [Template.resolveFields, Condition.evalAll] at he
  | cons field rest ih =>
    obtain ⟨hf, hr⟩ := silent_append.mp hs
    simp only [Template.resolveFields, Condition.evalAll] at he
    rcases error_of_while he with ho | ⟨_, hn⟩
    · exact ⟨field.1, field.2, List.mem_cons_self, hf, ho⟩
    · obtain ⟨key, operand, hm, hrest⟩ := ih hr hn
      exact ⟨key, operand, List.mem_cons_of_mem _ hm, hrest⟩

/-- The branches of an `$or` fail at one of them. -/
theorem evalAny_error {branches : List Json} {index : Nat}
    (hs : Silent (branchesFindings location index branches))
    (he : Condition.evalAny value (Template.resolveItems lookUp branches) = .error e) :
    ∃ branch ∈ branches, (∃ place, Silent (conditionFindings place branch)) ∧
      Condition.eval value (Template.resolve lookUp branch) = .error e := by
  induction branches generalizing index with
  | nil => simp [Template.resolveItems, Condition.evalAny] at he
  | cons branch rest ih =>
    obtain ⟨hb, hr⟩ := silent_append.mp hs
    simp only [Template.resolveItems, Condition.evalAny] at he
    rcases error_of_until he with ho | ⟨_, hn⟩
    · exact ⟨branch, List.mem_cons_self, ⟨_, hb⟩, ho⟩
    · obtain ⟨found, hm, hrest⟩ := ih hr hn
      exact ⟨found, List.mem_cons_of_mem _ hm, hrest⟩

/-- An operator that needs an array has one, or a text in the form of a placeholder. -/
theorem items_of_silent {op : Operator} (hk : Operator.ofKey? key = some op)
    (ha : needsArray op = true) (h : Silent (operatorFindings location key operand)) :
    (∃ items, operand = .arr items) ∨ looksLikePlaceholder operand = true := by
  cases operand with
  | arr items => exact .inl ⟨items, rfl⟩
  | _ =>
    refine .inr ?_
    simp only [operatorFindings, hk, operandFindings, ha, Bool.true_and] at h
    split at h
    next => exact absurd h (not_silent_error _ _ _)
    next hp => simpa using hp

/-- The test of an operator fails for a pattern, or for want of an array. -/
theorem test_error {op : Operator} {j : Json} (ho : op ≠ .or) (h : op.test value j = .error e) :
    op = .regexp ∨ (needsArray op = true ∧ ∀ items, j ≠ .arr items) := by
  cases op with
  | regexp => exact .inl rfl
  | or => exact absurd rfl ho
  | isIn =>
    refine .inr ⟨rfl, ?_⟩
    rintro items rfl
    cases h
  | notIn =>
    refine .inr ⟨rfl, ?_⟩
    rintro items rfl
    cases h
  | _ => cases h

/-- An operator of which nothing bad was found fails only at a deferred operand, unless it is an
`$or` of which a branch fails. -/
theorem evalOne_error {op : Operator} (hk : Operator.ofKey? key = some op)
    (hs : Silent (operatorFindings location key operand))
    (he : Condition.evalOne value key (Template.resolve lookUp operand) = .error e) :
    Deferred op operand ∨
      ∃ branches branch, op = .or ∧ operand = .arr branches ∧ branch ∈ branches ∧
        (∃ place, Silent (conditionFindings place branch)) ∧
        Condition.eval value (Template.resolve lookUp branch) = .error e := by
  by_cases ho : op = .or
  · subst ho
    rcases items_of_silent hk rfl hs with ⟨branches, rfl⟩ | hp
    · simp only [operatorFindings, hk] at hs
      simp only [Template.resolve, Condition.evalOne, hk] at he
      obtain ⟨branch, hb, hf, hbe⟩ := evalAny_error hs he
      exact .inr ⟨branches, branch, rfl, rfl, hb, hf, hbe⟩
    · exact .inl (.inr ⟨rfl, hp⟩)
  · rw [Condition.evalOne_eq_test hk ho] at he
    rcases test_error ho he with hr | ⟨ha, hn⟩
    · exact .inl (.inl hr)
    · rcases items_of_silent hk ha hs with ⟨items, rfl⟩ | hp
      · exact absurd rfl (hn (Template.resolveItems lookUp items))
      · exact .inl (.inr ⟨ha, hp⟩)

theorem sizeOf_branch_lt {branches : List Json} {branch : Json}
    (hm : (key, .arr branches) ∈ fields) (hb : branch ∈ branches) :
    sizeOf branch < sizeOf (Json.obj fields) := by
  have hf := List.sizeOf_lt_of_mem hm
  have hi := List.sizeOf_lt_of_mem hb
  simp only [Prod.mk.sizeOf_spec, Json.arr.sizeOf_spec] at hf
  simp only [Json.obj.sizeOf_spec]
  omega

/-- A condition of which nothing bad was found fails only at a deferred operand, whatever the
variables are. -/
theorem eval_error : ∀ (c : Json) {location : String}, Silent (conditionFindings location c) →
    Condition.eval value (Template.resolve lookUp c) = .error e → FailsAtOperand lookUp value e c
  | .obj fields, location, hs, he => by
    have hf : Silent (operatorsFindings location fields) := hs
    simp only [Template.resolve, Condition.eval, checkKeys_of_silent hf, Except.bind] at he
    obtain ⟨key, operand, hm, ho, hoe⟩ := evalAll_error hf he
    obtain ⟨op, rfl, hk⟩ := ofKey?_of_silent ho
    rcases evalOne_error hk ho hoe with hd | ⟨branches, branch, rfl, rfl, hb, ⟨place, hp⟩, hbe⟩
    · exact ⟨op, operand, .here hm, hd, hoe⟩
    · -- the branch is smaller than the condition, and its positions are positions of the condition
      have hlt := sizeOf_branch_lt hm hb
      obtain ⟨inner, below, hi, hd, hie⟩ := eval_error branch hp hbe
      exact ⟨inner, below, .inBranch hm hb hi, hd, hie⟩
  | .null, _, hs, _ | .bool _, _, hs, _ | .num _, _, hs, _ | .str _, _, hs, _ | .arr _, _, hs, _ =>
    absurd hs (not_silent_error _ _ _)
termination_by c => sizeOf c
decreasing_by exact hlt

/-- A node of a projection fails where the variables decide: at a text that is one placeholder, in
place of the node or of a criterion, or at a deferred operand of a criterion. -/
inductive FailsAtNode (scope : Vars) (e : WorkflowError) : Json → Prop
  | reference {spec : Json} (hr : Template.IsReference spec)
      (he : Projection.node scope (scope.resolve spec) = .error e) : FailsAtNode scope e spec
  | criterion {args criteria : Entries Json} {key : String} {c : Json} {value : Option Json}
      (ha : args.get? "where" = some (.obj criteria)) (hm : (key, c) ∈ criteria)
      (hr : Template.IsReference c)
      (he : Condition.eval value (Projection.criterion (scope.resolve c)) = .error e) :
      FailsAtNode scope e (.obj [(Projection.Operator.element.key, .obj args)])
  | operand {args criteria : Entries Json} {key : String} {c : Json} {value : Option Json}
      (ha : args.get? "where" = some (.obj criteria)) (hm : (key, c) ∈ criteria)
      (he : FailsAtOperand scope.get? value e c) :
      FailsAtNode scope e (.obj [(Projection.Operator.element.key, .obj args)])

variable {scope : Vars}

theorem criterion_error {c : Json} (hs : Silent (criterionFindings location key c))
    (he : Condition.eval value (Projection.criterion (scope.resolve c)) = .error e) :
    Template.IsReference c ∨ FailsAtOperand scope.get? value e c := by
  have hl : ∀ v : Json, v.fields? = none →
      Condition.eval value (Projection.criterion v) ≠ .error e := by
    intro v hv
    rw [Projection.criterion_of_literal hv, Condition.eval_equality]
    exact fun h => by cases h
  cases c with
  | obj fields => exact .inr (eval_error (.obj fields) hs he)
  | str s =>
    rcases Template.isReference_or_text scope.get? s with hr | ⟨text, ht⟩
    · exact .inl hr
    · rw [Vars.resolve, ht] at he
      exact absurd he (hl (.str text) rfl)
  | _ => exact absurd he (hl _ rfl)

theorem criteriaOf_of_silent (scope : Vars) {args : Entries Json}
    (h : Silent (criteriaFindings location args)) :
    Projection.criteriaOf (Entries.get? (scope.resolveFields args) "where") = .ok [] ∨
      ∃ criteria, args.get? "where" = some (.obj criteria) ∧
        Projection.criteriaOf (Entries.get? (scope.resolveFields args) "where") =
          .ok (scope.resolveFields criteria) ∧
        ∀ key c, (key, c) ∈ criteria → Silent (criterionFindings location key c) := by
  rw [Vars.resolveFields, Template.get?_resolveFields]
  unfold criteriaFindings at h
  split at h
  next hw => exact .inl (by rw [hw]; rfl)
  next hw => exact .inl (by rw [hw]; rfl)
  next criteria hw =>
    rw [hw]
    refine .inr ⟨criteria, rfl, rfl, fun key c hm => ?_⟩
    have hf := silent_of_flatMap h hm
    exact hf
  next => exact absurd h (not_silent_error _ _ _)

theorem element_error {operand : Json} (hs : Silent (elementFindings location operand))
    (he : Projection.element scope (scope.resolve operand) = .error e) :
    FailsAtNode scope e (.obj [(Projection.Operator.element.key, operand)]) := by
  cases operand with
  | obj args =>
    obtain ⟨_, hc⟩ := silent_append.mp hs
    have hr := criteriaOf_of_silent scope hc
    rcases Projection.element_error he with hf | ⟨found, item, hf, hi⟩
    · rcases hr with hr | ⟨criteria, _, hr, _⟩ <;> cases hf.symm.trans hr
    · rcases hr with hr | ⟨criteria, hw, hr, hk⟩
      · cases hf.symm.trans hr
        cases hi
      · cases hf.symm.trans hr
        obtain ⟨key, resolved, hv, hke⟩ := Projection.elementMeets_error hi
        obtain ⟨c, hm, rfl⟩ := Template.of_mem_resolveFields hv
        rcases criterion_error (hk key c hm) hke with hr | ho
        · exact .criterion hw hm hr hke
        · exact .operand hw hm ho
  | _ => exact absurd hs (not_silent_error _ _ _)

/-- A node of which nothing bad was found fails only where the variables decide. -/
theorem node_error {spec : Json} (hs : Silent (nodeFindings location spec))
    (he : Projection.node scope (scope.resolve spec) = .error e) : FailsAtNode scope e spec := by
  have hd := Projection.hasOperator_of_error he
  cases spec with
  | str s =>
    rcases Template.isReference_or_text scope.get? s with hr | ⟨text, ht⟩
    · exact .reference hr he
    · rw [Vars.resolve, ht] at hd
      cases hd
  | obj fields =>
    have hk : (Entries.keys fields).any Projection.isOperatorKey = true := by
      rw [← Template.keys_resolveFields scope.get? fields]
      exact hd
    simp only [nodeFindings, hk, if_true] at hs
    split at hs
    next key operand =>
      split at hs
      next => exact absurd hs (not_silent_error _ _ _)
      next ho =>
        obtain rfl := Projection.Operator.key_of_ofKey? ho
        exact element_error hs (Projection.node_element (scope.resolve operand) ▸ he)
      next ho =>
        obtain rfl := Projection.Operator.key_of_ofKey? ho
        cases (Projection.node_eval (scope.resolve operand)).symm.trans he
    next => exact absurd hs (not_silent_error _ _ _)
  | _ => cases hd

theorem condition_of_silent {w : Workflow} {step : Step} {guard : Entries Json} {path : String}
    {condition : Json} (hw : Silent (findings builtin w)) (hs : step ∈ w.steps)
    (hg : step.condition = some guard) (hm : (path, condition) ∈ guard) :
    ∃ place, Silent (conditionFindings place condition) := by
  have hr : Silent (conditionOperators.findings w) := silent_of_rule hw (by simp [builtin])
  simp only [conditionOperators] at hr
  obtain ⟨place, hf⟩ := silent_at_step hr hs
  rw [hg] at hf
  exact ⟨_, silent_of_flatMap hf hm⟩

theorem node_of_silent {w : Workflow} {step : Step} {projection : Entries Json} {field : String}
    {part : Json} (hw : Silent (findings builtin w)) (hs : step ∈ w.steps)
    (hp : step.projection = some projection) (hm : (field, part) ∈ projection) :
    ∃ place, Silent (nodeFindings place part) := by
  have hr : Silent (projectionShape.findings w) := silent_of_rule hw (by simp [builtin])
  simp only [projectionShape] at hr
  obtain ⟨place, hf⟩ := silent_at_step hr hs
  rw [hp] at hf
  exact ⟨_, silent_of_flatMap hf hm⟩

/-- In a workflow in which the rules find no error, a guard and a projection end well for all
variables, all inputs and all results, except where the variables decide. -/
theorem ok_or_fails_where_deferred {w : Workflow} {step : Step}
    (hw : Silent (findings builtin w)) (hs : step ∈ w.steps) :
    (∀ (guard : Entries Json) (vars : Vars), step.condition = some guard →
      (∃ met, vars.meets guard = .ok met) ∨
        ∃ path condition e, (path, condition) ∈ guard ∧ vars.meets guard = .error e ∧
          FailsAtOperand vars.get? (vars.get? path) e condition) ∧
    ∀ projection params result, step.projection = some projection →
      (∃ fields, Projection.project projection params result = .ok fields) ∨
        ∃ field part fault, (field, part) ∈ projection ∧
          Projection.project projection params result =
            .error (Projection.inField field fault) ∧
          FailsAtNode (Projection.scopeOf params result) fault part := by
  constructor
  · intro guard vars hg
    cases he : vars.meets guard with
    | ok met => exact .inl ⟨met, rfl⟩
    | error e =>
      obtain ⟨path, condition, hm, hc⟩ := Vars.meets_error he
      obtain ⟨place, hf⟩ := condition_of_silent hw hs hg hm
      exact .inr ⟨path, condition, e, hm, rfl, eval_error condition hf hc⟩
  · intro projection params result hp
    cases he : Projection.project projection params result with
    | ok fields => exact .inl ⟨fields, rfl⟩
    | error e =>
      obtain ⟨field, part, fault, hm, rfl, hn⟩ := Projection.fieldsIn_error he
      obtain ⟨place, hf⟩ := node_of_silent hw hs hp hm
      exact .inr ⟨field, part, fault, hm, rfl, node_error hf hn⟩

/-- The kinds to choose from are left to the variables. -/
def kindGuard : Entries Json := [("kind", .obj [("$in", .str "$\x7bkinds\x7d")])]

def sort : Step where
  name := "sort"
  condition := some kindGuard
  projection := some [
    ("first", .obj [("$element", .obj [
      ("from", .str "#.items"), ("where", .obj [("id", .str "$\x7bwanted\x7d")])])])]
  output := some "result"

def sorting : Workflow where
  name := "sorting"
  steps := [sort]

theorem sorting_fails_where_deferred :
    Silent (findings builtin sorting) ∧ sort ∈ sorting.steps ∧
      ∃ path condition e, (path, condition) ∈ kindGuard ∧
        Vars.empty.meets kindGuard = .error e ∧
        FailsAtOperand Vars.empty.get? (Vars.empty.get? path) e condition := by
  have hw : Silent (findings builtin sorting) := by decide +kernel
  have hs : sort ∈ sorting.steps := List.mem_singleton_self _
  have he : Vars.empty.meets kindGuard = .error _ := rfl
  refine ⟨hw, hs, ?_⟩
  rcases (ok_or_fails_where_deferred hw hs).1 kindGuard .empty rfl with ⟨met, hm⟩ | hf
  · cases he.symm.trans hm
  · exact hf

end Validation

end Stepwise
