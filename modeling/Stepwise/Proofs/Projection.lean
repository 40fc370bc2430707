import Stepwise.Projection
import Stepwise.Proofs.Template.Structure

namespace Stepwise

/-- Tests that go on while they pass fail at the first one or after it. -/
theorem error_of_while {α : Type} {first : Except WorkflowError Bool}
    {rest : Except WorkflowError α} {stop : α} {e : WorkflowError}
    (h : (first.bind fun passed => if passed then rest else .ok stop) = .error e) :
    first = .error e ∨ first = .ok true ∧ rest = .error e := by
  cases first with
  | error fault => exact .inl (congrArg _ (Except.error.inj h))
  | ok passed =>
    cases passed with
    | true => exact .inr ⟨rfl, h⟩
    | false => cases h

/-- So do tests that go on until one passes. -/
theorem error_of_until {α : Type} {first : Except WorkflowError Bool}
    {rest : Except WorkflowError α} {stop : α} {e : WorkflowError}
    (h : (first.bind fun passed => if passed then .ok stop else rest) = .error e) :
    first = .error e ∨ first = .ok false ∧ rest = .error e := by
  cases first with
  | error fault => exact .inl (congrArg _ (Except.error.inj h))
  | ok passed =>
    cases passed with
    | true => cases h
    | false => exact .inr ⟨rfl, h⟩

/-- Tests that go on while they pass come to an answer at the first that does not, or after it. -/
theorem ok_of_while {α : Type} {first : Except WorkflowError Bool} {rest : Except WorkflowError α}
    {stop answer : α}
    (h : (first.bind fun passed => if passed then rest else .ok stop) = .ok answer) :
    first = .ok true ∧ rest = .ok answer ∨ first = .ok false ∧ stop = answer := by
  cases first with
  | error fault => cases h
  | ok passed =>
    cases passed with
    | true => exact .inl ⟨rfl, h⟩
    | false => exact .inr ⟨rfl, Except.ok.inj h⟩

/-- So do tests that go on until one passes. -/
theorem ok_of_until {α : Type} {first : Except WorkflowError Bool} {rest : Except WorkflowError α}
    {stop answer : α}
    (h : (first.bind fun passed => if passed then .ok stop else rest) = .ok answer) :
    first = .ok false ∧ rest = .ok answer ∨ first = .ok true ∧ stop = answer := by
  cases first with
  | error fault => cases h
  | ok passed =>
    cases passed with
    | true => exact .inr ⟨rfl, Except.ok.inj h⟩
    | false => exact .inl ⟨rfl, h⟩

/-- Every operator but `$or` is tested alone. -/
theorem Condition.evalOne_eq_test {key : String} {op : Condition.Operator}
    (hk : Condition.Operator.ofKey? key = some op) (ho : op ≠ .or) (value : Option Json)
    (j : Json) : Condition.evalOne value key j = op.test value j := by
  cases j with
  | arr branches =>
    cases op with
    | or => exact absurd rfl ho
    | _ => simp only [Condition.evalOne, hk]
  | _ => simp only [Condition.evalOne, hk]

theorem Condition.eval_single (op : Condition.Operator) (ho : op ≠ .or) (value : Option Json)
    (operand : Json) :
    Condition.eval value (.obj [(op.key, operand)]) = op.test value operand := by
  simp only [Condition.eval, Condition.checkKeys, Condition.Operator.ofKey?_key, Except.bind,
    Condition.evalAll, Condition.evalOne_eq_test (Condition.Operator.ofKey?_key op) ho]
  cases op.test value operand with
  | error e => rfl
  | ok passed => cases passed <;> rfl

/-- The test for equality never fails. -/
theorem Condition.eval_equality (value : Option Json) (operand : Json) :
    Condition.eval value (.obj [(Condition.Operator.eq.key, operand)]) =
      .ok (Condition.isLike value operand) :=
  Condition.eval_single .eq (by decide) value operand

/-- A guard fails at one of its conditions. -/
theorem Vars.meets_error {vars : Vars} {guard : List (String × Json)} {e : WorkflowError}
    (h : vars.meets guard = .error e) :
    ∃ path condition, (path, condition) ∈ guard ∧
      Condition.eval (vars.get? path) (vars.resolve condition) = .error e := by
  induction guard with
  | nil => cases h
  | cons first rest ih =>
    simp only [Vars.meets] at h
    rcases error_of_while h with hc | ⟨_, hr⟩
    · exact ⟨first.1, first.2, List.mem_cons_self, hc⟩
    · obtain ⟨path, condition, hm, he⟩ := ih hr
      exact ⟨path, condition, List.mem_cons_of_mem _ hm, he⟩

namespace Projection

theorem Operator.key_of_ofKey? {key : String} {op : Operator} (h : ofKey? key = some op) :
    op.key = key := by
  simpa using List.find?_some h

variable {scope : Vars} {spec criteria : Entries Json} {field : String} {part v item : Json}
  {e : WorkflowError}

/-- A projection succeeds at its first field and at all others. -/
theorem exists_of_fieldsIn_cons {values : Entries Json}
    (h : fieldsIn scope ((field, part) :: spec) = .ok values) :
    ∃ value others, node scope (scope.resolve part) = .ok value ∧
      fieldsIn scope spec = .ok others ∧ values = (field, value) :: others := by
  simp only [fieldsIn] at h
  cases hn : node scope (scope.resolve part) with
  | error fault =>
    rw [hn] at h
    cases h
  | ok value =>
    cases hr : fieldsIn scope spec with
    | error fault =>
      rw [hn, hr] at h
      cases h
    | ok others =>
      rw [hn, hr] at h
      exact ⟨value, others, rfl, rfl, (Except.ok.inj h).symm⟩

theorem node_ok_of_fieldsIn {values : Entries Json} (h : fieldsIn scope spec = .ok values)
    (hm : (field, part) ∈ spec) :
    ∃ value, node scope (scope.resolve part) = .ok value ∧ (field, value) ∈ values := by
  induction spec generalizing values with
  | nil => cases hm
  | cons first rest ih =>
    obtain ⟨value, others, hn, hr, rfl⟩ := exists_of_fieldsIn_cons h
    rcases List.mem_cons.mp hm with rfl | hm
    · exact ⟨value, hn, List.mem_cons_self⟩
    · obtain ⟨found, hf, hv⟩ := ih hr hm
      exact ⟨found, hf, List.mem_cons_of_mem _ hv⟩

theorem keys_of_fieldsIn {values : Entries Json} (h : fieldsIn scope spec = .ok values) :
    values.keys = spec.keys := by
  induction spec generalizing values with
  | nil =>
    obtain rfl : [] = values := Except.ok.inj h
    rfl
  | cons first rest ih =>
    obtain ⟨value, others, _, hr, rfl⟩ := exists_of_fieldsIn_cons h
    rw [Entries.keys_cons, Entries.keys_cons, ih hr]

/-- A projection fails at one of its fields, and the error names it. -/
theorem fieldsIn_error (h : fieldsIn scope spec = .error e) :
    ∃ field part fault, (field, part) ∈ spec ∧ e = inField field fault ∧
      node scope (scope.resolve part) = .error fault := by
  induction spec with
  | nil => cases h
  | cons first rest ih =>
    simp only [fieldsIn] at h
    cases hn : node scope (scope.resolve first.2) with
    | error fault =>
      rw [hn] at h
      have he : inField first.1 fault = e := Except.error.inj h
      exact ⟨first.1, first.2, fault, List.mem_cons_self, he.symm, hn⟩
    | ok value =>
      cases hr : fieldsIn scope rest with
      | error other =>
        rw [hn, hr] at h
        have he : other = e := Except.error.inj h
        obtain ⟨field, part, fault, hm, hf, hp⟩ := ih (he ▸ hr)
        exact ⟨field, part, fault, List.mem_cons_of_mem _ hm, hf, hp⟩
      | ok others =>
        rw [hn, hr] at h
        cases h

/-- An object with a key of an operator among its keys. -/
def hasOperator : Json → Bool
  | .obj fields => (Entries.keys fields).any isOperatorKey
  | _ => false

/-- Every other value is taken as it is. -/
theorem node_of_data (h : hasOperator v = false) : node scope v = .ok v := by
  cases v with
  | obj fields =>
    have hk : (Entries.keys fields).any isOperatorKey = false := h
    simp only [node, hk, Bool.false_eq_true, if_false]
  | _ => rfl

/-- A projection without operators resolves the templates in it. -/
theorem fieldsIn_of_data (h : ∀ entry ∈ spec, hasOperator (scope.resolve entry.2) = false) :
    fieldsIn scope spec = .ok (scope.resolveFields spec) := by
  induction spec with
  | nil => rfl
  | cons first rest ih =>
    obtain ⟨hf, hr⟩ := List.forall_mem_cons.mp h
    simp only [fieldsIn, node_of_data hf, ih hr]
    rfl

theorem hasOperator_of_error (h : node scope v = .error e) : hasOperator v = true := by
  cases hd : hasOperator v with
  | true => rfl
  | false =>
    rw [node_of_data hd] at h
    cases h

@[simp] theorem isOperatorKey_key (op : Operator) : isOperatorKey op.key = true := by
  cases op <;> rfl

theorem node_element (operand : Json) :
    node scope (.obj [(Operator.element.key, operand)]) = element scope operand := by
  simp [node]

theorem node_eval (operand : Json) :
    node scope (.obj [(Operator.eval.key, operand)]) = .ok (evaluate scope operand) := by
  simp [node]

/-- What a criterion is about: the element itself, or one of its fields. -/
def target (item : Json) (key : String) : Option Json :=
  if key = elementItself then some item else item.atPath? key

theorem elementMeets_cons (item : Json) (key : String) (c : Json) (rest : List (String × Json)) :
    elementMeets item ((key, c) :: rest) =
      (Condition.eval (target item key) (criterion c)).bind fun met =>
        if met then elementMeets item rest else .ok false := rfl

theorem elementMeets_error (h : elementMeets item criteria = .error e) :
    ∃ key c, (key, c) ∈ criteria ∧ Condition.eval (target item key) (criterion c) = .error e := by
  induction criteria with
  | nil => simp [elementMeets] at h
  | cons first rest ih =>
    obtain ⟨key, c⟩ := first
    rw [elementMeets_cons] at h
    rcases error_of_while h with hc | ⟨_, hr⟩
    · exact ⟨key, c, List.mem_cons_self, hc⟩
    · obtain ⟨other, d, hm, hd⟩ := ih hr
      exact ⟨other, d, List.mem_cons_of_mem _ hm, hd⟩

theorem firstMeeting_error {items : List Json} (h : firstMeeting criteria items = .error e) :
    ∃ item ∈ items, elementMeets item criteria = .error e := by
  induction items with
  | nil => simp [firstMeeting] at h
  | cons first rest ih =>
    simp only [firstMeeting] at h
    rcases error_of_until h with hm | ⟨_, hr⟩
    · exact ⟨first, List.mem_cons_self, hm⟩
    · obtain ⟨item, hi, he⟩ := ih hr
      exact ⟨item, List.mem_cons_of_mem _ hi, he⟩

/-- The operator `$element` fails by its criteria: they are malformed, or one of them fails. -/
theorem element_error {args : Entries Json} (h : element scope (.obj args) = .error e) :
    criteriaOf (args.get? "where") = .error e ∨
      ∃ criteria item, criteriaOf (args.get? "where") = .ok criteria ∧
        elementMeets item criteria = .error e := by
  simp only [element] at h
  cases hs : source? scope (args.get? "from") with
  | none => simp [hs, pure, Except.pure] at h
  | some items =>
    simp only [hs] at h
    cases hc : criteriaOf (args.get? "where") with
    | error fault => simpa [hc, bind, Except.bind] using h
    | ok criteria =>
      cases hf : firstMeeting criteria items with
      | error fault =>
        obtain ⟨item, _, hi⟩ := firstMeeting_error hf
        obtain rfl : fault = e := by simpa [hc, hf, bind, Except.bind] using h
        exact .inr ⟨criteria, item, rfl, hi⟩
      | ok found => cases found <;> simp [hc, hf, bind, Except.bind, pure, Except.pure] at h

/-- A criterion that is no object is the test for equality with it. -/
theorem criterion_of_literal (h : v.fields? = none) :
    criterion v = .obj [(Condition.Operator.eq.key, v)] := by
  cases v with
  | obj fields => simp [Json.fields?] at h
  | _ => rfl

theorem elementMeets_of_criterion {c d : Json} (h : criterion c = criterion d) (item : Json)
    (front back : List (String × Json)) (key : String) :
    elementMeets item (front ++ (key, c) :: back) =
      elementMeets item (front ++ (key, d) :: back) := by
  induction front with
  | nil => rw [List.nil_append, List.nil_append, elementMeets_cons, elementMeets_cons, h]
  | cons first rest ih =>
    rw [List.cons_append, List.cons_append, elementMeets_cons, elementMeets_cons, ih]

/-- An object that is a node of its own comes from a text only as the value of its placeholder. -/
theorem exists_inner_of_hasOperator {s : String} (h : hasOperator (scope.resolve (.str s)) = true) :
    ∃ inner, (Template.Fills inner ∧ s.toList = (Template.Piece.placeholder inner).written) ∧
      scope.get? (Template.pathOf inner) = some (scope.resolve (.str s)) := by
  refine Template.exists_inner_of_text?_eq_none ?_
  change (scope.resolve (.str s)).text? = none
  cases hr : scope.resolve (.str s) with
  | obj fields => rfl
  | _ =>
    rw [hr] at h
    cases h

/-- A field is projected to what its value gives as a node once the templates in it are resolved,
and that is the resolved value itself, unless it is an object with the key of an operator. Only at a
field with such an object does a projection fail; where there is none, it resolves the templates and
does nothing else. A text comes to such an object only if it is one placeholder, and the path in it
leads to the object in the data. A text among the criteria of `$element` is met by the elements that
are equal to what it resolves to, when that is no object. -/
theorem project_of_text (spec params : Entries Json) (result : Json) :
    let scope := scopeOf params result
    (∀ field part values, (field, part) ∈ spec → project spec params result = .ok values →
      ∃ value, (field, value) ∈ values ∧ node scope (scope.resolve part) = .ok value ∧
        (hasOperator (scope.resolve part) = false → value = scope.resolve part)) ∧
    (∀ e, project spec params result = .error e →
      ∃ field part fault, (field, part) ∈ spec ∧ e = inField field fault ∧
        node scope (scope.resolve part) = .error fault ∧
        hasOperator (scope.resolve part) = true) ∧
    ((∀ entry ∈ spec, hasOperator (scope.resolve entry.2) = false) →
      project spec params result = .ok (scope.resolveFields spec)) ∧
    (∀ s, hasOperator (scope.resolve (.str s)) = true →
      ∃ inner, (Template.Fills inner ∧ s.toList = (Template.Piece.placeholder inner).written) ∧
        scope.get? (Template.pathOf inner) = some (scope.resolve (.str s))) ∧
    ∀ s item front back key, (scope.resolve (.str s)).fields? = none →
      elementMeets item (front ++ (key, scope.resolve (.str s)) :: back) =
        elementMeets item
          (front ++ (key, .obj [(Condition.Operator.eq.key, scope.resolve (.str s))]) :: back) := by
  intro scope
  refine ⟨?_, ?_, fieldsIn_of_data, fun s => exists_inner_of_hasOperator, ?_⟩
  · intro field part values hm h
    obtain ⟨value, hn, hv⟩ := node_ok_of_fieldsIn h hm
    refine ⟨value, hv, hn, fun hd => ?_⟩
    exact Except.ok.inj (hn.symm.trans (node_of_data hd))
  · intro e h
    obtain ⟨field, part, fault, hm, he, hn⟩ := fieldsIn_error h
    exact ⟨field, part, fault, hm, he, hn, hasOperator_of_error hn⟩
  · intro s item front back key hl
    exact elementMeets_of_criterion (criterion_of_literal hl) item front back key

/-- The specification of a field that copies the title of a result. -/
def titled : Entries Json := [("title", .str "$\x7b#.title\x7d")]

/-- The result of an activity, with a title in one language. -/
def book (title : Json) : Json := .obj [("title", title)]

/-- An object is copied as it is; one that has the form of an operator is looked at. -/
theorem project_of_text_title :
    project titled [] (book (.obj [("en", .str "Days")])) =
        .ok [("title", .obj [("en", .str "Days")])] ∧
      project titled [] (book (.obj [("$en", .str "Days")])) = .error (.unknownProjection "$en") ∧
      ∃ field part fault, (field, part) ∈ titled ∧
        WorkflowError.unknownProjection "$en" = inField field fault ∧
        hasOperator ((scopeOf [] (book (.obj [("$en", .str "Days")]))).resolve part) = true := by
  have he : project titled [] (book (.obj [("$en", .str "Days")])) =
      .error (.unknownProjection "$en") := rfl
  have hd : ∀ entry ∈ titled, hasOperator
      ((scopeOf [] (book (.obj [("en", .str "Days")]))).resolve entry.2) = false := by
    decide +kernel
  refine ⟨(project_of_text titled [] (book (.obj [("en", .str "Days")]))).2.2.1 hd, he, ?_⟩
  obtain ⟨field, part, fault, hm, hf, -, ho⟩ := (project_of_text titled [] _).2.1 _ he
  exact ⟨field, part, fault, hm, hf, ho⟩

/-- A note that has the form of an operator. -/
def note : Json := .obj [("$eval", .str "secret")]

def noteParams : Entries Json :=
  [("secret", .str "1234"), ("want", .obj [("a", .bool true)])]

def noteResult : Json := .obj [("note", note)]

/-- The note of a result reads a parameter, where it should be copied. A wanted object is taken for
a condition, where it should be compared with. -/
theorem project_not_literal :
    (scopeOf noteParams noteResult).resolve (.str "$\x7b#.note\x7d") = note ∧
      project [("note", .str "$\x7b#.note\x7d")] noteParams noteResult =
        .ok [("note", .str "1234")] ∧
      elementMeets (.obj [("id", .obj [("a", .bool true)])])
          [("id", (scopeOf noteParams noteResult).resolve (.str "$\x7bwant\x7d"))] =
        .error (.unknownCondition "a") ∧
      elementMeets (.obj [("id", .obj [("a", .bool true)])])
          [("id", .obj [("$eq", (scopeOf noteParams noteResult).resolve
            (.str "$\x7bwant\x7d"))])] =
        .ok true := by
  refine ⟨?_, ?_, ?_, ?_⟩
  · decide +kernel
  · rfl
  · rfl
  · rfl

end Projection

end Stepwise
