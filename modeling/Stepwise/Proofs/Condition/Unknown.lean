import Stepwise.Proofs.Faults
import Stepwise.Proofs.Validation.Operators

namespace Stepwise.Condition

variable {value : Option Json} {key : String} {c inner : Json} {e : WorkflowError}
  {fields before after : List (String × Json)} {branches tried rest : List Json} {branch : Json}

/-- A key stands in a condition: at its top, or in a branch of an `$or` at any depth. -/
inductive HasKey (key : String) : Json → Prop
  | here {fields : List (String × Json)} (hm : key ∈ Entries.keys fields) : HasKey key (.obj fields)
  | inBranch {fields : List (String × Json)} {branches : List Json} {branch : Json}
      (hm : (Operator.or.key, .arr branches) ∈ fields) (hb : branch ∈ branches)
      (h : HasKey key branch) : HasKey key (.obj fields)

/-- The first key of an object that is no operator. -/
def FirstUnknown (key : String) (fields : List (String × Json)) : Prop :=
  ∃ before operand after, fields = before ++ (key, operand) :: after ∧
    Operator.ofKey? key = none ∧ ∀ e ∈ before, (Operator.ofKey? e.1).isSome

/-- The evaluation of a condition comes to a condition in it: the condition itself, or one that it
comes to in a branch of an `$or`, when all keys beside the `$or` are known, the operators before it
pass and the branches before that one are not met. -/
inductive Reaches (value : Option Json) (inner : Json) : Json → Prop
  | here : Reaches value inner inner
  | inBranch {before after : List (String × Json)} {tried rest : List Json} {branch : Json}
      (hk : checkKeys (before ++ (Operator.or.key, .arr (tried ++ branch :: rest)) :: after) =
        .ok ())
      (hp : ∀ e ∈ before, evalOne value e.1 e.2 = .ok true)
      (ht : ∀ b ∈ tried, eval value b = .ok false) (h : Reaches value inner branch) :
      Reaches value inner
        (.obj (before ++ (Operator.or.key, .arr (tried ++ branch :: rest)) :: after))

theorem checkKeys_ok_or_unknown (fields : List (String × Json)) :
    checkKeys fields = .ok () ∨
      ∃ key, checkKeys fields = .error (.unknownCondition key) ∧ FirstUnknown key fields := by
  induction fields with
  | nil => exact .inl rfl
  | cons field rest ih =>
    simp only [checkKeys]
    cases hk : Operator.ofKey? field.1 with
    | none => exact .inr ⟨field.1, rfl, [], field.2, rest, rfl, hk, by simp⟩
    | some op =>
      rcases ih with ho | ⟨key, he, before, operand, after, hf, hn, hb⟩
      · exact .inl ho
      · refine .inr ⟨key, he, field :: before, operand, after, by simp [hf], hn, ?_⟩
        exact List.forall_mem_cons.mpr ⟨by simp [hk], hb⟩

theorem checkKeys_of_firstUnknown (h : FirstUnknown key fields) :
    checkKeys fields = .error (.unknownCondition key) := by
  obtain ⟨before, operand, after, rfl, hn, hb⟩ := h
  induction before with
  | nil => simp [checkKeys, hn]
  | cons first others ih =>
    obtain ⟨hf, hr⟩ := List.forall_mem_cons.mp hb
    obtain ⟨op, hk⟩ := Option.isSome_iff_exists.mp hf
    simp only [List.cons_append, checkKeys, hk]
    exact ih hr

theorem known_of_checkKeys (h : checkKeys fields = .ok ()) {e : String × Json} (hm : e ∈ fields) :
    (Operator.ofKey? e.1).isSome := by
  induction fields with
  | nil => cases hm
  | cons field rest ih =>
    simp only [checkKeys] at h
    split at h
    next op hk =>
      rcases List.mem_cons.mp hm with rfl | hm
      · simp [hk]
      · exact ih h hm
    next => cases h

theorem evalAll_append (hp : ∀ e ∈ before, evalOne value e.1 e.2 = .ok true) :
    evalAll value (before ++ after) = evalAll value after := by
  induction before with
  | nil => rfl
  | cons first others ih =>
    obtain ⟨hf, hr⟩ := List.forall_mem_cons.mp hp
    simp only [List.cons_append, evalAll, hf, Except.bind, ih hr, if_true]

theorem evalAny_append (ht : ∀ b ∈ tried, eval value b = .ok false) :
    evalAny value (tried ++ rest) = evalAny value rest := by
  induction tried with
  | nil => rfl
  | cons first others ih =>
    obtain ⟨hf, hr⟩ := List.forall_mem_cons.mp ht
    simp [evalAny, hf, Except.bind, ih hr]

/-- Operators fail at the first that fails, after others that pass. -/
theorem evalAll_error_split (h : evalAll value fields = .error e) :
    ∃ before key operand after, fields = before ++ (key, operand) :: after ∧
      (∀ e ∈ before, evalOne value e.1 e.2 = .ok true) ∧ evalOne value key operand = .error e := by
  induction fields with
  | nil => cases h
  | cons field others ih =>
    simp only [evalAll] at h
    rcases error_of_while h with ho | ⟨hp, hr⟩
    · exact ⟨[], field.1, field.2, others, rfl, by simp, ho⟩
    · obtain ⟨before, key, operand, after, hf, hb, he⟩ := ih hr
      refine ⟨field :: before, key, operand, after, by simp [hf], ?_, he⟩
      exact List.forall_mem_cons.mpr ⟨hp, hb⟩

/-- Branches fail at the first that fails, after others that are not met. -/
theorem evalAny_error_split (h : evalAny value branches = .error e) :
    ∃ tried branch rest, branches = tried ++ branch :: rest ∧
      (∀ b ∈ tried, eval value b = .ok false) ∧ eval value branch = .error e := by
  induction branches with
  | nil => cases h
  | cons first others ih =>
    simp only [evalAny] at h
    rcases error_of_until h with ho | ⟨hn, hr⟩
    · exact ⟨[], first, others, rfl, by simp, ho⟩
    · obtain ⟨tried, branch, rest, hb, ht, he⟩ := ih hr
      refine ⟨first :: tried, branch, rest, by simp [hb], ?_, he⟩
      exact List.forall_mem_cons.mpr ⟨hn, ht⟩

theorem eval_of_reaches (hr : Reaches value (.obj fields) c) (hf : FirstUnknown key fields) :
    eval value c = .error (.unknownCondition key) := by
  induction hr with
  | here =>
    rw [eval, checkKeys_of_firstUnknown hf]
    rfl
  | @inBranch before after tried rest branch hk hp ht _ ih =>
    have ho : evalOne value Operator.or.key (.arr (tried ++ branch :: rest)) =
        .error (.unknownCondition key) := by
      simp only [evalOne, Operator.ofKey?_key, evalAny_append ht, evalAny, ih]
      rfl
    rw [eval, hk]
    simp only [Except.bind, evalAll_append hp, evalAll, ho]

theorem evalOne_unknown (hk : (Operator.ofKey? key).isSome) {operand : Json} {name : String}
    (h : evalOne value key operand = .error (.unknownCondition name)) :
    ∃ branches, key = Operator.or.key ∧ operand = .arr branches ∧
      evalAny value branches = .error (.unknownCondition name) := by
  obtain ⟨op, hk⟩ := Option.isSome_iff_exists.mp hk
  have hn : ∀ j, op.test value j ≠ .error (.unknownCondition name) := by
    intro j hj
    obtain ⟨message, he⟩ := test_malformed hj
    cases he
  -- no other operator looks at a condition, so only a branch of an `$or` can report it
  by_cases ho : op = .or
  · subst ho
    cases operand with
    | arr branches =>
      simp only [evalOne, hk] at h
      exact ⟨branches, (Operator.key_of_ofKey? hk).symm, rfl, h⟩
    | _ =>
      simp only [evalOne, hk] at h
      exact absurd h (hn _)
  · rw [evalOne_eq_test hk ho] at h
    exact absurd h (hn _)

theorem reaches_of_eval : ∀ c : Json, eval value c = .error (.unknownCondition key) →
    ∃ fields, Reaches value (.obj fields) c ∧ FirstUnknown key fields
  | .obj fields, h => by
    rcases checkKeys_ok_or_unknown fields with hk | ⟨name, hk, hf⟩
    · simp only [eval, hk, Except.bind] at h
      obtain ⟨before, name, operand, after, hfields, hp, ho⟩ := evalAll_error_split h
      have hm : (name, operand) ∈ fields := by simp [hfields]
      obtain ⟨branches, rfl, rfl, ha⟩ := evalOne_unknown (known_of_checkKeys hk hm) ho
      obtain ⟨tried, branch, rest, hbranches, ht, hb⟩ := evalAny_error_split ha
      have hmb : branch ∈ branches := by simp [hbranches]
      obtain ⟨inner, hr, hf⟩ := reaches_of_eval branch hb
      subst hfields hbranches
      exact ⟨inner, .inBranch hk hp ht hr, hf⟩
    · simp only [eval, hk, Except.bind] at h
      cases h
      exact ⟨fields, .here, hf⟩
  | .null, h | .bool _, h | .num _, h | .str _, h | .arr _, h => by cases h
termination_by c => sizeOf c
decreasing_by exact Validation.sizeOf_branch_lt hm hmb

/-- An unknown operator among the keys of a condition is an error for every value, whatever else
stands in the condition. An unknown operator in a branch of an `$or` is an error exactly when the
evaluation comes to that branch; it is the first unknown key there that is reported. -/
theorem unknown_iff_reached (value : Option Json) (c : Json) (key : String) :
    (∀ fields, c = .obj fields → key ∈ Entries.keys fields → Operator.ofKey? key = none →
      ∃ first, FirstUnknown first fields ∧ eval value c = .error (.unknownCondition first)) ∧
    (eval value c = .error (.unknownCondition key) ↔
      ∃ fields, Reaches value (.obj fields) c ∧ FirstUnknown key fields) := by
  constructor
  · rintro fields rfl hm hn
    obtain ⟨e, he, rfl⟩ := List.mem_map.mp hm
    rcases checkKeys_ok_or_unknown fields with hk | ⟨first, _, hf⟩
    · have hs := known_of_checkKeys hk he
      simp [hn] at hs
    · exact ⟨first, hf, eval_of_reaches .here hf⟩
  · constructor
    · exact reaches_of_eval c
    · rintro ⟨fields, hr, hf⟩
      exact eval_of_reaches hr hf

/-- The first operator fails, and the second is unknown. -/
def misspelt : List (String × Json) := [("$eq", .str "no"), ("$zzz", .null)]

theorem unknown_iff_reached_misspelt :
    ("$zzz" ∈ Entries.keys misspelt ∧ Operator.ofKey? "$zzz" = none) ∧
      ∃ first, FirstUnknown first misspelt ∧
        eval (some (.str "yes")) (.obj misspelt) = .error (.unknownCondition first) := by
  have hm : "$zzz" ∈ Entries.keys misspelt := by decide
  have hn : Operator.ofKey? "$zzz" = none := by decide
  exact ⟨⟨hm, hn⟩,
    (unknown_iff_reached (some (.str "yes")) (.obj misspelt) "$zzz").1 misspelt rfl hm hn⟩

/-- An unknown operator in the second of two branches. -/
def behindBranch : Json :=
  .obj [("$or", .arr [.obj [("$eq", .str "yes")], .obj [("$zzz", .null)]])]

/-- An unknown operator in the only branch, with an operator before the `$or`. -/
def behindOperator : Json :=
  .obj [("$eq", .str "no"), ("$or", .arr [.obj [("$zzz", .null)]])]

/-- The text `yes` meets the first branch and fails the first operator, so neither is noticed. -/
theorem unknown_unnoticed :
    Operator.ofKey? "$zzz" = none ∧
      (HasKey "$zzz" behindBranch ∧ eval (some (.str "yes")) behindBranch = .ok true) ∧
      HasKey "$zzz" behindOperator ∧ eval (some (.str "yes")) behindOperator = .ok false := by
  have hz : HasKey "$zzz" (.obj [("$zzz", .null)]) := .here (by decide)
  have hb : HasKey "$zzz" behindBranch :=
    .inBranch List.mem_cons_self (List.mem_cons_of_mem _ List.mem_cons_self) hz
  have ho : HasKey "$zzz" behindOperator :=
    .inBranch (List.mem_cons_of_mem _ List.mem_cons_self) List.mem_cons_self hz
  have hbe : eval (some (.str "yes")) behindBranch = .ok true := by rfl
  have hoe : eval (some (.str "yes")) behindOperator = .ok false := by rfl
  exact ⟨by decide, ⟨hb, hbe⟩, ho, hoe⟩

end Stepwise.Condition
