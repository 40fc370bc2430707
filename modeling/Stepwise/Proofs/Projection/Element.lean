import Stepwise.Proofs.Faults
import Stepwise.Proofs.Template.Structure

namespace Stepwise.Projection

open Template (Fills)

variable {scope : Vars} {args spec criteria before : Entries Json} {item x : Json}
  {items passed : List Json} {origin : Option Json} {answer : Except WorkflowError Bool}
  {e : WorkflowError} {i : Nat} {path : String}

/-- The element meets every criterion. -/
def Meets (item : Json) (criteria : Entries Json) : Prop :=
  ∀ c ∈ criteria, Condition.eval (target item c.1) (criterion c.2) = .ok true

/-- The element meets some criteria up to one that has another answer. -/
def Stops (item : Json) (criteria : Entries Json) (answer : Except WorkflowError Bool) : Prop :=
  ∃ before c after, criteria = before ++ c :: after ∧ Meets item before ∧
    Condition.eval (target item c.1) (criterion c.2) = answer

/-- A criterion raises an error for the element, and it meets those before. -/
def Raises (item : Json) (criteria : Entries Json) (e : WorkflowError) : Prop :=
  Stops item criteria (.error e)

theorem meets_nil (item : Json) : Meets item [] := List.forall_mem_nil _

theorem elementMeets_append (h : Meets item before) (criteria : Entries Json) :
    elementMeets item (before ++ criteria) = elementMeets item criteria := by
  induction before with
  | nil => rfl
  | cons first rest ih =>
    obtain ⟨hf, hr⟩ := List.forall_mem_cons.mp h
    rw [List.cons_append, elementMeets_cons, hf]
    exact ih hr

theorem elementMeets_of_stops (ha : answer ≠ .ok true) (h : Stops item criteria answer) :
    elementMeets item criteria = answer := by
  obtain ⟨before, c, after, rfl, hb, hc⟩ := h
  rw [elementMeets_append hb, elementMeets_cons, hc]
  cases answer with
  | error fault => rfl
  | ok met =>
    cases met with
    | true => exact absurd rfl ha
    | false => rfl

theorem elementMeets_of_meets (h : Meets item criteria) :
    elementMeets item criteria = .ok true := by
  have hm := elementMeets_append h []
  rwa [List.append_nil] at hm

/-- Either all criteria are met, or one of them is the first that is not. -/
theorem meets_or_stops (item : Json) (criteria : Entries Json) :
    Meets item criteria ∨ ∃ answer, answer ≠ .ok true ∧ Stops item criteria answer := by
  induction criteria with
  | nil => exact .inl (meets_nil item)
  | cons first rest ih =>
    by_cases hf : Condition.eval (target item first.1) (criterion first.2) = .ok true
    · rcases ih with hm | ⟨answer, ha, before, c, after, rfl, hb, hc⟩
      · exact .inl (List.forall_mem_cons.mpr ⟨hf, hm⟩)
      · have hn : Meets item (first :: before) := List.forall_mem_cons.mpr ⟨hf, hb⟩
        exact .inr ⟨answer, ha, first :: before, c, after, rfl, hn, hc⟩
    · exact .inr ⟨_, hf, [], first, rest, rfl, meets_nil item, rfl⟩

theorem elementMeets_eq_true_iff : elementMeets item criteria = .ok true ↔ Meets item criteria := by
  refine ⟨fun h => ?_, elementMeets_of_meets⟩
  rcases meets_or_stops item criteria with hm | ⟨answer, ha, hs⟩
  · exact hm
  · exact absurd ((elementMeets_of_stops ha hs).symm.trans h) ha

theorem elementMeets_eq_error_iff :
    elementMeets item criteria = .error e ↔ Raises item criteria e := by
  refine ⟨fun h => ?_, elementMeets_of_stops (by simp)⟩
  rcases meets_or_stops item criteria with hm | ⟨answer, ha, hs⟩
  · cases (elementMeets_of_meets hm).symm.trans h
  · obtain rfl := (elementMeets_of_stops ha hs).symm.trans h
    exact hs

/-- No element before a position meets the criteria or raises an error. -/
def Undecided (criteria : Entries Json) (items : List Json) (i : Nat) : Prop :=
  ∀ k < i, ∀ item, items[k]? = some item →
    ¬Meets item criteria ∧ ∀ e, ¬Raises item criteria e

theorem elementMeets_eq_false_iff : elementMeets item criteria = .ok false ↔
    ¬Meets item criteria ∧ ∀ e, ¬Raises item criteria e := by
  rw [← elementMeets_eq_true_iff]
  simp only [← elementMeets_eq_error_iff]
  cases elementMeets item criteria with
  | error e => simp
  | ok met => cases met <;> simp

theorem undecided_zero : Undecided criteria items 0 := by
  intro k hk
  cases hk

theorem undecided_succ (hf : elementMeets item criteria = .ok false)
    (h : Undecided criteria items i) : Undecided criteria (item :: items) (i + 1) := by
  intro k hk other ho
  cases k with
  | zero =>
    obtain rfl : item = other := Option.some.inj ho
    exact elementMeets_eq_false_iff.mp hf
  | succ k => exact h k (Nat.lt_of_succ_lt_succ hk) other ho

/-- A first element decides the search, or none does. -/
theorem undecided_or_decided (criteria : Entries Json) (items : List Json) :
    Undecided criteria items items.length ∨ ∃ i item, items[i]? = some item ∧
      Undecided criteria items i ∧ (Meets item criteria ∨ ∃ e, Raises item criteria e) := by
  induction items with
  | nil => exact .inl undecided_zero
  | cons first rest ih =>
    cases hf : elementMeets first criteria with
    | error e =>
      exact .inr ⟨0, first, rfl, undecided_zero, .inr ⟨e, elementMeets_eq_error_iff.mp hf⟩⟩
    | ok met =>
      cases met with
      | true => exact .inr ⟨0, first, rfl, undecided_zero, .inl (elementMeets_eq_true_iff.mp hf)⟩
      | false =>
        rcases ih with hu | ⟨i, item, hi, hu, hd⟩
        · exact .inl (undecided_succ hf hu)
        · exact .inr ⟨i + 1, item, hi, undecided_succ hf hu, hd⟩

/-- The search goes on behind elements that do not decide it. -/
theorem firstMeeting_drop (h : Undecided criteria items i) :
    firstMeeting criteria items = firstMeeting criteria (items.drop i) := by
  induction i generalizing items with
  | zero => rfl
  | succ i ih =>
    cases items with
    | nil => rfl
    | cons first rest =>
      have hf := elementMeets_eq_false_iff.mpr (h 0 (Nat.succ_pos i) first rfl)
      rw [firstMeeting, hf, List.drop_succ_cons]
      exact ih fun k hk => h (k + 1) (Nat.succ_lt_succ hk)

theorem firstMeeting_at (h : Undecided criteria items i) (hi : items[i]? = some item) :
    firstMeeting criteria items = (elementMeets item criteria).bind fun met =>
      if met then .ok (some item) else firstMeeting criteria (items.drop (i + 1)) := by
  obtain ⟨hl, rfl⟩ := List.getElem?_eq_some_iff.mp hi
  rw [firstMeeting_drop h, List.drop_eq_getElem_cons hl, firstMeeting]

theorem firstMeeting_of_none (h : Undecided criteria items items.length) :
    firstMeeting criteria items = .ok none := by
  rw [firstMeeting_drop h, List.drop_length, firstMeeting]

/-- The array that a source stands for: itself, or the array that a path leads to. -/
inductive Denotes (scope : Vars) : Option Json → List Json → Prop
  | array (items : List Json) : Denotes scope (some (.arr items)) items
  | path {path : String} {items : List Json} (h : scope.get? (Text.trim path) = some (.arr items)) :
      Denotes scope (some (.str path)) items

/-- Criteria are given by an object; when there are none, or null, every element meets them. -/
inductive Criteria : Option Json → Entries Json → Prop
  | absent : Criteria none []
  | null : Criteria (some .null) []
  | object (criteria : Entries Json) : Criteria (some (.obj criteria)) criteria

/-- The node that picks an element. -/
def picking (args : Entries Json) : Json := .obj [(Operator.element.key, .obj args)]

/-- What a node is when it picks nothing. -/
def fallback (args : Entries Json) : Json := (args.get? "else").getD .null

theorem source?_eq_some_iff : source? scope origin = some items ↔ Denotes scope origin items := by
  constructor
  · intro h
    unfold source? at h
    split at h
    next found =>
      obtain rfl := Option.some.inj h
      exact .array found
    next path =>
      obtain ⟨v, hv, hi⟩ := Option.bind_eq_some_iff.mp h
      cases v with
      | arr found =>
        obtain rfl := Option.some.inj hi
        exact .path hv
      | _ => cases hi
    next => cases h
  · rintro (_ | hv)
    · rfl
    · rw [source?, hv]
      rfl

theorem criteriaOf_of_criteria (h : Criteria origin criteria) :
    criteriaOf origin = .ok criteria := by
  cases h with
  | absent => rfl
  | null => rfl
  | object => rfl

theorem node_picking (scope : Vars) (args : Entries Json) :
    node scope (picking args) = element scope (.obj args) := node_element _

theorem node_of_source (hs : Denotes scope (args.get? "from") items)
    (hc : Criteria (args.get? "where") criteria) :
    node scope (picking args) = (firstMeeting criteria items).map fun found =>
      (found.map (pick args)).getD (fallback args) := by
  have hw := criteriaOf_of_criteria hc
  simp only [node_picking, element, source?_eq_some_iff.mpr hs, hw, bind, Except.bind]
  cases firstMeeting criteria items with
  | error fault => rfl
  | ok found => cases found <;> rfl

theorem pick_of_no_field (h : ∀ path, args.get? "field" ≠ some (.str path)) (item : Json) :
    pick args item = item := by
  have hf : (args.get? "field").bind Json.text? = none := by
    cases hv : args.get? "field" with
    | none => rfl
    | some v =>
      cases v with
      | str path => exact absurd hv (h path)
      | _ => rfl
  simp only [pick, hf]

theorem pick_of_field (h : args.get? "field" = some (.str path)) (item : Json) :
    pick args item = (item.atPath? path).getD .null := by
  have hf : (args.get? "field").bind Json.text? = some path := by
    rw [h]
    rfl
  simp only [pick, hf]

theorem node_of_no_source (h : ∀ items, ¬Denotes scope (args.get? "from") items) :
    node scope (picking args) = .ok (fallback args) := by
  have hs : source? scope (args.get? "from") = none :=
    Option.eq_none_iff_forall_ne_some.mpr fun items hi => h items (source?_eq_some_iff.mp hi)
  simp only [node_picking, element, hs]
  rfl

/-- The errors of criteria keep their text when the field of a projection is named. -/
theorem inField_of_raises (h : Raises item criteria e) (field : String) : inField field e = e := by
  obtain ⟨_, _, _, _, _, hc⟩ := h
  cases Condition.eval_fault _ hc with
  | unknown key => rfl
  | invalid message => rfl

theorem resolve_picking (scope : Vars) (args : Entries Json) :
    scope.resolve (picking args) = picking (scope.resolveFields args) := by
  simp only [picking, Vars.resolve, Vars.resolveFields, Template.resolve, Template.resolveFields]

/-- A node is its source and what it does with the array. -/
theorem node_picking_congr {other : Entries Json}
    (hs : source? scope (args.get? "from") = source? scope (other.get? "from"))
    (h : ∀ key, key ≠ "from" → args.get? key = other.get? key) :
    node scope (picking args) = node scope (picking other) := by
  have hw := h "where" (by decide)
  have hf := h "field" (by decide)
  have he := h "else" (by decide)
  simp only [node_picking, element, pick, hs, hw, hf, he]

/-- Of two sources that resolve to the same array the one is as good as the other. -/
theorem node_resolve_picking_congr {first second : Json}
    (hf : Denotes scope (some (scope.resolve first)) items)
    (hs : Denotes scope (some (scope.resolve second)) items) (args : Entries Json) :
    node scope (scope.resolve (picking (args.insert "from" first))) =
      node scope (scope.resolve (picking (args.insert "from" second))) := by
  have hg : ∀ v key, (scope.resolveFields (args.insert "from" v)).get? key =
      if key = "from" then some (scope.resolve v) else (scope.resolveFields args).get? key := by
    intro v key
    simp only [Vars.resolveFields, Template.get?_resolveFields, Entries.get?_insert]
    split <;> rfl
  rw [resolve_picking, resolve_picking]
  refine node_picking_congr ?_ fun key hk => ?_
  · rw [hg, hg, if_pos rfl, if_pos rfl, source?_eq_some_iff.mpr hf, source?_eq_some_iff.mpr hs]
  · rw [hg, hg, if_neg hk, if_neg hk]

theorem denotes_of_path (hb : '\x7b' ∉ path.toList)
    (hp : scope.get? (Text.trim path) = some (.arr items)) :
    Denotes scope (some (scope.resolve (.str path))) items := by
  have hn : ∀ inner ∈ Template.textPaths path, scope.get? inner = none := by
    rw [Template.textPaths_eq_nil hb]
    exact List.forall_mem_nil _
  rw [Vars.resolve, Template.resolve_of_unbound hn]
  exact .path hp

theorem sole?_placeholder (hn : path ≠ "") (ho : '\x7b' ∉ path.toList) (hc : '\x7d' ∉ path.toList) :
    Template.sole? ("$\x7b" ++ path ++ "\x7d") = some path.toList := by
  refine Template.sole?_eq_some_iff.mpr ⟨⟨fun h => hn (String.toList_eq_nil_iff.mp h), ?_⟩, ?_⟩
  · intro c hm
    have h₁ : c ≠ '\x7b' := fun h => ho (h ▸ hm)
    have h₂ : c ≠ '\x7d' := fun h => hc (h ▸ hm)
    simp [Template.isInner, h₁, h₂]
  · simp [Template.Piece.written]

theorem denotes_of_placeholder {s : String} (hs : Template.sole? s = some path.toList)
    (hp : scope.get? (Text.trim path) = some (.arr items)) :
    Denotes scope (some (scope.resolve (.str s))) items := by
  have hv : scope.get? (Template.pathOf path.toList) = some (.arr items) := hp
  rw [Vars.resolve, Template.resolve_of_sole? hs, hv, Option.getD_some]
  exact .array items

/-- The operator `$element` picks the first element that meets its criteria, when no element before
raises an error: the whole of it, or what the path of a `field` leads to in it, null where the path
leads nowhere. An error that is met before is the error of the node, and names no
field of the projection. When no element meets the criteria, or the source stands for no array, the
node is its fallback; there is no other case. The templates in the arguments are resolved before,
and a path without braces that leads to an array and the placeholder of this path are the same
source. A projection that succeeds has the keys of its specification, each with what its node
gives. -/
theorem element_laws (scope : Vars) :
    (∀ args, scope.resolve (picking args) = picking (scope.resolveFields args)) ∧
    (∀ (args criteria : Entries Json) (items : List Json),
      Denotes scope (args.get? "from") items → Criteria (args.get? "where") criteria →
      (∀ i item, items[i]? = some item → Undecided criteria items i →
        (Meets item criteria →
          ((∀ path, args.get? "field" ≠ some (.str path)) →
            node scope (picking args) = .ok item) ∧
          ∀ path, args.get? "field" = some (.str path) →
            (∀ v, item.atPath? path = some v → node scope (picking args) = .ok v) ∧
            (item.atPath? path = none → node scope (picking args) = .ok .null)) ∧
        ∀ e, Raises item criteria e →
          node scope (picking args) = .error e ∧ ∀ field, inField field e = e) ∧
      (Undecided criteria items items.length → node scope (picking args) = .ok (fallback args)) ∧
      (Undecided criteria items items.length ∨ ∃ i item, items[i]? = some item ∧
        Undecided criteria items i ∧ (Meets item criteria ∨ ∃ e, Raises item criteria e))) ∧
    (∀ args : Entries Json, (∀ items, ¬Denotes scope (args.get? "from") items) →
      node scope (picking args) = .ok (fallback args)) ∧
    (∀ (args : Entries Json) (path : String) (items : List Json), path ≠ "" →
      '\x7b' ∉ path.toList → '\x7d' ∉ path.toList →
      scope.get? (Text.trim path) = some (.arr items) →
      node scope (scope.resolve (picking (args.insert "from" (.str path)))) =
        node scope (scope.resolve
          (picking (args.insert "from" (.str ("$\x7b" ++ path ++ "\x7d")))))) ∧
    ∀ (spec params : Entries Json) (result : Json) (values : Entries Json),
      project spec params result = .ok values →
      values.keys = spec.keys ∧ ∀ field part, (field, part) ∈ spec → ∃ value,
        node (scopeOf params result) ((scopeOf params result).resolve part) = .ok value ∧
          (field, value) ∈ values := by
  refine ⟨resolve_picking scope, ?search, fun args => node_of_no_source, ?source, ?keys⟩
  case search =>
    intro args criteria items hs hc
    have hn := node_of_source hs hc
    refine ⟨?_, ?_, undecided_or_decided criteria items⟩
    · intro i item hi hu
      have hf := firstMeeting_at hu hi
      refine ⟨fun hm => ?_, fun e hr => ⟨?_, inField_of_raises hr⟩⟩
      · have hp : node scope (picking args) = .ok (pick args item) := by
          rw [hn, hf, elementMeets_of_meets hm]
          rfl
        refine ⟨fun hw => hp.trans (congrArg _ (pick_of_no_field hw item)), fun path hk => ?_⟩
        rw [hp, pick_of_field hk item]
        exact ⟨fun v hv => by rw [hv, Option.getD_some], fun hv => by rw [hv, Option.getD_none]⟩
      · rw [hn, hf, elementMeets_eq_error_iff.mpr hr]
        rfl
    · intro hu
      rw [hn, firstMeeting_of_none hu]
      rfl
  case source =>
    intro args path items hn ho hc hp
    have hs := sole?_placeholder hn ho hc
    exact node_resolve_picking_congr (denotes_of_path ho hp) (denotes_of_placeholder hs hp) args
  case keys =>
    intro spec params result values h
    exact ⟨keys_of_fieldsIn h, fun field part hm => node_ok_of_fieldsIn h hm⟩

def draft : Json := .obj [("label", .str "draft")]

def final : Json := .obj [("label", .str "final"), ("pages", .ofNat 3)]

def choices : List Json := [draft, final]

/-- The versions in the result of an activity. -/
def versions : Json := .obj [("choices", .arr choices)]

/-- The arguments that look for a version among the result. -/
def lookFor (criteria : Entries Json) : Entries Json :=
  [("else", .str "none"), ("from", .str "#.choices"), ("where", .obj criteria)]

/-- The arguments that look for a part of the final version. -/
def lookForPart (path : String) : Entries Json :=
  (lookFor [("label", .str "final")]).insert "field" (.str path)

/-- A criterion that the final version meets, and one with an operator that does not exist. -/
def finalThenNear : Entries Json := [("label", .str "final"), ("pages", .obj [("$near", .null)])]

/-- The specification of one field, for any version. -/
def anyVersion : Entries Json := [("version", picking (lookFor []))]

/-- The final version is found behind the draft, its pages as well, but no date of it; so is the
error of a criterion after it. No version is an old text, and a number is no array. -/
theorem element_laws_versions :
    (Meets final [("label", .str "final")] ∧
      node (scopeOf [] versions) (picking (lookFor [("label", .str "final")])) = .ok final ∧
      node (scopeOf [] versions) (picking (lookForPart "pages")) = .ok (.ofNat 3) ∧
      node (scopeOf [] versions) (picking (lookForPart "date")) = .ok .null) ∧
    (Raises final finalThenNear (.unknownCondition "$near") ∧
      node (scopeOf [] versions) (picking (lookFor finalThenNear)) =
        .error (.unknownCondition "$near")) ∧
    node (scopeOf [] versions) (picking (lookFor [("_", .str "old")])) = .ok (.str "none") ∧
    node (scopeOf [] versions) (picking ((lookFor []).insert "from" (.ofNat 7))) =
      .ok (.str "none") ∧
    node (scopeOf [] versions) ((scopeOf [] versions).resolve
        (picking ((lookFor []).insert "from" (.str " #.choices ")))) =
      node (scopeOf [] versions) ((scopeOf [] versions).resolve
        (picking ((lookFor []).insert "from" (.str ("$\x7b" ++ " #.choices " ++ "\x7d"))))) ∧
    ∃ values, project anyVersion [] versions = .ok values ∧ values.keys = anyVersion.keys := by
  obtain ⟨_, hsearch, hnone, hsource, hproject⟩ := element_laws (scopeOf [] versions)
  have hp : (scopeOf [] versions).get? (Text.trim "#.choices") = some (.arr choices) := by
    decide +kernel
  have hs : (scopeOf [] versions).get? (Text.trim " #.choices ") = some (.arr choices) := by
    decide +kernel
  have hd : ∀ criteria, Denotes (scopeOf [] versions) ((lookFor criteria).get? "from") choices :=
    fun _ => .path hp
  have hk : ∀ path, Denotes (scopeOf [] versions) ((lookForPart path).get? "from") choices :=
    fun _ => .path hp
  have hc : ∀ criteria, Criteria ((lookFor criteria).get? "where") criteria := fun _ => .object _
  have hq : ∀ path, Criteria ((lookForPart path).get? "where") [("label", .str "final")] :=
    fun _ => .object _
  have hm : Meets final [("label", .str "final")] := elementMeets_eq_true_iff.mp (by rfl)
  have hr : Raises final finalThenNear (.unknownCondition "$near") :=
    elementMeets_eq_error_iff.mp (by rfl)
  have hf : Undecided [("label", .str "final")] choices 1 :=
    undecided_succ (by rfl) undecided_zero
  -- the draft does not meet the first criterion, so that the second one is not looked at
  have he : Undecided finalThenNear choices 1 := undecided_succ (by rfl) undecided_zero
  have ho : Undecided [("_", .str "old")] choices choices.length :=
    undecided_succ (by rfl) (undecided_succ (by rfl) undecided_zero)
  have hv : project anyVersion [] versions = .ok [("version", draft)] := by
    have ho : (project anyVersion [] versions).toOption = some [("version", draft)] := by
      decide +kernel
    cases hp : project anyVersion [] versions with
    | error e =>
      rw [hp] at ho
      cases ho
    | ok values =>
      rw [hp] at ho
      exact congrArg Except.ok (Option.some.inj ho)
  refine ⟨⟨hm, ?whole, ?part, ?absent⟩, ⟨hr, ?raises⟩, ?passed, ?number, ?path,
    [("version", draft)], hv, ?keys⟩
  case whole =>
    have hn : (lookFor [("label", .str "final")]).get? "field" = none := rfl
    exact (((hsearch _ _ _ (hd _) (hc _)).1 1 _ rfl hf).1 hm).1 (by simp [hn])
  case part =>
    have hpart := (hsearch _ _ _ (hk "pages") (hq "pages")).1 1 _ rfl hf
    exact ((hpart.1 hm).2 "pages" rfl).1 _ (by decide +kernel)
  case absent =>
    have hpart := (hsearch _ _ _ (hk "date") (hq "date")).1 1 _ rfl hf
    exact ((hpart.1 hm).2 "date" rfl).2 (by decide +kernel)
  case raises => exact (((hsearch _ _ _ (hd _) (hc _)).1 1 _ rfl he).2 _ hr).1
  case passed => exact (hsearch _ _ _ (hd _) (hc _)).2.1 ho
  case number =>
    refine hnone ((lookFor []).insert "from" (.ofNat 7)) fun items h => ?_
    cases h
  case path =>
    exact hsource (lookFor []) " #.choices " choices (by decide) (by decide) (by decide) hs
  case keys => exact (hproject anyVersion [] versions _ hv).1

end Stepwise.Projection
