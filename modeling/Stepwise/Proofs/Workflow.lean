import Stepwise.Proofs.Duration
import Stepwise.Proofs.Reading
import Stepwise.Workflow.Wire

namespace Stepwise

open Source

variable {α : Type} {S : Source α} {node : α}

structure RetryPolicy.WellFormed (p : RetryPolicy) : Prop where
  initialInterval : ∀ d ∈ p.initialInterval, d.InRange
  backoffCoefficient : ∀ x ∈ p.backoffCoefficient, ∃ d, x = .finite d
  maximumAttempts : ∀ n ∈ p.maximumAttempts, n < Text.Numeral.halfWordBound
  maximumInterval : ∀ d ∈ p.maximumInterval, d.InRange

structure ActivityOptions.WellFormed (o : ActivityOptions) : Prop where
  startToCloseTimeout : ∀ d ∈ o.startToCloseTimeout, d.InRange
  retry : ∀ p ∈ o.retry, p.WellFormed

theorem Duration.inRange_of_read? {d : Duration} (hS : S.Lawful) (h : read? S node = some d) :
    d.InRange := by
  unfold read? at h
  split at h
  next n hn =>
    cases h
    exact .inl (hS.milliseconds_lt hn)
  next =>
    obtain ⟨text, _, ht⟩ := Option.bind_eq_some_iff.mp h
    cases hp : parse text with
    | error fault =>
      rw [hp] at ht
      cases ht
    | ok found =>
      rw [hp] at ht
      cases ht
      exact inRange_of_parse hp

theorem RetryPolicy.wellFormed_of_read? {p : RetryPolicy} (hS : S.Lawful)
    (h : read? S node = some p) : p.WellFormed := by
  simp only [read?, Option.bind_eq_bind, Option.bind_eq_some_iff] at h
  obtain ⟨r, _, first, hf, coefficient, hc, attempts, ha, longest, hl, types, _, h⟩ := h
  cases h
  constructor
  · intro d hd
    obtain ⟨node, _, hr⟩ := of_optional hf hd
    exact Duration.inRange_of_read? hS hr
  · intro x hx
    obtain ⟨node, _, hr⟩ := of_optional hc hx
    exact hS.finite hr
  · intro n hn
    obtain ⟨node, _, hr⟩ := of_optional ha hn
    exact hS.attempts_lt hr
  · intro d hd
    obtain ⟨node, _, hr⟩ := of_optional hl hd
    exact Duration.inRange_of_read? hS hr

theorem ActivityOptions.wellFormed_of_read? {o : ActivityOptions} (hS : S.Lawful)
    (h : read? S node = some o) : o.WellFormed := by
  simp only [read?, Option.bind_eq_bind, Option.bind_eq_some_iff] at h
  obtain ⟨r, _, timeout, ht, retry, hp, h⟩ := h
  cases h
  constructor
  · intro d hd
    obtain ⟨node, _, hr⟩ := of_optional ht hd
    exact Duration.inRange_of_read? hS hr
  · intro p hp'
    obtain ⟨node, _, hr⟩ := of_optional hp hp'
    exact RetryPolicy.wellFormed_of_read? hS hr

theorem Duration.read?_toJson {d : Duration} (h : d.InRange) :
    read? Json.source d.toJson = some d := by
  change (parse d.format).toOption = some d
  rw [parse_format h]
  rfl

theorem RetryPolicy.read?_write {p : RetryPolicy} (h : p.WellFormed) :
    read? Json.source (p.write Json.record) = some p := by
  obtain ⟨r, hr, hg⟩ : ∃ r, Json.source.record? layout (p.write Json.record) = some r ∧ _ := by
    refine Json.record?_record (plain_of_names (fun key hk => ?_) (by decide))
    simp only [Entries.keys_append, List.mem_append] at hk
    rcases hk with (((hk | hk) | hk) | hk) | hk <;> rw [Json.mem_keys_whenSet hk] <;> decide
  have hf : Json.source.optional r "initialInterval" (Duration.read? Json.source) =
      some p.initialInterval :=
    optional_eq Duration.toJson (by simp [hg, layout]) fun d hd =>
      ⟨rfl, Duration.read?_toJson (h.initialInterval d hd)⟩
  have hc : Json.source.optional r "backoffCoefficient" Json.source.floating? =
      some p.backoffCoefficient := by
    refine optional_eq Floating.toJson (by simp [hg, layout]) fun x hx => ?_
    obtain ⟨d, rfl⟩ := h.backoffCoefficient x hx
    exact ⟨rfl, rfl⟩
  have ha : Json.source.optional r "maximumAttempts" Json.source.attempts? =
      some p.maximumAttempts :=
    optional_eq Json.ofNat (by simp [hg, layout]) fun n hn =>
      ⟨rfl, Json.attempts?_ofNat (h.maximumAttempts n hn)⟩
  have hl : Json.source.optional r "maximumInterval" (Duration.read? Json.source) =
      some p.maximumInterval :=
    optional_eq Duration.toJson (by simp [hg, layout]) fun d hd =>
      ⟨rfl, Duration.read?_toJson (h.maximumInterval d hd)⟩
  have ht : Json.source.optional r "nonRetryableErrorTypes"
      (Json.source.list? Json.source.text?) = some p.nonRetryableErrorTypes :=
    optional_eq (fun types => .arr (types.map .str)) (by simp [hg, layout]) fun types _ =>
      ⟨rfl, Json.list?_arr fun _ _ => rfl⟩
  simp only [read?, hr, hf, hc, ha, hl, ht, Option.bind_eq_bind, Option.bind_some]
  rfl

theorem ActivityOptions.read?_write {o : ActivityOptions} (h : o.WellFormed) :
    read? Json.source (o.write Json.record) = some o := by
  obtain ⟨r, hr, hg⟩ : ∃ r, Json.source.record? layout (o.write Json.record) = some r ∧ _ := by
    refine Json.record?_record (plain_of_names (fun key hk => ?_) (by decide))
    simp only [Entries.keys_append, List.mem_append] at hk
    rcases hk with hk | hk <;> rw [Json.mem_keys_whenSet hk] <;> decide
  have ht : Json.source.optional r "startToCloseTimeout" (Duration.read? Json.source) =
      some o.startToCloseTimeout :=
    optional_eq Duration.toJson (by simp [hg, layout]) fun d hd =>
      ⟨rfl, Duration.read?_toJson (h.startToCloseTimeout d hd)⟩
  have hp : Json.source.optional r "retry" (RetryPolicy.read? Json.source) = some o.retry :=
    optional_eq (RetryPolicy.write Json.record) (by simp [hg, layout]) fun p hp =>
      ⟨rfl, RetryPolicy.read?_write (h.retry p hp)⟩
  simp only [read?, hr, ht, hp, Option.bind_eq_bind, Option.bind_some]
  rfl

def ImportOrigin.WellFormed : ImportOrigin → Prop
  | .variable _ => True
  | .withDefault _ default => default ≠ some .null

def Imports.WellFormed : Imports → Prop
  | .names _ => True
  | .mapping sources => sources.Sorted ∧ ∀ e ∈ sources, e.2.WellFormed

structure Lookup.WellFormed (f : Lookup) : Prop where
  query : f.query.Sorted
  limit : ∀ n ∈ f.limit, n < Text.Numeral.wordBound

theorem ImportOrigin.wellFormed_of_read? {origin : ImportOrigin} (hS : S.Lawful)
    (h : read? S node = some origin) : origin.WellFormed := by
  unfold read? at h
  split at h
  next =>
    cases h
    trivial
  next =>
    simp only [readObject?, Option.bind_eq_bind, Option.bind_eq_some_iff] at h
    obtain ⟨fields, _, r, _, path, _, default, hd, h⟩ := h
    cases h
    rintro rfl
    obtain ⟨node, hn, hv⟩ := of_optional hd rfl
    exact hS.value_ne_null hn hv rfl

theorem Imports.wellFormed_of_read? {imports : Imports} (hS : S.Lawful)
    (h : read? S node = some imports) : imports.WellFormed := by
  simp only [read?, Option.bind_eq_bind, Option.bind_eq_some_iff] at h
  obtain ⟨_, _, h⟩ := h
  split at h
  next =>
    cases h
    trivial
  next =>
    obtain ⟨sources, hs, h⟩ := Option.bind_eq_some_iff.mp h
    cases h
    refine ⟨sorted_of_map? hs, fun e he => ?_⟩
    obtain ⟨node, hr⟩ := of_mem_map? hs he
    exact ImportOrigin.wellFormed_of_read? hS hr

/-- A map that may be left out is sorted. -/
theorem sorted_of_defaulted {r : Entries α} {name : String} {β : Type} {read : α → Option β}
    {map : Entries β} (h : defaulted r name [] (S.map? read) = some map) : map.Sorted := by
  rcases of_defaulted h with rfl | ⟨node, hm⟩
  · exact List.Pairwise.nil
  · exact sorted_of_map? hm

theorem Lookup.wellFormed_of_read? {f : Lookup} (hS : S.Lawful) (h : read? S node = some f) :
    f.WellFormed := by
  simp only [read?, Option.bind_eq_bind, Option.bind_eq_some_iff] at h
  obtain ⟨r, _, provider, _, query, hq, limit, hl, select, _, missing, _, h⟩ := h
  cases h
  refine ⟨sorted_of_defaulted hq, fun n hn => ?_⟩
  obtain ⟨node, _, hr⟩ := of_optional hl hn
  exact hS.count_lt hr

theorem ImportOrigin.read?_write {origin : ImportOrigin} (h : origin.WellFormed) :
    read? Json.source (origin.write Json.record) = some origin := by
  cases origin with
  | «variable» path => rfl
  | withDefault path default =>
    let fields : List (String × Json) := [("var", .str path), ("default", default.getD .null)]
    obtain ⟨r, hr, hg⟩ :
        ∃ r, fieldsIn? (Entries.ofList fields) [⟨"var", []⟩, ⟨"default", []⟩] = some r ∧ _ :=
      Json.fieldsIn?_ofList (plain_of_no_aliases (by decide) _)
    have hp : required r "var" Json.source.literal? = some path :=
      Json.required_text (by simp [hg, fields])
    have hd : Json.source.optional r "default" Json.source.value? = some default :=
      Json.optional_value (by simp [hg, fields]) h
    change readObject? Json.source (.obj (Entries.ofList fields)) = _
    have hf : Json.source.fields? (.obj (Entries.ofList fields)) = some (Entries.ofList fields) :=
      rfl
    simp only [readObject?, hf, hr, hp, hd, Option.bind_eq_bind, Option.bind_some]
    rfl

theorem Imports.read?_write {imports : Imports} (h : imports.WellFormed) :
    read? Json.source (imports.write Json.record) = some imports := by
  cases imports with
  | names list =>
    have hl : Json.source.list? Json.source.literal? (.arr (list.map .str)) = some list :=
      Json.list?_arr fun _ _ => rfl
    simp only [Imports.read?, Imports.write, hl]
    rfl
  | mapping sources =>
    have hm : Json.source.map? (ImportOrigin.read? Json.source)
        (.obj (sources.mapValues (ImportOrigin.write Json.record))) = some sources :=
      Json.map?_obj h.1 fun e he => ImportOrigin.read?_write (h.2 e he)
    change (Json.source.map? _ (.obj (sources.mapValues (ImportOrigin.write Json.record)))).bind
      (fun sources => some (mapping sources)) = _
    rw [hm]
    rfl

theorem WhenMissing.read?_name (missing : WhenMissing) :
    read? Json.source (.str missing.name) = some missing := by
  cases missing <;> rfl

theorem Lookup.read?_write {f : Lookup} (h : f.WellFormed) :
    read? Json.source (f.write Json.record) = some f := by
  obtain ⟨r, hr, hg⟩ : ∃ r, Json.source.record? layout (f.write Json.record) = some r ∧ _ :=
    Json.record?_record (plain_of_no_aliases (by decide) _)
  have hp : required r "type" Json.source.text? = some f.provider :=
    Json.required_text (by simp [hg, layout])
  have hq : defaulted r "query" [] Json.source.object? = some f.query :=
    defaulted_eq (by simp [hg, layout]) (Json.object?_obj h.query)
  have hl : Json.source.optional r "limit" Json.source.count? = some f.limit :=
    optional_eq Json.ofNat (by simp [hg, layout]) fun n hn =>
      ⟨rfl, Json.count?_ofNat (h.limit n hn)⟩
  have hs : Json.source.optional r "select" Json.source.text? = some f.select :=
    Json.optional_text (by simp [hg, layout])
  have hm : defaulted r "onNotFound" .ignore (WhenMissing.read? Json.source) =
      some f.whenMissing :=
    defaulted_eq (by simp [hg, layout]) (WhenMissing.read?_name f.whenMissing)
  simp only [read?, hr, hp, hq, hl, hs, hm, Option.bind_eq_bind, Option.bind_some]
  rfl

structure Step.WellFormed (s : Step) : Prop where
  params : s.params.Sorted
  condition : ∀ fields ∈ s.condition, fields.Sorted
  imports : ∀ imports ∈ s.imports, imports.WellFormed
  fetch : s.fetch.Sorted
  lookups : ∀ e ∈ s.fetch, e.2.WellFormed
  projection : ∀ fields ∈ s.projection, fields.Sorted

structure Workflow.WellFormed (w : Workflow) : Prop where
  steps : ∀ s ∈ w.steps, s.WellFormed
  vars : w.vars.Sorted
  options : ∀ o ∈ w.options, o.WellFormed

theorem Step.wellFormed_of_read? {s : Step} (hS : S.Lawful) (h : read? S node = some s) :
    s.WellFormed := by
  simp only [read?, Option.bind_eq_bind, Option.bind_eq_some_iff] at h
  obtain ⟨r, _, name, _, title, _, description, _, params, hp, output, _, condition, hc, imports,
    hi, fetch, hf, projection, hj, parallel, _, await, _, h⟩ := h
  cases h
  constructor
  · exact sorted_of_defaulted hp
  · intro fields hm
    obtain ⟨node, _, hr⟩ := of_optional hc hm
    exact sorted_of_map? hr
  · intro imports hm
    obtain ⟨node, _, hr⟩ := of_optional hi hm
    exact Imports.wellFormed_of_read? hS hr
  · exact sorted_of_defaulted hf
  · intro e he
    rcases of_defaulted hf with rfl | ⟨node, hm⟩
    · cases he
    · obtain ⟨node, hr⟩ := of_mem_map? hm he
      exact Lookup.wellFormed_of_read? hS hr
  · intro fields hm
    obtain ⟨node, _, hr⟩ := of_optional hj hm
    exact sorted_of_map? hr

theorem Workflow.wellFormed_of_read? {w : Workflow} (hS : S.Lawful) (h : read? S node = some w) :
    w.WellFormed := by
  simp only [read?, Option.bind_eq_bind, Option.bind_eq_some_iff] at h
  obtain ⟨r, _, name, _, description, _, steps, hs, vars, hv, result, _, options, ho, h⟩ := h
  cases h
  constructor
  · intro s hm
    obtain ⟨list, hl⟩ := of_required hs
    obtain ⟨node, hr⟩ := of_mem_list? hl hm
    exact Step.wellFormed_of_read? hS hr
  · exact sorted_of_defaulted hv
  · intro o hm
    obtain ⟨node, _, hr⟩ := of_optional ho hm
    exact ActivityOptions.wellFormed_of_read? hS hr

theorem Step.read?_write {s : Step} (h : s.WellFormed) :
    read? Json.source (s.write Json.record) = some s := by
  obtain ⟨r, hr, hg⟩ : ∃ r, Json.source.record? layout (s.write Json.record) = some r ∧ _ :=
    Json.record?_record (plain_of_no_aliases (by decide) _)
  have hn : required r "name" Json.source.text? = some s.name :=
    Json.required_text (by simp [hg, layout])
  have ht : Json.source.optional r "title" Json.source.text? = some s.title :=
    Json.optional_text (by simp [hg, layout])
  have hd : Json.source.optional r "description" Json.source.text? = some s.description :=
    Json.optional_text (by simp [hg, layout])
  have hp : defaulted r "params" [] Json.source.object? = some s.params :=
    defaulted_eq (by simp [hg, layout]) (Json.object?_obj h.params)
  have ho : Json.source.optional r "output" Json.source.text? = some s.output :=
    Json.optional_text (by simp [hg, layout])
  have hc : Json.source.optional r "condition" Json.source.object? = some s.condition :=
    optional_eq .obj (by simp [hg, layout]) fun fields hm =>
      ⟨rfl, Json.object?_obj (h.condition fields hm)⟩
  have hi : Json.source.optional r "import" (Imports.read? Json.source) = some s.imports :=
    optional_eq (Imports.write Json.record) (by simp [hg, layout]) fun imports hm =>
      ⟨by cases imports <;> rfl, Imports.read?_write (h.imports imports hm)⟩
  have hf : defaulted r "fetch" [] (Json.source.map? (Lookup.read? Json.source)) =
      some s.fetch := by
    by_cases he : s.fetch = []
    · rw [he]
      exact defaulted_absent (by simp [hg, layout, he])
    · exact defaulted_eq (by simp [hg, layout, he])
        (Json.map?_obj h.fetch fun e hm => Lookup.read?_write (h.lookups e hm))
  have hj : Json.source.optional r "projection" Json.source.object? = some s.projection :=
    optional_eq .obj (by simp [hg, layout]) fun fields hm =>
      ⟨rfl, Json.object?_obj (h.projection fields hm)⟩
  have hl : Json.source.optional r "parallel" Json.source.flag? = some s.parallel :=
    optional_eq .bool (by simp [hg, layout]) fun _ _ => ⟨rfl, rfl⟩
  have ha : Json.source.optional r "await" Json.source.text? = some s.await :=
    Json.optional_text (by simp [hg, layout])
  simp only [read?, hr, hn, ht, hd, hp, ho, hc, hi, hf, hj, hl, ha, Option.bind_eq_bind,
    Option.bind_some]
  rfl

/-- A well-formed workflow is read back from the JSON value that it is written as. -/
theorem Workflow.ofJson?_toJson {w : Workflow} (h : w.WellFormed) : ofJson? w.toJson = some w := by
  obtain ⟨r, hr, hg⟩ : ∃ r, Json.source.record? layout w.toJson = some r ∧ _ :=
    Json.record?_record (plain_of_no_aliases (by decide) _)
  have hn : required r "name" Json.source.text? = some w.name :=
    Json.required_text (by simp [hg, layout])
  have hd : Json.source.optional r "description" Json.source.text? = some w.description :=
    Json.optional_text (by simp [hg, layout])
  have hs : required r "activities" (Json.source.list? (Step.read? Json.source)) =
      some w.steps :=
    required_eq (by simp [hg, layout])
      (Json.list?_arr fun s hm => Step.read?_write (h.steps s hm))
  have hv : defaulted r "vars" [] Json.source.object? = some w.vars :=
    defaulted_eq (by simp [hg, layout]) (Json.object?_obj h.vars)
  have ht : Json.source.optional r "result" Json.source.text? = some w.result :=
    Json.optional_text (by simp [hg, layout])
  have ho : Json.source.optional r "options" (ActivityOptions.read? Json.source) =
      some w.options :=
    optional_eq (ActivityOptions.write Json.record) (by simp [hg, layout]) fun o hm =>
      ⟨rfl, ActivityOptions.read?_write (h.options o hm)⟩
  simp only [ofJson?, read?, hr, hn, hd, hs, hv, ht, ho, Option.bind_eq_bind, Option.bind_some]
  rfl

end Stepwise
