import Stepwise.Proofs.Denoting
import Stepwise.Proofs.Json.Written
import Stepwise.Proofs.Workflow
import Stepwise.Workflow.Version

namespace Stepwise

open Document.Node (Follows follows_text follows_literal follows_flag follows_count
  follows_attempts follows_floating follows_milliseconds follows_value follows_list follows_map
  follows_object follows_choice)

theorem Duration.follows : Follows (read? Document.Node.source) (read? Json.source) := by
  intro n j duration hd hr
  unfold read? at hr ⊢
  have hm : Document.Node.source.milliseconds? n = Json.source.milliseconds? j := by
    simp only [Document.Node.source, Json.source, hd.number?]
  have hl : Document.Node.source.literal? n = Json.source.literal? j := hd.text?
  rw [hm, hl]
  exact hr

theorem RetryPolicy.follows : Follows (read? Document.Node.source) (read? Json.source) := by
  intro n j policy hd h
  simp only [read?, Option.bind_eq_bind, Option.bind_eq_some_iff] at h
  obtain ⟨r', hr', first, hf, coefficient, hc, attempts, ha, longest, hl, types, ht, h⟩ := h
  cases h
  obtain ⟨r, hr, hm⟩ := hd.record? hr'
  simp only [read?, hr, hm.optional Duration.follows hf, hm.optional follows_floating hc,
    hm.optional follows_attempts ha, hm.optional Duration.follows hl,
    hm.optional (follows_list follows_text) ht, Option.bind_eq_bind, Option.bind_some]
  rfl

theorem ActivityOptions.follows : Follows (read? Document.Node.source) (read? Json.source) := by
  intro n j options hd h
  simp only [read?, Option.bind_eq_bind, Option.bind_eq_some_iff] at h
  obtain ⟨r', hr', timeout, ht, retry, hp, h⟩ := h
  cases h
  obtain ⟨r, hr, hm⟩ := hd.record? hr'
  simp only [read?, hr, hm.optional Duration.follows ht, hm.optional RetryPolicy.follows hp,
    Option.bind_eq_bind, Option.bind_some]
  rfl

theorem ImportOrigin.follows_object : Follows (readObject? Document.Node.source)
    (readObject? Json.source) := by
  intro n j origin hd h
  simp only [readObject?, Option.bind_eq_bind, Option.bind_eq_some_iff] at h
  obtain ⟨fields, hf, r', hr', path, hp, default, hv, h⟩ := h
  cases h
  rcases hd.fields? with ⟨_, hj⟩ | ⟨nodes, values, hn, hj, hds, hk⟩
  · cases hj.symm.trans hf
  · obtain rfl : Entries.ofList values = fields := Option.some.inj (hj.symm.trans hf)
    obtain ⟨r, hr, hm⟩ := hds.fieldsIn? hk hr'
    have hs : Document.Node.source.fields? n = some nodes := hn
    simp only [readObject?, hs, hr, hm.required follows_literal hp, hm.optional follows_value hv,
      Option.bind_eq_bind, Option.bind_some]
    rfl

theorem ImportOrigin.follows : Follows (read? Document.Node.source) (read? Json.source) := by
  intro n j origin hd hr
  unfold read? at hr ⊢
  have hl : Document.Node.source.literal? n = Json.source.literal? j := hd.text?
  rw [hl]
  split at hr
  next => exact hr
  next => exact follows_object n j origin hd hr

/-- A node is a list of texts just when its value is. -/
theorem list_literal_eq {n : Document.Node} {j : Json} (hd : n.Denotes j) :
    Document.Node.source.list? Document.Node.source.literal? n =
      Json.source.list? Json.source.literal? j := by
  unfold Source.list?
  rcases hd.items? with ⟨hn, hj⟩ | ⟨items, values, hn, hj, hds⟩
  · simp only [Document.Node.source, Json.source, hn, hj]
    rfl
  · simp only [Document.Node.source, Json.source, hn, hj, Option.bind_some]
    clear hn hj
    induction hds with
    | nil => rfl
    | cons hd _ ih => simp only [List.mapM_cons, hd.text?, ih]

theorem Imports.follows : Follows (read? Document.Node.source) (read? Json.source) := by
  intro n j imports hd h
  simp only [read?, Option.bind_eq_bind, Option.bind_eq_some_iff] at h
  obtain ⟨value, hv, h⟩ := h
  have hn := follows_value n j value hd hv
  simp only [read?, hn, list_literal_eq hd, Option.bind_eq_bind, Option.bind_some]
  split at h
  next => exact h
  next =>
    obtain ⟨sources, hs, h⟩ := Option.bind_eq_some_iff.mp h
    cases h
    simp only [follows_map ImportOrigin.follows n j sources hd hs, Option.bind_some]
    rfl

theorem WhenMissing.follows : Follows (read? Document.Node.source) (read? Json.source) := by
  intro n j whenMissing hd hr
  unfold read? at hr ⊢
  cases hc : Json.source.choice? j with
  | none =>
    rw [hc] at hr
    cases hr
  | some name =>
    rw [hc] at hr
    rw [follows_choice n j name hd hc]
    exact hr

theorem Lookup.follows : Follows (read? Document.Node.source) (read? Json.source) := by
  intro n j spec hd h
  simp only [read?, Option.bind_eq_bind, Option.bind_eq_some_iff] at h
  obtain ⟨r', hr', provider, hp, query, hq, limit, hl, select, hs, missing, hm', h⟩ := h
  cases h
  obtain ⟨r, hr, hm⟩ := hd.record? hr'
  simp only [read?, hr, hm.required follows_text hp, hm.defaulted follows_object hq,
    hm.optional follows_count hl, hm.optional follows_text hs,
    hm.defaulted WhenMissing.follows hm', Option.bind_eq_bind, Option.bind_some]
  rfl

theorem Step.follows : Follows (read? Document.Node.source) (read? Json.source) := by
  intro n j step hd h
  simp only [read?, Option.bind_eq_bind, Option.bind_eq_some_iff] at h
  obtain ⟨r', hr', name, hn, title, ht, description, hx, params, hp, output, ho, condition, hc,
    imports, hi, fetch, hf, projection, hj, parallel, hl, await, ha, h⟩ := h
  cases h
  obtain ⟨r, hr, hm⟩ := hd.record? hr'
  simp only [read?, hr, hm.required follows_text hn, hm.optional follows_text ht,
    hm.optional follows_text hx, hm.defaulted follows_object hp, hm.optional follows_text ho,
    hm.optional follows_object hc, hm.optional Imports.follows hi,
    hm.defaulted (follows_map Lookup.follows) hf, hm.optional follows_object hj,
    hm.optional follows_flag hl, hm.optional follows_text ha, Option.bind_eq_bind,
    Option.bind_some]
  rfl

theorem Workflow.follows : Follows (read? Document.Node.source) (read? Json.source) := by
  intro n j w hd h
  simp only [read?, Option.bind_eq_bind, Option.bind_eq_some_iff] at h
  obtain ⟨r', hr', name, hn, description, hx, steps, hs, vars, hv, result, ht, options, ho, h⟩ := h
  cases h
  obtain ⟨r, hr, hm⟩ := hd.record? hr'
  simp only [read?, hr, hm.required follows_text hn, hm.optional follows_text hx,
    hm.required (follows_list Step.follows) hs, hm.defaulted follows_object hv,
    hm.optional follows_text ht, hm.optional ActivityOptions.follows ho, Option.bind_eq_bind,
    Option.bind_some]
  rfl

def ImportOrigin.values : ImportOrigin → List Json
  | .variable _ => []
  | .withDefault _ default => default.toList

def Imports.values : Imports → List Json
  | .names _ => []
  | .mapping sources => sources.flatMap fun e => e.2.values

def Lookup.values (f : Lookup) : List Json := [.obj f.query]

def Step.values (s : Step) : List Json :=
  .obj s.params :: s.condition.toList.map .obj ++ s.imports.toList.flatMap Imports.values ++
    s.fetch.flatMap (fun e => e.2.values) ++ s.projection.toList.map .obj

/-- The JSON values that a workflow holds. -/
def Workflow.values (w : Workflow) : List Json := .obj w.vars :: w.steps.flatMap Step.values

open Json (Writes FieldsWrite Portable)

theorem Duration.writes (d : Duration) : Writes d.toJson d.toJson := Json.writes_str _

theorem Floating.writes (x : Floating) : Writes x.toJson x.toJson := by
  cases x <;> exact ⟨trivial, rfl⟩

theorem RetryPolicy.writes {p : RetryPolicy} (h : p.WellFormed) :
    Writes (p.write .obj) (p.write Json.record) := by
  have ha : ∀ n ∈ p.maximumAttempts, Writes (Json.ofNat n) (Json.ofNat n) :=
    fun n hn => Json.writes_ofNat (Nat.lt_trans (h.maximumAttempts n hn) (by decide))
  have hd : ∀ (name : String) (field : Option Duration), FieldsWrite [name]
      (Json.whenSet name Duration.toJson field) (Json.whenSet name Duration.toJson field) :=
    fun name field => Json.fieldsWrite_whenSet name field fun d _ => d.writes
  have hl : ∀ types ∈ p.nonRetryableErrorTypes,
      Writes (.arr (types.map .str)) (.arr (types.map .str)) :=
    fun _ _ => Json.writes_arr fun s _ => Json.writes_str s
  have hf := ((((hd "initialInterval" p.initialInterval).append
    (Json.fieldsWrite_whenSet "backoffCoefficient" p.backoffCoefficient fun x _ => x.writes)).append
    (Json.fieldsWrite_whenSet "maximumAttempts" p.maximumAttempts ha)).append
    (hd "maximumInterval" p.maximumInterval)).append
    (Json.fieldsWrite_whenSet "nonRetryableErrorTypes" p.nonRetryableErrorTypes hl)
  exact hf.record (by decide)

theorem ActivityOptions.writes {o : ActivityOptions} (h : o.WellFormed) :
    Writes (o.write .obj) (o.write Json.record) := by
  have hf := (Json.fieldsWrite_whenSet "startToCloseTimeout" o.startToCloseTimeout
    fun d _ => d.writes).append
    (Json.fieldsWrite_whenSet "retry" o.retry fun p hp => RetryPolicy.writes (h.retry p hp))
  exact hf.record (by decide)

theorem ImportOrigin.writes {origin : ImportOrigin} (h : ∀ v ∈ origin.values, v.Portable) :
    Writes (origin.write .obj) (origin.write Json.record) := by
  cases origin with
  | «variable» path => exact Json.writes_str path
  | withDefault path default =>
    have hd : Writes (default.getD .null) (default.getD .null) := by
      cases default with
      | none => exact ⟨trivial, rfl⟩
      | some value => exact Json.writes_of_portable (h value List.mem_cons_self)
    have hf := FieldsWrite.cons "var" (Json.writes_str path) (.cons "default" hd .nil)
    exact hf.record (by decide)

theorem Imports.writes {imports : Imports} (hw : imports.WellFormed)
    (h : ∀ v ∈ imports.values, v.Portable) :
    Writes (imports.write .obj) (imports.write Json.record) := by
  cases imports with
  | names list => exact Json.writes_arr fun s _ => Json.writes_str s
  | mapping sources =>
    refine Json.writes_mapValues hw.1 fun e he => ImportOrigin.writes fun v hv => ?_
    exact h v (List.mem_flatMap.mpr ⟨e, he, hv⟩)

theorem Lookup.writes {f : Lookup} (hw : f.WellFormed) (h : ∀ v ∈ f.values, v.Portable) :
    Writes (f.write .obj) (f.write Json.record) := by
  have hq : Writes (.obj f.query) (.obj f.query) :=
    Json.writes_of_portable (h _ (List.mem_singleton_self _))
  have hf := (((FieldsWrite.cons "type" (Json.writes_str f.provider)
    (.cons "query" hq .nil)).append
    (Json.fieldsWrite_whenSet "limit" f.limit fun n hn => Json.writes_ofNat (hw.limit n hn))).append
    (Json.fieldsWrite_text "select" f.select)).append
    (.cons "onNotFound" (Json.writes_str f.whenMissing.name) .nil)
  exact hf.record (by decide)

theorem Step.writes {s : Step} (hw : s.WellFormed) (h : ∀ v ∈ s.values, v.Portable) :
    Writes (s.write .obj) (s.write Json.record) := by
  have hp : Writes (.obj s.params) (.obj s.params) :=
    Json.writes_of_portable (h _ (by simp [values]))
  have hc : ∀ fields ∈ s.condition, Writes (.obj fields) (.obj fields) := fun fields hf =>
    Json.writes_of_portable (h _ (by simp [values, Option.mem_def.mp hf]))
  have hi : ∀ imports ∈ s.imports, Writes (imports.write .obj) (imports.write Json.record) :=
    fun imports hm => Imports.writes (hw.imports imports hm) fun v hv =>
      h v (by simp [values, Option.mem_def.mp hm, hv])
  have hl : FieldsWrite ["fetch"]
      (if s.fetch.isEmpty then [] else [("fetch", .obj (s.fetch.mapValues (Lookup.write .obj)))])
      (if s.fetch.isEmpty then [] else
        [("fetch", .obj (s.fetch.mapValues (Lookup.write Json.record)))]) := by
    split
    next => exact ⟨List.nil_sublist _, by simp, rfl⟩
    next =>
      refine .cons "fetch" (Json.writes_mapValues hw.fetch fun e he => ?_) .nil
      refine Lookup.writes (hw.lookups e he) fun v hv => h v ?_
      have hm : v ∈ s.fetch.flatMap fun e => e.2.values := List.mem_flatMap.mpr ⟨e, he, hv⟩
      simp [values, hm]
  have hj : ∀ fields ∈ s.projection, Writes (.obj fields) (.obj fields) := fun fields hf =>
    Json.writes_of_portable (h _ (by simp [values, Option.mem_def.mp hf]))
  have hf := ((((((((((FieldsWrite.cons "name" (Json.writes_str s.name) .nil).append
    (Json.fieldsWrite_text "title" s.title)).append
    (Json.fieldsWrite_text "description" s.description)).append
    (.cons "params" hp .nil)).append (Json.fieldsWrite_text "output" s.output)).append
    (Json.fieldsWrite_whenSet "condition" s.condition hc)).append
    (Json.fieldsWrite_whenSet "import" s.imports hi)).append hl).append
    (Json.fieldsWrite_whenSet "projection" s.projection hj)).append
    (Json.fieldsWrite_whenSet "parallel" s.parallel fun b _ => Json.writes_bool b)).append
    (Json.fieldsWrite_text "await" s.await)
  exact hf.record (by decide)

theorem Workflow.writes {w : Workflow} (hw : w.WellFormed) (h : ∀ v ∈ w.values, v.Portable) :
    Writes (w.write .obj) (w.write Json.record) := by
  have hv : Writes (.obj w.vars) (.obj w.vars) :=
    Json.writes_of_portable (h _ List.mem_cons_self)
  have hs : ∀ s ∈ w.steps, Writes (s.write .obj) (s.write Json.record) := fun s hs =>
    Step.writes (hw.steps s hs) fun v hv =>
      h v (List.mem_cons_of_mem _ (List.mem_flatMap.mpr ⟨s, hs, hv⟩))
  have hf := ((((FieldsWrite.cons "name" (Json.writes_str w.name) .nil).append
    (Json.fieldsWrite_text "description" w.description)).append
    (.cons "activities" (Json.writes_arr hs) (.cons "vars" hv .nil))).append
    (Json.fieldsWrite_text "result" w.result)).append
    (Json.fieldsWrite_whenSet "options" w.options fun o ho =>
      ActivityOptions.writes (hw.options o ho))
  exact hf.record (by decide)

end Stepwise
