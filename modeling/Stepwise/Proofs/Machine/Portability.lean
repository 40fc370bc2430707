import Stepwise.Proofs.Json.Range
import Stepwise.Proofs.Machine.Consistency
import Stepwise.Proofs.Machine.Text

namespace Stepwise

open Json (portable_nil portable_insert portable_overlay portable_getD)

section Reading

open Source

variable {α : Type} {S : Source α} {P : α → Prop} {node : α}

theorem ImportOrigin.portable_of_read? {origin : ImportOrigin} (hc : S.Carries P) (hn : P node)
    (h : read? S node = some origin) : ∀ v ∈ origin.values, v.Portable := by
  unfold read? at h
  split at h
  next =>
    cases h
    exact List.forall_mem_nil _
  next =>
    simp only [readObject?, Option.bind_eq_bind, Option.bind_eq_some_iff] at h
    obtain ⟨fields, hf, r, hr, path, _, default, hd, h⟩ := h
    cases h
    intro v hv
    obtain ⟨found, hp, _, hv⟩ := exists_of_optional (forall_of_fieldsIn? (hc.fields hn hf) hr) hd
      (Option.mem_toList.mp hv)
    exact hc.value hp hv

theorem Imports.portable_of_read? {imports : Imports} (hc : S.Carries P) (hn : P node)
    (h : read? S node = some imports) : ∀ v ∈ imports.values, v.Portable := by
  simp only [read?, Option.bind_eq_bind, Option.bind_eq_some_iff] at h
  obtain ⟨_, _, h⟩ := h
  split at h
  next =>
    cases h
    exact List.forall_mem_nil _
  next =>
    obtain ⟨sources, hs, h⟩ := Option.bind_eq_some_iff.mp h
    cases h
    intro v hv
    obtain ⟨e, he, hv⟩ := List.mem_flatMap.mp hv
    obtain ⟨fields, hf, field, hm, hr⟩ := exists_of_mem_map? hs he
    exact ImportOrigin.portable_of_read? hc (hc.fields hn hf field hm) hr v hv

theorem portable_of_defaulted {r : Entries α} {name : String} {map : Entries Json}
    (hc : S.Carries P) (hP : ∀ e ∈ r, P e.2) (h : defaulted r name [] S.object? = some map) :
    (Json.obj map).Portable := by
  rcases exists_of_defaulted hP h with rfl | ⟨node, hn, ho⟩
  · exact portable_nil
  · exact hc.object hn ho

theorem portable_of_optional {r : Entries α} {name : String} {field : Option (Entries Json)}
    (hc : S.Carries P) (hP : ∀ e ∈ r, P e.2) (h : S.optional r name S.object? = some field) :
    ∀ v ∈ field.toList.map Json.obj, v.Portable := by
  intro v hv
  obtain ⟨map, hm, rfl⟩ := List.mem_map.mp hv
  obtain ⟨node, hn, _, ho⟩ := exists_of_optional hP h (Option.mem_toList.mp hm)
  exact hc.object hn ho

theorem Lookup.portable_of_read? {f : Lookup} (hc : S.Carries P) (hn : P node)
    (h : read? S node = some f) : ∀ v ∈ f.values, v.Portable := by
  simp only [read?, Option.bind_eq_bind, Option.bind_eq_some_iff] at h
  obtain ⟨r, hr, provider, _, query, hq, limit, _, select, _, missing, _, h⟩ := h
  cases h
  exact List.forall_mem_singleton.mpr (portable_of_defaulted hc (hc.record hn hr) hq)

theorem Step.portable_of_read? {s : Step} (hc : S.Carries P) (hn : P node)
    (h : read? S node = some s) : ∀ v ∈ s.values, v.Portable := by
  simp only [read?, Option.bind_eq_bind, Option.bind_eq_some_iff] at h
  obtain ⟨r, hr, name, _, title, _, description, _, params, hp, output, _, condition, hcond,
    imports, hi, fetch, hf, projection, hj, parallel, _, await, _, h⟩ := h
  cases h
  have hP := hc.record hn hr
  have himports : ∀ v ∈ imports.toList.flatMap Imports.values, v.Portable := by
    intro v hv
    obtain ⟨found, hm, hv⟩ := List.mem_flatMap.mp hv
    obtain ⟨node, hn, _, hr⟩ := exists_of_optional hP hi (Option.mem_toList.mp hm)
    exact Imports.portable_of_read? hc hn hr v hv
  have hfetch : ∀ v ∈ fetch.flatMap fun e => e.2.values, v.Portable := by
    intro v hv
    obtain ⟨e, he, hv⟩ := List.mem_flatMap.mp hv
    rcases exists_of_defaulted hP hf with rfl | ⟨node, hn, hm⟩
    · cases he
    · obtain ⟨fields, hf, field, hm, hr⟩ := exists_of_mem_map? hm he
      exact Lookup.portable_of_read? hc (hc.fields hn hf field hm) hr v hv
  have hall := List.forall_mem_append.mpr ⟨List.forall_mem_append.mpr ⟨List.forall_mem_append.mpr
    ⟨portable_of_optional hc hP hcond, himports⟩, hfetch⟩, portable_of_optional hc hP hj⟩
  exact List.forall_mem_cons.mpr ⟨portable_of_defaulted hc hP hp, hall⟩

theorem Workflow.portable_of_read? {w : Workflow} (hc : S.Carries P) (hn : P node)
    (h : read? S node = some w) : ∀ v ∈ w.values, v.Portable := by
  simp only [read?, Option.bind_eq_bind, Option.bind_eq_some_iff] at h
  obtain ⟨r, hr, name, _, description, _, steps, hs, vars, hv, result, _, options, _, h⟩ := h
  cases h
  have hP := hc.record hn hr
  refine List.forall_mem_cons.mpr ⟨portable_of_defaulted hc hP hv, fun v hm => ?_⟩
  obtain ⟨s, hm, hv⟩ := List.mem_flatMap.mp hm
  obtain ⟨list, hl, hs⟩ := exists_of_required hP hs
  obtain ⟨items, hi, item, hm, hr⟩ := exists_of_mem_list? hs hm
  exact Step.portable_of_read? hc (hc.items hl hi item hm) hr v hv

end Reading

/-- The values in the text of a workflow are those that a text gives back. -/
theorem Workflow.portable_of_parse {text : String} {w : Workflow} (h : parse text = .ok w) :
    ∀ v ∈ w.values, v.Portable := by
  unfold parse at h
  split at h
  next found hf =>
    cases h
    obtain ⟨document, hd, hr⟩ := Option.bind_eq_some_iff.mp hf
    exact Workflow.portable_of_read? Document.Node.source_carries (Document.inRange_of_parse? hd) hr
  next => cases h

theorem Workflow.portable_step {w : Workflow} {s : Step} (h : ∀ v ∈ w.values, v.Portable)
    (hs : s ∈ w.steps) : ∀ v ∈ s.values, v.Portable :=
  fun v hv => h v (List.mem_cons_of_mem _ (List.mem_flatMap.mpr ⟨s, hs, hv⟩))

theorem Imports.portable_default {imports : Imports} (h : ∀ v ∈ imports.values, v.Portable)
    {entry : Import} (he : entry ∈ imports.entries) : ∀ v, entry.default = some v → v.Portable := by
  intro v hv
  cases imports with
  | names list =>
    obtain ⟨name, _, rfl⟩ := List.mem_map.mp he
    cases hv
  | mapping sources =>
    obtain ⟨e, hm, rfl⟩ := List.mem_map.mp he
    refine h v (List.mem_flatMap.mpr ⟨e, hm, ?_⟩)
    cases ho : e.2 with
    | «variable» path => simp [ho, ImportOrigin.default?] at hv
    | withDefault path default =>
      simp only [ho, ImportOrigin.default?] at hv
      simp [ImportOrigin.values, hv]

theorem Vars.portable_importing {vars : Vars} (hv : vars.toJson.Portable) {imports : Imports}
    (h : ∀ v ∈ imports.values, v.Portable) : (Json.obj (vars.importing imports)).Portable := by
  refine List.foldlRecOn imports.entries (motive := fun input => (Json.obj input).Portable) _
    portable_nil fun input hi entry he => ?_
  split
  next value ho =>
    refine portable_insert hi _ ?_
    rcases Option.or_eq_some_iff.mp ho with hg | ⟨_, hd⟩
    · exact portable_get? hv hg
    · exact Imports.portable_default h he value hd
  next => exact hi

namespace Machine

variable {w : Workflow} {m : Machine} {step : Step} {value : Json} {vars : Vars}

theorem portable_imported (hv : vars.toJson.Portable) (hs : ∀ v ∈ step.values, v.Portable) :
    (Json.obj (imported vars step)).Portable := by
  unfold imported
  cases hi : step.imports with
  | none => exact portable_nil
  | some imports =>
    exact Vars.portable_importing hv fun v hm => hs v (by simp [Step.values, hi, hm])

theorem portable_payload {param : String} {spec : Lookup} (hv : vars.toJson.Portable)
    (hs : ∀ v ∈ step.values, v.Portable) (hf : (param, spec) ∈ step.fetch) :
    (Json.obj (spec.payload vars).query).Portable := by
  refine Vars.portable_resolveFields hv (hs _ ?_)
  have hm : .obj spec.query ∈ step.fetch.flatMap fun e => e.2.values :=
    List.mem_flatMap.mpr ⟨_, hf, List.mem_cons_self⟩
  simp [Step.values, hm]

theorem portable_submitted (h : m.Portable) (hs : ∀ v ∈ step.values, v.Portable) :
    (Json.obj (m.submitted step)).Portable :=
  portable_overlay h.params (Vars.portable_resolveFields h.vars (hs _ (by simp [Step.values])))

theorem portable_outcome {params : Entries Json} {outcome : Json}
    (hp : (Json.obj params).Portable) (hs : ∀ v ∈ step.values, v.Portable) (hv : value.Portable)
    (h : Machine.outcome params step value = .ok outcome) : outcome.Portable := by
  unfold Machine.outcome at h
  split at h
  next spec hj =>
    cases hr : Projection.project spec params value with
    | error e =>
      rw [hr] at h
      cases h
    | ok values =>
      rw [hr] at h
      cases h
      exact Projection.portable_project (hs _ (by simp [Step.values, hj])) hp hv hr
  next =>
    cases h
    exact hv

theorem portable_varsAfter (h : m.Portable) (hs : ∀ v ∈ step.values, v.Portable)
    (hr : value.Portable) (hv : m.varsAfter step value = .ok vars) : vars.toJson.Portable := by
  rcases varsAfter_eq_ok hv with ⟨_, rfl⟩ | ⟨path, outcome, _, ho, hset⟩
  · exact h.vars
  · exact Vars.portable_set? h.vars (portable_outcome h.params hs hr ho) hset

theorem portable_hydrate {spec : Lookup} {records : List Json}
    (h : ∀ record ∈ records, record.Portable) : (hydrate spec records).Portable := by
  unfold hydrate
  split
  next => exact portable_getD fun v hv => h v (List.mem_of_head? hv)
  next => exact Json.portable_arr.mpr h

theorem portable_step (hw : ∀ v ∈ m.workflow.values, v.Portable) (h : m.Portable) :
    m.step.2.Portable := by
  have hcurrent : ∀ step, m.current? = some step → ∀ v ∈ step.values, v.Portable :=
    fun step hs => Workflow.portable_step hw (List.mem_of_getElem? hs)
  have hm := stepped m
  generalize m.step = outcome at hm
  cases hm with
  | waits => exact h
  | rests => exact h
  | guardFails => exact h
  | storeFails => exact h
  | finishes =>
    refine ⟨h.vars, h.params, h.phase, List.forall_mem_singleton.mpr ?_⟩
    exact portable_getD fun v hv => Vars.portable_get? h.vars hv
  | skips => exact ⟨h.vars, portable_nil, List.forall_mem_nil _, h.control⟩
  | enters _ hs =>
    exact ⟨h.vars, portable_imported h.vars (hcurrent _ hs), List.forall_mem_nil _, h.control⟩
  | asks _ hs _ hf =>
    refine ⟨h.vars, h.params, h.phase, List.forall_mem_singleton.mpr ?_⟩
    exact portable_payload h.vars (hcurrent _ hs) (List.mem_of_getElem? hf)
  | gathered => exact ⟨h.vars, h.params, List.forall_mem_nil _, h.control⟩
  | submits _ hs =>
    have hp := portable_submitted h (hcurrent _ hs)
    exact ⟨h.vars, hp, h.phase, List.forall_mem_singleton.mpr hp⟩
  | stores _ hs hp hv =>
    have hr := h.phase _ (by rw [hp]; exact List.mem_cons_self)
    exact ⟨portable_varsAfter h (hcurrent _ hs) hr hv, portable_nil, List.forall_mem_nil _,
      h.control⟩

theorem portable_resume (h : m.Portable) (hv : value.Portable) : (m.resume value).2.Portable := by
  have hm := resumed m value
  generalize m.resume value = outcome at hm
  cases hm with
  | notWaiting => exact h
  | refused => exact h
  | takesRecords _ _ _ _ hr =>
    have hp := Json.portable_arr.mp (hr ▸ hv)
    exact ⟨h.vars, portable_insert h.params _ (portable_hydrate hp), List.forall_mem_nil _,
      List.forall_mem_nil _⟩
  | takesResult =>
    exact ⟨h.vars, h.params, List.forall_mem_singleton.mpr hv, List.forall_mem_nil _⟩

/-- Whatever is done with a machine, it holds no values but such that a text gives back, as long as
it is given no others. -/
theorem portable_after (hw : ∀ v ∈ w.values, v.Portable) (hv : vars.toJson.Portable)
    {operations : List Operation} (ho : ∀ value, .resume value ∈ operations → value.Portable) :
    ((start w vars).after operations).Portable := by
  have hs : Placed w (start w vars) ∧ (start w vars).Portable :=
    ⟨placed_start w vars, hv, portable_nil, List.forall_mem_nil _, List.forall_mem_nil _⟩
  refine (after_induction_of_mem (P := fun m => Placed w m ∧ m.Portable) ?_ ?_ hs).2
  · rintro m ⟨hp, hm⟩
    exact ⟨placed_step hp, portable_step (hp.workflow ▸ hw) hm⟩
  · rintro m value hr ⟨hp, hm⟩
    exact ⟨placed_resume hp value, portable_resume hm (ho value hr)⟩

end Machine

end Stepwise
