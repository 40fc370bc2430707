import Stepwise.Proofs.Machine.Snapshot
import Stepwise.Proofs.Workflow.Text

namespace Stepwise

open Document.Node (Follows follows_text follows_literal follows_count follows_value follows_list
  follows_object follows_choice)

variable {n : Document.Node} {j : Json}

theorem StepOutcome.follows : Follows (read? Document.Node.source) (read? Json.source) := by
  intro n j status hd hr
  unfold read? at hr ⊢
  cases hc : Json.source.choice? j with
  | none =>
    rw [hc] at hr
    cases hr
  | some name =>
    rw [hc] at hr
    rw [follows_choice n j name hd hc]
    exact hr

theorem StepTrace.follows : Follows (read? Document.Node.source) (read? Json.source) := by
  intro n j record hd h
  simp only [read?, Option.bind_eq_bind, Option.bind_eq_some_iff] at h
  obtain ⟨r', hr', name, hn, output, ho, status, hs, h⟩ := h
  cases h
  obtain ⟨r, hr, hm⟩ := hd.record? hr'
  simp only [read?, hr, hm.required follows_text hn, hm.optional follows_text ho,
    hm.required StepOutcome.follows hs, Option.bind_eq_bind, Option.bind_some]
  rfl

theorem RecordQuery.follows : Follows (read? Document.Node.source) (read? Json.source) := by
  intro n j query hd h
  simp only [read?, Option.bind_eq_bind, Option.bind_eq_some_iff] at h
  obtain ⟨r', hr', query, hq, limit, hl, select, hs, h⟩ := h
  cases h
  obtain ⟨r, hr, hm⟩ := hd.record? hr'
  simp only [read?, hr, hm.defaulted follows_object hq, hm.optional follows_count hl,
    hm.optional follows_text hs, Option.bind_eq_bind, Option.bind_some]
  rfl

theorem Phase.follows_tag : Follows (tag? Document.Node.source) (tag? Json.source) := by
  intro n j tag hd h
  unfold tag? at h ⊢
  rcases hd.fields? with ⟨hn, hj⟩ | ⟨nodes, values, hn, hj, hds, hk⟩
  · simp only [Json.source, hj, Option.bind_eq_bind, Option.bind_eq_some_iff] at h
    obtain ⟨values, hv, first, hf, ht⟩ := h
    rcases hd.items? with ⟨_, hi⟩ | ⟨items, others, hi, ho, hds⟩
    · cases hi.symm.trans hv
    · obtain rfl : others = values := Option.some.inj (ho.symm.trans hv)
      simp only [Document.Node.source, hn, hi, Option.bind_eq_bind, Option.bind_some]
      cases hds with
      | nil => cases hf
      | cons hx _ =>
        cases hf
        exact hx.text?.trans ht
  · simp only [Json.source, hj, Option.bind_eq_bind, Option.bind_eq_some_iff] at h
    obtain ⟨r', hr', ht⟩ := h
    obtain ⟨r, hr, hm⟩ := hds.fieldsIn? hk hr'
    simp only [Document.Node.source, hn, hr, Option.bind_eq_bind, Option.bind_some]
    exact hm.required follows_literal ht

theorem Phase.payload?_of_denotes {names : List FieldName} {r' : Entries Json} (hd : n.Denotes j)
    (h : payload? Json.source names j = some r') :
    ∃ r, payload? Document.Node.source names n = some r ∧ Document.Node.DenoteFields r r' := by
  unfold payload? at h ⊢
  rcases hd.fields? with ⟨hn, hj⟩ | ⟨nodes, values, hn, hj, hds, hk⟩
  · simp only [Json.source, hj, Option.bind_eq_bind, Option.bind_eq_some_iff] at h
    obtain ⟨values, hv, h⟩ := h
    rcases hd.items? with ⟨_, hi⟩ | ⟨items, others, hi, ho, hds⟩
    · cases hi.symm.trans hv
    · obtain rfl : others = values := Option.some.inj (ho.symm.trans hv)
      obtain ⟨hl, h⟩ := Option.ite_none_left_eq_some.mp h
      cases h
      simp only [Document.Node.source, hn, hi, Option.bind_eq_bind, Option.bind_some, hds.length_eq,
        if_neg hl]
      exact ⟨_, rfl, Document.Node.denoteFields_zip (List.forall₂_drop 1 hds) _⟩
  · simp only [Json.source, hj] at h
    simp only [Document.Node.source, hn]
    exact hds.fieldsIn? hk h

theorem Phase.follows : Follows (read? Document.Node.source) (read? Json.source) := by
  intro n j phase hd h
  simp only [read?, Option.bind_eq_bind, Option.bind_eq_some_iff] at h
  obtain ⟨tag, ht, h⟩ := h
  simp only [read?, follows_tag n j tag hd ht, Option.bind_eq_bind, Option.bind_some]
  split at h
  next =>
    obtain ⟨r', hr', h⟩ := Option.map_eq_some_iff.mp h
    obtain ⟨r, hr, _⟩ := payload?_of_denotes hd hr'
    rw [hr, Option.map_some, h]
  next =>
    simp only [Option.bind_eq_some_iff] at h
    obtain ⟨r', hr', index, hi, h⟩ := h
    cases h
    obtain ⟨r, hr, hm⟩ := payload?_of_denotes hd hr'
    simp only [hr, hm.required follows_count hi, Option.bind_some]
    rfl
  next =>
    obtain ⟨r', hr', h⟩ := Option.map_eq_some_iff.mp h
    obtain ⟨r, hr, _⟩ := payload?_of_denotes hd hr'
    rw [hr, Option.map_some, h]
  next =>
    simp only [Option.bind_eq_some_iff] at h
    obtain ⟨r', hr', result, hv, h⟩ := h
    cases h
    obtain ⟨r, hr, hm⟩ := payload?_of_denotes hd hr'
    simp only [hr, hm.required follows_value hv, Option.bind_some]
    rfl
  next => cases h

theorem FetchCall.follows : Follows (read? Document.Node.source) (read? Json.source) := by
  intro n j request hd h
  simp only [read?, Option.bind_eq_bind, Option.bind_eq_some_iff] at h
  obtain ⟨r', hr', step, hs, param, hp, provider, hv, payload, hq, h⟩ := h
  cases h
  obtain ⟨r, hr, hm⟩ := hd.record? hr'
  simp only [read?, hr, hm.required follows_text hs, hm.required follows_text hp,
    hm.required follows_text hv, hm.required RecordQuery.follows hq, Option.bind_eq_bind,
    Option.bind_some]
  rfl

theorem WorkCall.follows : Follows (read? Document.Node.source) (read? Json.source) := by
  intro n j request hd h
  simp only [read?, Option.bind_eq_bind, Option.bind_eq_some_iff] at h
  obtain ⟨r', hr', index, hi, activity, ha, params, hp, h⟩ := h
  cases h
  obtain ⟨r, hr, hm⟩ := hd.record? hr'
  simp only [read?, hr, hm.required follows_count hi, hm.required follows_text ha,
    hm.required follows_object hp, Option.bind_eq_bind, Option.bind_some]
  rfl

/-- A tag with a content beside it is found in a text where it is found in the value. -/
theorem Source.tagged?_of_denotes {tag : String} {content : Option Json} (hd : n.Denotes j)
    (h : Json.source.tagged? j = some (tag, content)) :
    ∃ node, Document.Node.source.tagged? n = some (tag, node) ∧
      Option.Rel Document.Node.Denotes node content := by
  unfold Source.tagged? at h ⊢
  rcases hd.fields? with ⟨hn, hj⟩ | ⟨nodes, values, hn, hj, hds, hk⟩
  · simp only [Json.source, hj, Option.bind_eq_bind, Option.bind_eq_some_iff] at h
    obtain ⟨values, hv, h⟩ := h
    rcases hd.items? with ⟨_, hi⟩ | ⟨items, others, hi, ho, hds⟩
    · cases hi.symm.trans hv
    · obtain rfl : others = values := Option.some.inj (ho.symm.trans hv)
      simp only [Document.Node.source, hn, hi, Option.bind_eq_bind, Option.bind_some]
      split at h
      next first second =>
        obtain ⟨found, hc, h⟩ := Option.bind_eq_some_iff.mp h
        cases h
        cases hds with
        | cons hx hrest =>
          cases hrest with
          | cons hy hnil =>
            cases hnil
            have hf := follows_choice _ first tag hx hc
            simp only [Document.Node.source] at hf
            exact ⟨_, by simp only [hf, Option.bind_some]; rfl, .some hy⟩
      next => cases h
  · simp only [Json.source, hj, Option.bind_eq_bind, Option.bind_eq_some_iff] at h
    obtain ⟨r', hr', found, ht, h⟩ := h
    cases h
    obtain ⟨r, hr, hm⟩ := hds.fieldsIn? hk hr'
    have hf := hm.required follows_choice ht
    simp only [Document.Node.source] at hf
    simp only [Document.Node.source, hn, hr, hf, Option.bind_eq_bind, Option.bind_some]
    refine ⟨_, rfl, ?_⟩
    rcases hm.get? "v" with ⟨ha, hb⟩ | ⟨node, value, ha, hb, hv⟩
    · rw [ha, hb]
      exact .none
    · rw [ha, hb]
      exact .some hv

theorem Call.follows : Follows (read? Document.Node.source) (read? Json.source) := by
  intro n j call hd h
  simp only [read?, Option.bind_eq_bind, Option.bind_eq_some_iff] at h
  obtain ⟨⟨tag, content⟩, ht, h⟩ := h
  obtain ⟨node, hn, hr⟩ := Source.tagged?_of_denotes hd ht
  simp only [read?, hn, Option.bind_eq_bind, Option.bind_some]
  split at h
  next tag content he =>
    obtain ⟨rfl, rfl⟩ := Prod.mk.inj he
    obtain ⟨request, hq, h⟩ := Option.bind_eq_some_iff.mp h
    cases h
    cases hr with
    | some hc =>
      simp only [FetchCall.follows _ _ request hc hq, Option.bind_some]
      rfl
  next tag content he =>
    obtain ⟨rfl, rfl⟩ := Prod.mk.inj he
    obtain ⟨request, hq, h⟩ := Option.bind_eq_some_iff.mp h
    cases h
    cases hr with
    | some hc =>
      simp only [WorkCall.follows _ _ request hc hq, Option.bind_some]
      rfl
  next => cases h

theorem Control.follows : Follows (read? Document.Node.source) (read? Json.source) := by
  intro n j control hd h
  simp only [read?, Option.bind_eq_bind, Option.bind_eq_some_iff] at h
  obtain ⟨⟨tag, content⟩, ht, h⟩ := h
  obtain ⟨node, hn, hr⟩ := Source.tagged?_of_denotes hd ht
  simp only [read?, hn, Option.bind_eq_bind, Option.bind_some]
  split at h
  next he =>
    obtain ⟨rfl, rfl⟩ := Prod.mk.inj he
    cases hr
    exact h
  next content he =>
    obtain ⟨rfl, rfl⟩ := Prod.mk.inj he
    cases hr with
    | some hc =>
      have hz : Document.Node.source.isNull _ = Json.source.isNull content := hc.isNull
      simp only [hz]
      exact h
  next content he =>
    obtain ⟨rfl, rfl⟩ := Prod.mk.inj he
    obtain ⟨call, hq, h⟩ := Option.bind_eq_some_iff.mp h
    cases h
    cases hr with
    | some hc =>
      simp only [Call.follows _ _ call hc hq, Option.bind_some]
      rfl
  next content he =>
    obtain ⟨rfl, rfl⟩ := Prod.mk.inj he
    obtain ⟨result, hq, h⟩ := Option.bind_eq_some_iff.mp h
    cases h
    cases hr with
    | some hc =>
      simp only [follows_value _ _ result hc hq, Option.bind_some]
      rfl
  next => cases h

theorem Machine.follows : Follows (read? Document.Node.source) (read? Json.source) := by
  intro n j m hd h
  simp only [read?, Option.bind_eq_bind, Option.bind_eq_some_iff] at h
  obtain ⟨r', hr', w, hw, vars, hv, pc, hn, phase, hf, params, hp, trace, ht, control, hc, h⟩ := h
  cases h
  obtain ⟨r, hr, hm⟩ := hd.record? hr'
  simp only [read?, hr, hm.required Workflow.follows hw, hm.required follows_object hv,
    hm.required follows_count hn, hm.required Phase.follows hf, hm.required follows_object hp,
    hm.required (follows_list StepTrace.follows) ht, hm.required Control.follows hc,
    Option.bind_eq_bind, Option.bind_some]
  rfl

def Phase.values : Phase → List Json
  | .store result => [result]
  | _ => []

def Call.values : Call → List Json
  | .fetch request => [.obj request.payload.query]
  | .activity request => [.obj request.params]

def Control.values : Control → List Json
  | .running => []
  | .suspended call => call.values
  | .finished result => [result]

/-- The values that a machine holds beside those of its workflow are given back by a text. -/
structure Machine.Portable (m : Machine) : Prop where
  vars : m.vars.toJson.Portable
  params : (Json.obj m.params).Portable
  phase : ∀ v ∈ m.phase.values, v.Portable
  control : ∀ v ∈ m.control.values, v.Portable

open Json (Writes FieldsWrite Portable)

theorem StepTrace.writes (t : StepTrace) : Writes (t.write .obj) (t.write Json.record) := by
  have hf := ((FieldsWrite.cons "name" (Json.writes_str t.name) .nil).append
    (Json.fieldsWrite_text "output" t.output)).append
    (.cons "status" (Json.writes_str t.status.name) .nil)
  exact hf.record (by decide)

theorem RecordQuery.writes {q : RecordQuery} (hw : q.WellFormed)
    (h : (Json.obj q.query).Portable) : Writes (q.write .obj) (q.write Json.record) := by
  have hf := ((FieldsWrite.cons "query" (Json.writes_of_portable h) .nil).append
    (Json.fieldsWrite_whenSet "limit" q.limit fun n hn => Json.writes_ofNat (hw.limit n hn))).append
    (Json.fieldsWrite_text "select" q.select)
  exact hf.record (by decide)

theorem Phase.writes {phase : Phase} (hw : phase.WellFormed) (h : ∀ v ∈ phase.values, v.Portable) :
    Writes (phase.write .obj) (phase.write Json.record) := by
  cases phase with
  | guard =>
    have hf := FieldsWrite.cons "t" (Json.writes_str "Guard") .nil
    exact hf.record (by decide)
  | fetch index =>
    have hf := FieldsWrite.cons "t" (Json.writes_str "Fetch")
      (.cons "idx" (Json.writes_ofNat hw) .nil)
    exact hf.record (by decide)
  | execute =>
    have hf := FieldsWrite.cons "t" (Json.writes_str "Execute") .nil
    exact hf.record (by decide)
  | store result =>
    have hr := Json.writes_of_portable (h result List.mem_cons_self)
    have hf := FieldsWrite.cons "t" (Json.writes_str "Store") (.cons "result" hr .nil)
    exact hf.record (by decide)

theorem FetchCall.writes {request : FetchCall} (hw : request.payload.WellFormed)
    (h : (Json.obj request.payload.query).Portable) :
    Writes (request.write .obj) (request.write Json.record) := by
  have hf := FieldsWrite.cons "step" (Json.writes_str request.step)
    (.cons "param" (Json.writes_str request.param)
      (.cons "provider" (Json.writes_str request.provider)
        (.cons "payload" (RecordQuery.writes hw h) .nil)))
  exact hf.record (by decide)

theorem WorkCall.writes {request : WorkCall} (hw : request.WellFormed)
    (h : (Json.obj request.params).Portable) :
    Writes (request.write .obj) (request.write Json.record) := by
  have hf := FieldsWrite.cons "step_index" (Json.writes_ofNat hw.stepIndex)
    (.cons "activity" (Json.writes_str request.activity)
      (.cons "params" (Json.writes_of_portable h) .nil))
  exact hf.record (by decide)

theorem Call.writes {call : Call} (hw : call.WellFormed) (h : ∀ v ∈ call.values, v.Portable) :
    Writes (call.write .obj) (call.write Json.record) := by
  cases call with
  | fetch request =>
    have hr := FetchCall.writes hw (h _ List.mem_cons_self)
    have hf := FieldsWrite.cons "t" (Json.writes_str "Fetch") (.cons "v" hr .nil)
    exact hf.record (by decide)
  | activity request =>
    have hr := WorkCall.writes hw (h _ List.mem_cons_self)
    have hf := FieldsWrite.cons "t" (Json.writes_str "Activity") (.cons "v" hr .nil)
    exact hf.record (by decide)

theorem Control.writes {control : Control} (hw : control.WellFormed)
    (h : ∀ v ∈ control.values, v.Portable) :
    Writes (control.write .obj) (control.write Json.record) := by
  cases control with
  | running =>
    have hf := FieldsWrite.cons "t" (Json.writes_str "None") .nil
    exact hf.record (by decide)
  | suspended call =>
    have hf := FieldsWrite.cons "t" (Json.writes_str "Suspend") (.cons "v" (Call.writes hw h) .nil)
    exact hf.record (by decide)
  | finished result =>
    have hr := Json.writes_of_portable (h result List.mem_cons_self)
    have hf := FieldsWrite.cons "t" (Json.writes_str "Return") (.cons "v" hr .nil)
    exact hf.record (by decide)

/-- The text of a machine denotes the value that it is stored as. -/
theorem Machine.writes {m : Machine} (hw : m.WellFormed) (hm : m.Portable)
    (hs : ∀ v ∈ m.workflow.values, v.Portable) : Writes (m.write .obj) m.toJson := by
  have htrace : Writes (.arr (m.trace.map (StepTrace.write .obj)))
      (.arr (m.trace.map (StepTrace.write Json.record))) :=
    Json.writes_arr fun t _ => StepTrace.writes t
  have hf := FieldsWrite.cons "workflow" (Workflow.writes hw.workflow hs)
    (.cons "vars" (Json.writes_of_portable hm.vars)
      (.cons "pc" (Json.writes_ofNat hw.pc)
        (.cons "phase" (Phase.writes hw.phase hm.phase)
          (.cons "params" (Json.writes_of_portable hm.params)
            (.cons "steps" htrace
              (.cons "control" (Control.writes hw.control hm.control) .nil))))))
  exact hf.record (by decide)

end Stepwise
