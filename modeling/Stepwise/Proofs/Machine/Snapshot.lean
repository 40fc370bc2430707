import Stepwise.Machine.Snapshot
import Stepwise.Proofs.Workflow

namespace Stepwise

open Source

def Phase.WellFormed : Phase → Prop
  | .fetch index => index < Text.Numeral.wordBound
  | _ => True

structure RecordQuery.WellFormed (q : RecordQuery) : Prop where
  query : q.query.Sorted
  limit : ∀ n ∈ q.limit, n < Text.Numeral.wordBound

structure WorkCall.WellFormed (request : WorkCall) : Prop where
  stepIndex : request.stepIndex < Text.Numeral.wordBound
  params : request.params.Sorted

def Call.WellFormed : Call → Prop
  | .fetch request => request.payload.WellFormed
  | .activity request => request.WellFormed

def Control.WellFormed : Control → Prop
  | .suspended call => call.WellFormed
  | _ => True

theorem StepOutcome.read?_name (status : StepOutcome) :
    read? Json.source (.str status.name) = some status := by
  cases status <;> rfl

theorem StepTrace.read?_toJson (t : StepTrace) : read? Json.source t.toJson = some t := by
  obtain ⟨r, hr, hg⟩ : ∃ r, Json.source.record? [⟨"name", []⟩, ⟨"output", []⟩, ⟨"status", []⟩]
      t.toJson = some r ∧ _ :=
    Json.record?_record (plain_of_no_aliases (by decide) _)
  have hn : required r "name" Json.source.text? = some t.name :=
    Json.required_text (by simp [hg])
  have ho : Json.source.optional r "output" Json.source.text? = some t.output :=
    Json.optional_text (by simp [hg])
  have hs : required r "status" (StepOutcome.read? Json.source) = some t.status :=
    required_eq (by simp [hg]) (StepOutcome.read?_name t.status)
  simp only [read?, hr, hn, ho, hs, Option.bind_eq_bind, Option.bind_some]
  rfl

theorem RecordQuery.read?_toJson {q : RecordQuery} (h : q.WellFormed) :
    read? Json.source q.toJson = some q := by
  obtain ⟨r, hr, hg⟩ : ∃ r, Json.source.record? [⟨"query", []⟩, ⟨"limit", []⟩, ⟨"select", []⟩]
      q.toJson = some r ∧ _ :=
    Json.record?_record (plain_of_no_aliases (by decide) _)
  have hq : defaulted r "query" [] Json.source.object? = some q.query :=
    defaulted_eq (by simp [hg]) (Json.object?_obj h.query)
  have hl : Json.source.optional r "limit" Json.source.count? = some q.limit :=
    optional_eq Json.ofNat (by simp [hg]) fun n hn => ⟨rfl, Json.count?_ofNat (h.limit n hn)⟩
  have hs : Json.source.optional r "select" Json.source.text? = some q.select :=
    Json.optional_text (by simp [hg])
  simp only [read?, hr, hq, hl, hs, Option.bind_eq_bind, Option.bind_some]
  rfl

theorem Phase.tag?_record {fields : List (String × Json)} {tag : String}
    (ht : (Entries.ofList fields).get? "t" = some (.str tag)) :
    tag? Json.source (Json.record fields) = some tag := by
  obtain ⟨r, hr, hg⟩ : ∃ r, fieldsIn? (Entries.ofList fields) [⟨"t", []⟩] = some r ∧ _ :=
    Json.fieldsIn?_ofList (plain_of_no_aliases (by decide) _)
  have hl : required r "t" Json.source.literal? = some tag :=
    Json.required_text (by simpa [hg] using ht)
  change (fieldsIn? (Entries.ofList fields) [⟨"t", []⟩]).bind
    (fun r => required r "t" Json.source.literal?) = _
  rw [hr, Option.bind_some, hl]

theorem Phase.read?_toJson {phase : Phase} (h : phase.WellFormed) :
    read? Json.source phase.toJson = some phase := by
  cases phase with
  | guard => rfl
  | execute => rfl
  | fetch index =>
    obtain ⟨r, hr, hg⟩ :
        ∃ r, payload? Json.source [⟨"idx", []⟩] (toJson (.fetch index)) = some r ∧ _ :=
      Json.fieldsIn?_ofList (plain_of_no_aliases (by decide) _)
    have hi : required r "idx" Json.source.count? = some index :=
      required_eq (by simp [hg]) (Json.count?_ofNat h)
    have ht : tag? Json.source (toJson (.fetch index)) = some "Fetch" := tag?_record (by simp)
    simp only [read?, ht, hr, hi, Option.bind_eq_bind, Option.bind_some]
    rfl
  | store result =>
    obtain ⟨r, hr, hg⟩ :
        ∃ r, payload? Json.source [⟨"result", []⟩] (toJson (.store result)) = some r ∧ _ :=
      Json.fieldsIn?_ofList (plain_of_no_aliases (by decide) _)
    have hv : required r "result" Json.source.value? = some result :=
      required_eq (by simp [hg]) rfl
    have ht : tag? Json.source (toJson (.store result)) = some "Store" := tag?_record (by simp)
    simp only [read?, ht, hr, hv, Option.bind_eq_bind, Option.bind_some]
    rfl

theorem FetchCall.read?_toJson {request : FetchCall} (h : request.payload.WellFormed) :
    read? Json.source request.toJson = some request := by
  obtain ⟨r, hr, hg⟩ : ∃ r, Json.source.record?
      [⟨"step", []⟩, ⟨"param", []⟩, ⟨"provider", []⟩, ⟨"payload", []⟩] request.toJson =
        some r ∧ _ :=
    Json.record?_record (plain_of_no_aliases (by decide) _)
  have hs : required r "step" Json.source.text? = some request.step :=
    Json.required_text (by simp [hg])
  have hm : required r "param" Json.source.text? = some request.param :=
    Json.required_text (by simp [hg])
  have hp : required r "provider" Json.source.text? = some request.provider :=
    Json.required_text (by simp [hg])
  have hq : required r "payload" (RecordQuery.read? Json.source) = some request.payload :=
    required_eq (by simp [hg]; rfl) (RecordQuery.read?_toJson h)
  simp only [read?, hr, hs, hm, hp, hq, Option.bind_eq_bind, Option.bind_some]
  rfl

theorem WorkCall.read?_toJson {request : WorkCall} (h : request.WellFormed) :
    read? Json.source request.toJson = some request := by
  obtain ⟨r, hr, hg⟩ : ∃ r, Json.source.record?
      [⟨"step_index", []⟩, ⟨"activity", []⟩, ⟨"params", []⟩] request.toJson = some r ∧ _ :=
    Json.record?_record (plain_of_no_aliases (by decide) _)
  have hi : required r "step_index" Json.source.count? = some request.stepIndex :=
    required_eq (by simp [hg]) (Json.count?_ofNat h.stepIndex)
  have ha : required r "activity" Json.source.text? = some request.activity :=
    Json.required_text (by simp [hg])
  have hp : required r "params" Json.source.object? = some request.params :=
    required_eq (by simp [hg]) (Json.object?_obj h.params)
  simp only [read?, hr, hi, ha, hp, Option.bind_eq_bind, Option.bind_some]
  rfl

/-- A tag is found together with the content beside it. -/
theorem Source.tagged?_record {fields : List (String × Json)} {tag : String}
    {content : Option Json} (ht : (Entries.ofList fields).get? "t" = some (.str tag))
    (hv : (Entries.ofList fields).get? "v" = content) :
    Json.source.tagged? (Json.record fields) = some (tag, content) := by
  obtain ⟨r, hr, hg⟩ :
      ∃ r, fieldsIn? (Entries.ofList fields) [⟨"t", []⟩, ⟨"v", []⟩] = some r ∧ _ :=
    Json.fieldsIn?_ofList (plain_of_no_aliases (by decide) _)
  have hc : required r "t" Json.source.choice? = some tag :=
    required_eq (by simpa [hg] using ht) rfl
  have hv : Entries.get? r "v" = content := (hg "v" (by decide)).trans hv
  change (do
    let r ← fieldsIn? (Entries.ofList fields) [⟨"t", []⟩, ⟨"v", []⟩]
    let tag ← required r "t" Json.source.choice?
    return (tag, Entries.get? r "v")) = _
  simp only [hr, hc, hv, Option.bind_eq_bind, Option.bind_some]
  rfl

theorem Call.read?_toJson {call : Call} (h : call.WellFormed) :
    read? Json.source call.toJson = some call := by
  cases call with
  | fetch request =>
    have ht : Json.source.tagged? (toJson (.fetch request)) = some ("Fetch", some request.toJson) :=
      tagged?_record (by simp) (by simp; rfl)
    simp only [read?, ht, FetchCall.read?_toJson h, Option.bind_eq_bind, Option.bind_some]
    rfl
  | activity request =>
    have ht : Json.source.tagged? (toJson (.activity request)) =
        some ("Activity", some request.toJson) :=
      tagged?_record (by simp) (by simp; rfl)
    simp only [read?, ht, WorkCall.read?_toJson h, Option.bind_eq_bind, Option.bind_some]
    rfl

theorem Control.read?_toJson {control : Control} (h : control.WellFormed) :
    read? Json.source control.toJson = some control := by
  cases control with
  | running =>
    have ht : Json.source.tagged? (toJson .running) = some ("None", none) :=
      tagged?_record (by simp) (by simp)
    simp only [read?, ht, Option.bind_eq_bind, Option.bind_some]
    rfl
  | suspended call =>
    have ht : Json.source.tagged? (toJson (.suspended call)) = some ("Suspend", some call.toJson) :=
      tagged?_record (by simp) (by simp; rfl)
    simp only [read?, ht, Call.read?_toJson h, Option.bind_eq_bind, Option.bind_some]
    rfl
  | finished result =>
    have ht : Json.source.tagged? (toJson (.finished result)) = some ("Return", some result) :=
      tagged?_record (by simp) (by simp)
    simp only [read?, ht, Option.bind_eq_bind, Option.bind_some]
    rfl

namespace Machine

/-- What a stored machine has to be to be read back as it was. -/
structure WellFormed (m : Machine) : Prop where
  workflow : m.workflow.WellFormed
  vars : m.vars.entries.Sorted
  pc : m.pc < Text.Numeral.wordBound
  phase : m.phase.WellFormed
  params : m.params.Sorted
  control : m.control.WellFormed

theorem ofJson?_toJson {m : Machine} (h : m.WellFormed) : ofJson? m.toJson = some m := by
  obtain ⟨r, hr, hg⟩ : ∃ r, Json.source.record? layout m.toJson = some r ∧ _ :=
    Json.record?_record (plain_of_no_aliases (by decide) _)
  have hw : required r "workflow" (Workflow.read? Json.source) = some m.workflow :=
    required_eq (by simp [hg, layout]; rfl) (Workflow.ofJson?_toJson h.workflow)
  have hv : required r "vars" Json.source.object? = some m.vars.entries :=
    required_eq (by simp [hg, layout]; rfl) (Json.object?_obj h.vars)
  have hn : required r "pc" Json.source.count? = some m.pc :=
    required_eq (by simp [hg, layout]) (Json.count?_ofNat h.pc)
  have hf : required r "phase" (Phase.read? Json.source) = some m.phase :=
    required_eq (by simp [hg, layout]; rfl) (Phase.read?_toJson h.phase)
  have hp : required r "params" Json.source.object? = some m.params :=
    required_eq (by simp [hg, layout]) (Json.object?_obj h.params)
  have ht : required r "steps" (Json.source.list? (StepTrace.read? Json.source)) = some m.trace :=
    required_eq (by simp [hg, layout]; exact fun _ _ => rfl)
      (Json.list?_arr fun t _ => StepTrace.read?_toJson t)
  have hc : required r "control" (Control.read? Json.source) = some m.control :=
    required_eq (by simp [hg, layout]; rfl) (Control.read?_toJson h.control)
  simp only [ofJson?, read?, hr, hw, hv, hn, hf, hp, ht, hc, Option.bind_eq_bind, Option.bind_some]
  rfl

end Machine

end Stepwise
