import Stepwise.Machine.Snapshot
import Stepwise.Proofs.Json.Depth

namespace Stepwise

open Document.Node (Fathoms fathoms_value fathoms_object fathoms_list fathoms_map record?_document
  fields?_document holds_of_fieldsIn? Holds)
open Json (depthFields depthFields_append depthFields_whenSet_le)

variable {room : Nat}

theorem Floating.depth_toJson (x : Floating) : x.toJson.depth = 0 := by
  cases x <;> rfl

theorem RetryPolicy.fathoms (p : RetryPolicy) :
    Fathoms (read? Document.Node.source) (p.write .obj) := by
  intro room found h
  simp only [read?, Option.bind_eq_bind, Option.bind_eq_some_iff] at h
  obtain ⟨r, hr, _, _, _, _, _, _, _, _, _, ht, _⟩ := h
  obtain ⟨inner, rfl, hg⟩ := record?_document hr
  have hl : depthFields (Json.whenSet "nonRetryableErrorTypes"
      (fun types => .arr (types.map .str)) p.nonRetryableErrorTypes) ≤ inner :=
    hg.whenSet (fun e he => by simp [he]) (by decide)
      (fun _ _ => fathoms_list fun _ _ _ _ _ => Nat.zero_le _) ht
  refine Nat.succ_le_succ ?_
  simpa [depthFields_append, depthFields_whenSet_le, Json.depth, Duration.toJson, Json.ofNat,
    Floating.depth_toJson] using hl

theorem ActivityOptions.fathoms (o : ActivityOptions) :
    Fathoms (read? Document.Node.source) (o.write .obj) := by
  intro room found h
  simp only [read?, Option.bind_eq_bind, Option.bind_eq_some_iff] at h
  obtain ⟨r, hr, _, _, _, hp, _⟩ := h
  obtain ⟨inner, rfl, hg⟩ := record?_document hr
  have hl : depthFields (Json.whenSet "retry" (RetryPolicy.write .obj) o.retry) ≤ inner :=
    hg.whenSet (fun e he => by simp [he]) (by decide) (fun p _ => p.fathoms) hp
  refine Nat.succ_le_succ ?_
  simpa [depthFields_append, depthFields_whenSet_le, Json.depth, Duration.toJson] using hl

theorem Imports.fathoms (imports : Imports) :
    Fathoms (read? Document.Node.source) (imports.write .obj) := by
  intro room found h
  simp only [read?, Option.bind_eq_bind, Option.bind_eq_some_iff] at h
  obtain ⟨value, hv, _⟩ := h
  exact fathoms_value _ room value hv

theorem Lookup.fathoms (f : Lookup) : Fathoms (read? Document.Node.source) (f.write .obj) := by
  intro room found h
  simp only [read?, Option.bind_eq_bind, Option.bind_eq_some_iff] at h
  obtain ⟨r, hr, _, _, _, hq, _⟩ := h
  obtain ⟨inner, rfl, hg⟩ := record?_document hr
  have hd : (Json.obj f.query).depth ≤ inner :=
    hg.defaulted (by simp) (by decide) (fathoms_object _) hq
  refine Nat.succ_le_succ ?_
  simpa [depthFields, depthFields_append, depthFields_whenSet_le, Json.depth, Json.ofNat] using hd

theorem Step.fathoms (s : Step) : Fathoms (read? Document.Node.source) (s.write .obj) := by
  intro room found h
  simp only [read?, Option.bind_eq_bind, Option.bind_eq_some_iff] at h
  obtain ⟨r, hr, _, _, _, _, _, _, _, hp, _, _, _, hc, _, hi, _, hf, _, hj, _⟩ := h
  obtain ⟨inner, rfl, hg⟩ := record?_document hr
  have hparams : (Json.obj s.params).depth ≤ inner :=
    hg.defaulted (by simp) (by decide) (fathoms_object _) hp
  have hcondition : depthFields (Json.whenSet "condition" .obj s.condition) ≤ inner :=
    hg.whenSet (fun e he => by simp [he]) (by decide) (fun _ _ => fathoms_object _) hc
  have himports : depthFields (Json.whenSet "import" (Imports.write .obj) s.imports) ≤ inner :=
    hg.whenSet (fun e he => by simp [he]) (by decide) (fun imports _ => imports.fathoms) hi
  have hfetch : depthFields (if s.fetch.isEmpty then [] else
      [("fetch", .obj (s.fetch.mapValues (Lookup.write .obj)))]) ≤ inner := by
    split
    next => exact Nat.zero_le inner
    next he =>
      refine Json.depthFields_le (List.forall_mem_singleton.mpr ?_)
      exact hg.defaulted (by simp [he]) (by decide) (fathoms_map fun e _ => e.2.fathoms) hf
  have hprojection : depthFields (Json.whenSet "projection" .obj s.projection) ≤ inner :=
    hg.whenSet (fun e he => by simp [he]) (by decide) (fun _ _ => fathoms_object _) hj
  refine Nat.succ_le_succ ?_
  have hall := And.intro hparams (And.intro hcondition (And.intro himports
    (And.intro hfetch hprojection)))
  simpa [depthFields, depthFields_append, depthFields_whenSet_le, Nat.max_le, and_assoc, Json.depth]
    using hall

theorem Workflow.fathoms (w : Workflow) : Fathoms (read? Document.Node.source) (w.write .obj) := by
  intro room found h
  simp only [read?, Option.bind_eq_bind, Option.bind_eq_some_iff] at h
  obtain ⟨r, hr, _, _, _, _, _, hs, _, hv, _, _, _, ho, _⟩ := h
  obtain ⟨inner, rfl, hg⟩ := record?_document hr
  have hsteps : (Json.arr (w.steps.map (Step.write .obj))).depth ≤ inner :=
    hg.required (by simp) (by decide) (fathoms_list fun s _ => s.fathoms) hs
  have hvars : (Json.obj w.vars).depth ≤ inner :=
    hg.defaulted (by simp) (by decide) (fathoms_object _) hv
  have hoptions : depthFields (Json.whenSet "options" (ActivityOptions.write .obj) w.options) ≤
      inner :=
    hg.whenSet (fun e he => by simp [he]) (by decide) (fun o _ => o.fathoms) ho
  refine Nat.succ_le_succ ?_
  have hall := And.intro hsteps (And.intro hvars hoptions)
  simpa [depthFields, depthFields_append, depthFields_whenSet_le, Nat.max_le, Json.depth] using hall

theorem StepTrace.fathoms (t : StepTrace) :
    Fathoms (read? Document.Node.source) (t.write .obj) := by
  intro room found h
  simp only [read?, Option.bind_eq_bind, Option.bind_eq_some_iff] at h
  obtain ⟨r, hr, _⟩ := h
  obtain ⟨inner, rfl, _⟩ := record?_document hr
  refine Nat.succ_le_succ ?_
  simp [depthFields, depthFields_append, depthFields_whenSet_le, Json.depth]

theorem RecordQuery.fathoms (q : RecordQuery) :
    Fathoms (read? Document.Node.source) (q.write .obj) := by
  intro room found h
  simp only [read?, Option.bind_eq_bind, Option.bind_eq_some_iff] at h
  obtain ⟨r, hr, _, hq, _⟩ := h
  obtain ⟨inner, rfl, hg⟩ := record?_document hr
  have hd : (Json.obj q.query).depth ≤ inner :=
    hg.defaulted (by simp) (by decide) (fathoms_object _) hq
  refine Nat.succ_le_succ ?_
  simpa [depthFields, depthFields_append, depthFields_whenSet_le, Json.depth, Json.ofNat] using hd

/-- The tag is read where it was written, with room for the levels beside it. -/
theorem Phase.tag?_document {texts : List (String × Json)} {tag found : String}
    (ht : ("t", .str tag) ∈ texts)
    (h : tag? Document.Node.source ⟨room, (Json.obj texts).document⟩ = some found) :
    found = tag ∧ 0 < room := by
  unfold tag? at h
  split at h
  next nodes hf =>
    obtain ⟨r, hr, hl⟩ := Option.bind_eq_some_iff.mp h
    obtain ⟨inner, rfl, hn⟩ := fields?_document hf
    rw [Source.required, holds_of_fieldsIn? hn hr _ ht (by simp)] at hl
    exact ⟨(Option.some.inj hl).symm, Nat.succ_pos inner⟩
  next =>
    obtain ⟨items, hi, _⟩ := Option.bind_eq_some_iff.mp h
    cases hi

theorem Phase.payload?_document {names : List FieldName} {texts : List (String × Json)}
    {r : Entries Document.Node}
    (h : payload? Document.Node.source names ⟨room, (Json.obj texts).document⟩ = some r) :
    ∃ inner, room = inner + 1 ∧ Holds r inner names texts := by
  unfold payload? at h
  split at h
  next nodes hf =>
    obtain ⟨inner, rfl, hn⟩ := fields?_document hf
    exact ⟨inner, rfl, holds_of_fieldsIn? hn h⟩
  next =>
    obtain ⟨items, hi, _⟩ := Option.bind_eq_some_iff.mp h
    cases hi

theorem Phase.fathoms (phase : Phase) :
    Fathoms (read? Document.Node.source) (phase.write .obj) := by
  intro room found h
  simp only [read?, Option.bind_eq_bind, Option.bind_eq_some_iff] at h
  obtain ⟨tag, ht, h⟩ := h
  cases phase with
  | guard => exact (tag?_document List.mem_cons_self ht).2
  | fetch index => exact (tag?_document List.mem_cons_self ht).2
  | execute => exact (tag?_document List.mem_cons_self ht).2
  | store result =>
    obtain ⟨rfl, _⟩ := tag?_document List.mem_cons_self ht
    simp only [Option.bind_eq_some_iff] at h
    obtain ⟨r, hr, value, hv, _⟩ := h
    obtain ⟨inner, rfl, hg⟩ := payload?_document hr
    have hd : result.depth ≤ inner := hg.required (by simp) (by decide) (fathoms_value _) hv
    refine Nat.succ_le_succ ?_
    simpa [depthFields, Json.depth] using hd

theorem FetchCall.fathoms (request : FetchCall) :
    Fathoms (read? Document.Node.source) (request.write .obj) := by
  intro room found h
  simp only [read?, Option.bind_eq_bind, Option.bind_eq_some_iff] at h
  obtain ⟨r, hr, _, _, _, _, _, _, _, hq, _⟩ := h
  obtain ⟨inner, rfl, hg⟩ := record?_document hr
  have hd : (request.payload.write .obj).depth ≤ inner :=
    hg.required (by simp) (by decide) request.payload.fathoms hq
  refine Nat.succ_le_succ ?_
  simpa [depthFields, Json.depth] using hd

theorem WorkCall.fathoms (request : WorkCall) :
    Fathoms (read? Document.Node.source) (request.write .obj) := by
  intro room found h
  simp only [read?, Option.bind_eq_bind, Option.bind_eq_some_iff] at h
  obtain ⟨r, hr, _, _, _, _, _, hp, _⟩ := h
  obtain ⟨inner, rfl, hg⟩ := record?_document hr
  have hd : (Json.obj request.params).depth ≤ inner :=
    hg.required (by simp) (by decide) (fathoms_object _) hp
  refine Nat.succ_le_succ ?_
  simpa [depthFields, Json.depth, Json.ofNat] using hd

/-- A tag and the content beside it are read where they were written. -/
theorem Source.tagged?_document {texts : List (String × Json)} {tag found : String}
    {content : Option Document.Node} (ht : ("t", .str tag) ∈ texts)
    (h : Document.Node.source.tagged? ⟨room, (Json.obj texts).document⟩ = some (found, content)) :
    found = tag ∧ ∃ inner, room = inner + 1 ∧
      ∀ text, ("v", text) ∈ texts → content = some ⟨inner, text.document⟩ := by
  unfold tagged? at h
  split at h
  next nodes hf =>
    simp only [Option.bind_eq_bind, Option.bind_eq_some_iff] at h
    obtain ⟨r, hr, name, hc, h⟩ := h
    cases h
    obtain ⟨inner, rfl, hn⟩ := fields?_document hf
    have hg := holds_of_fieldsIn? hn hr
    refine ⟨?_, inner, rfl, fun text hv => hg _ hv (by simp)⟩
    rw [required, hg _ ht (by simp)] at hc
    exact (Option.some.inj hc).symm
  next =>
    obtain ⟨items, hi, _⟩ := Option.bind_eq_some_iff.mp h
    cases hi

theorem Source.tagged?_content {tag found : String} {text : Json} {content : Option Document.Node}
    (h : Document.Node.source.tagged?
      ⟨room, (Json.obj [("t", .str tag), ("v", text)]).document⟩ = some (found, content)) :
    found = tag ∧ ∃ inner, content = some ⟨inner, text.document⟩ ∧
      (text.depth ≤ inner → (Json.obj [("t", .str tag), ("v", text)]).depth ≤ room) := by
  obtain ⟨hf, inner, rfl, hv⟩ := tagged?_document List.mem_cons_self h
  refine ⟨hf, inner, hv text (List.mem_cons_of_mem _ List.mem_cons_self), fun hd => ?_⟩
  exact Nat.succ_le_succ (by simpa [depthFields, Json.depth] using hd)

theorem Call.fathoms (call : Call) : Fathoms (read? Document.Node.source) (call.write .obj) := by
  intro room found h
  simp only [read?, Option.bind_eq_bind, Option.bind_eq_some_iff] at h
  obtain ⟨⟨tag, content⟩, ht, h⟩ := h
  cases call with
  | fetch request =>
    obtain ⟨rfl, inner, rfl, hd⟩ := Source.tagged?_content ht
    obtain ⟨value, hr, _⟩ := Option.bind_eq_some_iff.mp h
    exact hd (request.fathoms inner value hr)
  | activity request =>
    obtain ⟨rfl, inner, rfl, hd⟩ := Source.tagged?_content ht
    obtain ⟨value, hr, _⟩ := Option.bind_eq_some_iff.mp h
    exact hd (request.fathoms inner value hr)

theorem Control.fathoms (control : Control) :
    Fathoms (read? Document.Node.source) (control.write .obj) := by
  intro room found h
  simp only [read?, Option.bind_eq_bind, Option.bind_eq_some_iff] at h
  obtain ⟨⟨tag, content⟩, ht, h⟩ := h
  cases control with
  | running =>
    obtain ⟨_, inner, rfl, _⟩ := Source.tagged?_document List.mem_cons_self ht
    exact Nat.succ_le_succ (Nat.zero_le inner)
  | suspended call =>
    obtain ⟨rfl, inner, rfl, hd⟩ := Source.tagged?_content ht
    obtain ⟨value, hr, _⟩ := Option.bind_eq_some_iff.mp h
    exact hd (call.fathoms inner value hr)
  | finished result =>
    obtain ⟨rfl, inner, rfl, hd⟩ := Source.tagged?_content ht
    obtain ⟨value, hr, _⟩ := Option.bind_eq_some_iff.mp h
    exact hd (fathoms_value result inner value hr)

theorem Machine.fathoms (m : Machine) : Fathoms (read? Document.Node.source) (m.write .obj) := by
  intro room found h
  simp only [read?, Option.bind_eq_bind, Option.bind_eq_some_iff] at h
  obtain ⟨r, hr, _, hw, _, hv, _, _, _, hf, _, hp, _, ht, _, hc, _⟩ := h
  obtain ⟨inner, rfl, hg⟩ := record?_document hr
  have hworkflow : (m.workflow.write .obj).depth ≤ inner :=
    hg.required (by simp) (by decide) m.workflow.fathoms hw
  have hvars : m.vars.toJson.depth ≤ inner :=
    hg.required (by simp) (by decide) (fathoms_object _) hv
  have hphase : (m.phase.write .obj).depth ≤ inner :=
    hg.required (by simp) (by decide) m.phase.fathoms hf
  have hparams : (Json.obj m.params).depth ≤ inner :=
    hg.required (by simp) (by decide) (fathoms_object _) hp
  have htrace : (Json.arr (m.trace.map (StepTrace.write .obj))).depth ≤ inner :=
    hg.required (by simp) (by decide) (fathoms_list fun t _ => t.fathoms) ht
  have hcontrol : (m.control.write .obj).depth ≤ inner :=
    hg.required (by simp) (by decide) m.control.fathoms hc
  refine Nat.succ_le_succ ?_
  have hall := And.intro hworkflow (And.intro hvars (And.intro hphase (And.intro hparams
    (And.intro htrace hcontrol))))
  simpa [depthFields, Nat.max_le, Json.depth, Json.ofNat] using hall

end Stepwise
