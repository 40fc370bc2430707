import Stepwise.Engine
import Stepwise.Proofs.Faults
import Stepwise.Proofs.Machine.Consistency
import Stepwise.Proofs.Machine.Retry
import Stepwise.Proofs.Validation.Operators

namespace Stepwise

namespace Validation

theorem trim_of_silent {w : Workflow} {step : Step} {param : String} {spec : Lookup}
    (h : Silent (fetchShape.findings w)) (hs : step ∈ w.steps) (hf : (param, spec) ∈ step.fetch) :
    Text.trim spec.provider ≠ "" := by
  simp only [fetchShape] at h
  obtain ⟨place, hp⟩ := silent_at_step h hs
  have hl := (silent_append.mp (silent_of_flatMap hp hf)).1
  intro ht
  have hb : isBlankText spec.provider = true := by
    have hn := congrArg String.toList ht
    simpa [isBlankText, Text.trim] using hn
  rw [if_pos hb] at hl
  exact not_silent_error _ _ _ hl

/-- The type of a fetch in a checked workflow is registered, blanks around it apart. -/
theorem registered_of_silent {types : List String} {w : Workflow} {step : Step} {param : String}
    {spec : Lookup} (h : Silent (findings (withProviders types) w)) (hs : step ∈ w.steps)
    (hf : (param, spec) ∈ step.fetch) : Text.trim spec.provider ∈ types := by
  have hn : Silent (fetchShape.findings w) :=
    silent_of_rule h (by simp [withProviders, builtin])
  have hk : Silent ((knownProviders types).findings w) :=
    silent_of_rule h (by simp [withProviders])
  simp only [knownProviders] at hk
  obtain ⟨place, hp⟩ := silent_at_step hk hs
  have hl := silent_of_flatMap hp hf
  have ht := trim_of_silent hn hs hf
  by_cases hm : types.contains (Text.trim spec.provider) = true
  · exact List.contains_iff_mem.mp hm
  · simp only [ht, hm] at hl
    exact absurd hl (not_silent_error _ _ _)

theorem silent_of_check {rules : List Rule} {w : Workflow} {warnings : List Diagnostic}
    (h : check rules w = .ok warnings) : Silent (findings rules w) := by
  simp only [check] at h
  split at h
  next hn =>
    intro d hd
    have he := List.filter_eq_nil_iff.mp hn d hd
    simpa using he
  next => cases h

end Validation

namespace Engine

open Machine (Environment Exchanges Operation start)

variable {σ : Type} {e : Engine σ} {w : Workflow} {warnings : List Diagnostic}

/-- Every fetch that a machine of an accepted workflow asks for has a registered type, blanks around
it apart. -/
theorem contains_of_validate (hv : e.validate w = .ok warnings) (vars : Vars)
    (operations : List Operation) {request : FetchCall}
    (hc : ((start w vars).after operations).control = .suspended (.fetch request)) :
    e.providers.contains (Text.trim request.provider) = true := by
  have hp := (Machine.placed_after w vars operations).position
  obtain ⟨step, index, spec, hs, _, hf, hr, _⟩ := hp.of_fetch_call hc
  have hm := Validation.registered_of_silent (Validation.silent_of_check hv)
    (List.mem_of_getElem? hs) (List.mem_of_getElem? hf)
  rw [hr]
  exact Entries.contains_iff_mem_keys.mpr hm

/-- The machine after some exchanges is one that operations lead to. -/
theorem after_of_exchanges {environment : Environment σ} {m last : Machine} {s t : σ}
    {exchanges : List (Call × Json)} (hx : Exchanges environment m s exchanges last t) :
    ∃ operations, last = m.after operations := by
  induction hx with
  | here hr => exact ⟨[.run], by simp [Machine.after, Machine.perform, hr]⟩
  | @next m mid next last s t u call value rest hr hc ha hv _ ih =>
    obtain ⟨operations, hl⟩ := ih
    refine ⟨.run :: .resume value :: operations, ?_⟩
    simpa [Machine.after, Machine.perform, hr, hv] using hl

theorem unknownProvider_not_fault (provider : String) :
    ¬Machine.Fault (.unknownProvider provider) := by
  intro h
  cases h with
  | projection hp =>
    cases hp with
    | condition hc => cases hc

/-- For want of a provider an environment fails only at a fetch, unless an activity says so. -/
theorem environment_unknownProvider {context : RunContext} {call : Call} {s t : σ}
    {provider : String}
    (hx : ∀ call options s, (e.execute call options s).1 ≠ .error (.unknownProvider provider))
    (h : e.environment w context call s = (.error (.unknownProvider provider), t)) :
    ∃ request, call = .fetch request ∧ request.provider = provider ∧
      e.providers.contains provider = false := by
  cases call with
  | fetch request =>
    simp only [environment, Fetch.Registry.get] at h
    cases hg : e.providers.providers.get? request.provider with
    | none =>
      simp only [hg] at h
      cases h
      exact ⟨request, rfl, rfl, by simp [Fetch.Registry.contains, Entries.contains, hg]⟩
    | some found =>
      simp only [hg, Fetch.Provider.fetch] at h
      split at h <;> cases h
  | activity request => exact absurd (congrArg Prod.fst h) (hx _ _ _)

/-- In an accepted workflow every fetch that is asked for has a registered type, blanks around it
apart. A run of it fails for want of a provider only at a type with blanks around it. -/
theorem padded_of_unknownProvider (hv : e.validate w = .ok warnings) :
    (∀ vars operations request,
      ((start w vars).after operations).control = .suspended (.fetch request) →
        e.providers.contains (Text.trim request.provider) = true) ∧
    ∀ (p : Payload) (s t : σ) (provider : String), p.workflow = w →
      (∀ call options s, (e.execute call options s).1 ≠ .error (.unknownProvider provider)) →
      e.run p s = (.error (.unknownProvider provider), t) → Text.trim provider ≠ provider := by
  refine ⟨fun vars operations request hc => contains_of_validate hv vars operations hc, ?_⟩
  rintro p s t provider rfl hx h hp
  simp only [run, hv] at h
  obtain ⟨hd, _⟩ := Prod.mk.inj h
  cases hr : e.drive (machineOf p) (contextOf p) s with
  | mk answer rest =>
    obtain ⟨last, u⟩ := rest
    rw [hr] at hd
    cases answer with
    | ok value => cases hd
    | error fault =>
      obtain rfl : fault = .unknownProvider provider := Except.error.inj hd
      rcases Machine.drive_error_cases hr with ⟨_, hm⟩ | ⟨exchanges, call, v, hxs, hc, hj⟩
      · exact unknownProvider_not_fault provider (Machine.run_fault hm)
      · rcases hj with ha | ⟨value, _, ha⟩
        · obtain ⟨request, rfl, hq, hn⟩ := environment_unknownProvider hx ha
          obtain ⟨operations, rfl⟩ := after_of_exchanges hxs
          have hk := contains_of_validate hv _ operations hc
          rw [hq, hp, hn] at hk
          cases hk
        · exact unknownProvider_not_fault provider (Machine.resume_fault ha)

/-- An engine with the providers of the store, and one activity for every name. -/
def clerk : Engine Unit where
  execute _ _ s := (.ok .null, s)
  providers := .builtin
  store := noStore
  options := {}
  defaults := {}

def padded : Workflow where
  name := "padded"
  steps := [{ name := "go", fetch := [("doc", { provider := " document " })],
              output := some "result" }]

def order : Payload where
  workflow := padded
  authToken := "token"

def paddedCall : FetchCall := ⟨"go", "doc", " document ", ⟨[], none, none⟩⟩

theorem validate_padded : clerk.validate padded = .ok [] := by
  rfl

theorem control_padded :
    ((start padded (machineOf order).vars).after [.step, .step]).control =
      .suspended (.fetch paddedCall) := by
  rfl

theorem run_padded : (clerk.run order ()).1 = .error (.unknownProvider " document ") := by
  have hd : clerk.drive (machineOf order) (contextOf order) () =
      (.error (.unknownProvider " document "), (machineOf order).after [.step, .step], ()) := by
    refine (Machine.drive_of_step rfl).trans ?_
    refine (Machine.drive_of_step rfl).trans ?_
    exact Machine.drive_of_rejected ⟨control_padded, .inl rfl⟩
  have hv : clerk.validate order.workflow = .ok [] := validate_padded
  simp only [run, hv, hd]
  rfl

/-- The type of this fetch is accepted, and then no provider is found for it. -/
theorem validate_not_sound :
    build { executor := some clerk.execute } = .ok clerk ∧
      clerk.validate order.workflow = .ok [] ∧
      ((machineOf order).after [.step, .step]).control = .suspended (.fetch paddedCall) ∧
      clerk.providers.contains paddedCall.provider = false ∧
      (clerk.run order ()).1 = .error (.unknownProvider " document ") :=
  ⟨rfl, validate_padded, control_padded, rfl, run_padded⟩

theorem padded_of_unknownProvider_order :
    clerk.validate padded = .ok [] ∧
      clerk.providers.contains (Text.trim paddedCall.provider) = true ∧
      ∃ t, clerk.run order () = (.error (.unknownProvider " document "), t) ∧
        Text.trim " document " ≠ " document " := by
  have hp := padded_of_unknownProvider validate_padded
  have hr : clerk.run order () = (.error (.unknownProvider " document "), ()) :=
    Prod.ext run_padded rfl
  have hx : ∀ call options s,
      (clerk.execute call options s).1 ≠ .error (.unknownProvider " document ") :=
    fun _ _ _ h => by cases h
  exact ⟨validate_padded, hp.1 _ _ _ control_padded, (), hr, hp.2 order () () _ rfl hx hr⟩

end Engine

end Stepwise
