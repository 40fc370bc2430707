import Stepwise.Proofs.Machine.Stepping

namespace Stepwise.Machine

variable {σ τ : Type}

/-- The calls of a drive and the answers that the machine took, up to a call that it waits for. -/
inductive Exchanges {σ : Type} (environment : Environment σ) :
    Machine → σ → List (Call × Json) → Machine → σ → Prop
  | here {m last : Machine} {s : σ} (hr : m.run = (.ok .suspended, last)) :
      Exchanges environment m s [] last s
  | next {m mid next last : Machine} {s t u : σ} {call : Call} {value : Json}
      {rest : List (Call × Json)} (hr : m.run = (.ok .suspended, mid))
      (hc : mid.control = .suspended call) (ha : environment call s = (.ok value, t))
      (hv : mid.resume value = (.ok (), next)) (hn : Exchanges environment next t rest last u) :
      Exchanges environment m s ((call, value) :: rest) last u

/-- The machine waits for a call that the environment fails, or for which it has an answer that the
machine does not take. -/
def Rejected (environment : Environment σ) (m : Machine) (call : Call) (s : σ) (e : WorkflowError)
    (t : σ) : Prop :=
  m.control = .suspended call ∧
    (environment call s = (.error e, t) ∨
      ∃ value, environment call s = (.ok value, t) ∧ (m.resume value).1 = .error e)

/-- The environment that has some answers ready and then goes on as another one. -/
def Environment.afterAnswers (other : Environment τ) : Environment (List Json × τ)
  | _, (value :: rest, v) => (.ok value, rest, v)
  | call, ([], v) => ((other call v).1, [], (other call v).2)

variable {environment : Environment σ} {m last : Machine} {s t u : σ} {call : Call}
  {e : WorkflowError} {exchanges : List (Call × Json)}

/-- A drive that fails does so by the machine itself, or at a call after some others. -/
theorem drive_error_cases (h : drive environment m s = (.error e, last, t)) :
    (last.control = .running ∧ last.run = (.error e, last)) ∨
      ∃ exchanges call u, Exchanges environment m s exchanges last u ∧
        Rejected environment last call u e t := by
  fun_induction drive environment m s with
  | case1 m s e' mid hr =>
    cases h
    have hm := run_run m
    rw [hr] at hm
    exact .inl ⟨control_of_run_error hr, hm⟩
  | case2 m s mid hr hn =>
    obtain ⟨call, hc⟩ := control_of_run_suspended hr
    simp [pending?_of_control hc] at hn
  | case3 m s mid hr call hp e' t' he =>
    cases h
    exact .inr ⟨[], call, s, .here hr, control_of_pending? hp, .inl he⟩
  | case4 m s mid hr call hp value t' he e' same hv =>
    cases h
    obtain rfl := resume_error hv
    exact .inr ⟨[], call, s, .here hr, control_of_pending? hp, .inr ⟨value, he, by rw [hv]⟩⟩
  | case5 m s mid hr call hp value t' he next hv ih =>
    rcases ih h with hm | ⟨exchanges, rejected, u, hx, hj⟩
    · exact .inl hm
    · exact .inr ⟨_, rejected, u, .next hr (control_of_pending? hp) he hv hx, hj⟩
  | case6 m s p mid hn hr => cases h

/-- Conversely a drive fails at a rejected call, with the machine as it waits for it. -/
theorem drive_of_rejected (hj : Rejected environment m call s e t) :
    drive environment m s = (.error e, m, t) := by
  obtain ⟨hc, ha | ⟨value, ha, hv⟩⟩ := hj
  · rw [drive_of_suspended hc, ha, answered]
  · rw [drive_of_suspended hc, ha, answered]
    cases hr : m.resume value with
    | mk answer next =>
      rw [hr] at hv
      obtain rfl : answer = .error e := hv
      rw [resume_error hr]

theorem drive_of_exchanges (hx : Exchanges environment m s exchanges last t) :
    drive environment m s = drive environment last t := by
  induction hx with
  | here hr => exact drive_of_run_to hr
  | next hr hc ha hv _ ih =>
    rw [drive_of_run_suspended hr hc, ha, answered, hv]
    exact ih

theorem Exchanges.logged (hx : Exchanges environment m s exchanges last t) (calls : List Call) :
    Exchanges environment.logged m (s, calls) exchanges last
      (t, calls ++ exchanges.map (·.1)) := by
  induction hx generalizing calls with
  | here hr => simpa using Exchanges.here hr
  | @next m mid next last s t u call value rest hr hc ha hv _ ih =>
    have hl : environment.logged call (s, calls) = (.ok value, t, calls ++ [call]) := by
      simp [Environment.logged, ha]
    simpa using Exchanges.next hr hc hl hv (ih (calls ++ [call]))

/-- The same answers lead to the same machine, whoever gives them. -/
theorem Exchanges.afterAnswers (hx : Exchanges environment m s exchanges last t)
    (other : Environment τ) (v : τ) :
    Exchanges other.afterAnswers m (exchanges.map (·.2), v) exchanges last ([], v) := by
  induction hx with
  | here hr => exact .here hr
  | next hr hc _ hv _ ih => exact .next hr hc rfl hv ih

/-- A drive that fails at a call makes the calls before it and the call itself, no more. -/
theorem calls_of_rejected (hx : Exchanges environment m s exchanges last u)
    (hj : Rejected environment last call u e t) :
    drive environment.logged m (s, []) =
      (.error e, last, t, exchanges.map (·.1) ++ [call]) := by
  have hl : Rejected environment.logged last call (u, exchanges.map (·.1)) e
      (t, exchanges.map (·.1) ++ [call]) := by
    obtain ⟨hc, ha | ⟨value, ha, hv⟩⟩ := hj
    · exact ⟨hc, .inl (by simp [Environment.logged, ha])⟩
    · exact ⟨hc, .inr ⟨value, by simp [Environment.logged, ha], hv⟩⟩
  rw [drive_of_exchanges (hx.logged []), List.nil_append]
  exact drive_of_rejected hl

/-- Driving the machine after some exchanges is what the drive from its start would have been, with
the answers of the exchanges first; the calls of the two drives follow each other. -/
theorem drive_afterAnswers (hx : Exchanges environment m s exchanges last u)
    (other : Environment τ) (v : τ) :
    drive other.afterAnswers.logged m ((exchanges.map (·.2), v), []) =
      ((drive other.logged last (v, [])).1, (drive other.logged last (v, [])).2.1,
        ([], (drive other.logged last (v, [])).2.2.1),
        exchanges.map (·.1) ++ (drive other.logged last (v, [])).2.2.2) := by
  -- the answers are used up by then, and the calls of the exchanges are in the log already
  let prepend : τ × List Call → (List Json × τ) × List Call :=
    fun rest => (([], rest.1), exchanges.map (·.1) ++ rest.2)
  have hf : ∀ call s, other.afterAnswers.logged call (prepend s) =
      ((other.logged call s).1, prepend (other.logged call s).2) := by
    intro call s
    simp [prepend, Environment.logged, Environment.afterAnswers]
  have hd := drive_map prepend hf last (v, [])
  rw [drive_of_exchanges ((hx.afterAnswers other v).logged []), List.nil_append]
  simpa [prepend] using hd

/-- Errors leave a machine as it is. When a drive fails, then either the machine has failed without
a call and fails again, or it waits for the last call of the drive; it can then be driven on with
any environment and does what the drive from the start would have done with the answers before. -/
theorem drive_again_of_error :
    (∀ (m next : Machine) (e : WorkflowError), m.step = (.error e, next) → next = m) ∧
    (∀ (m next : Machine) (value : Json) (e : WorkflowError),
      m.resume value = (.error e, next) → next = m) ∧
    (∀ (m next : Machine) (e : WorkflowError),
      m.run = (.error e, next) → next.run = (.error e, next)) ∧
    (∀ (m : Machine) (request : WorkCall) (value : Json),
      m.control = .suspended (.activity request) → (m.resume value).1 = .ok ()) ∧
    ∀ (w : Workflow) (vars : Vars) (σ : Type) (environment : Environment σ) (s t : σ)
      (e : WorkflowError) (last : Machine),
      drive environment (start w vars) s = (.error e, last, t) →
        (last.control = .running ∧ last.run = (.error e, last)) ∨
        ∃ exchanges call u, Exchanges environment (start w vars) s exchanges last u ∧
          Rejected environment last call u e t ∧
          (drive environment.logged (start w vars) (s, [])).2.2.2 =
            exchanges.map (·.1) ++ [call] ∧
          ∀ (τ : Type) (other : Environment τ) (v : τ),
            let again := drive other.logged last (v, [])
            drive other.afterAnswers.logged (start w vars) ((exchanges.map (·.2), v), []) =
              (again.1, again.2.1, ([], again.2.2.1), exchanges.map (·.1) ++ again.2.2.2) := by
  refine ⟨fun _ _ _ => step_error, fun _ _ _ _ => resume_error, ?_, ?_, ?_⟩
  · intro m next e h
    have hr := run_run m
    rwa [h] at hr
  · intro m request value hc
    rw [resume_activity hc]
  · intro w vars σ environment s t e last h
    rcases drive_error_cases h with hm | ⟨exchanges, call, u, hx, hj⟩
    · exact .inl hm
    · refine .inr ⟨exchanges, call, u, hx, hj, ?_, fun τ other v => drive_afterAnswers hx other v⟩
      rw [calls_of_rejected hx hj]

/-- One step that fetches its input first. -/
def errand : Workflow where
  name := "errand"
  steps := [{ name := "carry", fetch := [("load", { provider := "document" })],
              output := some "result" }]

def unwilling : Environment Unit
  | .fetch _, s => (.ok (.arr []), s)
  | .activity _, s => (.error (.invalidState "closed"), s)

def burdened : Machine where
  workflow := errand
  vars := .empty
  phase := .execute
  params := [("load", .arr [])]
  control := .suspended (.activity ⟨0, "carry", [("load", .arr [])]⟩)

theorem drive_errand :
    drive unwilling (start errand .empty) () = (.error (.invalidState "closed"), burdened, ()) := by
  refine (drive_of_step rfl).trans ?_
  refine (drive_of_step rfl).trans ?_
  refine (drive_of_suspended rfl).trans ?_
  refine (drive_of_step rfl).trans ?_
  refine (drive_of_step rfl).trans ?_
  have hj : Rejected unwilling burdened _ () (.invalidState "closed") () := ⟨rfl, .inl rfl⟩
  exact drive_of_rejected hj

def willing : Environment Unit
  | .fetch _, s => (.ok (.arr []), s)
  | .activity _, s => (.ok (.str "carried"), s)

theorem drive_again_errand :
    drive unwilling (start errand .empty) () = (.error (.invalidState "closed"), burdened, ()) ∧
      ∃ exchanges call u, Exchanges unwilling (start errand .empty) () exchanges burdened u ∧
        Rejected unwilling burdened call u (.invalidState "closed") () ∧
        (drive unwilling.logged (start errand .empty) ((), [])).2.2.2 =
          exchanges.map (·.1) ++ [call] ∧
        let again := drive willing.logged burdened ((), [])
        drive willing.afterAnswers.logged (start errand .empty) ((exchanges.map (·.2), ()), []) =
          (again.1, again.2.1, ([], again.2.2.1), exchanges.map (·.1) ++ again.2.2.2) := by
  refine ⟨drive_errand, ?_⟩
  have hd := drive_again_of_error.2.2.2.2 errand .empty Unit unwilling () () _ _ drive_errand
  rcases hd with ⟨hc, _⟩ | ⟨exchanges, call, u, hx, hj, hl, ha⟩
  · cases hc
  · exact ⟨exchanges, call, u, hx, hj, hl, ha Unit willing ()⟩

end Stepwise.Machine
