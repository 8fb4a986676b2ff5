import Genesis.Lib.Dialogue

/-!
# Handlers with a state

`Session.interpret` answers the questions of a program by sessions that share a
mutable state; an exception of an answer is the reply the program sees, and may
catch.  `runs_interpret_iff` recovers the run of the program from a run of the
whole, and `Interprets.segments` is the rule for an invariant of the state: what
holds of each answer holds of every event of the run.

`Session.tryFinally` is `try … finally …`.
-/

namespace Session

open Dialogue

variable {σ ε ι κ : Type} {β : ι → Type} {τ : κ → Type} {α : Type}

/-! ## `try … finally …` -/

/-- Run the cleanup after the session, which may have raised; an exception of the
cleanup replaces the outcome. -/
def tryFinally (p : Session σ ε κ τ α) (cleanup : Session σ ε κ τ Unit) : Session σ ε κ τ α :=
  ExceptT.mk fun s => (p.run.run s).bind fun outcome =>
    (cleanup.run.run outcome.2).bind fun cleaned =>
      match cleaned.1 with
      | .error e => .done (.error e, cleaned.2)
      | .ok _ => .done (outcome.1, cleaned.2)

/-- A cleanup that only updates the state does so whether or not the session raises. -/
theorem runs_tryFinally_update {p : Session σ ε κ τ α} {f : σ → σ} {s s' : σ} {t : Trace ε κ τ}
    {r : Except ε α} :
    Runs (tryFinally p (update f)) s t r s' ↔ ∃ s₁, Runs p s t r s₁ ∧ s' = f s₁ := by
  refine ⟨?_, ?_⟩
  · intro run
    obtain ⟨t₁, t₂, ⟨r₁, s₁⟩, rfl, body, cleaning⟩ := Dialogue.Runs.bind_iff.mp run
    obtain ⟨rfl, ended⟩ := Dialogue.Runs.done_iff.mp cleaning
    cases ended
    rw [List.append_nil]
    exact ⟨s₁, body, rfl⟩
  · intro h
    obtain ⟨s₁, body, rfl⟩ := h
    exact Dialogue.Runs.bind_iff.mpr ⟨t, [], _, (List.append_nil t).symm, body, .done _⟩

/-! ## Interpreting a program -/

/-- The programs an interpreter runs: they see the exceptions of their questions,
and end in a value or an exception. -/
abbrev Program (ε ι : Type) (β : ι → Type) (α : Type) : Type :=
  Dialogue ι (fun i => Except ε (β i)) (Except ε α)

/-- Answer every question of the program by the handler's session. -/
def interpret (handler : (i : ι) → Session σ ε κ τ (β i)) : Program ε ι β α → Session σ ε κ τ α
  | .done r => compute r
  | .ask i next => ExceptT.mk fun s => ((handler i).run.run s).bind fun reply =>
      (interpret handler (next reply.1)).run.run reply.2

/-- `Interprets handler s t u s'`: the conversation `u` answers the questions of `t`
one after another, and takes the state from `s` to `s'`. -/
inductive Interprets (handler : (i : ι) → Session σ ε κ τ (β i)) :
    σ → Trace ε ι β → Trace ε κ τ → σ → Prop
  | nil (s : σ) : Interprets handler s [] [] s
  | cons {i : ι} {r : Except ε (β i)} {s s₁ s₂ : σ} {t : Trace ε ι β} {u v : Trace ε κ τ} :
    Runs (handler i) s u r s₁ → Interprets handler s₁ t v s₂ →
    Interprets handler s (⟨i, r⟩ :: t) (u ++ v) s₂

variable {handler : (i : ι) → Session σ ε κ τ (β i)} {s s' : σ}

/-- The runs of an interpreted program are its runs, with answers by the handler. -/
theorem runs_interpret_iff {program : Program ε ι β α} {u : Trace ε κ τ} {r : Except ε α} :
    Runs (interpret handler program) s u r s' ↔
      ∃ t, Dialogue.Runs program t r ∧ Interprets handler s t u s' := by
  induction program generalizing s u with
  | done ended =>
    refine ⟨?_, ?_⟩
    · intro run
      rcases runs_compute.mp run with ⟨rfl, rfl, rfl⟩
      exact ⟨[], .done _, .nil _⟩
    · intro h
      rcases h with ⟨t, run, served⟩
      cases run
      cases served
      exact runs_compute.mpr ⟨rfl, rfl, rfl⟩
  | ask i next ih =>
    refine ⟨?_, ?_⟩
    · intro run
      obtain ⟨u₁, u₂, ⟨reply, s₁⟩, rfl, answered, rest⟩ := Dialogue.Runs.bind_iff.mp run
      obtain ⟨t, program, served⟩ := (ih reply).mp rest
      exact ⟨_, Dialogue.Runs.ask (ρ := fun i => Except ε (β i)) reply program,
        .cons answered served⟩
    · intro h
      rcases h with ⟨t, run, served⟩
      cases run with
      | ask reply program =>
        cases served with
        | cons answered rest =>
          exact Dialogue.Runs.bind_iff.mpr
            ⟨_, _, _, rfl, answered, (ih reply).mpr ⟨_, program, rest⟩⟩

/-- If every answer keeps the invariant and relates the event to its part of the
conversation, so does every event of a run. -/
theorem Interprets.segments {I : σ → Prop}
    {R : Event ι (fun i => Except ε (β i)) → Trace ε κ τ → Prop}
    (step : ∀ i s u r s', I s → Runs (handler i) s u r s' → I s' ∧ R ⟨i, r⟩ u)
    {t : Trace ε ι β} {u : Trace ε κ τ} (holds : I s) (served : Interprets handler s t u s') :
    I s' ∧ ∃ parts, List.Forall₂ R t parts ∧ u = parts.flatten := by
  induction served with
  | nil s => exact ⟨holds, [], .nil, rfl⟩
  | cons answered _ ih =>
    obtain ⟨kept, related⟩ := step _ _ _ _ _ holds answered
    obtain ⟨last, parts, each, rfl⟩ := ih kept
    exact ⟨last, _ :: parts, .cons related each, rfl⟩

end Session
