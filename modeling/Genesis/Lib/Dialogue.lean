import Mathlib.Tactic.Common

/-!
# Dialogues: programs that await replies

A `Dialogue ι ρ α` is finished, or asks a question `i : ι` and goes on from any
reply of type `ρ i`.  Nothing is assumed about who replies: `Runs d t a` holds
when the questions of `d`, answered as the trace `t` records, lead to `a`, so a
fact about all `t` is a fact about every environment.

* `Runs.bind_iff` splits a run at a sequential composition.
* `AsksOnly` bounds the questions of a dialogue, and so the events of its runs.
* `Dialogue.handle` answers each question by another dialogue, and
  `Runs.of_handle` recovers the run of the outer program from a run of the
  composite, so facts about a program survive the choice of its collaborators.
* `Session σ ε ι β` adds a mutable state and exceptions.  The state outlives an
  exception, as an object that an exception handler can still read.
-/

/-- A program that asks questions `i : ι` and awaits replies in `ρ i`. -/
inductive Dialogue (ι : Type) (ρ : ι → Type) (α : Type) : Type
  | done (a : α) : Dialogue ι ρ α
  | ask (i : ι) (next : ρ i → Dialogue ι ρ α) : Dialogue ι ρ α

namespace Dialogue

variable {ι κ : Type} {ρ : ι → Type} {τ : κ → Type} {α β γ : Type}

/-- A question together with the reply it got. -/
structure Event (ι : Type) (ρ : ι → Type) where
  call : ι
  reply : ρ call

/-- Sequential composition. -/
def bind : Dialogue ι ρ α → (α → Dialogue ι ρ β) → Dialogue ι ρ β
  | .done a, f => f a
  | .ask i next, f => .ask i fun r => (next r).bind f

/-- Ask one question and return its reply. -/
def question (i : ι) : Dialogue ι ρ (ρ i) := .ask i .done

instance : Monad (Dialogue ι ρ) where
  pure := .done
  bind := bind

theorem bind_done (d : Dialogue ι ρ α) : d.bind .done = d := by
  induction d with
  | done a => rfl
  | ask i next ih => exact congrArg (Dialogue.ask i) (funext ih)

theorem bind_assoc (d : Dialogue ι ρ α) (f : α → Dialogue ι ρ β) (g : β → Dialogue ι ρ γ) :
    (d.bind f).bind g = d.bind fun a => (f a).bind g := by
  induction d with
  | done a => rfl
  | ask i next ih => exact congrArg (Dialogue.ask i) (funext ih)

instance : LawfulMonad (Dialogue ι ρ) :=
  LawfulMonad.mk' (Dialogue ι ρ) bind_done (fun _ _ => rfl) bind_assoc

/-! ## Runs against an arbitrary environment -/

/-- `Runs d t a`: with the replies recorded in `t`, the dialogue `d` ends in `a`. -/
inductive Runs : Dialogue ι ρ α → List (Event ι ρ) → α → Prop
  | done (a : α) : Runs (.done a) [] a
  | ask {i : ι} {next : ρ i → Dialogue ι ρ α} {t : List (Event ι ρ)} {a : α} (r : ρ i) :
    Runs (next r) t a → Runs (.ask i next) (⟨i, r⟩ :: t) a

theorem Runs.done_iff {a b : α} {t : List (Event ι ρ)} :
    Runs (.done a) t b ↔ t = [] ∧ b = a := by
  refine ⟨?_, ?_⟩
  · intro run
    cases run
    exact ⟨rfl, rfl⟩
  · intro h
    rcases h with ⟨rfl, rfl⟩
    exact .done b

theorem Runs.question_iff {i : ι} {t : List (Event ι ρ)} {r : ρ i} :
    Runs (question i) t r ↔ t = [⟨i, r⟩] := by
  refine ⟨?_, ?_⟩
  · intro run
    cases run with
    | ask r rest =>
      cases rest
      rfl
  · intro h
    subst h
    exact .ask r (.done r)

/-- A run of a composition is a run of its head followed by a run of its tail. -/
theorem Runs.bind_iff {d : Dialogue ι ρ α} {f : α → Dialogue ι ρ β}
    {t : List (Event ι ρ)} {b : β} :
    Runs (d.bind f) t b ↔
      ∃ t₁ t₂ a, t = t₁ ++ t₂ ∧ Runs d t₁ a ∧ Runs (f a) t₂ b := by
  induction d generalizing t with
  | done a =>
    refine ⟨?_, ?_⟩
    · intro run
      exact ⟨[], t, a, rfl, .done a, run⟩
    · intro h
      rcases h with ⟨t₁, t₂, a', rfl, head, tail⟩
      cases head
      exact tail
  | ask i next ih =>
    refine ⟨?_, ?_⟩
    · intro run
      cases run with
      | ask r rest =>
        obtain ⟨t₁, t₂, a, rfl, head, tail⟩ := (ih r).mp rest
        exact ⟨⟨i, r⟩ :: t₁, t₂, a, rfl, .ask r head, tail⟩
    · intro h
      rcases h with ⟨t₁, t₂, a, rfl, head, tail⟩
      cases head with
      | ask r head => exact .ask r ((ih r).mpr ⟨_, t₂, a, rfl, head, tail⟩)

/-- A run that asks one question and returns what it makes of the reply. -/
theorem Runs.reply_iff {i : ι} {f : ρ i → α} {t : List (Event ι ρ)} {a : α} :
    Runs ((question i).bind fun r => .done (f r)) t a ↔ ∃ r, t = [⟨i, r⟩] ∧ a = f r := by
  simp only [Runs.bind_iff, Runs.question_iff, Runs.done_iff]
  refine ⟨?_, ?_⟩
  · rintro ⟨_, _, r, rfl, rfl, rfl, rfl⟩
    exact ⟨r, rfl, rfl⟩
  · rintro ⟨r, rfl, rfl⟩
    exact ⟨_, [], r, rfl, rfl, rfl, rfl⟩

/-! ## The questions of a dialogue -/

/-- Whatever the replies, the dialogue asks nothing but questions with the property. -/
def AsksOnly (P : ι → Prop) : Dialogue ι ρ α → Prop
  | .done _ => True
  | .ask i next => P i ∧ ∀ r, (next r).AsksOnly P

theorem AsksOnly.bind {P : ι → Prop} {d : Dialogue ι ρ α} {f : α → Dialogue ι ρ β}
    (head : d.AsksOnly P) (tail : ∀ a, (f a).AsksOnly P) : (d.bind f).AsksOnly P := by
  induction d with
  | done a => exact tail a
  | ask i next ih => exact ⟨head.1, fun r => ih r (head.2 r)⟩

theorem AsksOnly.question {P : ι → Prop} {i : ι} (holds : P i) :
    (Dialogue.question i : Dialogue ι ρ (ρ i)).AsksOnly P :=
  ⟨holds, fun _ => trivial⟩

theorem Runs.asksOnly {P : ι → Prop} {d : Dialogue ι ρ α} {t : List (Event ι ρ)} {a : α}
    (run : Runs d t a) (only : d.AsksOnly P) : ∀ event ∈ t, P event.call := by
  induction run with
  | done b => exact List.forall_mem_nil _
  | ask r _ ih => exact List.forall_mem_cons.mpr ⟨only.1, ih (only.2 r)⟩

/-! ## A deterministic environment -/

/-- Run against an environment that sees the whole conversation so far. -/
def converse (oracle : List (Event ι ρ) → (i : ι) → ρ i) :
    List (Event ι ρ) → Dialogue ι ρ α → List (Event ι ρ) × α
  | _, .done a => ([], a)
  | past, .ask i next =>
    let event : Event ι ρ := ⟨i, oracle past i⟩
    let rest := (next event.reply).converse oracle (past ++ [event])
    (event :: rest.1, rest.2)

theorem converse_runs (oracle : List (Event ι ρ) → (i : ι) → ρ i)
    (past : List (Event ι ρ)) (d : Dialogue ι ρ α) :
    Runs d (d.converse oracle past).1 (d.converse oracle past).2 := by
  induction d generalizing past with
  | done a => exact .done a
  | ask i next ih => exact .ask _ (ih _ _)

/-- Every reply of a conversation is one the environment gives at some point. -/
theorem reply_of_mem_converse {oracle : List (Event ι ρ) → (i : ι) → ρ i}
    {past : List (Event ι ρ)} {d : Dialogue ι ρ α} {event : Event ι ρ}
    (member : event ∈ (d.converse oracle past).1) :
    ∃ before, event.reply = oracle before event.call := by
  induction d generalizing past with
  | done a => cases member
  | ask i next ih =>
    rcases List.mem_cons.mp member with rfl | later
    · exact ⟨past, rfl⟩
    · exact ih _ later

/-! ## Handlers -/

/-- Answer every question of a dialogue by running `handler` on it. -/
def handle (handler : (i : ι) → Dialogue κ τ (ρ i)) : Dialogue ι ρ α → Dialogue κ τ α
  | .done a => .done a
  | .ask i next => (handler i).bind fun r => (next r).handle handler

/-- `Serves handler t u`: the conversation `u` is the handler's own, one run of
it for each event of `t` in order, each ending in the reply `t` records. -/
inductive Serves (handler : (i : ι) → Dialogue κ τ (ρ i)) :
    List (Event ι ρ) → List (Event κ τ) → Prop
  | nil : Serves handler [] []
  | cons {i : ι} {r : ρ i} {t : List (Event ι ρ)} {u v : List (Event κ τ)} :
    Runs (handler i) u r → Serves handler t v → Serves handler (⟨i, r⟩ :: t) (u ++ v)

/-- Served conversations split where the questions do. -/
theorem Serves.of_append {handler : (i : ι) → Dialogue κ τ (ρ i)} {t₁ t₂ : List (Event ι ρ)}
    {u : List (Event κ τ)} (serves : Serves handler (t₁ ++ t₂) u) :
    ∃ u₁ u₂, u = u₁ ++ u₂ ∧ Serves handler t₁ u₁ ∧ Serves handler t₂ u₂ := by
  induction t₁ generalizing u with
  | nil => exact ⟨[], u, rfl, .nil, serves⟩
  | cons event t₁ ih =>
    cases serves with
    | @cons i r t v w served rest =>
      rcases ih rest with ⟨u₁, u₂, rfl, first, second⟩
      exact ⟨v ++ u₁, u₂, (List.append_assoc v u₁ u₂).symm, .cons served first, second⟩

theorem Serves.singleton {handler : (i : ι) → Dialogue κ τ (ρ i)} {i : ι} {r : ρ i}
    {u : List (Event κ τ)} (served : Runs (handler i) u r) : Serves handler [⟨i, r⟩] u := by
  have serves := Serves.cons served .nil
  rw [List.append_nil] at serves
  exact serves

theorem Serves.append {handler : (i : ι) → Dialogue κ τ (ρ i)} {t₁ t₂ : List (Event ι ρ)}
    {u₁ u₂ : List (Event κ τ)} (first : Serves handler t₁ u₁) (second : Serves handler t₂ u₂) :
    Serves handler (t₁ ++ t₂) (u₁ ++ u₂) := by
  induction first with
  | nil => exact second
  | cons served _ ih =>
    rw [List.append_assoc]
    exact .cons served ih

/-- Every reply in a served conversation is one the handler gives, in a part of the
conversation. -/
theorem Serves.runs_of_mem {handler : (i : ι) → Dialogue κ τ (ρ i)} {t : List (Event ι ρ)}
    {u : List (Event κ τ)} (serves : Serves handler t u) {event : Event ι ρ} (member : event ∈ t) :
    ∃ v, v ⊆ u ∧ Runs (handler event.call) v event.reply := by
  induction serves with
  | nil => cases member
  | cons served _ ih =>
    rcases List.mem_cons.mp member with rfl | later
    · exact ⟨_, List.subset_append_left _ _, served⟩
    · obtain ⟨v, within, run⟩ := ih later
      exact ⟨v, List.subset_append_of_subset_right _ within, run⟩

/-- A run of a handled dialogue is a run of the dialogue whose replies the
handler produced. -/
theorem Runs.of_handle {handler : (i : ι) → Dialogue κ τ (ρ i)} {d : Dialogue ι ρ α}
    {u : List (Event κ τ)} {a : α} (run : Runs (d.handle handler) u a) :
    ∃ t, Runs d t a ∧ Serves handler t u := by
  induction d generalizing u with
  | done b =>
    cases run
    exact ⟨[], .done _, .nil⟩
  | ask i next ih =>
    obtain ⟨u₁, u₂, r, rfl, served, rest⟩ := Runs.bind_iff.mp run
    obtain ⟨t, outer, serves⟩ := ih r rest
    exact ⟨⟨i, r⟩ :: t, .ask r outer, .cons served serves⟩

/-- Serving the questions of a run gives a run of the handled dialogue. -/
theorem Runs.handle {handler : (i : ι) → Dialogue κ τ (ρ i)} {d : Dialogue ι ρ α}
    {t : List (Event ι ρ)} {u : List (Event κ τ)} {a : α} (run : Runs d t a)
    (serves : Serves handler t u) : Runs (d.handle handler) u a := by
  induction run generalizing u with
  | done b =>
    cases serves
    exact .done b
  | ask r _ ih =>
    cases serves with
    | cons served rest => exact Runs.bind_iff.mpr ⟨_, _, r, rfl, served, ih rest⟩

end Dialogue

/-! ## Sessions: state and exceptions on top of a dialogue -/

/-- A dialogue whose ports reply with a value or an exception, with a mutable
state that survives exceptions. -/
abbrev Session (σ ε ι : Type) (β : ι → Type) (α : Type) : Type :=
  ExceptT ε (StateT σ (Dialogue ι fun i => Except ε (β i))) α

namespace Session

open Dialogue

variable {σ ε ι : Type} {β : ι → Type} {α γ : Type}

/-- The events a session leaves in its trace. -/
abbrev Trace (ε ι : Type) (β : ι → Type) : Type :=
  List (Event ι fun i => Except ε (β i))

/-- `Runs p s t r s'`: started in `s`, with the replies in `t`, the session ends
with the result or exception `r` in state `s'`. -/
def Runs (p : Session σ ε ι β α) (s : σ) (t : Trace ε ι β) (r : Except ε α) (s' : σ) : Prop :=
  Dialogue.Runs (p.run.run s) t (r, s')

/-- Await a port; an exception it replies with is raised here. -/
def await (i : ι) : Session σ ε ι β (β i) :=
  ExceptT.mk fun s => (question i).bind fun r => .done (r, s)

/-- Raise the exception of a pure computation, or go on with its value. -/
def compute (x : Except ε α) : Session σ ε ι β α :=
  ExceptT.mk fun s => .done (x, s)

/-- Update the mutable state. -/
def update (f : σ → σ) : Session σ ε ι β Unit :=
  ExceptT.mk fun s => .done (.ok (), f s)

/-- Read the mutable state. -/
def read : Session σ ε ι β σ :=
  ExceptT.mk fun s => .done (.ok s, s)

variable {s s' : σ} {t : Trace ε ι β}

theorem runs_pure {a : α} {r : Except ε α} :
    Runs (pure a : Session σ ε ι β α) s t r s' ↔ t = [] ∧ r = .ok a ∧ s' = s := by
  rw [← Prod.mk.injEq]
  exact Dialogue.Runs.done_iff

theorem runs_compute {x r : Except ε α} :
    Runs (compute x : Session σ ε ι β α) s t r s' ↔ t = [] ∧ r = x ∧ s' = s := by
  rw [← Prod.mk.injEq]
  exact Dialogue.Runs.done_iff

theorem runs_update {f : σ → σ} {r : Except ε Unit} :
    Runs (update f : Session σ ε ι β Unit) s t r s' ↔ t = [] ∧ r = .ok () ∧ s' = f s := by
  rw [← Prod.mk.injEq]
  exact Dialogue.Runs.done_iff

theorem runs_read {r : Except ε σ} :
    Runs (read : Session σ ε ι β σ) s t r s' ↔ t = [] ∧ r = .ok s ∧ s' = s := by
  rw [← Prod.mk.injEq]
  exact Dialogue.Runs.done_iff

theorem runs_await {i : ι} {r : Except ε (β i)} :
    Runs (await i : Session σ ε ι β (β i)) s t r s' ↔ t = [⟨i, r⟩] ∧ s' = s := by
  refine ⟨?_, ?_⟩
  · intro run
    obtain ⟨t₁, t₂, a, rfl, asked, ended⟩ := Dialogue.Runs.bind_iff.mp run
    cases Dialogue.Runs.question_iff.mp asked
    cases ended
    exact ⟨rfl, rfl⟩
  · intro h
    rcases h with ⟨rfl, rfl⟩
    exact Dialogue.Runs.bind_iff.mpr
      ⟨_, [], r, rfl, Dialogue.Runs.question_iff.mpr rfl, .done _⟩

/-- Sequential composition: the head raises, or its value is passed on. -/
theorem runs_bind {p : Session σ ε ι β α} {f : α → Session σ ε ι β γ} {r : Except ε γ} :
    Runs (p >>= f) s t r s' ↔
      (∃ e, r = .error e ∧ Runs p s t (.error e) s') ∨
      ∃ a s₁ t₁ t₂, t = t₁ ++ t₂ ∧ Runs p s t₁ (.ok a) s₁ ∧ Runs (f a) s₁ t₂ r s' := by
  have split : Runs (p >>= f) s t r s' ↔ ∃ t₁ t₂ x, t = t₁ ++ t₂ ∧
      Dialogue.Runs (p.run.run s) t₁ x ∧
      Dialogue.Runs ((ExceptT.bindCont f x.1).run x.2) t₂ (r, s') :=
    Dialogue.Runs.bind_iff
  rw [split]
  refine ⟨?_, ?_⟩
  · intro h
    rcases h with ⟨t₁, t₂, ⟨x, s₁⟩, rfl, head, tail⟩
    cases x with
    | error e =>
      obtain ⟨rfl, ended⟩ := Dialogue.Runs.done_iff.mp tail
      cases ended
      rw [List.append_nil]
      exact .inl ⟨e, rfl, head⟩
    | ok a => exact .inr ⟨a, s₁, t₁, t₂, rfl, head, tail⟩
  · intro h
    rcases h with ⟨e, rfl, head⟩ | ⟨a, s₁, t₁, t₂, rfl, head, tail⟩
    · exact ⟨t, [], (.error e, s'), by rw [List.append_nil], head, .done _⟩
    · exact ⟨t₁, t₂, (.ok a, s₁), rfl, head, tail⟩

/-! ### Composition with a primitive head -/

theorem runs_compute_bind {x : Except ε α} {f : α → Session σ ε ι β γ} {r : Except ε γ} :
    Runs (compute x >>= f) s t r s' ↔
      (∃ e, x = .error e ∧ t = [] ∧ r = .error e ∧ s' = s) ∨
      ∃ a, x = .ok a ∧ Runs (f a) s t r s' := by
  rw [runs_bind]
  refine ⟨?_, ?_⟩
  · intro run
    rcases run with ⟨e, raised, head⟩ | ⟨a, s₁, t₁, t₂, rfl, head, tail⟩
    · rcases runs_compute.mp head with ⟨silent, same, kept⟩
      exact .inl ⟨e, same.symm, silent, raised, kept⟩
    · rcases runs_compute.mp head with ⟨rfl, same, rfl⟩
      exact .inr ⟨a, same.symm, tail⟩
  · intro run
    rcases run with ⟨e, rfl, rfl, rfl, rfl⟩ | ⟨a, rfl, tail⟩
    · exact .inl ⟨e, rfl, runs_compute.mpr ⟨rfl, rfl, rfl⟩⟩
    · exact .inr ⟨a, s, [], t, rfl, runs_compute.mpr ⟨rfl, rfl, rfl⟩, tail⟩

theorem runs_await_bind {i : ι} {f : β i → Session σ ε ι β γ} {r : Except ε γ} :
    Runs (await i >>= f) s t r s' ↔
      (∃ e, t = [⟨i, .error e⟩] ∧ r = .error e ∧ s' = s) ∨
      ∃ a u, t = ⟨i, .ok a⟩ :: u ∧ Runs (f a) s u r s' := by
  rw [runs_bind]
  refine ⟨?_, ?_⟩
  · intro run
    rcases run with ⟨e, raised, head⟩ | ⟨a, s₁, t₁, t₂, rfl, head, tail⟩
    · rcases runs_await.mp head with ⟨asked, kept⟩
      exact .inl ⟨e, asked, raised, kept⟩
    · rcases runs_await.mp head with ⟨rfl, rfl⟩
      exact .inr ⟨a, t₂, rfl, tail⟩
  · intro run
    rcases run with ⟨e, rfl, rfl, rfl⟩ | ⟨a, u, rfl, tail⟩
    · exact .inl ⟨e, rfl, runs_await.mpr ⟨rfl, rfl⟩⟩
    · exact .inr ⟨a, s, [⟨i, .ok a⟩], u, rfl, runs_await.mpr ⟨rfl, rfl⟩, tail⟩

theorem runs_update_bind {f : σ → σ} {g : Unit → Session σ ε ι β γ} {r : Except ε γ} :
    Runs (update f >>= g) s t r s' ↔ Runs (g ()) (f s) t r s' := by
  rw [runs_bind]
  refine ⟨?_, ?_⟩
  · intro run
    rcases run with ⟨e, -, head⟩ | ⟨a, s₁, t₁, t₂, rfl, head, tail⟩
    · cases (runs_update.mp head).2.1
    · rcases runs_update.mp head with ⟨rfl, -, rfl⟩
      exact tail
  · intro tail
    exact .inr ⟨(), f s, [], t, rfl, runs_update.mpr ⟨rfl, rfl, rfl⟩, tail⟩

theorem runs_read_bind {g : σ → Session σ ε ι β γ} {r : Except ε γ} :
    Runs (read >>= g) s t r s' ↔ Runs (g s) s t r s' := by
  rw [runs_bind]
  refine ⟨?_, ?_⟩
  · intro run
    rcases run with ⟨e, -, head⟩ | ⟨a, s₁, t₁, t₂, rfl, head, tail⟩
    · cases (runs_read.mp head).2.1
    · rcases runs_read.mp head with ⟨rfl, same, rfl⟩
      cases same
      exact tail
  · intro tail
    exact .inr ⟨s, s, [], t, rfl, runs_read.mpr ⟨rfl, rfl, rfl⟩, tail⟩

end Session
