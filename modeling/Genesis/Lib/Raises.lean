import Genesis.Lib.Dialogue

/-!
# Exceptions by kind

`RaisesOnly P x`: whatever exception the computation `x` ends in satisfies `P`.
The rules follow the way a computation is put together; after a bind the rest
may use that its head has returned.  `Session.Propagates` is the same for
programs that await ports, where `P` is required of what the ports reply with.
-/

/-- A computation with a known view of what it returns has returned. -/
theorem exists_ok_of_map {ε α β : Type} {x : Except ε α} {view : α → β} {b : β}
    (shown : x.toOption.map view = some b) : ∃ a, x = .ok a ∧ view a = b := by
  cases x with
  | error e => cases shown
  | ok a => exact ⟨a, rfl, Option.some.inj shown⟩

/-- Every exception of the computation satisfies `P`. -/
def RaisesOnly {ε α : Type} (P : ε → Prop) (x : Except ε α) : Prop := ∀ e, x = .error e → P e

namespace RaisesOnly

variable {ε α β : Type} {P Q : ε → Prop} {x : Except ε α}

theorem ok (a : α) : RaisesOnly P (.ok a) := nofun

theorem error_iff {e : ε} : RaisesOnly P (.error e : Except ε α) ↔ P e := by
  refine ⟨fun only => only e rfl, fun holds e' same => ?_⟩
  cases same
  exact holds

theorem mono (only : RaisesOnly P x) (weaker : ∀ e, P e → Q e) : RaisesOnly Q x :=
  fun e raised => weaker e (only e raised)

theorem bind {f : α → Except ε β} (head : RaisesOnly P x)
    (rest : ∀ a, x = .ok a → RaisesOnly P (f a)) : RaisesOnly P (x >>= f) := by
  cases x with
  | error e => exact error_iff.mpr (head e rfl)
  | ok a => exact rest a rfl

theorem map {f : α → β} (only : RaisesOnly P x) : RaisesOnly P (x.map f) := by
  cases x with
  | error e => exact error_iff.mpr (only e rfl)
  | ok a => exact ok _

theorem forM {f : α → Except ε Unit} {xs : List α} (each : ∀ a ∈ xs, RaisesOnly P (f a)) :
    RaisesOnly P (forM xs f) := by
  induction xs with
  | nil => exact ok ()
  | cons a xs ih =>
    obtain ⟨first, others⟩ := List.forall_mem_cons.mp each
    exact first.bind fun _ _ => ih others

theorem mapM {f : α → Except ε β} {xs : List α} (each : ∀ a ∈ xs, RaisesOnly P (f a)) :
    RaisesOnly P (xs.mapM f) := by
  induction xs with
  | nil => exact ok []
  | cons a xs ih =>
    obtain ⟨first, others⟩ := List.forall_mem_cons.mp each
    rw [List.mapM_cons]
    exact first.bind fun _ _ => (ih others).bind fun _ _ => ok _

end RaisesOnly

namespace Session

variable {σ ε ι : Type} {β : ι → Type} {α γ : Type} {P : ε → Prop}

/-- The exceptions the ports reply with satisfy `P`. -/
def RepliesOnly (P : ε → Prop) (t : Trace ε ι β) : Prop :=
  ∀ event ∈ t, ∀ e, event.reply = .error e → P e

/-- Every exception a run ends in satisfies `P`, if those of the ports do. -/
def Propagates (P : ε → Prop) (p : Session σ ε ι β α) : Prop :=
  ∀ s t r s', Runs p s t r s' → RepliesOnly P t → ∀ e, r = .error e → P e

namespace Propagates

theorem pure (a : α) : Propagates P (pure a : Session σ ε ι β α) := by
  intro s t r s' run _ e raised
  rw [(runs_pure.mp run).2.1] at raised
  cases raised

theorem compute {x : Except ε α} (only : RaisesOnly P x) :
    Propagates P (compute x : Session σ ε ι β α) := by
  intro s t r s' run _ e raised
  exact only e ((runs_compute.mp run).2.1.symm.trans raised)

theorem await (i : ι) : Propagates P (await i : Session σ ε ι β (β i)) := by
  intro s t r s' run replies e raised
  obtain ⟨rfl, -⟩ := runs_await.mp run
  exact replies _ List.mem_cons_self e raised

theorem update (f : σ → σ) : Propagates P (update f : Session σ ε ι β Unit) := by
  intro s t r s' run _ e raised
  rw [(runs_update.mp run).2.1] at raised
  cases raised

theorem read : Propagates P (read : Session σ ε ι β σ) := by
  intro s t r s' run _ e raised
  rw [(runs_read.mp run).2.1] at raised
  cases raised

theorem bind {p : Session σ ε ι β α} {f : α → Session σ ε ι β γ} (head : Propagates P p)
    (rest : ∀ a, Propagates P (f a)) : Propagates P (p >>= f) := by
  intro s t r s' run replies e raised
  rcases runs_bind.mp run with ⟨e', rfl, stopped⟩ | ⟨a, s₁, t₁, t₂, rfl, first, second⟩
  · cases raised
    exact head s t _ s' stopped replies e rfl
  · have later : RepliesOnly P t₂ :=
      fun event member => replies event (List.mem_append_right t₁ member)
    exact rest a s₁ t₂ r s' second later e raised

end Propagates

end Session
