import Mathlib

namespace Exec

open EStateM

variable {ε σ α β : Type}

def final : EStateM.Result ε σ α → σ
  | .ok _ s => s
  | .error _ s => s

@[simp] theorem final_ok (a : α) (s : σ) : final (.ok a s : EStateM.Result ε σ α) = s := rfl

@[simp] theorem final_error (e : ε) (s : σ) : final (.error e s : EStateM.Result ε σ α) = s := rfl

/-- Every run, finished or cut short by an exception, relates its first state to its last. -/
def Frame (R : σ → σ → Prop) (m : EStateM ε σ α) : Prop := ∀ s, R s (final (m.run s))

variable {R : σ → σ → Prop}

theorem Frame.pure [Std.Refl R] (a : α) : Frame R (Pure.pure a : EStateM ε σ α) := fun s => Std.Refl.refl s

theorem Frame.throw [Std.Refl R] (e : ε) : Frame R (MonadExcept.throw e : EStateM ε σ α) := fun s => Std.Refl.refl s

theorem Frame.bind [IsTrans σ R] {m : EStateM ε σ α} {f : α → EStateM ε σ β} (first : Frame R m)
    (rest : ∀ a, Frame R (f a)) : Frame R (m >>= f) := by
  intro s
  have before := first s
  rw [run_bind]
  cases ran : m.run s with
  | ok a s' =>
    rw [ran] at before
    exact IsTrans.trans _ _ _ before (rest a s')
  | error e s' =>
    rw [ran] at before
    exact before

theorem Frame.get_bind {f : σ → EStateM ε σ β} (rest : ∀ s, R s (final ((f s).run s))) :
    Frame R (MonadState.get >>= f) := rest

theorem Frame.modify {f : σ → σ} (step : ∀ s, R s (f s)) :
    Frame R (MonadState.modifyGet fun s => ((), f s) : EStateM ε σ Unit) := step

theorem Frame.ite {p : Prop} [Decidable p] {m n : EStateM ε σ α} (yes : p → Frame R m) (no : ¬ p → Frame R n) :
    Frame R (if p then m else n) := by
  by_cases h : p
  · simpa only [h, if_true] using yes h
  · simpa only [h, if_false] using no h

theorem Frame.mono {Q : σ → σ → Prop} {m : EStateM ε σ α} (frame : Frame R m) (weaker : ∀ s s', R s s' → Q s s') :
    Frame Q m := fun s => weaker _ _ (frame s)

def Keeps (I : σ → Prop) (s s' : σ) : Prop := I s → I s'

instance (I : σ → Prop) : Std.Refl (Keeps I) := ⟨fun _ holds => holds⟩

instance (I : σ → Prop) : IsTrans σ (Keeps I) := ⟨fun _ _ _ first second holds => second (first holds)⟩

end Exec
