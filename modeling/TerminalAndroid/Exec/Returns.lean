import TerminalAndroid.Exec.Frame
import TerminalAndroid.Exec.Zoom

namespace Exec

open EStateM

variable {ε σ α β : Type} {R : σ → σ → Prop} {s : σ}

def Leads (R : σ → σ → Prop) (m : EStateM ε σ α) (s : σ) : Prop := ∀ a s', m.run s = .ok a s' → R s s'

def Returns (R : σ → σ → Prop) (m : EStateM ε σ α) : Prop := ∀ s, Leads R m s

theorem bind_inv {m : EStateM ε σ α} {f : α → EStateM ε σ β} {b : β} {s' : σ} (ran : (m >>= f).run s = .ok b s') :
    ∃ a t, m.run s = .ok a t ∧ (f a).run t = .ok b s' := by
  rw [run_bind] at ran
  cases first : m.run s with
  | ok a t =>
    rw [first] at ran
    exact ⟨a, t, rfl, ran⟩
  | error thrown t =>
    rw [first] at ran
    cases ran

theorem run_bind_of {m : EStateM ε σ α} {f : α → EStateM ε σ β} {a : α} {t : σ} (first : m.run s = .ok a t) :
    (m >>= f).run s = (f a).run t := by rw [run_bind, first]

theorem run_bind_congr {m : EStateM ε σ α} {f g : α → EStateM ε σ β}
    (same : ∀ a t, m.run s = .ok a t → (f a).run t = (g a).run t) : (m >>= f).run s = (m >>= g).run s := by
  rw [run_bind, run_bind]
  cases first : m.run s with
  | ok a t => exact same a t first
  | error thrown t => rfl

namespace Leads

theorem pure [Std.Refl R] (a : α) : Leads R (Pure.pure a : EStateM ε σ α) s := by
  intro b s' ran
  cases ran
  exact Std.Refl.refl s

theorem throw (thrown : ε) : Leads R (MonadExcept.throw thrown : EStateM ε σ α) s := by
  intro b s' ran
  cases ran

theorem set {s' : σ} (step : R s s') : Leads R (MonadStateOf.set s' : EStateM ε σ PUnit) s := by
  intro b t ran
  cases ran
  exact step

theorem modify {f : σ → σ} (step : R s (f s)) :
    Leads R (MonadState.modifyGet fun s => ((), f s) : EStateM ε σ Unit) s := by
  intro b s' ran
  cases ran
  exact step

theorem get_bind {f : σ → EStateM ε σ β} (rest : Leads R (f s) s) : Leads R (MonadState.get >>= f) s := rest

theorem bind [IsTrans σ R] {m : EStateM ε σ α} {f : α → EStateM ε σ β} (first : Leads R m s)
    (rest : ∀ a t, m.run s = .ok a t → Leads R (f a) t) : Leads R (m >>= f) s := by
  intro b s' ran
  obtain ⟨a, t, before, after⟩ := bind_inv ran
  exact IsTrans.trans _ _ _ (first a t before) (rest a t before b s' after)

theorem ite {p : Prop} [Decidable p] {m n : EStateM ε σ α} (yes : p → Leads R m s) (no : ¬ p → Leads R n s) :
    Leads R (if p then m else n) s := by
  by_cases holds : p
  · rw [if_pos holds]
    exact yes holds
  · rw [if_neg holds]
    exact no holds

theorem mono {Q : σ → σ → Prop} {m : EStateM ε σ α} (leads : Leads R m s) (weaker : ∀ s s', R s s' → Q s s') :
    Leads Q m s := fun a s' ran => weaker _ _ (leads a s' ran)

end Leads

namespace Returns

theorem pure [Std.Refl R] (a : α) : Returns R (Pure.pure a : EStateM ε σ α) := fun _ => Leads.pure a

theorem throw (thrown : ε) : Returns R (MonadExcept.throw thrown : EStateM ε σ α) := fun _ => Leads.throw thrown

theorem modify {f : σ → σ} (step : ∀ s, R s (f s)) :
    Returns R (MonadState.modifyGet fun s => ((), f s) : EStateM ε σ Unit) := fun s => Leads.modify (step s)

theorem bind [IsTrans σ R] {m : EStateM ε σ α} {f : α → EStateM ε σ β} (first : Returns R m)
    (rest : ∀ a, Returns R (f a)) : Returns R (m >>= f) := fun s => Leads.bind (first s) fun a t _ => rest a t

theorem ite {p : Prop} [Decidable p] {m n : EStateM ε σ α} (yes : p → Returns R m) (no : ¬ p → Returns R n) :
    Returns R (if p then m else n) := fun s => Leads.ite (fun holds => yes holds s) fun fails => no fails s

theorem mono {Q : σ → σ → Prop} {m : EStateM ε σ α} (returns : Returns R m) (weaker : ∀ s s', R s s' → Q s s') :
    Returns Q m := fun s => (returns s).mono weaker

theorem of_frame {m : EStateM ε σ α} (frame : Frame R m) : Returns R m := by
  intro s a s' ran
  have related := frame s
  rw [ran] at related
  exact related

theorem of_same [Std.Refl R] {m : EStateM ε σ α} (same : Returns (fun s s' => s' = s) m) : Returns R m := by
  refine same.mono fun s s' eq => ?_
  subst eq
  exact Std.Refl.refl s'

end Returns

end Exec
