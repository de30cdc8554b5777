import TerminalAndroid.Exec.Triple

namespace Exec

open EStateM

variable {ε σ τ α β : Type}

def zoom (view : σ → τ) (put : τ → σ → σ) (m : EStateM ε τ α) : EStateM ε σ α := fun s =>
  match m.run (view s) with
  | .ok a t => .ok a (put t s)
  | .error e t => .error e (put t s)

variable {view : σ → τ} {put : τ → σ → σ} {m : EStateM ε τ α} {s : σ}

theorem run_zoom_ok {a : α} {t : τ} (ran : m.run (view s) = .ok a t) :
    (zoom view put m).run s = .ok a (put t s) := by
  show (match m.run (view s) with | .ok a t => _ | .error e t => _) = _
  rw [ran]

theorem run_zoom_error {thrown : ε} {t : τ} (ran : m.run (view s) = .error thrown t) :
    (zoom view put m).run s = .error thrown (put t s) := by
  show (match m.run (view s) with | .ok a t => _ | .error e t => _) = _
  rw [ran]

theorem zoom_bind {n : α → EStateM ε τ β} (view_put : ∀ t s, view (put t s) = t)
    (put_put : ∀ t t' s, put t' (put t s) = put t' s) :
    (zoom view put m >>= fun a => zoom view put (n a)) = zoom view put (m >>= n) := by
  funext s
  change (zoom view put m >>= fun a => zoom view put (n a)).run s = (zoom view put (m >>= n)).run s
  simp only [zoom, EStateM.run, bind, EStateM.bind]
  cases m (view s) with
  | error thrown t => rfl
  | ok a t =>
    simp only [view_put, put_put]

theorem zoom_inv {a : α} {s' : σ} (ran : (zoom view put m).run s = .ok a s') :
    ∃ t, m.run (view s) = .ok a t ∧ s' = put t s := by
  change (match m.run (view s) with | .ok a t => _ | .error e t => _) = _ at ran
  split at ran
  next a t inner =>
    cases ran
    exact ⟨t, inner, rfl⟩
  · cases ran

end Exec
