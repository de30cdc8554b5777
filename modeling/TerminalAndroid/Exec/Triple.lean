import TerminalAndroid.Exec.Frame

namespace Exec

open EStateM

variable {ε σ τ α β : Type}

/-- A command that starts in a state meeting `pre` ends in `post` when it returns
    and in `fail` when it throws. The state a throw leaves behind is not rolled back. -/
def Triple (pre : σ → Prop) (m : EStateM ε σ α) (post : α → σ → Prop) (fail : ε → σ → Prop) : Prop :=
  ∀ s, pre s → match m.run s with
    | .ok a s' => post a s'
    | .error e s' => fail e s'

theorem Triple.ok {pre : σ → Prop} {m : EStateM ε σ α} {post : α → σ → Prop} {fail : ε → σ → Prop}
    (triple : Triple pre m post fail) {s s' : σ} {a : α} (start : pre s) (ran : m.run s = .ok a s') :
    post a s' := by
  have result := triple s start
  rw [ran] at result
  exact result

theorem Triple.weaken {pre pre' : σ → Prop} {m : EStateM ε σ α} {post post' : α → σ → Prop}
    {fail fail' : ε → σ → Prop} (triple : Triple pre m post fail) (before : ∀ s, pre' s → pre s)
    (after : ∀ a s, post a s → post' a s) (thrown : ∀ e s, fail e s → fail' e s) :
    Triple pre' m post' fail' := by
  intro s start
  have result := triple s (before s start)
  cases ran : m.run s with
  | ok a s' => rw [ran] at result; exact after a s' result
  | error e s' => rw [ran] at result; exact thrown e s' result

theorem Triple.bind {pre : σ → Prop} {m : EStateM ε σ α} {f : α → EStateM ε σ β}
    {middle : α → σ → Prop} {post : β → σ → Prop} {fail : ε → σ → Prop}
    (first : Triple pre m middle fail) (rest : ∀ a, Triple (middle a) (f a) post fail) :
    Triple pre (m >>= f) post fail := by
  intro s start
  have result := first s start
  rw [run_bind]
  cases ran : m.run s with
  | ok a s' => rw [ran] at result; exact rest a s' result
  | error e s' => rw [ran] at result; exact result

theorem Triple.pure {pre : σ → Prop} {post : α → σ → Prop} {fail : ε → σ → Prop} (a : α)
    (holds : ∀ s, pre s → post a s) : Triple pre (Pure.pure a : EStateM ε σ α) post fail :=
  fun s start => holds s start

theorem Triple.throw {pre : σ → Prop} {post : α → σ → Prop} {fail : ε → σ → Prop} (e : ε)
    (holds : ∀ s, pre s → fail e s) : Triple pre (MonadExcept.throw e : EStateM ε σ α) post fail :=
  fun s start => holds s start

theorem Triple.ite {pre : σ → Prop} {p : Prop} [Decidable p] {m n : EStateM ε σ α}
    {post : α → σ → Prop} {fail : ε → σ → Prop} (yes : p → Triple pre m post fail)
    (no : ¬ p → Triple pre n post fail) : Triple pre (if p then m else n) post fail := by
  by_cases h : p
  · simpa only [h, if_true] using yes h
  · simpa only [h, if_false] using no h

theorem Triple.reads {m : EStateM ε σ α} (frame : Frame (fun s s' => s' = s) m) (t : σ) :
    Triple (fun s => s = t) m (fun _ s => s = t) (fun _ s => s = t) := by
  intro s start
  have same := frame s
  subst start
  cases ran : m.run s with
  | ok a s' => rwa [ran] at same
  | error e s' => rwa [ran] at same

end Exec
