import TerminalAndroid.Exec.Returns

namespace Exec

open EStateM

variable {ε σ τ α β : Type} {post : α → σ → Prop} {s : σ}

/-- From the given state the command returns, and its result and its last state meet the condition. -/
def Ends (post : α → σ → Prop) (m : EStateM ε σ α) (s : σ) : Prop := ∃ a s', m.run s = .ok a s' ∧ post a s'

def Completes (m : EStateM ε σ α) (s : σ) : Prop := ∃ a s', m.run s = .ok a s'

theorem Ends.completes {m : EStateM ε σ α} (ends : Ends post m s) : Completes m s :=
  let ⟨a, s', ran, _⟩ := ends
  ⟨a, s', ran⟩

namespace Ends

theorem pure {a : α} (holds : post a s) : Ends post (Pure.pure a : EStateM ε σ α) s := ⟨a, s, rfl, holds⟩

theorem set {post : PUnit → σ → Prop} {s' : σ} (holds : post () s') :
    Ends post (MonadStateOf.set s' : EStateM ε σ PUnit) s := ⟨_, s', rfl, holds⟩

theorem modify {post : Unit → σ → Prop} {f : σ → σ} (holds : post () (f s)) :
    Ends post (MonadState.modifyGet fun s => ((), f s) : EStateM ε σ Unit) s := ⟨(), f s, rfl, holds⟩

theorem get_bind {post : β → σ → Prop} {f : σ → EStateM ε σ β} (rest : Ends post (f s) s) :
    Ends post (MonadState.get >>= f) s := rest

theorem modify_bind {post : β → σ → Prop} {f : σ → σ} {g : PUnit → EStateM ε σ β} (rest : Ends post (g ()) (f s)) :
    Ends post ((MonadState.modifyGet fun s => ((), f s) : EStateM ε σ PUnit) >>= g) s := rest

theorem bind {between : α → σ → Prop} {post : β → σ → Prop} {m : EStateM ε σ α} {f : α → EStateM ε σ β}
    (first : Ends between m s) (rest : ∀ a t, between a t → Ends post (f a) t) : Ends post (m >>= f) s := by
  obtain ⟨a, t, ran, holds⟩ := first
  obtain ⟨b, s', ran', holds'⟩ := rest a t holds
  exact ⟨b, s', (run_bind_of ran).trans ran', holds'⟩

theorem ite {p : Prop} [Decidable p] {m n : EStateM ε σ α} (yes : p → Ends post m s) (no : ¬ p → Ends post n s) :
    Ends post (if p then m else n) s := by
  by_cases holds : p
  · rw [if_pos holds]
    exact yes holds
  · rw [if_neg holds]
    exact no holds

theorem mono {post' : α → σ → Prop} {m : EStateM ε σ α} (ends : Ends post m s)
    (weaker : ∀ a s', post a s' → post' a s') : Ends post' m s := by
  obtain ⟨a, s', ran, holds⟩ := ends
  exact ⟨a, s', ran, weaker a s' holds⟩

theorem congr {m m' : EStateM ε σ α} (same : m.run s = m'.run s) (ends : Ends post m' s) : Ends post m s := by
  unfold Ends
  rw [same]
  exact ends

theorem zoom {view : σ → τ} {put : τ → σ → σ} {post : α → τ → Prop} {m : EStateM ε τ α} (inner : Ends post m (view s)) :
    Ends (fun a s' => ∃ t, s' = put t s ∧ post a t) (Exec.zoom view put m) s := by
  obtain ⟨a, t, ran, holds⟩ := inner
  exact ⟨a, put t s, run_zoom_ok ran, t, rfl, holds⟩

end Ends

theorem completes_bind_iff {m : EStateM ε σ α} {f : α → EStateM ε σ β} :
    Completes (m >>= f) s ↔ ∃ a t, m.run s = .ok a t ∧ Completes (f a) t := by
  constructor
  · rintro ⟨b, s', ran⟩
    obtain ⟨a, t, first, rest⟩ := bind_inv ran
    exact ⟨a, t, first, b, s', rest⟩
  · rintro ⟨a, t, first, b, s', rest⟩
    exact ⟨b, s', (run_bind_of first).trans rest⟩

theorem not_completes_throw (thrown : ε) : ¬ Completes (MonadExcept.throw thrown : EStateM ε σ α) s := by
  rintro ⟨a, s', ran⟩
  cases ran

namespace Completes

theorem pure (a : α) : Completes (Pure.pure a : EStateM ε σ α) s := ⟨a, s, rfl⟩

theorem modify (f : σ → σ) : Completes (MonadState.modifyGet fun s => ((), f s) : EStateM ε σ Unit) s := ⟨(), f s, rfl⟩

theorem get_bind {f : σ → EStateM ε σ β} (rest : Completes (f s) s) : Completes (MonadState.get >>= f) s := rest

theorem of_get_bind {f : σ → EStateM ε σ β} (both : Completes (MonadState.get >>= f) s) : Completes (f s) s := both

theorem bind {m : EStateM ε σ α} {f : α → EStateM ε σ β} (first : Completes m s)
    (rest : ∀ a t, m.run s = .ok a t → Completes (f a) t) : Completes (m >>= f) s := by
  obtain ⟨a, t, ran⟩ := first
  exact completes_bind_iff.mpr ⟨a, t, ran, rest a t ran⟩

theorem ite {p : Prop} [Decidable p] {m n : EStateM ε σ α} (yes : p → Completes m s) (no : ¬ p → Completes n s) :
    Completes (if p then m else n) s := by
  by_cases holds : p
  · rw [if_pos holds]
    exact yes holds
  · rw [if_neg holds]
    exact no holds

end Completes

end Exec
