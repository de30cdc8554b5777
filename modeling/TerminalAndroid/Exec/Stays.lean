import Mathlib

open Std.Do

namespace Exec

variable {ε σ α : Type} {I : σ → Prop}

/-- The invariant holds again whenever the method returns. -/
abbrev Stays (I : σ → Prop) (m : EStateM ε σ α) : Prop := ⦃fun s => ⌜I s⌝⦄ m ⦃⇓? _ s => ⌜I s⌝⦄

theorem stays_iff {m : EStateM ε σ α} : Stays I m ↔ ∀ s a s', I s → m.run s = .ok a s' → I s' := by
  constructor
  · intro triple s a s' before ran
    have after := triple s before
    simp only [WP.wp, PredTrans.apply, ran] at after
    exact after
  · intro kept s before
    simp only [WP.wp, PredTrans.apply]
    cases ran : m.run s with
    | ok a s' => exact kept s a s' before ran
    | error thrown s' => trivial

end Exec
