import Mathlib.Data.List.Basic

namespace Machine

variable {σ ε : Type} {step : σ → ε → Option σ} {allows : σ → ε → Prop} {s s' t : σ} {before after events : List ε}

def run (step : σ → ε → Option σ) : σ → List ε → Option σ
  | s, [] => some s
  | s, event :: events =>
    match step s event with
    | none => none
    | some s' => run step s' events

def Meets (step : σ → ε → Option σ) (allows : σ → ε → Prop) : σ → List ε → Prop
  | _, [] => True
  | s, event :: events =>
    allows s event ∧
      match step s event with
      | none => True
      | some s' => Meets step allows s' events

instance Meets.decidable [∀ s event, Decidable (allows s event)] :
    ∀ s events, Decidable (Meets step allows s events)
  | _, [] => isTrue trivial
  | s, event :: events =>
    match stepped : step s event with
    | none => decidable_of_iff (allows s event) (by simp [Meets, stepped])
    | some s' =>
      have := Meets.decidable s' events
      decidable_of_iff (allows s event ∧ Meets step allows s' events) (by simp [Meets, stepped])

@[simp] theorem run_nil : run step s [] = some s := rfl

theorem run_cons_iff {event : ε} :
    run step s (event :: events) = some t ↔ ∃ s', step s event = some s' ∧ run step s' events = some t := by
  cases stepped : step s event with
  | none => simp [run, stepped]
  | some s' => simp [run, stepped]

theorem meets_cons_iff {event : ε} (stepped : step s event = some s') :
    Meets step allows s (event :: events) ↔ allows s event ∧ Meets step allows s' events := by
  simp [Meets, stepped]

theorem keeps {P : σ → Prop} (kept : ∀ s event s', P s → allows s event → step s event = some s' → P s') :
    ∀ {events : List ε} {s t : σ}, P s → Meets step allows s events → run step s events = some t → P t := by
  intro events
  induction events with
  | nil =>
    intro s t held _ ran
    cases ran
    exact held
  | cons event events ih =>
    intro s t held meets ran
    rcases run_cons_iff.mp ran with ⟨s', stepped, ran'⟩
    rcases (meets_cons_iff stepped).mp meets with ⟨allowed, meets'⟩
    exact ih (kept s event s' held allowed stepped) meets' ran'

theorem run_keeps {P : σ → Prop} (kept : ∀ s event s', P s → step s event = some s' → P s') :
    ∀ {events : List ε} {s t : σ}, P s → run step s events = some t → P t := by
  intro events
  induction events with
  | nil =>
    intro s t held ran
    cases ran
    exact held
  | cons event events ih =>
    intro s t held ran
    rcases run_cons_iff.mp ran with ⟨s', stepped, ran'⟩
    exact ih (kept s event s' held stepped) ran'

theorem meets_append_iff (ran : run step s before = some s') :
    Meets step allows s (before ++ after) ↔ Meets step allows s before ∧ Meets step allows s' after := by
  induction before generalizing s with
  | nil =>
    cases ran
    exact (and_iff_right trivial).symm
  | cons event before ih =>
    rcases run_cons_iff.mp ran with ⟨middle, stepped, ran'⟩
    rw [List.cons_append, meets_cons_iff stepped, meets_cons_iff stepped, ih ran', and_assoc]

end Machine
