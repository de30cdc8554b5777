import TerminalAndroid.X11.GpuCopyQueue

namespace Lorie.GpuCopy

open Spsc

variable {s s' : State}

def Renderer.sleeps : Renderer → Bool
  | .aboutToWait => true
  | .waiting => true
  | _ => false

/-- The X server does not signal between the renderer's test and its wait, nor a condition variable that a waiting
    renderer does not wait on, and a renderer that tests the queue has it mapped unless it is empty. -/
def Hears (s : State) : Event → Prop
  | .server .signal => s.renderer ≠ .aboutToWait ∧ (s.renderer = .waiting → s.attached = true)
  | .loop (.shouldWait _) => s.mapped = true ∨ s.readIndex = s.writeIndex
  | _ => True

instance (s : State) (event : Event) : Decidable (Hears s event) := by
  unfold Hears
  split <;> infer_instance

def Awake (s : State) : Prop := s.renderer.sleeps = true → s.readIndex = s.writeIndex ∨ s.signalling = true

theorem sleeps_signal {renderer : Renderer} (sleeps : renderer.signal.sleeps = true) : renderer = .aboutToWait := by
  cases renderer <;> first | rfl | cases sleeps

theorem sleeps_next (site : Site) : site.next.sleeps = false := by
  cases site <;> rfl

theorem Awake.signalled (awake : Awake s) {renderer : Renderer} (sleeps : renderer.sleeps = true)
    (signalled : renderer = if s.attached then s.renderer.signal else s.renderer) :
    s.readIndex = s.writeIndex ∨ s.signalling = true := by
  apply awake
  subst signalled
  split at sleeps
  · rw [sleeps_signal sleeps]
    rfl
  · exact sleeps

theorem Awake.server (awake : Awake s) {action : ServerAction} (hears : Hears s (.server action))
    (stepped : serverStep s action = some s') : Awake s' := by
  cases action with
  | loadWriteIndex =>
    simp only [serverStep] at stepped
    split at stepped
    · cases stepped
    · rcases Option.map_eq_some_iff.mp stepped with ⟨queue, ran, rfl⟩
      rcases load_eq ran with ⟨_, rfl⟩
      exact awake
  | checkRoom request =>
    simp only [serverStep] at stepped
    split at stepped
    · cases stepped
    · rcases Option.map_eq_some_iff.mp stepped with ⟨queue, ran, rfl⟩
      rcases check_eq ran with ⟨writeIndex, _, rfl⟩
      exact awake
  | writeField =>
    rcases Option.map_eq_some_iff.mp stepped with ⟨queue, ran, rfl⟩
    rcases fill_eq ran with ⟨writeIndex, record, i, todo, _, rfl⟩
    exact awake
  | publish =>
    rcases Option.map_eq_some_iff.mp stepped with ⟨queue, ran, rfl⟩
    exact fun _ => Or.inr rfl
  | signal =>
    simp only [serverStep] at stepped
    split at stepped
    · cases stepped
      intro sleeps
      rcases hears with ⟨tested, attached⟩
      dsimp only at sleeps
      split at sleeps
      · exact absurd (sleeps_signal sleeps) tested
      · rename_i detached
        cases renderer : s.renderer with
        | aboutToWait => exact absurd renderer tested
        | waiting => exact absurd (attached renderer) detached
        | _ =>
          rw [renderer] at sleeps
          cases sleeps
    · cases stepped
  | redrawSignal =>
    simp only [serverStep] at stepped
    split at stepped
    · cases stepped
    · cases stepped
      exact fun sleeps => awake.signalled sleeps rfl
  | setRendererWakeupCond =>
    simp only [serverStep] at stepped
    split at stepped
    · cases stepped
    · cases stepped
      intro sleeps
      apply awake
      rw [sleeps_signal sleeps]
      rfl

theorem Awake.loop (awake : Awake s) {action : LoopAction} (hears : Hears s (.loop action))
    (stepped : loopStep s action = some s') : Awake s' := by
  unfold loopStep at stepped
  split at stepped
  · -- shouldWait
    cases stepped
    intro sleeps
    simp only [State.setRenderer] at sleeps
    split at sleeps
    · cases sleeps
    · rename_i waits
      left
      rcases hears with mapped | empty
      · simp only [State.gpuCopyPending, mapped, Bool.true_and, Bool.or_eq_true, decide_eq_true_eq, not_or] at waits
        exact Classical.not_not.mp waits.1
      · exact empty
  · -- condWait
    rename_i renderer
    cases stepped
    intro _
    apply awake
    rw [renderer]
    rfl
  · cases stepped
    intro sleeps
    cases sleeps
  · cases stepped
    intro sleeps
    cases sleeps
  · cases stepped
    intro sleeps
    cases sleeps
  · cases stepped
    intro sleeps
    simp only [State.setRenderer] at sleeps
    split at sleeps
    · cases sleeps
    · split at sleeps <;> cases sleeps
  · cases stepped
    intro sleeps
    simp only [State.setRenderer] at sleeps
    split at sleeps <;> cases sleeps
  · cases stepped
    intro sleeps
    simp only [State.setRenderer] at sleeps
    split at sleeps
    · cases sleeps
    · rw [sleeps_next] at sleeps
      cases sleeps
  · cases stepped
    intro sleeps
    simp only [State.setRenderer] at sleeps
    split at sleeps <;> cases sleeps
  · cases stepped

theorem sleeps_drain {action : DrainAction} (stepped : drainStep s action = some s') : s'.renderer.sleeps = false := by
  unfold drainStep at stepped
  split at stepped
  · rename_i renderer
    split at stepped
    · split at stepped
      · cases stepped
        rfl
      · rcases Option.map_eq_some_iff.mp stepped with ⟨queue, _, rfl⟩
        simp only [State.setQueue, renderer]
        rfl
    · cases stepped
  · rename_i renderer
    rcases Option.map_eq_some_iff.mp stepped with ⟨queue, _, rfl⟩
    simp only [State.setQueue, renderer]
    rfl
  · split at stepped
    · rcases Option.map_eq_some_iff.mp stepped with ⟨queue, _, rfl⟩
      rfl
    · cases stepped
  · cases stepped
    exact sleeps_next _
  · cases stepped

theorem Awake.step (awake : Awake s) {event : Event} (hears : Hears s event) (stepped : step s event = some s') :
    Awake s' := by
  cases event with
  | server action => exact awake.server hears stepped
  | loop action => exact awake.loop hears stepped
  | drain action =>
    intro sleeps
    rw [sleeps_drain stepped] at sleeps
    cases sleeps

def connects : List Event := maps ++ [.server .setRendererWakeupCond]

end Lorie.GpuCopy
