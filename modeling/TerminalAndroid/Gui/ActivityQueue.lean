import TerminalAndroid.Exec.Machine

namespace TermuxGui

/-- `ActivityState` with the connection thread: a closure is a number, `pending` is one that `runOnUIThreadActivityStarted`
is about to queue, and `repeated` counts the queued closures that were already run. -/
structure ActivityState where
  activity : Bool := true
  saved : Bool := false
  removed : Bool := false
  queued : List Nat := []
  pending : Option Nat := none
  passed : List Nat := []
  ran : List Nat := []
  repeated : Nat := 0

inductive ActivityEvent
  | call (closure : Nat)
  | offer
  | created
  | started
  | saveInstanceState
  | destroyed (isFinishing : Bool)

/-- `runOnUIThreadActivityStarted` is a step on the UI thread and one on the connection thread; the others are callbacks
of the `LifecycleListener`. -/
def activityStep (s : ActivityState) : ActivityEvent → Option ActivityState
  | .call closure =>
    if s.removed ∨ s.pending ≠ none then none
    else if s.saved ∨ !s.activity then some { s with passed := s.passed ++ [closure], pending := some closure }
    else some { s with passed := s.passed ++ [closure], ran := s.ran ++ [closure] }
  | .offer => s.pending.map fun closure =>
    { s with pending := none, queued := if s.queued.length < 100 then s.queued ++ [closure] else s.queued }
  | .created => if s.removed ∨ s.activity then none else some { s with activity := true }
  | .started =>
    if s.removed ∨ !s.activity then none
    else some { s with saved := false, ran := s.ran ++ s.queued, repeated := s.queued.length }
  | .saveInstanceState => if s.removed ∨ !s.activity then none else some { s with saved := true }
  | .destroyed isFinishing =>
    if s.removed ∨ !s.activity then none
    else if isFinishing then some { s with removed := true, activity := false } else some { s with activity := false }

def ActivityState.waiting (s : ActivityState) : List Nat := s.queued.drop s.repeated ++ s.pending.toList

/-- The queue has room for what is offered, the activity starts with nothing in it that was already run, and runs a closure
directly or goes away when nothing waits. -/
def Tidy (s : ActivityState) : ActivityEvent → Prop
  | .call _ => s.saved = false → s.activity = true → s.waiting = []
  | .offer => s.queued.length < 100
  | .started => s.repeated = 0
  | .destroyed isFinishing => isFinishing = true → s.waiting = []
  | _ => True

def Served (s : ActivityState) : Prop :=
  s.passed = s.ran ++ s.waiting ∧ s.repeated ≤ s.queued.length ∧ (s.removed = true → s.waiting = [])

variable {s s' : ActivityState} {event : ActivityEvent}

theorem activityStep_served (served : Served s) (tidy : Tidy s event) (stepped : activityStep s event = some s') :
    Served s' := by
  rcases served with ⟨passed, inside, gone⟩
  unfold ActivityState.waiting at passed gone
  cases event with
  | call closure =>
    simp only [activityStep, Tidy, ActivityState.waiting] at stepped tidy
    split at stepped
    · cases stepped
    next there =>
    rw [not_or, not_not] at there
    rw [there.2] at passed tidy gone
    split at stepped
    · cases stepped
      exact ⟨by simp [ActivityState.waiting, passed], inside, fun removed => absurd removed there.1⟩
    · next started =>
      cases stepped
      have empty : s.queued.drop s.repeated = [] := by
        simp only [not_or, Bool.not_eq_true, Bool.not_eq_false'] at started
        simpa using tidy started.1 started.2
      exact ⟨by simp [ActivityState.waiting, passed, empty, there.2], inside, fun removed => absurd removed there.1⟩
  | offer =>
    rcases Option.map_eq_some_iff.mp stepped with ⟨closure, pending, rfl⟩
    rw [pending] at passed gone
    rw [if_pos (show s.queued.length < 100 from tidy)]
    refine ⟨?_, ?_, fun removed => ?_⟩
    · simpa [ActivityState.waiting, List.drop_append_of_le_length inside] using passed
    · exact Nat.le_trans inside (by simp)
    · exact absurd (gone removed) (by simp)
  | created =>
    simp only [activityStep] at stepped
    split at stepped <;> cases stepped
    exact ⟨passed, inside, gone⟩
  | started =>
    simp only [activityStep] at stepped
    split at stepped <;> cases stepped
    next there =>
    rw [not_or] at there
    rw [show s.repeated = 0 from tidy, List.drop_zero] at passed
    exact ⟨by simpa [ActivityState.waiting] using passed, Nat.le_refl _, fun removed => absurd removed there.1⟩
  | saveInstanceState =>
    simp only [activityStep] at stepped
    split at stepped <;> cases stepped
    exact ⟨passed, inside, gone⟩
  | destroyed isFinishing =>
    simp only [activityStep] at stepped
    split at stepped
    · cases stepped
    split at stepped <;> cases stepped
    · next finishing => exact ⟨passed, inside, fun _ => tidy finishing⟩
    · exact ⟨passed, inside, gone⟩

/-- In a tidy run the closures were run once each and in order up to those that wait, a start leaves none in the queue, and
none is left when the activity is gone. -/
theorem closures_run_once {events : List ActivityEvent} (meets : Machine.Meets activityStep Tidy {} events)
    (ran : Machine.run activityStep {} events = some s) :
    s.passed = s.ran ++ s.waiting ∧ (s.removed = true → s.passed = s.ran) ∧
      ∀ s', activityStep s .started = some s' → s'.waiting = s.pending.toList := by
  have served : Served s := Machine.keeps
    (fun _ _ _ served tidy stepped => activityStep_served served tidy stepped)
    ⟨rfl, Nat.le_refl _, fun _ => rfl⟩ meets ran
  refine ⟨served.1, fun removed => by rw [served.1, served.2.2 removed, List.append_nil], fun s' stepped => ?_⟩
  simp only [activityStep] at stepped
  split at stepped <;> cases stepped
  simp [ActivityState.waiting]

theorem closures_run_once_queued :
    let s : ActivityState := { queued := [7], passed := [7, 8], ran := [7, 8], repeated := 1 }
    s.passed = s.ran ++ s.waiting := by
  refine (@closures_run_once _ [.saveInstanceState, .call 7, .offer, .started, .call 8] ?_ rfl).1
  simp [Machine.Meets, activityStep, Tidy, ActivityState.waiting]

/-- The queue is never emptied: the closure runs again at the next start. -/
theorem closure_runs_twice : (Machine.run activityStep {} [.saveInstanceState, .call 7, .offer, .started,
    .saveInstanceState, .started]).map (·.ran) = some [7, 7] := by
  decide

end TermuxGui
