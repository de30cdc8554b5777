import TerminalAndroid.Exec.Machine

namespace Lorie.SharedMutex

inductive Side
  | xserver
  | renderer
  deriving DecidableEq, Repr

structure Mutex where
  owner : Option Side
  count : Nat
  deriving DecidableEq, Repr

def Mutex.unlocked : Mutex := ⟨none, 0⟩

inductive Phase
  | running
  | locking
  | timedOut
  | testingConnection
  | copyingInitializer
  | initializing
  | locked
  | unlocking
  deriving DecidableEq, Repr

structure Process where
  phase : Phase
  depth : Nat
  conn_fd : Int
  deriving DecidableEq, Repr

structure State where
  mutex : Mutex
  lockingPid : Option Side
  process : Side → Process
  /-- What `poll` finds on the connection of the X server. -/
  hungUp : Bool

/-- Both processes run and the X server has its connection; only the X server sets the `conn_fd` of `cmdentrypoint.cpp`. -/
def State.connected (fd : Int) : State where
  mutex := .unlocked
  lockingPid := none
  process := fun
    | .xserver => ⟨.running, 0, fd⟩
    | .renderer => ⟨.running, 0, -1⟩
  hungUp := false

def lorieConnectionAlive (s : State) (side : Side) : Bool :=
  if (s.process side).conn_fd = -1 then false else !s.hungUp

def State.Inside (s : State) (side : Side) : Prop := 0 < (s.process side).depth

instance (s : State) (side : Side) : Decidable (s.Inside side) := inferInstanceAs (Decidable (_ < _))

inductive Action
  | callLock
  | timedlockLocks
  | timedlockTimesOut
  | testLockingPid
  | testConnection
  | copyInitializer
  | mutexInit
  | storeLockingPid
  | callUnlock
  | mutexUnlock
  deriving DecidableEq, Repr

inductive Event
  | acts (side : Side) (action : Action)
  | connect (fd : Int)
  | hangUp
  | handleHangUp
  deriving DecidableEq, Repr

def State.setProcess (s : State) (side : Side) (process : Process) : State :=
  { s with process := Function.update s.process side process }

def State.setPhase (s : State) (side : Side) (phase : Phase) : State :=
  s.setProcess side { s.process side with phase := phase }

def Mutex.lock (mutex : Mutex) (side : Side) : Mutex := ⟨some side, mutex.count + 1⟩

def Mutex.unlock (mutex : Mutex) (side : Side) : Mutex :=
  if mutex.owner = some side then
    if mutex.count ≤ 1 then .unlocked else ⟨some side, mutex.count - 1⟩
  else mutex

def act (s : State) (side : Side) (action : Action) : Option State :=
  match (s.process side).phase, action with
  | .running, .callLock => some (s.setPhase side .locking)
  | .locking, .timedlockLocks =>
    if s.mutex.owner = none ∨ s.mutex.owner = some side then
      some { s.setPhase side .locked with mutex := s.mutex.lock side }
    else none
  | .locking, .timedlockTimesOut =>
    if s.mutex.owner = none ∨ s.mutex.owner = some side then none else some (s.setPhase side .timedOut)
  | .timedOut, .testLockingPid =>
    some (s.setPhase side (if s.lockingPid = some side then .locking else .testingConnection))
  | .testingConnection, .testConnection =>
    some (s.setPhase side (if lorieConnectionAlive s side then .locking else .copyingInitializer))
  | .copyingInitializer, .copyInitializer => some { s.setPhase side .initializing with mutex := .unlocked }
  | .initializing, .mutexInit => some { s.setPhase side .locking with mutex := .unlocked }
  | .locked, .storeLockingPid =>
    some { s.setProcess side { s.process side with phase := .running, depth := (s.process side).depth + 1 } with
      lockingPid := some side }
  | .running, .callUnlock =>
    if 0 < (s.process side).depth then
      some { s.setProcess side { s.process side with phase := .unlocking, depth := (s.process side).depth - 1 } with
        lockingPid := none }
    else none
  | .unlocking, .mutexUnlock => some { s.setPhase side .running with mutex := s.mutex.unlock side }
  | _, _ => none

def step (s : State) : Event → Option State
  | .acts side action => act s side action
  | .connect fd => some { s.setProcess .xserver { s.process .xserver with conn_fd := fd } with hungUp := false }
  | .hangUp => some { s with hungUp := true }
  | .handleHangUp => some (s.setProcess .xserver { s.process .xserver with conn_fd := -1 })

/-- A process that timed out and does not find its own pid sees the connection alive. -/
def FindsAlive (s : State) : Event → Prop
  | .acts side .testConnection => lorieConnectionAlive s side = true
  | _ => True

instance (s : State) (event : Event) : Decidable (FindsAlive s event) := by
  unfold FindsAlive
  split <;> infer_instance

variable {s s' : State} {side : Side} {action : Action} {event : Event}

def Process.held (process : Process) : Nat :=
  process.depth + match process.phase with
    | .locked => 1
    | .unlocking => 1
    | _ => 0

def Mutex.heldBy (mutex : Mutex) (side : Side) : Nat := if mutex.owner = some side then mutex.count else 0

def Phase.initializes : Phase → Bool
  | .copyingInitializer => true
  | .initializing => true
  | _ => false

structure Excludes (s : State) : Prop where
  agree : ∀ side, (s.process side).held = s.mutex.heldBy side
  unowned : s.mutex.owner = none → s.mutex.count = 0
  steady : ∀ side, (s.process side).phase.initializes = false

theorem connected_excludes (fd : Int) : Excludes (.connected fd) := by
  constructor
  · intro side
    cases side <;> rfl
  · intro _
    rfl
  · intro side
    cases side <;> rfl

variable {mutex : Mutex} {other : Side}

theorem Mutex.heldBy_unique {side : Side} (first : 0 < mutex.heldBy side)
    (second : 0 < mutex.heldBy other) : side = other := by
  unfold heldBy at first second
  split at first
  · rename_i owner
    split at second
    · rename_i owner'
      exact Option.some.inj (owner.symm.trans owner')
    · cases second
  · cases first

theorem Excludes.after (excludes : Excludes s) {process : Process}
    (changed : s'.process = Function.update s.process side process) (own : process.held = s'.mutex.heldBy side)
    (others : ∀ other ≠ side, s'.mutex.heldBy other = s.mutex.heldBy other)
    (unowned : s'.mutex.owner = none → s'.mutex.count = 0) (steady : process.phase.initializes = false) :
    Excludes s' := by
  refine ⟨?_, unowned, ?_⟩
  · intro other
    by_cases same : other = side
    · subst same
      rw [changed, Function.update_self, own]
    · rw [changed, Function.update_of_ne same, others other same, excludes.agree]
  · intro other
    by_cases same : other = side
    · subst same
      rw [changed, Function.update_self, steady]
    · rw [changed, Function.update_of_ne same, excludes.steady]

theorem Mutex.heldBy_lock (free : mutex.owner = none ∨ mutex.owner = some side)
    (unowned : mutex.owner = none → mutex.count = 0) : (mutex.lock side).heldBy side = mutex.heldBy side + 1 := by
  unfold heldBy lock
  rcases free with free | owned
  · simp [free, unowned free]
  · simp [owned]

theorem Mutex.heldBy_lock_other (different : other ≠ side)
    (free : mutex.owner = none ∨ mutex.owner = some side) : (mutex.lock side).heldBy other = mutex.heldBy other := by
  unfold heldBy lock
  rcases free with free | owned
  · simp [free, different.symm]
  · simp [owned, different.symm]

theorem Mutex.heldBy_unlock (owned : 0 < mutex.heldBy side) :
    (mutex.unlock side).heldBy side + 1 = mutex.heldBy side := by
  unfold heldBy at owned
  split at owned
  · rename_i owner
    unfold unlock heldBy
    rw [if_pos owner, if_pos owner]
    split
    · simp only [unlocked, reduceCtorEq, if_false]
      omega
    · simp only [if_true]
      omega
  · cases owned

theorem Mutex.heldBy_unlock_other (different : other ≠ side)
    (owned : 0 < mutex.heldBy side) : (mutex.unlock side).heldBy other = mutex.heldBy other := by
  unfold heldBy at owned
  split at owned
  · rename_i owner
    unfold unlock heldBy
    rw [if_pos owner, owner]
    split
    · simp [unlocked, different.symm]
    · simp [different.symm]
  · cases owned

theorem Mutex.unlock_unowned (unowned : mutex.owner = none → mutex.count = 0) :
    (mutex.unlock side).owner = none → (mutex.unlock side).count = 0 := by
  unfold unlock
  split
  · split
    · exact fun _ => rfl
    · intro none
      cases none
  · exact unowned

theorem Excludes.act (excludes : Excludes s) (alive : FindsAlive s (.acts side action))
    (acted : act s side action = some s') : Excludes s' := by
  have agree := excludes.agree side
  have others : ∀ other ≠ side, s.mutex.heldBy other = s.mutex.heldBy other := fun _ _ => rfl
  unfold SharedMutex.act at acted
  split at acted
  · -- callLock
    rename_i phase
    cases acted
    simp only [Process.held, phase] at agree
    exact excludes.after rfl agree others excludes.unowned rfl
  · -- timedlockLocks
    rename_i phase
    split at acted
    · rename_i free
      cases acted
      simp only [Process.held, phase] at agree
      apply excludes.after rfl
      · change _ = (s.mutex.lock side).heldBy side
        rw [Mutex.heldBy_lock free excludes.unowned, ← agree]
        rfl
      · intro other different
        exact Mutex.heldBy_lock_other different free
      · intro none
        cases none
      · rfl
    · cases acted
  · -- timedlockTimesOut
    rename_i phase
    split at acted
    · cases acted
    · cases acted
      simp only [Process.held, phase] at agree
      exact excludes.after rfl agree others excludes.unowned rfl
  · -- testLockingPid
    rename_i phase
    cases acted
    simp only [Process.held, phase] at agree
    split
    · exact excludes.after rfl agree others excludes.unowned rfl
    · exact excludes.after rfl agree others excludes.unowned rfl
  · -- testConnection
    rename_i phase
    cases acted
    simp only [Process.held, phase] at agree
    rw [if_pos (show lorieConnectionAlive s side = true from alive)]
    exact excludes.after rfl agree others excludes.unowned rfl
  · rename_i phase
    have steady := excludes.steady side
    rw [phase] at steady
    cases steady
  · rename_i phase
    have steady := excludes.steady side
    rw [phase] at steady
    cases steady
  · -- storeLockingPid
    rename_i phase
    cases acted
    simp only [Process.held, phase] at agree
    exact excludes.after rfl agree others excludes.unowned rfl
  · -- callUnlock
    rename_i phase
    split at acted
    · rename_i inside
      cases acted
      simp only [Process.held, phase] at agree
      refine excludes.after rfl ?_ others excludes.unowned rfl
      change (s.process side).depth - 1 + 1 = s.mutex.heldBy side
      omega
    · cases acted
  · -- mutexUnlock
    rename_i phase
    cases acted
    simp only [Process.held, phase] at agree
    have owned : 0 < s.mutex.heldBy side := by omega
    have unlocked := Mutex.heldBy_unlock owned
    apply excludes.after rfl
    · change (s.process side).depth + 0 = (s.mutex.unlock side).heldBy side
      omega
    · intro other different
      exact Mutex.heldBy_unlock_other different owned
    · exact Mutex.unlock_unowned excludes.unowned
    · rfl
  · cases acted

theorem Excludes.step (excludes : Excludes s) (alive : FindsAlive s event) (stepped : step s event = some s') :
    Excludes s' := by
  have others : ∀ other ≠ Side.xserver, s.mutex.heldBy other = s.mutex.heldBy other := fun _ _ => rfl
  cases event with
  | acts side action => exact excludes.act alive stepped
  | connect fd =>
    cases stepped
    exact excludes.after rfl (excludes.agree .xserver) others excludes.unowned (excludes.steady .xserver)
  | hangUp =>
    cases stepped
    exact ⟨excludes.agree, excludes.unowned, excludes.steady⟩
  | handleHangUp =>
    cases stepped
    exact excludes.after rfl (excludes.agree .xserver) others excludes.unowned (excludes.steady .xserver)

/-- In every run in which a process that timed out finds the connection alive, at most one process is inside. -/
theorem never_both_inside {fd : Int} {events : List Event}
    (meets : Machine.Meets step FindsAlive (.connected fd) events)
    (ran : Machine.run step (.connected fd) events = some s) : ¬ (s.Inside .xserver ∧ s.Inside .renderer) := by
  rintro ⟨server, renderer⟩
  have excludes : Excludes s :=
    Machine.keeps (fun _ _ _ excludes alive stepped => excludes.step alive stepped) (connected_excludes fd) meets ran
  have held : ∀ side, s.Inside side → 0 < s.mutex.heldBy side := by
    intro side inside
    rw [← excludes.agree side]
    exact Nat.lt_of_lt_of_le inside (Nat.le_add_right _ _)
  cases Mutex.heldBy_unique (held _ server) (held _ renderer)

def takesLock (side : Side) : List Event :=
  [.acts side .callLock, .acts side .timedlockLocks, .acts side .storeLockingPid]

def timesOut (side : Side) : List Event :=
  [.acts side .callLock, .acts side .timedlockTimesOut, .acts side .testLockingPid, .acts side .testConnection]

theorem never_both_inside_after_timeout :
    ∃ s, Machine.run step (.connected 7) (takesLock .renderer ++ timesOut .xserver) = some s ∧
      ¬ (s.Inside .xserver ∧ s.Inside .renderer) := by
  have meets : Machine.Meets step FindsAlive (.connected 7) (takesLock .renderer ++ timesOut .xserver) := by decide
  exact ⟨_, rfl, never_both_inside meets rfl⟩

/-- The X server is inside and connected. The renderer times out, takes the connection for dead because the
    `conn_fd` of its process is never set, initializes the mutex and enters too. -/
theorem renderer_enters_after_timeout :
    ∃ s, Machine.run step (.connected 7) (takesLock .xserver ++ timesOut .renderer ++
        [.acts .renderer .copyInitializer, .acts .renderer .mutexInit, .acts .renderer .timedlockLocks,
          .acts .renderer .storeLockingPid]) = some s ∧
      s.hungUp = false ∧ s.Inside .xserver ∧ s.Inside .renderer :=
  ⟨_, rfl, rfl, by decide, by decide⟩

end Lorie.SharedMutex
