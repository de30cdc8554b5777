import TerminalAndroid.Exec.Machine

namespace AppShell

inductive ExecutionState
  | preExecution
  | executing
  | executed
  | success
  | failed
  deriving DecidableEq

def ExecutionState.value : ExecutionState → Nat
  | .preExecution => 0
  | .executing => 1
  | .executed => 2
  | .success => 3
  | .failed => 4

inductive Executor
  | stdin
  | waitFor
  | isStateFailed (code : Int)
  | exitCode (code : Int)
  | setState (code : Int)
  | shouldNotProcess (code : Int)
  | callback (code : Int)
  | stdinFailed
  | stdinExitCode
  | stdinShouldNotProcess
  | stdinCallback
  | stdinKill
  | done (code : Option Int)
  deriving DecidableEq

inductive Killer
  | hasExecuted
  | setStateFailed
  | exitCode
  | shouldNotProcess
  | callback
  | isExecuting
  | kill
  | done
  deriving DecidableEq

structure Callback where
  byKill : Bool
  state : ExecutionState
  exitCode : Option Int
  deriving DecidableEq

structure State where
  currentState : ExecutionState := .executing
  exitCode : Option Int := none
  processingResultsAlreadyCalled : Bool := false
  sigkill : Bool := false
  callbacks : List Callback := []
  executor : Executor := .stdin
  killer : Killer := .hasExecuted
  deriving DecidableEq

def setState (old new : ExecutionState) : Bool × ExecutionState :=
  if new.value < old.value ∨ old = .success then (false, old) else (true, new)

inductive Event
  | stdin (fails : Bool)
  | exit (code : Int)
  | executor
  | killer

def executorStep (s : State) : Option State :=
  match s.executor with
  | .stdin | .waitFor | .done _ => none
  | .isStateFailed code => some { s with executor := if s.currentState = .failed then .done (some code) else .exitCode code }
  | .exitCode code => some { s with exitCode := some code, executor := .setState code }
  | .setState code =>
    let (allowed, state) := setState s.currentState .executed
    some { s with currentState := state, executor := if allowed then .shouldNotProcess code else .done (some code) }
  | .shouldNotProcess code => some { s with
      processingResultsAlreadyCalled := true
      executor := if s.processingResultsAlreadyCalled then .done (some code) else .callback code }
  | .callback code => some { s with
      callbacks := ⟨false, s.currentState, s.exitCode⟩ :: s.callbacks, executor := .done (some code) }
  | .stdinFailed => some { s with currentState := (setState s.currentState .failed).2, executor := .stdinExitCode }
  | .stdinExitCode => some { s with exitCode := some 1, executor := .stdinShouldNotProcess }
  | .stdinShouldNotProcess => some { s with
      processingResultsAlreadyCalled := true
      executor := if s.processingResultsAlreadyCalled then .stdinKill else .stdinCallback }
  | .stdinCallback => some { s with
      callbacks := ⟨false, s.currentState, s.exitCode⟩ :: s.callbacks, executor := .stdinKill }
  | .stdinKill => some { s with sigkill := true, executor := .done none }

def killerStep (s : State) : Option State :=
  match s.killer with
  | .hasExecuted => some { s with killer := if ExecutionState.executed.value ≤ s.currentState.value then .done else .setStateFailed }
  | .setStateFailed =>
    let (allowed, state) := setState s.currentState .failed
    some { s with currentState := state, killer := if allowed then .exitCode else .isExecuting }
  | .exitCode => some { s with exitCode := some 137, killer := .shouldNotProcess }
  | .shouldNotProcess => some { s with
      processingResultsAlreadyCalled := true
      killer := if s.processingResultsAlreadyCalled then .isExecuting else .callback }
  | .callback => some { s with callbacks := ⟨true, s.currentState, s.exitCode⟩ :: s.callbacks, killer := .isExecuting }
  | .isExecuting => some { s with killer := if s.currentState = .executing then .kill else .done }
  | .kill => some { s with sigkill := true, killer := .done }
  | .done => none

def step (s : State) : Event → Option State
  | .stdin fails => if s.executor = .stdin then some { s with executor := if fails then .stdinFailed else .waitFor } else none
  | .exit code => if s.executor = .waitFor then some { s with executor := .isStateFailed code } else none
  | .executor => executorStep s
  | .killer => killerStep s

/-- The kill sets its state only after the callback of `executeInner`, and the standard input can be written. -/
def InTime (s : State) : Event → Prop
  | .stdin fails => fails = false
  | .killer => s.killer = .setStateFailed → ∃ code, s.executor = .done (some code)
  | _ => True

/-- What a call of the callback has to see, and what goes with it once the kill is through. -/
def Callback.Right (s : State) (c : Callback) : Prop :=
  if c.byKill then c.state = .failed ∧ c.exitCode = some 137 ∧ (s.killer = .done → s.sigkill = true)
  else c.state = .executed ∧ ∃ code, s.executor = .done (some code) ∧ c.exitCode = some code

def Ordered (s : State) : Prop :=
  s.killer ≠ .callback ∧
    match s.executor with
    | .stdin | .waitFor | .isStateFailed _ | .exitCode _ =>
      s.killer ∈ [.hasExecuted, .setStateFailed] ∧ s.currentState = .executing ∧
        s.processingResultsAlreadyCalled = false ∧ s.callbacks = []
    | .setState code =>
      s.killer ∈ [.hasExecuted, .setStateFailed] ∧ s.currentState = .executing ∧
        s.processingResultsAlreadyCalled = false ∧ s.callbacks = [] ∧ s.exitCode = some code
    | .shouldNotProcess code =>
      s.killer ∈ [.hasExecuted, .setStateFailed, .done] ∧ s.currentState = .executed ∧
        s.processingResultsAlreadyCalled = false ∧ s.callbacks = [] ∧ s.exitCode = some code
    | .callback code =>
      s.killer ∈ [.hasExecuted, .setStateFailed, .done] ∧ s.currentState = .executed ∧
        s.processingResultsAlreadyCalled = true ∧ s.callbacks = [] ∧ s.exitCode = some code
    | .done (some code) => s.processingResultsAlreadyCalled = true ∧ s.callbacks = [⟨false, .executed, some code⟩]
    | _ => False

variable {s s' : State} {event : Event}

-- The cases are the places of the thread; only `setStateFailed` needs that `executeInner` is through.
theorem killerStep_ordered (ordered : Ordered s) (inTime : InTime s .killer) (stepped : killerStep s = some s') : Ordered s' := by
  unfold killerStep at stepped
  unfold Ordered at *
  unfold InTime at inTime
  grind [setState, ExecutionState.value]

theorem executorStep_ordered (ordered : Ordered s) (stepped : executorStep s = some s') : Ordered s' := by
  unfold executorStep at stepped
  unfold Ordered at *
  grind [setState, ExecutionState.value]

theorem step_ordered (ordered : Ordered s) (inTime : InTime s event) (stepped : step s event = some s') : Ordered s' := by
  cases event with
  | stdin fails => grind [step, Ordered, InTime]
  | exit code => grind [step, Ordered]
  | executor => exact executorStep_ordered ordered stepped
  | killer => exact killerStep_ordered ordered inTime stepped

/-- The callback runs once and sees what it should in every run in which the kill comes in time. -/
theorem callback_once {events : List Event} (meets : Machine.Meets step InTime {} events)
    (ran : Machine.run step {} events = some s) :
    (∀ c ∈ s.callbacks, c.Right s) ∧ s.callbacks.length ≤ 1 ∧
      ∀ code, s.executor = .done code → s.callbacks.length = 1 := by
  have ordered : Ordered s := Machine.keeps
    (fun _ _ _ ordered inTime stepped => step_ordered ordered inTime stepped) (by simp [Ordered]) meets ran
  grind [Ordered, Callback.Right]

theorem callback_once_late_kill :
    let s : State := ⟨.failed, some 137, true, false, [⟨false, .executed, some 3⟩], .done (some 3), .done⟩
    ∀ c ∈ s.callbacks, c.Right s := by
  refine (@callback_once _ [.stdin false, .killer, .exit 3, .executor, .executor, .executor, .executor, .executor,
    .killer, .killer, .killer, .killer] ?_ (by decide)).1
  simp [Machine.Meets, step, InTime, executorStep, killerStep, setState, ExecutionState.value]

/-- The process runs until it is killed: the callback reports the kill, and no signal is ever sent. -/
theorem callback_without_signal : Machine.run step {} [.stdin false, .killer, .killer, .killer, .killer, .killer, .killer] =
    some ⟨.failed, some 137, true, false, [⟨true, .failed, some 137⟩], .waitFor, .done⟩ := by
  decide

end AppShell
