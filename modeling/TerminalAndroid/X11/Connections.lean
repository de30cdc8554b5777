import Mathlib.Data.Finset.Basic
import TerminalAndroid.Exec.Machine

namespace Lorie.Connections

/-- Where the X server thread stands in the work procedure of `getXConnection` or in `lorieRegisterBuffer`. -/
inductive MainThread
  | idle
  | connecting (fd : Int)
  | connected
  | registering (id : Nat)
  | writing (id : Nat)
  | sendingHandle (id : Nat) (headerFd : Int)
  | adding (id : Nat)
  deriving DecidableEq, Repr

inductive InputThread
  | idle
  | closed
  | clearing
  deriving DecidableEq, Repr

/-- The connection of the X server: `opened` are its descriptors, `pending` the work procedures queued for them, `hungUp`
    those whose other end is closed. `sent` has the buffers sent over each, `latest` is the last one unless it hung up. -/
structure State where
  conn_fd : Int
  registeredBuffers : List Nat
  rootBuffer : Nat
  main : MainThread
  input : InputThread
  opened : Finset Int
  pending : List Int
  watched : Finset Int
  hungUp : Finset Int
  sent : Int → List Nat
  latest : Option Int

def State.new (rootBuffer : Nat) : State where
  conn_fd := -1
  registeredBuffers := []
  rootBuffer := rootBuffer
  main := .idle
  input := .idle
  opened := ∅
  pending := []
  watched := ∅
  hungUp := ∅
  sent := fun _ => []
  latest := none

inductive Event
  | getXConnection (fd : Int)
  | hangUp (fd : Int)
  | work
  | setConnFd
  | activityConnected
  | registerBuffer (id : Nat)
  | testRegistered
  | writeHeader
  | sendHandle
  | addToList
  | unregisterBuffer (id : Nat)
  | notifyError (fd : Int)
  | resetConnFd
  | clearBuffers
  deriving DecidableEq, Repr

def getXConnection (fd : Int) (s : State) : Option State :=
  if fd ∈ s.opened ∨ fd < 0 then none
  else some { s with
    opened := insert fd s.opened
    pending := s.pending ++ [fd]
    sent := Function.update s.sent fd []
    latest := some fd }

def hangUp (fd : Int) (s : State) : Option State :=
  if fd ∈ s.opened ∧ fd ∉ s.hungUp then
    some { s with hungUp := insert fd s.hungUp, latest := if s.latest = some fd then none else s.latest }
  else none

def work (s : State) : Option State :=
  match s.main, s.pending with
  | .idle, fd :: pending => some { s with pending := pending, watched := insert fd s.watched, main := .connecting fd }
  | _, _ => none

def setConnFd (s : State) : Option State :=
  match s.main with
  | .connecting fd => some { s with conn_fd := fd, main := .connected }
  | _ => none

def lorieActivityConnected (s : State) : Option State :=
  match s.main with
  | .connected => some { s with main := .registering s.rootBuffer }
  | _ => none

def lorieRegisterBuffer (id : Nat) (s : State) : Option State :=
  match s.main with
  | .idle => some { s with main := .registering id }
  | _ => none

def testRegistered (s : State) : Option State :=
  match s.main with
  | .registering id =>
    some { s with main := if s.conn_fd = -1 ∨ id ∈ s.registeredBuffers then .idle else .writing id }
  | _ => none

def writeHeader (s : State) : Option State :=
  match s.main with
  | .writing id => some { s with main := .sendingHandle id s.conn_fd }
  | _ => none

def sendHandle (s : State) : Option State :=
  match s.main with
  | .sendingHandle id headerFd =>
    some { s with
      sent := if s.conn_fd = headerFd ∧ s.conn_fd ∈ s.opened then
          Function.update s.sent s.conn_fd (id :: s.sent s.conn_fd)
        else s.sent
      main := .adding id }
  | _ => none

def addToList (s : State) : Option State :=
  match s.main with
  | .adding id => some { s with registeredBuffers := s.registeredBuffers ++ [id], main := .idle }
  | _ => none

def lorieUnregisterBuffer (id : Nat) (s : State) : Option State :=
  match s.main with
  | .idle =>
    some { s with
      registeredBuffers := if s.conn_fd ≠ -1 then s.registeredBuffers.erase id else s.registeredBuffers }
  | _ => none

def notifyError (fd : Int) (s : State) : Option State :=
  match s.input with
  | .idle =>
    if fd ∈ s.watched ∧ fd ∈ s.hungUp then
      some { s with
        watched := s.watched.erase fd
        opened := s.opened.erase fd
        hungUp := s.hungUp.erase fd
        input := .closed }
    else none
  | _ => none

def resetConnFd (s : State) : Option State :=
  match s.input with
  | .closed => some { s with conn_fd := -1, input := .clearing }
  | _ => none

def clearBuffers (s : State) : Option State :=
  match s.input with
  | .clearing => some { s with registeredBuffers := [], input := .idle }
  | _ => none

def step (s : State) : Event → Option State
  | .getXConnection fd => getXConnection fd s
  | .hangUp fd => hangUp fd s
  | .work => work s
  | .setConnFd => setConnFd s
  | .activityConnected => lorieActivityConnected s
  | .registerBuffer id => lorieRegisterBuffer id s
  | .testRegistered => testRegistered s
  | .writeHeader => writeHeader s
  | .sendHandle => sendHandle s
  | .addToList => addToList s
  | .unregisterBuffer id => lorieUnregisterBuffer id s
  | .notifyError fd => notifyError fd s
  | .resetConnFd => resetConnFd s
  | .clearBuffers => clearBuffers s

/-- A connection is taken up once every earlier one is closed and forgotten, and a hang-up is not handled while the
    X server thread is at work on the connection or the list of buffers. -/
def OneAtATime (s : State) : Event → Prop
  | .work => s.watched = ∅ ∧ s.input = .idle
  | .registerBuffer _ => s.input = .idle
  | .unregisterBuffer _ => s.input = .idle
  | .notifyError _ => s.main = .idle
  | _ => True

instance (s : State) (event : Event) : Decidable (OneAtATime s event) := by
  unfold OneAtATime
  split <;> infer_instance

structure State.Settled (s : State) : Prop where
  main : s.main = .idle
  input : s.input = .idle
  pending : s.pending = []
  hungUp : s.hungUp = ∅

variable {s s' : State} {event : Event}

structure Places (s : State) : Prop where
  opened : ∀ fd ∈ s.opened, fd ∈ s.pending ∨ fd ∈ s.watched
  watched : s.watched ⊆ s.opened
  pending : ∀ fd ∈ s.pending, fd ∈ s.opened ∧ 0 ≤ fd
  apart : ∀ fd ∈ s.pending, fd ∉ s.watched
  nodup : s.pending.Nodup
  hungUp : s.hungUp ⊆ s.opened
  latest : ∀ fd, s.latest = some fd → fd ∈ s.opened ∧ fd ∉ s.hungUp

def MainThread.At (fd : Int) (sent : List Nat) : MainThread → Prop
  | .connecting _ => False
  | .sendingHandle _ headerFd => headerFd = fd
  | .adding id => id ∈ sent
  | _ => True

inductive Link (s : State) : Prop
  | none (input : s.input = .idle) (main : s.main = .idle ∨ ∃ id, s.main = .registering id) (watched : s.watched = ∅)
      (conn_fd : s.conn_fd = -1) (buffers : s.registeredBuffers = [])
  | connecting (fd : Int) (input : s.input = .idle) (main : s.main = .connecting fd) (watched : s.watched = {fd})
      (nonneg : 0 ≤ fd) (buffers : s.registeredBuffers = [])
  | linked (fd : Int) (input : s.input = .idle) (main : s.main.At fd (s.sent fd)) (watched : s.watched = {fd})
      (nonneg : 0 ≤ fd) (conn_fd : s.conn_fd = fd) (buffers : ∀ id ∈ s.registeredBuffers, id ∈ s.sent fd)
  | closed (input : s.input = .closed) (main : s.main = .idle) (watched : s.watched = ∅)
  | clearing (input : s.input = .clearing) (main : s.main = .idle) (watched : s.watched = ∅) (conn_fd : s.conn_fd = -1)

theorem new_places (rootBuffer : Nat) : Places (.new rootBuffer) := by
  constructor <;> simp [State.new]

theorem new_link (rootBuffer : Nat) : Link (.new rootBuffer) := Link.none rfl (Or.inl rfl) rfl rfl rfl

variable {fd : Int}

theorem Places.getXConnection (places : Places s) (ran : getXConnection fd s = some s') : Places s' := by
  unfold Connections.getXConnection at ran
  split at ran
  · cases ran
  · cases ran
    cases places
    constructor <;> grind

theorem Places.hangUp (places : Places s) (ran : hangUp fd s = some s') : Places s' := by
  unfold Connections.hangUp at ran
  split at ran
  · cases ran
    cases places
    constructor <;> grind
  · cases ran

theorem Places.work (places : Places s) (ran : work s = some s') : Places s' := by
  unfold Connections.work at ran
  split at ran
  · cases ran
    cases places
    constructor <;> grind
  · cases ran

theorem Places.notifyError (places : Places s) (ran : notifyError fd s = some s') : Places s' := by
  unfold Connections.notifyError at ran
  split at ran
  · split at ran
    · cases ran
      cases places
      constructor <;> grind
    · cases ran
  · cases ran

theorem Places.step (places : Places s) (stepped : step s event = some s') : Places s' := by
  cases event with
  | getXConnection fd => exact places.getXConnection stepped
  | hangUp fd => exact places.hangUp stepped
  | work => exact places.work stepped
  | notifyError fd => exact places.notifyError stepped
  | _ =>
    simp only [Connections.step, setConnFd, lorieActivityConnected, lorieRegisterBuffer, testRegistered, writeHeader,
      sendHandle, addToList, lorieUnregisterBuffer, resetConnFd, clearBuffers] at stepped
    split at stepped <;> cases stepped
    exact ⟨places.opened, places.watched, places.pending, places.apart, places.nodup, places.hungUp, places.latest⟩

theorem Link.getXConnection (places : Places s) (link : Link s) (ran : getXConnection fd s = some s') :
    Link s' := by
  unfold Connections.getXConnection at ran
  split at ran
  · cases ran
  · rename_i fresh
    cases ran
    cases link with
    | none input main watched conn_fd buffers => exact .none input main watched conn_fd buffers
    | connecting other input main watched nonneg buffers => exact .connecting other input main watched nonneg buffers
    | linked other input main watched nonneg conn_fd buffers =>
      have opened : other ∈ s.opened := places.watched (watched ▸ Finset.mem_singleton_self other)
      have same : Function.update s.sent fd [] other = s.sent other := Function.update_of_ne (by grind) _ _
      exact .linked other input (by simpa only [same]) watched nonneg conn_fd (by simpa only [same])
    | closed input main watched => exact .closed input main watched
    | clearing input main watched conn_fd => exact .clearing input main watched conn_fd

theorem Link.hangUp (link : Link s) (ran : hangUp fd s = some s') : Link s' := by
  unfold Connections.hangUp at ran
  split at ran
  · cases ran
    cases link with
    | none input main watched conn_fd buffers => exact .none input main watched conn_fd buffers
    | connecting other input main watched nonneg buffers => exact .connecting other input main watched nonneg buffers
    | linked other input main watched nonneg conn_fd buffers =>
      exact .linked other input main watched nonneg conn_fd buffers
    | closed input main watched => exact .closed input main watched
    | clearing input main watched conn_fd => exact .clearing input main watched conn_fd
  · cases ran

theorem Link.work (places : Places s) (link : Link s) (alone : OneAtATime s .work) (ran : work s = some s') :
    Link s' := by
  rcases alone with ⟨unwatched, input⟩
  unfold Connections.work at ran
  split at ran
  · rename_i fd pending _ queue
    cases ran
    have nonneg : 0 ≤ fd := (places.pending fd (queue ▸ List.mem_cons_self)).2
    cases link with
    | none _ _ _ _ buffers => exact .connecting fd input rfl (by simp [unwatched]) nonneg buffers
    | _ => grind [Finset.singleton_ne_empty]
  · cases ran

theorem Link.setConnFd (link : Link s) (ran : setConnFd s = some s') : Link s' := by
  unfold Connections.setConnFd at ran
  split at ran
  · cases ran
    cases link with
    | connecting other input connecting watched nonneg buffers =>
      exact .linked other input trivial watched nonneg (by grind) (by grind)
    | _ => grind [MainThread.At]
  · cases ran

theorem Link.activityConnected (link : Link s) (ran : lorieActivityConnected s = some s') : Link s' := by
  unfold lorieActivityConnected at ran
  split at ran
  · cases ran
    cases link with
    | linked fd input _ watched nonneg conn_fd buffers =>
      exact .linked fd input trivial watched nonneg conn_fd buffers
    | _ => grind
  · cases ran

theorem Link.testRegistered (link : Link s) (ran : testRegistered s = some s') : Link s' := by
  unfold Connections.testRegistered at ran
  split at ran
  · cases ran
    cases link with
    | none input _ watched conn_fd buffers => exact .none input (by simp [conn_fd]) watched conn_fd buffers
    | linked fd input _ watched nonneg conn_fd buffers =>
      exact .linked fd input (by grind [MainThread.At]) watched nonneg conn_fd buffers
    | _ => grind
  · cases ran

theorem Link.writeHeader (link : Link s) (ran : writeHeader s = some s') : Link s' := by
  unfold Connections.writeHeader at ran
  split at ran
  · cases ran
    cases link with
    | linked fd input _ watched nonneg conn_fd buffers =>
      exact .linked fd input conn_fd watched nonneg conn_fd buffers
    | _ => grind
  · cases ran

theorem Link.sendHandle (places : Places s) (link : Link s) (ran : sendHandle s = some s') : Link s' := by
  unfold Connections.sendHandle at ran
  split at ran
  · rename_i id headerFd main
    cases ran
    cases link with
    | linked fd input at_ watched nonneg conn_fd buffers =>
      rw [main] at at_
      have opened : fd ∈ s.opened := places.watched (watched ▸ Finset.mem_singleton_self fd)
      have sends : (if s.conn_fd = headerFd ∧ s.conn_fd ∈ s.opened then
          Function.update s.sent s.conn_fd (id :: s.sent s.conn_fd) else s.sent) fd = id :: s.sent fd := by
        rw [if_pos (by grind [MainThread.At]), conn_fd, Function.update_self]
      exact .linked fd input (by simp [MainThread.At, sends]) watched nonneg conn_fd (by grind)
    | _ => grind
  · cases ran

theorem Link.addToList (link : Link s) (ran : addToList s = some s') : Link s' := by
  unfold Connections.addToList at ran
  split at ran
  · cases ran
    cases link with
    | linked fd input at_ watched nonneg conn_fd buffers =>
      exact .linked fd input trivial watched nonneg conn_fd (by grind [MainThread.At])
    | _ => grind
  · cases ran

theorem Link.registerBuffer (link : Link s) {id : Nat} (input : s.input = .idle)
    (ran : lorieRegisterBuffer id s = some s') : Link s' := by
  unfold lorieRegisterBuffer at ran
  split at ran
  · cases ran
    cases link with
    | none input _ watched conn_fd buffers => exact .none input (Or.inr ⟨id, rfl⟩) watched conn_fd buffers
    | linked fd input _ watched nonneg conn_fd buffers =>
      exact .linked fd input trivial watched nonneg conn_fd buffers
    | _ => grind
  · cases ran

theorem Link.unregisterBuffer (link : Link s) {id : Nat} (input : s.input = .idle)
    (ran : lorieUnregisterBuffer id s = some s') : Link s' := by
  unfold lorieUnregisterBuffer at ran
  split at ran
  · cases ran
    cases link with
    | none input at_ watched conn_fd buffers => exact .none input at_ watched conn_fd (by simp [conn_fd, buffers])
    | linked fd input at_ watched nonneg conn_fd buffers =>
      exact .linked fd input at_ watched nonneg conn_fd (by grind)
    | _ => grind
  · cases ran

theorem Link.notifyError (link : Link s) (main : s.main = .idle) (ran : notifyError fd s = some s') :
    Link s' := by
  unfold Connections.notifyError at ran
  split at ran
  · split at ran
    · cases ran
      have unwatched : s.watched.erase fd = ∅ := by cases link <;> grind
      exact .closed rfl main unwatched
    · cases ran
  · cases ran

theorem Link.resetConnFd (link : Link s) (ran : resetConnFd s = some s') : Link s' := by
  unfold Connections.resetConnFd at ran
  split at ran
  · cases ran
    cases link with
    | closed _ main watched => exact .clearing rfl main watched rfl
    | _ => grind
  · cases ran

theorem Link.clearBuffers (link : Link s) (ran : clearBuffers s = some s') : Link s' := by
  unfold Connections.clearBuffers at ran
  split at ran
  · cases ran
    cases link with
    | clearing _ main watched conn_fd => exact .none rfl (Or.inl main) watched conn_fd rfl
    | _ => grind
  · cases ran

theorem Link.step (places : Places s) (link : Link s) (alone : OneAtATime s event) (stepped : step s event = some s') :
    Link s' := by
  cases event with
  | getXConnection fd => exact link.getXConnection places stepped
  | hangUp fd => exact link.hangUp stepped
  | work => exact link.work places alone stepped
  | setConnFd => exact link.setConnFd stepped
  | activityConnected => exact link.activityConnected stepped
  | registerBuffer id => exact link.registerBuffer alone stepped
  | testRegistered => exact link.testRegistered stepped
  | writeHeader => exact link.writeHeader stepped
  | sendHandle => exact link.sendHandle places stepped
  | addToList => exact link.addToList stepped
  | unregisterBuffer id => exact link.unregisterBuffer alone stepped
  | notifyError fd => exact link.notifyError alone stepped
  | resetConnFd => exact link.resetConnFd stepped
  | clearBuffers => exact link.clearBuffers stepped

/-- In a run that handles one connection at a time, once everything is handled the latest connection, if it has not hung
    up, is the one in `conn_fd`, and every registered buffer was sent over it. -/
theorem latest_connection_used {rootBuffer : Nat} {events : List Event} {fd : Int}
    (meets : Machine.Meets step OneAtATime (.new rootBuffer) events)
    (ran : Machine.run step (.new rootBuffer) events = some s) (settled : s.Settled) (latest : s.latest = some fd) :
    s.conn_fd = fd ∧ ∀ id ∈ s.registeredBuffers, id ∈ s.sent fd := by
  have kept : Places s ∧ Link s :=
    Machine.keeps (P := fun s => Places s ∧ Link s)
      (fun _ _ _ held alone stepped => ⟨held.1.step stepped, held.2.step held.1 alone stepped⟩)
      ⟨new_places rootBuffer, new_link rootBuffer⟩ meets ran
  rcases kept with ⟨places, link⟩
  have watched : fd ∈ s.watched := by
    rcases places.opened fd (places.latest fd latest).1 with queued | watched
    · rw [settled.pending] at queued
      cases queued
    · exact watched
  cases link with
  | linked other _ _ watching _ conn_fd buffers =>
    rw [watching] at watched
    cases Finset.mem_singleton.mp watched
    exact ⟨conn_fd, buffers⟩
  | _ => grind [settled.main, settled.input]

def connects (fd : Int) : List Event :=
  [.getXConnection fd, .work, .setConnFd, .activityConnected, .testRegistered]

def sends : List Event := [.writeHeader, .sendHandle, .addToList]

def disconnects (fd : Int) : List Event := [.hangUp fd, .notifyError fd, .resetConnFd, .clearBuffers]

theorem latest_connection_used_after_reconnect :
    ∃ s, Machine.run step (.new 5) (connects 10 ++ sends ++ disconnects 10 ++ connects 11 ++ sends) = some s ∧
      s.conn_fd = 11 ∧ ∀ id ∈ s.registeredBuffers, id ∈ s.sent 11 := by
  have meets : Machine.Meets step OneAtATime (.new 5)
      (connects 10 ++ sends ++ disconnects 10 ++ connects 11 ++ sends) := by decide
  exact ⟨_, rfl, latest_connection_used meets rfl ⟨rfl, rfl, rfl, rfl⟩ rfl⟩

/-- A second connection is taken up before the hang-up of the first one is handled: the root buffer is never sent over
    it, and the hang-up of the first one makes the server forget it. -/
theorem hangUp_forgets_latest :
    ∃ before s, Machine.run step (.new 5) (connects 10 ++ sends ++ connects 11) = some before ∧
      5 ∈ before.registeredBuffers ∧ 5 ∉ before.sent 11 ∧ before.conn_fd = 11 ∧
      Machine.run step before (disconnects 10) = some s ∧ s.Settled ∧ s.latest = some 11 ∧ s.conn_fd = -1 :=
  ⟨_, _, rfl, by decide, by decide, rfl, rfl, ⟨rfl, rfl, rfl, rfl⟩, rfl, rfl⟩

end Lorie.Connections
