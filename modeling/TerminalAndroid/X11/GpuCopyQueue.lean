import TerminalAndroid.Exec.Machine
import TerminalAndroid.Ring.Spsc

namespace Lorie.GpuCopy

open Spsc

structure LorieGpuCopyRect where
  x1 : Int
  y1 : Int
  x2 : Int
  y2 : Int
  deriving DecidableEq, Repr

structure LorieGpuCopyEntry where
  serial : Nat
  srcBufferId : Nat
  dstBufferId : Nat
  xOff : Int
  yOff : Int
  rects : List LorieGpuCopyRect
  deriving DecidableEq, Repr

inductive Coordinate
  | x1
  | y1
  | x2
  | y2
  deriving DecidableEq, Repr

inductive Field
  | serial
  | srcBufferId
  | dstBufferId
  | xOff
  | yOff
  | numRects
  | rect (i : Nat) (coordinate : Coordinate)
  deriving DecidableEq, Repr

def LORIE_GPU_COPY_MAX_RECTS : Nat := 16

def shape : Shape where
  capacity := 8
  modulus := 2 ^ 32
  positive := by decide
  smaller := by decide
  divides := by decide

def LorieGpuCopyRect.get (rect : LorieGpuCopyRect) : Coordinate → Int
  | .x1 => rect.x1
  | .y1 => rect.y1
  | .x2 => rect.x2
  | .y2 => rect.y2

def LorieGpuCopyEntry.words (entry : LorieGpuCopyEntry) : Field → Int
  | .serial => entry.serial
  | .srcBufferId => entry.srcBufferId
  | .dstBufferId => entry.dstBufferId
  | .xOff => entry.xOff
  | .yOff => entry.yOff
  | .numRects => entry.rects.length
  | .rect i coordinate => (entry.rects.getD i ⟨0, 0, 0, 0⟩).get coordinate

def entryOf (words : Field → Int) : LorieGpuCopyEntry where
  serial := (words .serial).toNat
  srcBufferId := (words .srcBufferId).toNat
  dstBufferId := (words .dstBufferId).toNat
  xOff := words .xOff
  yOff := words .yOff
  rects := (List.range (words .numRects).toNat).map fun i =>
    ⟨words (.rect i .x1), words (.rect i .y1), words (.rect i .x2), words (.rect i .y2)⟩

def headFields : List Field := [.serial, .srcBufferId, .dstBufferId, .xOff, .yOff, .numRects]

def rectFields (count : Nat) : List Field :=
  (List.range count).flatMap fun i => [.rect i .x1, .rect i .y1, .rect i .x2, .rect i .y2]

theorem mem_rectFields {count i : Nat} {coordinate : Coordinate} :
    Field.rect i coordinate ∈ rectFields count ↔ i < count := by
  cases coordinate <;> simp [rectFields]

/-- The X server writes the rectangles that count, the renderer copies the whole struct. -/
def layout : Layout Field Int where
  fields := fun words => headFields ++ rectFields (min (words .numRects).toNat LORIE_GPU_COPY_MAX_RECTS)
  all := headFields ++ rectFields LORIE_GPU_COPY_MAX_RECTS
  complete := by
    intro words field member
    cases field <;> grind [mem_rectFields, headFields]

theorem entryOf_agree {entry : LorieGpuCopyEntry} (few : entry.rects.length ≤ LORIE_GPU_COPY_MAX_RECTS)
    {words : Field → Int} (agree : layout.Agree entry.words words) : entryOf words = entry := by
  have head : ∀ field ∈ headFields, words field = entry.words field :=
    fun field member => agree field (List.mem_append_left _ member)
  have rect : ∀ i coordinate, i < entry.rects.length →
      words (.rect i coordinate) = entry.words (.rect i coordinate) := by
    intro i coordinate below
    apply agree _ (List.mem_append_right _ (mem_rectFields.mpr _))
    simp only [LorieGpuCopyEntry.words, Int.toNat_natCast]
    omega
  have count : (words .numRects).toNat = entry.rects.length := by
    rw [head .numRects (by decide)]
    exact Int.toNat_natCast _
  unfold entryOf
  rw [head .serial (by decide), head .srcBufferId (by decide), head .dstBufferId (by decide),
    head .xOff (by decide), head .yOff (by decide), count]
  have rects : (List.range entry.rects.length).map (fun i => (⟨words (.rect i .x1), words (.rect i .y1),
      words (.rect i .x2), words (.rect i .y2)⟩ : LorieGpuCopyRect)) = entry.rects := by
    apply List.ext_getElem
    · simp
    · intro i _ below
      simp only [List.getElem_map, List.getElem_range, rect i _ below, LorieGpuCopyEntry.words,
        List.getD_eq_getElem _ _ below, LorieGpuCopyRect.get]
  rw [rects]
  rfl

structure Request where
  srcBufferId : Nat
  dstBufferId : Nat
  xOff : Int
  yOff : Int
  rects : List LorieGpuCopyRect
  deriving DecidableEq, Repr

def Request.entry (request : Request) (serial : Nat) : LorieGpuCopyEntry :=
  ⟨serial, request.srcBufferId, request.dstBufferId, request.xOff, request.yOff, request.rects⟩

/-- The calls of `applyPendingGpuCopiesLocked`: by the thread loop or `redrawLocked` through `applyPendingGpuCopies`,
    and by `redrawLocked` under the lock it draws with. -/
inductive Site
  | standalone
  | beforeDraw
  | withDraw
  deriving DecidableEq, Repr

inductive Renderer
  | top
  | aboutToWait
  | waiting
  | woken
  | body
  | unlocked
  | redrawing
  | applying (site : Site)
  | drawing
  | looping (site : Site) (lastSerial : Nat)
  | fenced (site : Site) (lastSerial : Nat)
  deriving DecidableEq, Repr

/-- The two threads with the memory they share. The X server is `signalling` between its store to `writeIndex` and its
    signal, `attached` says that `rendererCond` is the renderer's condition variable, `mapped` that the renderer's
    `state` is not null. Serials are taken as unbounded. -/
structure State where
  queue : Spsc.State Field Int
  gpuCopySerialCounter : Nat
  completedSerial : Nat
  signalling : Bool
  attached : Bool
  mapped : Bool
  renderer : Renderer

def State.new : State where
  queue := ⟨⟨0, 0, fun _ _ => 0⟩, .idle, .idle, [], []⟩
  gpuCopySerialCounter := 0
  completedSerial := 0
  signalling := false
  attached := false
  mapped := false
  renderer := .top

def State.scheduled (s : State) : List LorieGpuCopyEntry := s.queue.published.map entryOf

def State.drained (s : State) : List LorieGpuCopyEntry := s.queue.taken.map entryOf

def State.writeIndex (s : State) : Nat := s.queue.ring.writeIndex

def State.readIndex (s : State) : Nat := s.queue.ring.readIndex

def State.gpuCopyPending (s : State) : Bool := s.mapped && decide (s.readIndex ≠ s.writeIndex)

def lorieGpuCopyIsDone (s : State) (serial : Nat) : Bool := decide (serial ≤ s.completedSerial)

/-- `pthread_cond_signal` on the renderer's condition variable: without a waiter the signal is lost. -/
def Renderer.signal : Renderer → Renderer
  | .waiting => .woken
  | renderer => renderer

inductive ServerAction
  | loadWriteIndex
  | checkRoom (request : Request)
  | writeField
  | publish
  | signal
  | redrawSignal
  | setRendererWakeupCond

inductive LoopAction
  | shouldWait (busy : Bool)
  | condWait
  | spuriousWake
  | relock
  | applyChanges (mapped : Bool)
  | chooseDraw (redraws : Bool)
  | testRedraw
  | enter
  | draw (early : Bool)

inductive DrainAction
  | testLoop (garbage : Field → Int)
  | copyField
  | nextEntry
  | publishSerial

inductive Event
  | server (action : ServerAction)
  | loop (action : LoopAction)
  | drain (action : DrainAction)

def State.setQueue (s : State) (queue : Spsc.State Field Int) : State := { s with queue := queue }

def State.setRenderer (s : State) (renderer : Renderer) : State := { s with renderer := renderer }

def State.scheduling (s : State) : Bool :=
  s.signalling || match s.queue.producer with
    | .idle => false
    | _ => true

def countSerial (counter : Nat) : Producer Field Int → Nat
  | .filling _ _ _ => counter + 1
  | _ => counter

/-- `lorieTryScheduleGpuCopy` from its look at the indices on, the signal of `lorieRedraw` and the swap of
    `rendererCond`, all on the X server thread. -/
def serverStep (s : State) : ServerAction → Option State
  | .loadWriteIndex => if s.scheduling then none else (load s.queue).map s.setQueue
  | .checkRoom request =>
    if request.rects = [] ∨ LORIE_GPU_COPY_MAX_RECTS < request.rects.length then none
    else (check shape layout (request.entry (s.gpuCopySerialCounter + 1)).words s.queue).map fun queue =>
      { s with queue := queue, gpuCopySerialCounter := countSerial s.gpuCopySerialCounter queue.producer }
  | .writeField => (fill shape s.queue).map s.setQueue
  | .publish => (publish shape s.queue).map fun queue => { s with queue := queue, signalling := true }
  | .signal =>
    if s.signalling then
      some { s with signalling := false, renderer := if s.attached then s.renderer.signal else s.renderer }
    else none
  | .redrawSignal =>
    if s.scheduling then none else some (s.setRenderer (if s.attached then s.renderer.signal else s.renderer))
  | .setRendererWakeupCond =>
    if s.scheduling then none else some { s with attached := true, renderer := s.renderer.signal }

def Site.next : Site → Renderer
  | .standalone => .top
  | .beforeDraw => .drawing
  | .withDraw => .top

/-- `threadLoop`. `shouldWait` may find something else to do (`busy`), and `redrawLocked` may return early. -/
def loopStep (s : State) (action : LoopAction) : Option State :=
  match s.renderer, action with
  | .top, .shouldWait busy => some (s.setRenderer (if s.gpuCopyPending || busy then .body else .aboutToWait))
  | .aboutToWait, .condWait => some (s.setRenderer .waiting)
  | .waiting, .spuriousWake => some (s.setRenderer .woken)
  | .woken, .relock => some (s.setRenderer .top)
  | .body, .applyChanges mapped => some { s with mapped := mapped, renderer := .unlocked }
  | .unlocked, .chooseDraw redraws =>
    some (s.setRenderer (if s.mapped && redraws then .redrawing
      else if s.gpuCopyPending then .applying .standalone else .top))
  | .redrawing, .testRedraw =>
    some (s.setRenderer (if s.readIndex ≠ s.writeIndex then .applying .beforeDraw else .drawing))
  | .applying site, .enter => some (s.setRenderer (if s.gpuCopyPending then .looping site 0 else site.next))
  | .drawing, .draw early => some (s.setRenderer (if early then .top else .looping .withDraw 0))
  | _, _ => none

/-- The loop of `applyPendingGpuCopiesLocked`, and the store to `completedSerial` that follows the fence. -/
def drainStep (s : State) (action : DrainAction) : Option State :=
  match s.renderer, action with
  | .looping site lastSerial, .testLoop garbage =>
    match s.queue.consumer with
    | .idle =>
      if s.readIndex = s.writeIndex then some (s.setRenderer (.fenced site lastSerial))
      else (start layout garbage s.queue).map s.setQueue
    | _ => none
  | .looping _ _, .copyField => (copy shape s.queue).map s.setQueue
  | .looping site _, .nextEntry =>
    match s.queue.consumer with
    | .copying copied [] =>
      (advance shape s.queue).map fun queue =>
        { s with queue := queue, renderer := .looping site (copied .serial).toNat }
    | _ => none
  | .fenced site lastSerial, .publishSerial =>
    some { s with
      completedSerial := if lastSerial = 0 then s.completedSerial else lastSerial
      renderer := site.next }
  | _, _ => none

def step (s : State) : Event → Option State
  | .server action => serverStep s action
  | .loop action => loopStep s action
  | .drain action => drainStep s action

variable {s s' : State}

def Numbered (serial : Nat) (record : Field → Int) : Prop :=
  ∃ entry : LorieGpuCopyEntry, entry.serial = serial ∧ entry.rects.length ≤ LORIE_GPU_COPY_MAX_RECTS ∧
    record = entry.words

def Counted (s : State) : Producer Field Int → Prop
  | .filling _ record _ =>
    s.gpuCopySerialCounter = s.queue.published.length + 1 ∧ Numbered (s.queue.published.length + 1) record
  | _ => s.gpuCopySerialCounter = s.queue.published.length

def Renderer.lastSerial : Renderer → Nat
  | .looping _ lastSerial => lastSerial
  | .fenced _ lastSerial => lastSerial
  | _ => 0

structure Numbers (s : State) : Prop where
  runs : Runs shape layout s.queue
  entries : ∀ (k : Nat) (record : Field → Int), s.queue.published[k]? = some record → Numbered (k + 1) record
  counted : Counted s s.queue.producer
  completed : s.completedSerial ≤ s.queue.taken.length
  last : s.renderer.lastSerial = 0 ∨ s.renderer.lastSerial = s.queue.taken.length

theorem new_numbers : Numbers .new := by
  constructor
  · exact ⟨⟨rfl, rfl, Nat.le_refl _, Nat.zero_le _, by simp [State.new], by simp [State.new]⟩, trivial, trivial⟩
  · simp [State.new]
  · rfl
  · exact Nat.le_refl _
  · exact Or.inl rfl

theorem lastSerial_signal (renderer : Renderer) : renderer.signal.lastSerial = renderer.lastSerial := by
  cases renderer <;> rfl

theorem lastSerial_next (site : Site) : site.next.lastSerial = 0 := by
  cases site <;> rfl

theorem Numbers.setRenderer (numbers : Numbers s) {renderer : Renderer}
    (last : renderer.lastSerial = 0 ∨ renderer.lastSerial = s.renderer.lastSerial) :
    Numbers (s.setRenderer renderer) := by
  refine ⟨numbers.runs, numbers.entries, numbers.counted, numbers.completed, ?_⟩
  rcases last with none | same
  · exact Or.inl none
  · have := numbers.last
    rw [← same] at this
    exact this

theorem Numbers.server (numbers : Numbers s) {action : ServerAction} (stepped : serverStep s action = some s') :
    Numbers s' ∧ s'.completedSerial = s.completedSerial := by
  have last := numbers.last
  have counted := numbers.counted
  have signalled : (if s.attached then s.renderer.signal else s.renderer).lastSerial = s.renderer.lastSerial := by
    split
    · exact lastSerial_signal _
    · rfl
  cases action with
  | loadWriteIndex =>
    simp only [serverStep] at stepped
    split at stepped
    · cases stepped
    · rcases Option.map_eq_some_iff.mp stepped with ⟨queue, ran, rfl⟩
      have runs := numbers.runs.load ran
      rcases load_eq ran with ⟨producer, rfl⟩
      rw [producer] at counted
      exact ⟨⟨runs, numbers.entries, counted, numbers.completed, last⟩, rfl⟩
  | checkRoom request =>
    simp only [serverStep] at stepped
    split at stepped
    · cases stepped
    · rename_i few
      rcases Option.map_eq_some_iff.mp stepped with ⟨queue, ran, rfl⟩
      have runs := numbers.runs.check ran
      rcases check_eq ran with ⟨writeIndex, producer, rfl⟩
      rw [producer] at counted
      have counter : s.gpuCopySerialCounter = s.queue.published.length := counted
      refine ⟨⟨runs, numbers.entries, ?_, numbers.completed, last⟩, rfl⟩
      dsimp only
      split
      · exact counter
      · exact ⟨congrArg (· + 1) counter, request.entry (s.gpuCopySerialCounter + 1), congrArg (· + 1) counter,
          Nat.le_of_not_lt fun many => few (Or.inr many), rfl⟩
  | writeField =>
    rcases Option.map_eq_some_iff.mp stepped with ⟨queue, ran, rfl⟩
    have runs := numbers.runs.fill ran
    rcases fill_eq ran with ⟨writeIndex, record, i, todo, producer, rfl⟩
    rw [producer] at counted
    exact ⟨⟨runs, numbers.entries, counted, numbers.completed, last⟩, rfl⟩
  | publish =>
    rcases Option.map_eq_some_iff.mp stepped with ⟨queue, ran, rfl⟩
    have runs := numbers.runs.publish ran
    rcases publish_eq ran with ⟨writeIndex, record, producer, rfl⟩
    rw [producer] at counted
    rcases counted with ⟨counter, numbered⟩
    refine ⟨⟨runs, ?_, ?_, numbers.completed, last⟩, rfl⟩
    · intro k other found
      rw [List.getElem?_append] at found
      split at found
      · exact numbers.entries k other found
      · obtain rfl : k = s.queue.published.length := by grind
        grind
    · exact counter.trans (by simp)
  | signal =>
    simp only [serverStep] at stepped
    split at stepped
    · cases stepped
      have moved := numbers.setRenderer (Or.inr signalled)
      exact ⟨⟨moved.runs, moved.entries, moved.counted, moved.completed, moved.last⟩, rfl⟩
    · cases stepped
  | redrawSignal =>
    simp only [serverStep] at stepped
    split at stepped <;> cases stepped
    exact ⟨numbers.setRenderer (Or.inr signalled), rfl⟩
  | setRendererWakeupCond =>
    simp only [serverStep] at stepped
    split at stepped <;> cases stepped
    have moved := numbers.setRenderer (Or.inr (lastSerial_signal s.renderer))
    exact ⟨⟨moved.runs, moved.entries, moved.counted, moved.completed, moved.last⟩, rfl⟩

theorem loopStep_eq {action : LoopAction} (stepped : loopStep s action = some s') :
    s'.renderer.lastSerial = 0 ∧ s' = { s with mapped := s'.mapped, renderer := s'.renderer } := by
  unfold loopStep at stepped
  split at stepped <;> cases stepped <;> exact ⟨by grind [State.setRenderer, Renderer.lastSerial, lastSerial_next], rfl⟩

theorem Numbers.loop (numbers : Numbers s) {action : LoopAction} (stepped : loopStep s action = some s') :
    Numbers s' := by
  rcases loopStep_eq stepped with ⟨none, same⟩
  rw [same]
  exact ⟨numbers.runs, numbers.entries, numbers.counted, numbers.completed, Or.inl none⟩

theorem Numbers.serial_copied (numbers : Numbers s) {copied : Field → Int}
    (consumer : s.queue.consumer = .copying copied []) : (copied .serial).toNat = s.queue.taken.length + 1 := by
  rcases numbers.runs.copied consumer with ⟨record, found, agree⟩
  rcases numbers.entries _ record found with ⟨entry, serial, few, rfl⟩
  exact (congrArg LorieGpuCopyEntry.serial (entryOf_agree few agree)).trans serial

theorem Numbers.drain (numbers : Numbers s) {action : DrainAction} (stepped : drainStep s action = some s') :
    Numbers s' ∧ s.completedSerial ≤ s'.completedSerial := by
  have last := numbers.last
  unfold drainStep at stepped
  split at stepped
  · -- testLoop
    rename_i site lastSerial garbage renderer
    split at stepped
    · split at stepped
      · cases stepped
        refine ⟨numbers.setRenderer (Or.inr ?_), Nat.le_refl _⟩
        rw [renderer]
        rfl
      · rcases Option.map_eq_some_iff.mp stepped with ⟨queue, ran, rfl⟩
        have runs := numbers.runs.start ran
        rcases start_eq ran with ⟨_, _, rfl⟩
        exact ⟨⟨runs, numbers.entries, numbers.counted, numbers.completed, last⟩, Nat.le_refl _⟩
    · cases stepped
  · -- copyField
    rcases Option.map_eq_some_iff.mp stepped with ⟨queue, ran, rfl⟩
    have runs := numbers.runs.copy ran
    rcases copy_eq ran with ⟨copied, i, todo, _, rfl⟩
    exact ⟨⟨runs, numbers.entries, numbers.counted, numbers.completed, last⟩, Nat.le_refl _⟩
  · -- nextEntry
    split at stepped
    · rename_i copied consumer
      rcases Option.map_eq_some_iff.mp stepped with ⟨queue, ran, rfl⟩
      have runs := numbers.runs.advance ran
      have serial := numbers.serial_copied consumer
      rcases advance_eq ran with ⟨copied', consumer', rfl⟩
      cases consumer.symm.trans consumer'
      have completed := numbers.completed
      refine ⟨⟨runs, numbers.entries, numbers.counted, ?_, Or.inr ?_⟩, Nat.le_refl _⟩
      · simp only [List.length_append, List.length_singleton]
        omega
      · simp only [Renderer.lastSerial, List.length_append, List.length_singleton]
        exact serial
    · cases stepped
  · -- publishSerial
    rename_i site lastSerial renderer
    cases stepped
    have completed := numbers.completed
    rw [renderer] at last
    simp only [Renderer.lastSerial] at last
    refine ⟨⟨numbers.runs, numbers.entries, numbers.counted, ?_, Or.inl (lastSerial_next site)⟩, ?_⟩
    · dsimp only
      split <;> omega
    · dsimp only
      split <;> omega
  · cases stepped

theorem Numbers.step (numbers : Numbers s) {event : Event} (stepped : step s event = some s') :
    Numbers s' ∧ s.completedSerial ≤ s'.completedSerial := by
  cases event with
  | server action =>
    rcases numbers.server stepped with ⟨kept, same⟩
    exact ⟨kept, Nat.le_of_eq same.symm⟩
  | loop action =>
    refine ⟨numbers.loop stepped, Nat.le_of_eq ?_⟩
    rw [(loopStep_eq stepped).2]
  | drain action => exact numbers.drain stepped

theorem Numbers.run {events : List Event} (numbers : Numbers s) (ran : Machine.run GpuCopy.step s events = some s') :
    Numbers s' ∧ s.completedSerial ≤ s'.completedSerial := by
  have kept : ∀ t event t', Numbers t ∧ s.completedSerial ≤ t.completedSerial → GpuCopy.step t event = some t' →
      Numbers t' ∧ s.completedSerial ≤ t'.completedSerial := by
    intro t event t' held stepped
    rcases held.1.step stepped with ⟨numbers', below⟩
    exact ⟨numbers', Nat.le_trans held.2 below⟩
  exact Machine.run_keeps kept ⟨numbers, Nat.le_refl _⟩ ran

theorem Numbers.scheduled_eq (numbers : Numbers s) {k : Nat} {entry : LorieGpuCopyEntry}
    (found : s.scheduled[k]? = some entry) :
    s.queue.published[k]? = some entry.words ∧ entry.serial = k + 1 ∧
      entry.rects.length ≤ LORIE_GPU_COPY_MAX_RECTS := by
  rw [State.scheduled, List.getElem?_map] at found
  rcases Option.map_eq_some_iff.mp found with ⟨record, published, rfl⟩
  rcases numbers.entries k record published with ⟨entry, serial, few, rfl⟩
  rw [entryOf_agree few fun _ _ => rfl]
  exact ⟨published, serial, few⟩

theorem Numbers.drained_eq (numbers : Numbers s) : s.drained = s.scheduled.take s.drained.length := by
  apply List.ext_getElem?
  intro k
  rw [List.getElem?_take]
  have length : s.drained.length = s.queue.taken.length := List.length_map _
  split
  · rename_i below
    rw [length] at below
    have bound : k < s.scheduled.length := by
      rw [State.scheduled, List.length_map]
      exact Nat.lt_of_lt_of_le below numbers.runs.fifo.ordered
    rcases numbers.scheduled_eq (List.getElem?_eq_getElem bound) with ⟨published, _, few⟩
    have agree := numbers.runs.fifo.took k _ _ published (List.getElem?_eq_getElem below)
    rw [List.getElem?_eq_getElem bound, State.drained, List.getElem?_map, List.getElem?_eq_getElem below,
      Option.map_some, entryOf_agree few agree]
  · rename_i above
    exact List.getElem?_eq_none (Nat.le_of_not_lt above)

/-- The lock-free ring is a queue of at most 8 entries, whatever the order of the two threads' steps and however often
    the indices wrapped around: what was drained and what waits in the slots make up what was scheduled.
    `completedSerial` never falls, and an entry whose copy is reported done was drained. -/
theorem gpuCopyQueue_is_fifo {events more : List Event} (ran : Machine.run step .new events = some s)
    (ran' : Machine.run step s more = some s') :
    (∃ waiting, s.scheduled = s.drained ++ waiting ∧
      shape.distance s.writeIndex s.readIndex = waiting.length ∧ waiting.length ≤ 8 ∧
      ∀ (k : Nat) entry, waiting[k]? = some entry → entryOf (s.queue.ring.slots ((s.readIndex + k) % 8)) = entry) ∧
    (∀ (k : Nat) entry, s.scheduled[k]? = some entry → entry.serial = k + 1) ∧
    s.completedSerial ≤ s'.completedSerial ∧
    ∀ serial, 0 < serial → lorieGpuCopyIsDone s serial = true → ∃ entry ∈ s.drained, entry.serial = serial := by
  have numbers := (new_numbers.run ran).1
  have fifo := numbers.runs.fifo
  have drained : s.drained.length = s.queue.taken.length := List.length_map _
  have scheduled : s.scheduled.length = s.queue.published.length := List.length_map _
  have ordered := fifo.ordered
  have bounded : s.queue.published.length ≤ s.queue.taken.length + 8 := fifo.bounded
  refine ⟨⟨s.scheduled.drop s.drained.length, ?_, ?_, ?_, ?_⟩, ?_, (numbers.run ran').2, ?_⟩
  · rw [numbers.drained_eq, List.length_take, Nat.min_eq_left (by omega), List.take_append_drop]
  · rw [List.length_drop, drained, scheduled]
    exact fifo.distance
  · rw [List.length_drop]
    omega
  · intro k entry found
    rw [List.getElem?_drop, drained] at found
    rcases numbers.scheduled_eq found with ⟨published, _, few⟩
    have slot : (s.readIndex + k) % 8 = shape.slot (s.queue.taken.length + k) := by
      rw [State.readIndex, fifo.read, Shape.slot]
      simp only [shape]
      omega
    rw [slot]
    exact entryOf_agree few (fifo.waits _ _ (Nat.le_add_right _ _) published)
  · intro k entry found
    exact (numbers.scheduled_eq found).2.1
  · intro serial positive done
    have completed := numbers.completed
    have below : serial - 1 < s.drained.length := by
      have := of_decide_eq_true done
      omega
    have exists_entry : ∃ entry, s.drained[serial - 1]? = some entry := ⟨_, List.getElem?_eq_getElem below⟩
    rcases exists_entry with ⟨entry, found⟩
    refine ⟨entry, List.mem_of_getElem? found, ?_⟩
    rw [numbers.drained_eq, List.getElem?_take, if_pos below] at found
    rw [(numbers.scheduled_eq found).2.1]
    omega

def schedules (request : Request) : List Event :=
  [.server .loadWriteIndex, .server (.checkRoom request)] ++ List.replicate 10 (.server .writeField) ++
    [.server .publish]

def drains : List Event :=
  [.loop (.shouldWait false), .loop (.applyChanges true), .loop (.chooseDraw false), .loop .enter,
    .drain (.testLoop fun _ => 0)] ++ List.replicate 70 (.drain .copyField) ++
    [.drain .nextEntry, .drain (.testLoop fun _ => 0), .drain .publishSerial]

def maps : List Event :=
  [.loop (.shouldWait true), .loop (.applyChanges true), .loop (.chooseDraw false)]

def oneRect : Request := ⟨3, 4, 0, 0, [⟨0, 0, 10, 10⟩]⟩

theorem gpuCopyQueue_is_fifo_one_entry :
    ∃ s, Machine.run step .new (maps ++ schedules oneRect ++ drains) = some s ∧
      ∃ entry ∈ s.drained, entry.serial = 1 := by
  have evaluated : (Machine.run step .new (maps ++ schedules oneRect ++ drains)).map
      (fun s => lorieGpuCopyIsDone s 1) = some true := by decide
  rcases Option.map_eq_some_iff.mp evaluated with ⟨s, ran, done⟩
  have fifo := gpuCopyQueue_is_fifo ran (Machine.run_nil (s := s))
  exact ⟨s, ran, fifo.2.2.2 1 (by decide) done⟩

end Lorie.GpuCopy
