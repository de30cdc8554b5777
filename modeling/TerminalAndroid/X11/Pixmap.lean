import Mathlib.Data.List.Count
import TerminalAndroid.Exec.Machine

namespace Lorie

inductive BufferType
  | unknown
  | regular
  | fd
  | ahardwarebuffer
  deriving DecidableEq, Repr

structure LorieBuffer where
  type : BufferType
  data : Nat
  locked : Bool
  lockedData : Nat
  gpuCopyPending : Int
  deriving DecidableEq, Repr

structure LoriePixmapPriv where
  buffer : Option Nat
  wasLocked : Bool
  locked : Nat
  mem : Nat
  deriving DecidableEq, Repr

structure LockAnswer where
  ret : Int
  data : Nat
  deriving DecidableEq, Repr

def ENODEV : Int := 19
def EEXIST : Int := 17

namespace LorieBuffer

/-- `LorieBuffer_lock` of a buffer that is there: the return value, the buffer and what goes to `*out`. -/
def lock (buffer : LorieBuffer) (answer : LockAnswer) : Int × LorieBuffer × Nat :=
  if buffer.locked then (EEXIST, buffer, buffer.lockedData)
  else
    let (ret, lockedData) := match buffer.type with
      | .regular => (0, buffer.data)
      | .fd => (0, buffer.data)
      | .ahardwarebuffer => (answer.ret, answer.data)
      | .unknown => (0, buffer.lockedData)
    (ret, { buffer with locked := true, lockedData := lockedData }, lockedData)

def unlock (buffer : LorieBuffer) : LorieBuffer :=
  if buffer.locked then { buffer with locked := false, lockedData := 0 } else buffer

def convert (buffer : LorieBuffer) (allocated : Bool) : LorieBuffer :=
  if buffer.type = .regular ∧ allocated = true then
    { buffer with type := .ahardwarebuffer, data := 0, locked := false, lockedData := 0 }
  else buffer

end LorieBuffer

abbrev Access := Nat × Nat

def EXA_PREPARE_DEST : Nat := 0

def LORIE_GPU_COPY_MAX_RECTS : Int := 16

/-- The pixmaps of the screen and their buffers, the accesses that are open, and how often `state->lock` was taken
    and given back. -/
structure Pixmaps where
  legacyDrawing : Bool
  gpuPresentDisabled : Bool
  screenPixmap : Nat
  rootGpuCopyPending : Int
  pixmaps : Nat → LoriePixmapPriv
  buffers : Nat → LorieBuffer
  accesses : List Access
  acquired : Nat
  released : Nat

variable {leaked : Nat}

namespace Pixmaps

def setPixmap (s : Pixmaps) (pPix : Nat) (priv : LoriePixmapPriv) : Pixmaps :=
  { s with pixmaps := Function.update s.pixmaps pPix priv }

def setBuffer (s : Pixmaps) (id : Nat) (buffer : LorieBuffer) : Pixmaps :=
  { s with buffers := Function.update s.buffers id buffer }

def setAccesses (s : Pixmaps) (accesses : List Access) : Pixmaps := { s with accesses := accesses }

def lockPixmap (s : Pixmaps) (pPix : Nat) (answer : LockAnswer) : Int × Pixmaps :=
  match (s.pixmaps pPix).buffer with
  | none => (ENODEV, s)
  | some id =>
    let (err, buffer, locked) := (s.buffers id).lock answer
    (err, (s.setBuffer id buffer).setPixmap pPix { s.pixmaps pPix with locked := locked })

def unlockPixmap (s : Pixmaps) (pPix : Nat) : Pixmaps :=
  match (s.pixmaps pPix).buffer with
  | none => s
  | some id => s.setBuffer id (s.buffers id).unlock

def lorieNeedsGpuLock (s : Pixmaps) (pPix index : Nat) : Bool :=
  if s.screenPixmap = pPix then
    decide (index = EXA_PREPARE_DEST) || (decide (s.rootGpuCopyPending ≠ 0) && !s.legacyDrawing)
  else
    !s.legacyDrawing && match (s.pixmaps pPix).buffer with
      | none => false
      | some id =>
        decide ((s.buffers id).type = .ahardwarebuffer) && decide ((s.buffers id).gpuCopyPending ≠ 0)

def mutexLock (s : Pixmaps) : Pixmaps := { s with acquired := s.acquired + 1 }

def mutexUnlock (s : Pixmaps) : Pixmaps := { s with released := s.released + 1 }

def prepareBuffer (pPix : Nat) (answer : LockAnswer) (s : Pixmaps) : Bool × Pixmaps :=
  if (s.pixmaps pPix).locked = 0 ∧ (s.pixmaps pPix).mem = 0 then
    let locking := s.lockPixmap pPix answer
    if locking.1 ≠ 0 then (false, locking.2)
    else (true, locking.2.setPixmap pPix { locking.2.pixmaps pPix with wasLocked := false })
  else (true, s.setPixmap pPix { s.pixmaps pPix with wasLocked := true })

def loriePrepareAccess (pPix index : Nat) (answer : LockAnswer) (s : Pixmaps) : Bool × Pixmaps :=
  (if s.lorieNeedsGpuLock pPix index then s.mutexLock else s).prepareBuffer pPix answer

def finishBuffer (pPix : Nat) (s : Pixmaps) : Pixmaps :=
  if !(s.pixmaps pPix).wasLocked then
    let s := s.unlockPixmap pPix
    s.setPixmap pPix { s.pixmaps pPix with locked := 0, wasLocked := false }
  else s

def lorieFinishAccess (pPix index : Nat) (s : Pixmaps) : Pixmaps :=
  (if s.lorieNeedsGpuLock pPix index then s.mutexUnlock else s).finishBuffer pPix

def lorieEnsureGpuSampleable (pixmap : Nat) (allocated : Bool) (answer : LockAnswer) (s : Pixmaps) :
    Option Nat × Pixmaps :=
  match (s.pixmaps pixmap).buffer with
  | none => (none, s)
  | some id =>
    if (s.pixmaps pixmap).mem ≠ 0 then (none, s)
    else
      let converted := s.setBuffer id ((s.buffers id).convert allocated)
      let s := if (s.buffers id).type = .regular ∧ (converted.buffers id).type ≠ .regular then
          (converted.lockPixmap pixmap answer).2
        else s
      (if (s.buffers id).type = .ahardwarebuffer then some id else none, s)

structure Scheduling where
  available : Bool
  srcAllocated : Bool
  srcAnswer : LockAnswer
  dstAllocated : Bool
  dstAnswer : LockAnswer
  relockAnswer : LockAnswer
  numRects : Int
  full : Bool
  deriving DecidableEq, Repr

def gpuCopyPendingAdd (s : Pixmaps) (id : Nat) (amount : Int) : Pixmaps :=
  s.setBuffer id { s.buffers id with gpuCopyPending := (s.buffers id).gpuCopyPending + amount }

def relock (pixmap : Nat) (answer : LockAnswer) (s : Pixmaps) : Int × Pixmaps :=
  if (s.pixmaps pixmap).locked ≠ 0 then (s.unlockPixmap pixmap).lockPixmap pixmap answer else (0, s)

def countGpuCopy (srcBuffer dst dstBuffer : Nat) (s : Pixmaps) : Option Nat × Pixmaps :=
  let s := s.gpuCopyPendingAdd srcBuffer 1
  if dst = s.screenPixmap then (none, { s with rootGpuCopyPending := s.rootGpuCopyPending + 1 })
  else (some dstBuffer, s.gpuCopyPendingAdd dstBuffer 1)

/-- What `lorieTryScheduleGpuCopy` does to the pixmaps and their buffers, with its result and `*out_dst_buffer`.
    There is no state after `FatalError`. -/
def lorieTryScheduleGpuCopy (pixmap dst : Nat) (scheduling : Scheduling) (s : Pixmaps) :
    Option (Bool × Option Nat × Pixmaps) :=
  if s.gpuPresentDisabled || s.legacyDrawing || !scheduling.available then some (false, none, s)
  else
    match s.lorieEnsureGpuSampleable pixmap scheduling.srcAllocated scheduling.srcAnswer with
    | (none, s) => some (false, none, s)
    | (some srcBuffer, s) =>
      match s.lorieEnsureGpuSampleable dst scheduling.dstAllocated scheduling.dstAnswer with
      | (none, s) => some (false, none, s)
      | (some dstBuffer, s) =>
        match s.relock pixmap scheduling.relockAnswer with
        | (status, s) =>
          if status ≠ 0 then none
          else if scheduling.numRects ≤ 0 ∨ LORIE_GPU_COPY_MAX_RECTS < scheduling.numRects ∨ scheduling.full = true then
            some (false, none, s)
          else some (true, s.countGpuCopy srcBuffer dst dstBuffer)

def lorieGpuCopyAck (pixmap : Nat) (dst_buffer : Option Nat) (s : Pixmaps) : Pixmaps :=
  let s := match (s.pixmaps pixmap).buffer with
    | none => s
    | some id => s.gpuCopyPendingAdd id (-1)
  match dst_buffer with
  | none => { s with rootGpuCopyPending := s.rootGpuCopyPending - 1 }
  | some id => s.gpuCopyPendingAdd id (-1)

inductive Event
  | prepareAccess (pPix index : Nat) (answer : LockAnswer)
  | finishAccess (pPix index : Nat)
  | scheduleGpuCopy (pixmap dst : Nat) (scheduling : Scheduling)
  | gpuCopyAck (pixmap : Nat) (dst_buffer : Option Nat)
  deriving DecidableEq, Repr

/-- An access is finished once, and copies are scheduled and acknowledged only while none is open. -/
def step (s : Pixmaps) : Event → Option Pixmaps
  | .prepareAccess pPix index answer =>
    match s.loriePrepareAccess pPix index answer with
    | (true, s) => some (s.setAccesses ((pPix, index) :: s.accesses))
    | (false, s) => some s
  | .finishAccess pPix index =>
    if (pPix, index) ∈ s.accesses then
      some ((s.lorieFinishAccess pPix index).setAccesses (s.accesses.erase (pPix, index)))
    else none
  | .scheduleGpuCopy pixmap dst scheduling =>
    if s.accesses = [] then (s.lorieTryScheduleGpuCopy pixmap dst scheduling).map fun result => result.2.2 else none
  | .gpuCopyAck pixmap dst_buffer => if s.accesses = [] then some (s.lorieGpuCopyAck pixmap dst_buffer) else none

def LocksBuffer (s : Pixmaps) : Event → Prop
  | .prepareAccess pPix index answer =>
    s.lorieNeedsGpuLock pPix index = true → (s.pixmaps pPix).locked = 0 → (s.pixmaps pPix).mem = 0 →
      (s.lockPixmap pPix answer).1 = 0
  | _ => True

instance (s : Pixmaps) : ∀ event, Decidable (LocksBuffer s event)
  | .prepareAccess _ _ _ => inferInstanceAs (Decidable (_ → _ → _ → _))
  | .finishAccess _ _ => isTrue trivial
  | .scheduleGpuCopy _ _ _ => isTrue trivial
  | .gpuCopyAck _ _ => isTrue trivial

variable {s s' t : Pixmaps} {pPix index : Nat} {event : Event}

structure Agree (s s' : Pixmaps) : Prop where
  legacyDrawing : s'.legacyDrawing = s.legacyDrawing
  screenPixmap : s'.screenPixmap = s.screenPixmap
  rootGpuCopyPending : s'.rootGpuCopyPending = s.rootGpuCopyPending
  buffer : ∀ pPix, (s'.pixmaps pPix).buffer = (s.pixmaps pPix).buffer
  type : ∀ id, (s'.buffers id).type = (s.buffers id).type
  gpuCopyPending : ∀ id, (s'.buffers id).gpuCopyPending = (s.buffers id).gpuCopyPending
  accesses : s'.accesses = s.accesses
  acquired : s'.acquired = s.acquired
  released : s'.released = s.released

theorem Agree.refl (s : Pixmaps) : Agree s s :=
  ⟨rfl, rfl, rfl, fun _ => rfl, fun _ => rfl, fun _ => rfl, rfl, rfl, rfl⟩

theorem Agree.trans (first : Agree s s') (second : Agree s' t) : Agree s t where
  legacyDrawing := second.legacyDrawing.trans first.legacyDrawing
  screenPixmap := second.screenPixmap.trans first.screenPixmap
  rootGpuCopyPending := second.rootGpuCopyPending.trans first.rootGpuCopyPending
  buffer := fun pPix => (second.buffer pPix).trans (first.buffer pPix)
  type := fun id => (second.type id).trans (first.type id)
  gpuCopyPending := fun id => (second.gpuCopyPending id).trans (first.gpuCopyPending id)
  accesses := second.accesses.trans first.accesses
  acquired := second.acquired.trans first.acquired
  released := second.released.trans first.released

theorem agree_setPixmap {priv : LoriePixmapPriv} (buffer : priv.buffer = (s.pixmaps pPix).buffer) :
    Agree s (s.setPixmap pPix priv) := by
  refine ⟨rfl, rfl, rfl, ?_, fun _ => rfl, fun _ => rfl, rfl, rfl, rfl⟩
  intro other
  by_cases same : other = pPix
  · subst same
    simp only [setPixmap, Function.update_self, buffer]
  · simp only [setPixmap, Function.update_of_ne same]

theorem agree_setBuffer {id : Nat} {buffer : LorieBuffer} (type : buffer.type = (s.buffers id).type)
    (pending : buffer.gpuCopyPending = (s.buffers id).gpuCopyPending) : Agree s (s.setBuffer id buffer) := by
  refine ⟨rfl, rfl, rfl, fun _ => rfl, ?_, ?_, rfl, rfl, rfl⟩
  all_goals
    intro other
    by_cases same : other = id
    · subst same
      simp only [setBuffer, Function.update_self, type, pending]
    · simp only [setBuffer, Function.update_of_ne same]

theorem lock_type (buffer : LorieBuffer) (answer : LockAnswer) :
    (buffer.lock answer).2.1.type = buffer.type ∧
      (buffer.lock answer).2.1.gpuCopyPending = buffer.gpuCopyPending := by
  unfold LorieBuffer.lock
  split
  · exact ⟨rfl, rfl⟩
  · exact ⟨rfl, rfl⟩

theorem agree_lockPixmap (pPix : Nat) (answer : LockAnswer) : Agree s (s.lockPixmap pPix answer).2 := by
  unfold lockPixmap
  split
  · exact Agree.refl s
  · have locked := lock_type (s.buffers ‹Nat›) answer
    apply (agree_setBuffer locked.1 locked.2).trans
    exact agree_setPixmap rfl

theorem agree_unlockPixmap (pPix : Nat) : Agree s (s.unlockPixmap pPix) := by
  unfold unlockPixmap
  split
  · exact Agree.refl s
  · unfold LorieBuffer.unlock
    split
    · exact agree_setBuffer rfl rfl
    · exact agree_setBuffer rfl rfl

theorem Agree.needsGpuLock (agree : Agree s s') (pPix index : Nat) :
    s'.lorieNeedsGpuLock pPix index = s.lorieNeedsGpuLock pPix index := by
  unfold lorieNeedsGpuLock
  rw [agree.screenPixmap, agree.rootGpuCopyPending, agree.legacyDrawing, agree.buffer]
  simp only [agree.type, agree.gpuCopyPending]

def holding (s : Pixmaps) : Nat := s.accesses.countP fun access => s.lorieNeedsGpuLock access.1 access.2

theorem holding_setAccesses (accesses : List Access) :
    (s.setAccesses accesses).holding = accesses.countP fun access => s.lorieNeedsGpuLock access.1 access.2 := rfl

def Balance (leaked : Nat) (s : Pixmaps) : Prop := s.acquired = s.released + s.holding + leaked

theorem Agree.holding (agree : Agree s s') : s'.holding = s.holding := by
  unfold Pixmaps.holding
  rw [agree.accesses]
  simp only [agree.needsGpuLock]

theorem agree_prepareBuffer (pPix : Nat) (answer : LockAnswer) : Agree s (s.prepareBuffer pPix answer).2 := by
  unfold prepareBuffer
  split
  · dsimp only
    split
    · exact agree_lockPixmap pPix answer
    · apply (agree_lockPixmap pPix answer).trans
      exact agree_setPixmap rfl
  · exact agree_setPixmap rfl

theorem agree_finishBuffer (pPix : Nat) : Agree s (s.finishBuffer pPix) := by
  unfold finishBuffer
  split
  · apply (agree_unlockPixmap pPix).trans
    exact agree_setPixmap rfl
  · exact Agree.refl s

theorem prepareBuffer_fails_iff (pPix : Nat) (answer : LockAnswer) :
    (s.prepareBuffer pPix answer).1 = false ↔
      (s.pixmaps pPix).locked = 0 ∧ (s.pixmaps pPix).mem = 0 ∧ (s.lockPixmap pPix answer).1 ≠ 0 := by
  unfold prepareBuffer
  split
  · rename_i unlocked
    dsimp only
    split
    · rename_i failed
      simp [unlocked, failed]
    · rename_i locked
      simp only [ne_eq, not_not] at locked
      simp [locked]
  · rename_i locked
    constructor
    · intro impossible
      cases impossible
    · rintro ⟨free, unmapped, _⟩
      exact absurd ⟨free, unmapped⟩ locked

theorem lockPixmap_mutexLock (pPix : Nat) (answer : LockAnswer) :
    (s.mutexLock.lockPixmap pPix answer).1 = (s.lockPixmap pPix answer).1 := by
  unfold lockPixmap
  change Prod.fst (match (s.pixmaps pPix).buffer with | none => _ | some id => _) = _
  cases (s.pixmaps pPix).buffer with
  | none => rfl
  | some id => rfl

structure Counts (s s' : Pixmaps) : Prop where
  accesses : s'.accesses = s.accesses
  acquired : s'.acquired = s.acquired
  released : s'.released = s.released

theorem Counts.refl (s : Pixmaps) : Counts s s := ⟨rfl, rfl, rfl⟩

theorem Counts.trans (first : Counts s s') (second : Counts s' t) : Counts s t :=
  ⟨second.accesses.trans first.accesses, second.acquired.trans first.acquired, second.released.trans first.released⟩

theorem Agree.counts (agree : Agree s s') : Counts s s' := ⟨agree.accesses, agree.acquired, agree.released⟩

theorem counts_ensureGpuSampleable (pixmap : Nat) (allocated : Bool) (answer : LockAnswer) :
    Counts s (s.lorieEnsureGpuSampleable pixmap allocated answer).2 := by
  unfold lorieEnsureGpuSampleable
  split
  · exact Counts.refl s
  · split
    · exact Counts.refl s
    · dsimp only
      split
      · refine Counts.trans ?_ (agree_lockPixmap pixmap answer).counts
        exact ⟨rfl, rfl, rfl⟩
      · exact Counts.refl s

theorem counts_relock (pixmap : Nat) (answer : LockAnswer) : Counts s (s.relock pixmap answer).2 := by
  unfold relock
  split
  · exact (agree_unlockPixmap pixmap).counts.trans (agree_lockPixmap pixmap answer).counts
  · exact Counts.refl s

theorem counts_countGpuCopy (srcBuffer dst dstBuffer : Nat) : Counts s (s.countGpuCopy srcBuffer dst dstBuffer).2 := by
  unfold countGpuCopy
  dsimp only
  split
  · exact ⟨rfl, rfl, rfl⟩
  · exact ⟨rfl, rfl, rfl⟩

theorem counts_tryScheduleGpuCopy {pixmap dst : Nat} {scheduling : Scheduling} {result : Bool × Option Nat × Pixmaps}
    (scheduled : s.lorieTryScheduleGpuCopy pixmap dst scheduling = some result) : Counts s result.2.2 := by
  unfold lorieTryScheduleGpuCopy at scheduled
  split at scheduled
  · cases scheduled
    exact Counts.refl s
  have first := @counts_ensureGpuSampleable s pixmap scheduling.srcAllocated scheduling.srcAnswer
  rcases ensured : s.lorieEnsureGpuSampleable pixmap scheduling.srcAllocated scheduling.srcAnswer with ⟨src, s₁⟩
  rw [ensured] at first scheduled
  cases src with
  | none =>
    cases scheduled
    exact first
  | some srcBuffer =>
    have second := @counts_ensureGpuSampleable s₁ dst scheduling.dstAllocated scheduling.dstAnswer
    rcases ensured' : s₁.lorieEnsureGpuSampleable dst scheduling.dstAllocated scheduling.dstAnswer with ⟨dst', s₂⟩
    rw [ensured'] at second
    simp only [ensured'] at scheduled
    cases dst' with
    | none =>
      cases scheduled
      exact first.trans second
    | some dstBuffer =>
      have third := @counts_relock s₂ pixmap scheduling.relockAnswer
      rcases relocked : s₂.relock pixmap scheduling.relockAnswer with ⟨status, s₃⟩
      rw [relocked] at third
      simp only [relocked] at scheduled
      split at scheduled
      · cases scheduled
      · split at scheduled
        · cases scheduled
          exact first.trans (second.trans third)
        · cases scheduled
          exact first.trans (second.trans (third.trans (counts_countGpuCopy srcBuffer dst dstBuffer)))

theorem counts_gpuCopyAck (pixmap : Nat) (dst_buffer : Option Nat) : Counts s (s.lorieGpuCopyAck pixmap dst_buffer) := by
  unfold lorieGpuCopyAck
  cases dst_buffer <;> cases (s.pixmaps pixmap).buffer <;> exact ⟨rfl, rfl, rfl⟩

theorem holding_nil (idle : s.accesses = []) : s.holding = 0 := by
  rw [holding, idle]
  exact List.countP_nil

theorem Balance.counts (balance : Balance leaked s) (idle : s.accesses = []) (counts : Counts s s') :
    Balance leaked s' := by
  unfold Balance at *
  rw [holding_nil idle] at balance
  rw [holding_nil (counts.accesses.trans idle), counts.acquired, counts.released, balance]

theorem prepareAccess_counts (pPix index : Nat) (answer : LockAnswer) :
    (s.loriePrepareAccess pPix index answer).2.acquired = s.acquired + (s.lorieNeedsGpuLock pPix index).toNat ∧
      (s.loriePrepareAccess pPix index answer).2.released = s.released ∧
      (s.loriePrepareAccess pPix index answer).2.accesses = s.accesses ∧
      (s.loriePrepareAccess pPix index answer).2.holding = s.holding ∧
      (s.loriePrepareAccess pPix index answer).2.lorieNeedsGpuLock pPix index = s.lorieNeedsGpuLock pPix index := by
  unfold loriePrepareAccess
  cases needs : s.lorieNeedsGpuLock pPix index with
  | false =>
    have agree := @agree_prepareBuffer s pPix answer
    exact ⟨agree.acquired, agree.released, agree.accesses, agree.holding,
      (agree.needsGpuLock pPix index).trans needs⟩
  | true =>
    have agree := @agree_prepareBuffer s.mutexLock pPix answer
    exact ⟨agree.acquired, agree.released, agree.accesses, agree.holding,
      (agree.needsGpuLock pPix index).trans needs⟩

theorem prepareAccess_fails_iff (pPix index : Nat) (answer : LockAnswer) :
    (s.loriePrepareAccess pPix index answer).1 = false ↔
      (s.pixmaps pPix).locked = 0 ∧ (s.pixmaps pPix).mem = 0 ∧ (s.lockPixmap pPix answer).1 ≠ 0 := by
  unfold loriePrepareAccess
  cases s.lorieNeedsGpuLock pPix index with
  | false => exact prepareBuffer_fails_iff pPix answer
  | true =>
    rw [← lockPixmap_mutexLock pPix answer]
    exact prepareBuffer_fails_iff pPix answer

theorem Balance.prepareAccess {answer : LockAnswer} (balance : Balance leaked s)
    (stepped : step s (.prepareAccess pPix index answer) = some s') :
    Balance (if LocksBuffer s (.prepareAccess pPix index answer) then leaked else leaked + 1) s' := by
  rcases @prepareAccess_counts s pPix index answer with ⟨acquired, released, accesses, held, needs⟩
  have fails := @prepareAccess_fails_iff s pPix index answer
  rcases prepared : s.loriePrepareAccess pPix index answer with ⟨result, after⟩
  simp only [prepared] at acquired released accesses held needs fails
  simp only [step, prepared] at stepped
  unfold Balance at *
  cases result with
  | true =>
    cases stepped
    have safe : LocksBuffer s (.prepareAccess pPix index answer) := by
      intro _ unlocked unmapped
      by_contra failed
      exact Bool.noConfusion (fails.mpr ⟨unlocked, unmapped, failed⟩)
    have opened : (after.setAccesses ((pPix, index) :: after.accesses)).holding =
        after.holding + (s.lorieNeedsGpuLock pPix index).toNat := by
      rw [← needs, holding_setAccesses, List.countP_cons]
      cases after.lorieNeedsGpuLock pPix index <;> rfl
    rw [if_pos safe, opened, held]
    change after.acquired = after.released + _ + _
    omega
  | false =>
    cases stepped
    rw [acquired, released, held]
    rcases fails.mp rfl with ⟨unlocked, unmapped, failed⟩
    cases lock : s.lorieNeedsGpuLock pPix index with
    | false =>
      rw [if_pos (show LocksBuffer s (.prepareAccess pPix index answer) from fun needs => by
        rw [lock] at needs
        cases needs)]
      exact balance
    | true =>
      rw [if_neg (show ¬ LocksBuffer s (.prepareAccess pPix index answer) from fun safe =>
        failed (safe lock unlocked unmapped))]
      simp only [Bool.toNat_true]
      omega

theorem finishAccess_counts (pPix index : Nat) :
    (s.lorieFinishAccess pPix index).acquired = s.acquired ∧
      (s.lorieFinishAccess pPix index).released = s.released + (s.lorieNeedsGpuLock pPix index).toNat ∧
      ∀ pPix' index', (s.lorieFinishAccess pPix index).lorieNeedsGpuLock pPix' index' =
        s.lorieNeedsGpuLock pPix' index' := by
  unfold lorieFinishAccess
  cases s.lorieNeedsGpuLock pPix index with
  | false =>
    have agree := @agree_finishBuffer s pPix
    exact ⟨agree.acquired, agree.released, agree.needsGpuLock⟩
  | true =>
    have agree := @agree_finishBuffer s.mutexUnlock pPix
    exact ⟨agree.acquired, agree.released, agree.needsGpuLock⟩

theorem Balance.finishAccess (balance : Balance leaked s)
    (stepped : step s (.finishAccess pPix index) = some s') : Balance leaked s' := by
  rcases @finishAccess_counts s pPix index with ⟨acquired, released, needs⟩
  simp only [step] at stepped
  split at stepped
  · rename_i opened
    cases stepped
    have closed : ((s.lorieFinishAccess pPix index).setAccesses (s.accesses.erase (pPix, index))).holding +
        (s.lorieNeedsGpuLock pPix index).toNat = s.holding := by
      rw [holding_setAccesses, holding, (List.perm_cons_erase opened).countP_eq, List.countP_cons]
      simp only [needs]
      cases s.lorieNeedsGpuLock pPix index <;> rfl
    unfold Balance at *
    change (s.lorieFinishAccess pPix index).acquired = (s.lorieFinishAccess pPix index).released + _ + _
    omega
  · cases stepped

theorem Balance.step (balance : Balance leaked s) (stepped : step s event = some s') :
    Balance (if LocksBuffer s event then leaked else leaked + 1) s' := by
  cases event with
  | prepareAccess pPix index answer => exact balance.prepareAccess stepped
  | finishAccess pPix index =>
    rw [if_pos (show LocksBuffer s (.finishAccess pPix index) from trivial)]
    exact balance.finishAccess stepped
  | scheduleGpuCopy pixmap dst scheduling =>
    rw [if_pos (show LocksBuffer s (.scheduleGpuCopy pixmap dst scheduling) from trivial)]
    simp only [Pixmaps.step] at stepped
    split at stepped
    · rename_i idle
      rcases Option.map_eq_some_iff.mp stepped with ⟨result, scheduled, rfl⟩
      exact balance.counts idle (counts_tryScheduleGpuCopy scheduled)
    · cases stepped
  | gpuCopyAck pixmap dst_buffer =>
    rw [if_pos (show LocksBuffer s (.gpuCopyAck pixmap dst_buffer) from trivial)]
    simp only [Pixmaps.step] at stepped
    split at stepped
    · rename_i idle
      cases stepped
      exact balance.counts idle (counts_gpuCopyAck pixmap dst_buffer)
    · cases stepped

theorem Balance.run {events : List Event} (balance : Balance leaked s)
    (ran : Machine.run Pixmaps.step s events = some s') :
    ∃ more, Balance (leaked + more) s' ∧ (more = 0 ↔ Machine.Meets Pixmaps.step LocksBuffer s events) := by
  induction events generalizing s leaked with
  | nil =>
    cases ran
    exact ⟨0, balance, iff_of_true rfl trivial⟩
  | cons event events ih =>
    rcases Machine.run_cons_iff.mp ran with ⟨middle, stepped, ran'⟩
    rcases ih (balance.step stepped) ran' with ⟨more, after, meets⟩
    rw [Machine.meets_cons_iff stepped, ← meets]
    by_cases safe : LocksBuffer s event
    · rw [if_pos safe] at after
      exact ⟨more, after, by simp [safe]⟩
    · rw [if_neg safe] at after
      exact ⟨1 + more, by rwa [← Nat.add_assoc], by simp [safe]⟩

/-- Whenever no access is open, `state->lock` was given back as often as it was taken exactly if no access that
    took it failed to lock its buffer. -/
theorem lock_balanced_iff {events : List Event} (idle : s.accesses = []) (balanced : s.acquired = s.released)
    (ran : Machine.run Pixmaps.step s events = some s') (idle' : s'.accesses = []) :
    s'.acquired = s'.released ↔ Machine.Meets Pixmaps.step LocksBuffer s events := by
  have start : Balance 0 s := by
    rw [Balance, holding_nil idle]
    exact balanced
  rcases start.run ran with ⟨more, after, meets⟩
  rw [← meets]
  rw [Balance, holding_nil idle'] at after
  omega

def unlockedScreen : Pixmaps where
  legacyDrawing := false
  gpuPresentDisabled := false
  screenPixmap := 1
  rootGpuCopyPending := 0
  pixmaps := fun _ => ⟨some 0, false, 0, 0⟩
  buffers := fun _ => ⟨.ahardwarebuffer, 0, false, 0, 0⟩
  accesses := []
  acquired := 0
  released := 0

theorem lock_balanced_iff_of_access :
    ∃ s', Machine.run Pixmaps.step unlockedScreen [.prepareAccess 1 0 ⟨0, 4096⟩, .finishAccess 1 0] = some s' ∧
      s'.acquired = s'.released := by
  have ran : Machine.run Pixmaps.step unlockedScreen [.prepareAccess 1 0 ⟨0, 4096⟩, .finishAccess 1 0] = some _ := rfl
  exact ⟨_, ran, (lock_balanced_iff rfl rfl ran rfl).mpr (by decide)⟩

/-- The screen is to be drawn to and its buffer cannot be locked: the access is refused and the lock stays taken. -/
theorem failed_access_keeps_lock :
    ∃ s', Machine.run Pixmaps.step unlockedScreen [.prepareAccess 1 EXA_PREPARE_DEST ⟨-22, 0⟩] = some s' ∧
      s'.accesses = [] ∧ s'.acquired = 1 ∧ s'.released = 0 :=
  ⟨_, rfl, rfl, rfl, rfl⟩

end Pixmaps

end Lorie
