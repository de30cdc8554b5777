import TerminalAndroid.Ring.Content
import TerminalAndroid.Session.ByteQueue

open Java Circular

namespace ByteQueue

structure Sound (queue : ByteQueue) : Prop where
  head_nonneg : 0 ≤ queue.mHead
  head_lt : queue.mHead < queue.mBuffer.length
  stored_nonneg : 0 ≤ queue.mStoredBytes
  stored_le : queue.mStoredBytes ≤ queue.mBuffer.length

def stored (queue : ByteQueue) : List UInt8 := content queue.mBuffer queue.mHead.toNat queue.mStoredBytes.toNat

variable {queue : ByteQueue}

theorem Sound.stored_length (sound : queue.Sound) : (queue.stored.length : Int) = queue.mStoredBytes := by
  have lower := sound.stored_nonneg
  have upper := sound.stored_le
  rw [stored, content_length (by omega)]
  omega

theorem create_sound {size : Nat} (positive : 1 ≤ size) : (create size).Sound := by
  constructor <;> simp only [create, List.length_replicate] <;> omega

def taken (queue : ByteQueue) (count : Int) : ByteQueue :=
  { queue with
    mHead := if (queue.mBuffer.length : Int) ≤ queue.mHead + count then 0 else queue.mHead + count
    mStoredBytes := queue.mStoredBytes - count }

theorem Sound.taken (sound : queue.Sound) {count : Nat} (inside : queue.mHead + count ≤ queue.mBuffer.length)
    (most : count ≤ queue.mStoredBytes) :
    (queue.taken count).Sound ∧ (queue.taken count).stored = queue.stored.drop count := by
  obtain ⟨head_nonneg, head_lt, stored_nonneg, stored_le⟩ := sound
  constructor
  · constructor <;> simp only [ByteQueue.taken] <;> omega
  · have dropped : content queue.mBuffer (queue.mHead.toNat + count) (queue.mStoredBytes.toNat - count) =
        queue.stored.drop count := content_drop (by omega) (by omega) (by omega)
    rw [stored, ← dropped]
    have rest : (queue.mStoredBytes - count).toNat = queue.mStoredBytes.toNat - count := by omega
    simp only [ByteQueue.taken, rest]
    split
    · rw [show queue.mHead.toNat + count = queue.mBuffer.length by omega, content_length_eq_zero]
      rfl
    · rw [show (queue.mHead + count).toNat = queue.mHead.toNat + count by omega]

structure Reads (queue queue' : ByteQueue) (length : Nat) : Prop where
  sound : queue'.Sound
  stored : queue'.stored = queue.stored.drop length
  size : queue'.mBuffer.length = queue.mBuffer.length
  opened : queue'.mOpen = queue.mOpen

theorem Reads.zero (sound : queue.Sound) : Reads queue queue 0 := ⟨sound, rfl, rfl, rfl⟩

theorem Reads.empty (sound : queue.Sound) (empty : queue.mStoredBytes = 0) (length : Nat) : Reads queue queue length := by
  refine ⟨sound, ?_, rfl, rfl⟩
  have none : queue.stored = [] := List.eq_nil_of_length_eq_zero (by have := sound.stored_length; omega)
  rw [none, List.drop_nil]

theorem Reads.then {queue' queue'' : ByteQueue} {length more : Nat} (first : Reads queue queue' length)
    (second : Reads queue' queue'' more) : Reads queue queue'' (length + more) :=
  ⟨second.sound, by rw [second.stored, first.stored, List.drop_drop], second.size.trans first.size,
    second.opened.trans first.opened⟩

theorem run_readLoop_done (fuel : Nat) (buffer : List UInt8) {length : Int} (offset totalRead : Int)
    (done : ¬ (0 < length ∧ 0 < queue.mStoredBytes)) :
    (readLoop fuel buffer length offset totalRead).run queue = .ok (totalRead, buffer) queue := by
  rw [readLoop]
  simp only [EStateM.run_bind, EStateM.run_get, if_neg done, EStateM.run_pure]

theorem run_readLoop_step (fuel : Nat) {buffer buffer' : List UInt8} {length offset totalRead count : Int}
    (more : 0 < length ∧ 0 < queue.mStoredBytes)
    (count_eq : count = min length (min (queue.mBuffer.length - queue.mHead) queue.mStoredBytes))
    (copied : (arraycopy queue.mBuffer queue.mHead buffer offset count : QueueM _).run queue = .ok buffer' queue) :
    (readLoop (fuel + 1) buffer length offset totalRead).run queue =
      (readLoop fuel buffer' (length - count) (offset + count) (totalRead + count)).run (queue.taken count) := by
  rw [readLoop]
  simp only [EStateM.run_bind, EStateM.run_get, if_pos more, ← count_eq, copied, EStateM.run_set]
  rfl

theorem Sound.run_readLoop (fuel : Nat) (sound : queue.Sound) (buffer : List UInt8) (length offset totalRead : Nat)
    (enough : length ≤ fuel) (room : buffer.length = offset + length) :
    ∃ queue', (readLoop fuel buffer length offset totalRead).run queue =
        .ok (((totalRead + (queue.stored.take length).length : Nat) : Int),
          overwrite buffer offset (queue.stored.take length)) queue' ∧
      Reads queue queue' length := by
  have counted := sound.stored_length
  have stored_nonneg := sound.stored_nonneg
  induction fuel generalizing queue buffer length offset totalRead with
  | zero =>
    obtain rfl : length = 0 := by omega
    refine ⟨queue, ?_, .zero sound⟩
    rw [run_readLoop_done 0 buffer _ _ (by omega)]
    simp [overwrite_nil]
  | succ fuel ih =>
    by_cases more : (0 : Int) < length ∧ 0 < queue.mStoredBytes
    · obtain ⟨count, count_eq⟩ : ∃ count : Nat, (count : Int) =
          min (length : Int) (min (queue.mBuffer.length - queue.mHead) queue.mStoredBytes) :=
        Int.eq_ofNat_of_zero_le (by have := sound.head_lt; omega) |>.imp fun _ => Eq.symm
      have positive : 1 ≤ count := by have := sound.head_lt; omega
      have head_nonneg := sound.head_nonneg
      have inside : queue.mHead + count ≤ queue.mBuffer.length := by omega
      obtain ⟨sound', stored'⟩ := sound.taken inside (by omega)
      have copied := run_arraycopy queue.mBuffer queue.mHead.toNat buffer offset count (by omega) (by omega) queue
      have bytes : (queue.mBuffer.drop queue.mHead.toNat).take count = queue.stored.take count :=
        take_drop_eq (by omega) (by omega)
      rw [Int.toNat_of_nonneg head_nonneg, bytes] at copied
      have taken_length : (queue.stored.take count).length = count := by rw [List.length_take]; omega
      have filled : buffer.take offset ++ queue.stored.take count ++ buffer.drop (offset + count) =
          overwrite buffer offset (queue.stored.take count) := by rw [overwrite, taken_length]
      rw [filled] at copied
      obtain ⟨queue', ran, reads⟩ := ih sound' (overwrite buffer offset (queue.stored.take count)) (length - count)
        (offset + count) (totalRead + count) (by omega) (by rw [overwrite_length (by omega)]; omega)
        sound'.stored_length sound'.stored_nonneg
      refine ⟨queue', ?_, ?_⟩
      · rw [run_readLoop_step fuel more count_eq copied, show (length : Int) - count = (length - count : Nat) by omega]
        refine Eq.trans ran ?_
        have split : queue.stored.take length = queue.stored.take count ++ (queue.stored.drop count).take (length - count) := by
          rw [← List.take_add, Nat.add_sub_cancel' (by omega)]
        have written : overwrite (overwrite buffer offset (queue.stored.take count))
            (offset + (queue.stored.take count).length) ((queue.stored.drop count).take (length - count)) = _ :=
          overwrite_overwrite (by omega)
        rw [taken_length] at written
        rw [stored', split, written, List.length_append, taken_length, Nat.add_assoc]
      · have step : Reads queue (queue.taken count) count := ⟨sound', stored', rfl, rfl⟩
        have all := step.then reads
        rwa [Nat.add_sub_cancel' (by omega)] at all
    · refine ⟨queue, ?_, ?_⟩
      · rw [run_readLoop_done _ buffer _ _ more]
        have none : queue.stored.take length = [] := by
          rw [List.take_eq_nil_iff, ← List.length_eq_zero_iff]
          omega
        simp [none, overwrite_nil]
      · by_cases empty : length = 0
        · subst empty
          exact .zero sound
        · exact .empty sound (by omega) length

theorem Sound.run_read (sound : queue.Sound) (opened : queue.mOpen = true) (some : queue.mStoredBytes ≠ 0)
    (buffer : List UInt8) (block : Bool) :
    ∃ queue', (read buffer block).run queue =
        .ok (.returns ((queue.stored.take buffer.length).length, overwrite buffer 0 (queue.stored.take buffer.length))
          (decide ((queue.mBuffer.length : Int) = queue.mStoredBytes))) queue' ∧
      Reads queue queue' buffer.length := by
  obtain ⟨queue', ran, reads⟩ := sound.run_readLoop buffer.length buffer buffer.length 0 0 (by omega) (by omega)
  refine ⟨queue', ?_, reads⟩
  simp only [read, EStateM.run_bind, EStateM.run_get, some, opened, false_and, if_false, not_true_eq_false,
    EStateM.run_pure]
  rw [show ((0 : Nat) : Int) = 0 from rfl, Nat.zero_add] at ran
  rw [ran]

structure Writes (queue queue' : ByteQueue) (data : List UInt8) : Prop where
  sound : queue'.Sound
  stored : queue'.stored = queue.stored ++ data
  size : queue'.mBuffer.length = queue.mBuffer.length
  opened : queue'.mOpen = queue.mOpen

theorem Writes.nil (sound : queue.Sound) : Writes queue queue [] := ⟨sound, (List.append_nil _).symm, rfl, rfl⟩

theorem Writes.then {queue' queue'' : ByteQueue} {data more : List UInt8} (first : Writes queue queue' data)
    (second : Writes queue' queue'' more) : Writes queue queue'' (data ++ more) :=
  ⟨second.sound, by rw [second.stored, first.stored, List.append_assoc], second.size.trans first.size,
    second.opened.trans first.opened⟩

def tail (queue : ByteQueue) : Int :=
  if (queue.mBuffer.length : Int) ≤ queue.mHead + queue.mStoredBytes then
    queue.mHead + queue.mStoredBytes - queue.mBuffer.length
  else queue.mHead + queue.mStoredBytes

def oneRun (queue : ByteQueue) : Int :=
  if (queue.mBuffer.length : Int) ≤ queue.mHead + queue.mStoredBytes then queue.mHead - queue.tail
  else queue.mBuffer.length - queue.tail

theorem tail_eq (queue : ByteQueue) : (if (queue.mBuffer.length : Int) ≤ queue.mHead + queue.mStoredBytes then
    queue.mHead + queue.mStoredBytes - queue.mBuffer.length else queue.mHead + queue.mStoredBytes) = queue.tail := rfl

theorem oneRun_eq (queue : ByteQueue) : (if (queue.mBuffer.length : Int) ≤ queue.mHead + queue.mStoredBytes then
    queue.mHead - queue.tail else queue.mBuffer.length - queue.tail) = queue.oneRun := rfl

def put (queue : ByteQueue) (data : List UInt8) : ByteQueue :=
  { queue with
    mBuffer := overwrite queue.mBuffer queue.tail.toNat data
    mStoredBytes := queue.mStoredBytes + data.length }

theorem Sound.oneRun_range (sound : queue.Sound) : 0 ≤ queue.tail ∧ queue.tail + queue.oneRun ≤ queue.mBuffer.length ∧
    queue.oneRun ≤ queue.mBuffer.length - queue.mStoredBytes ∧
    (queue.mStoredBytes < queue.mBuffer.length → 0 < queue.oneRun) := by
  obtain ⟨head_nonneg, head_lt, stored_nonneg, stored_le⟩ := sound
  simp only [oneRun, tail]
  split <;> omega

theorem Sound.put (sound : queue.Sound) {data : List UInt8} (room : (data.length : Int) ≤ queue.oneRun) :
    Writes queue (queue.put data) data := by
  obtain ⟨tail_nonneg, inside, free, -⟩ := sound.oneRun_range
  obtain ⟨head_nonneg, head_lt, stored_nonneg, stored_le⟩ := sound
  have size : (queue.put data).mBuffer.length = queue.mBuffer.length := overwrite_length (by omega)
  refine ⟨⟨head_nonneg, size ▸ head_lt, ?_, ?_⟩, ?_, size, rfl⟩
  · show 0 ≤ queue.mStoredBytes + data.length
    omega
  · rw [size]
    show queue.mStoredBytes + data.length ≤ queue.mBuffer.length
    omega
  · have count : (queue.mStoredBytes + data.length).toNat = queue.mStoredBytes.toNat + data.length := by omega
    simp only [stored, ByteQueue.put, count]
    by_cases wrapped : (queue.mBuffer.length : Int) ≤ queue.mHead + queue.mStoredBytes
    · have place : queue.tail.toNat = queue.mHead.toNat + queue.mStoredBytes.toNat - queue.mBuffer.length := by
        rw [tail, if_pos wrapped]
        omega
      rw [place]
      refine content_put_start (by omega) (by omega) ?_
      rw [oneRun, if_pos wrapped] at room
      omega
    · have place : queue.tail.toNat = queue.mHead.toNat + queue.mStoredBytes.toNat := by
        rw [tail, if_neg wrapped]
        omega
      rw [place]
      exact content_put_end (by omega)

theorem run_writeRun_step (fuel : Nat) (buffer : List UInt8) {offset count : Nat} {rest : Int} (more : 0 < rest)
    (sound : queue.Sound) (count_eq : (count : Int) = min queue.oneRun rest) (inside : offset + count ≤ buffer.length) :
    (writeRun buffer (fuel + 1) offset rest).run queue =
      (writeRun buffer fuel (offset + count) (rest - count)).run (queue.put ((buffer.drop offset).take count)) := by
  obtain ⟨tail_nonneg, room, -, -⟩ := sound.oneRun_range
  have length : ((buffer.drop offset).take count).length = count := by
    rw [List.length_take, List.length_drop]
    omega
  have copied := run_arraycopy buffer offset queue.mBuffer queue.tail.toNat count inside (by omega) queue
  rw [Int.toNat_of_nonneg tail_nonneg] at copied
  rw [writeRun]
  simp only [more, if_true, EStateM.run_bind, EStateM.run_get, tail_eq, oneRun_eq, ← count_eq, copied, EStateM.run_set]
  rw [put, overwrite, length]

theorem run_writeRun_done (fuel : Nat) (buffer : List UInt8) (offset : Int) {rest : Int} (done : ¬ 0 < rest) :
    (writeRun buffer fuel offset rest).run queue = .ok offset queue := by
  unfold writeRun
  rw [if_neg done, EStateM.run_pure]

theorem Sound.run_writeRun (fuel : Nat) (sound : queue.Sound) (buffer : List UInt8) (offset count : Nat)
    (enough : count ≤ fuel) (inside : offset + count ≤ buffer.length)
    (free : (count : Int) ≤ queue.mBuffer.length - queue.mStoredBytes) :
    ∃ queue', (writeRun buffer fuel offset count).run queue = .ok ((offset + count : Nat) : Int) queue' ∧
      Writes queue queue' ((buffer.drop offset).take count) := by
  induction fuel generalizing queue offset count with
  | zero =>
    obtain rfl : count = 0 := by omega
    exact ⟨queue, run_writeRun_done 0 buffer _ (by omega), by rw [List.take_zero]; exact .nil sound⟩
  | succ fuel ih =>
    by_cases more : 0 < count
    · obtain ⟨-, -, -, positive⟩ := sound.oneRun_range
      obtain ⟨piece, piece_eq⟩ : ∃ piece : Nat, (piece : Int) = min queue.oneRun count :=
        Int.eq_ofNat_of_zero_le (by omega) |>.imp fun _ => Eq.symm
      have length : ((buffer.drop offset).take piece).length = piece := by
        rw [List.length_take, List.length_drop]
        omega
      have step : Writes queue (queue.put ((buffer.drop offset).take piece)) _ := sound.put (by omega)
      have stored : (queue.put ((buffer.drop offset).take piece)).mStoredBytes = queue.mStoredBytes + piece := by
        rw [ByteQueue.put, length]
      obtain ⟨queue', ran, writes⟩ := ih step.sound (offset + piece) (count - piece) (by omega) (by omega)
        (by rw [step.size, stored]; omega)
      refine ⟨queue', ?_, ?_⟩
      · rw [run_writeRun_step fuel buffer (by omega) sound piece_eq (by omega),
          show (count : Int) - piece = (count - piece : Nat) by omega]
        refine Eq.trans ran ?_
        rw [show offset + piece + (count - piece) = offset + count by omega]
      · have both := step.then writes
        rwa [← List.drop_drop, ← List.take_add, Nat.add_sub_cancel' (by omega)] at both
    · obtain rfl : count = 0 := by omega
      exact ⟨queue, run_writeRun_done _ buffer _ (by omega), by rw [List.take_zero]; exact .nil sound⟩

def Writing.rest (writing : Writing) : List UInt8 :=
  (writing.buffer.drop writing.offset.toNat).take writing.lengthToWrite.toNat

structure Writing.Valid (writing : Writing) : Prop where
  offset_nonneg : 0 ≤ writing.offset
  positive : 0 < writing.lengthToWrite
  inside : writing.offset + writing.lengthToWrite ≤ writing.buffer.length

def Writing.advance (writing : Writing) (count : Nat) : Writing :=
  { writing with offset := writing.offset + count, lengthToWrite := writing.lengthToWrite - count }

variable {writing : Writing}

theorem Writing.Valid.rest_length (valid : writing.Valid) : (writing.rest.length : Int) = writing.lengthToWrite := by
  obtain ⟨offset_nonneg, positive, inside⟩ := valid
  rw [rest, List.length_take, List.length_drop]
  omega

theorem Writing.Valid.advance (valid : writing.Valid) {count : Nat} (less : (count : Int) < writing.lengthToWrite) :
    (writing.advance count).Valid ∧ (writing.advance count).rest = writing.rest.drop count := by
  obtain ⟨offset_nonneg, positive, inside⟩ := valid
  refine ⟨⟨?_, ?_, ?_⟩, ?_⟩
  · show 0 ≤ writing.offset + count
    omega
  · show 0 < writing.lengthToWrite - count
    omega
  · show writing.offset + count + (writing.lengthToWrite - count) ≤ writing.buffer.length
    omega
  · have place : (writing.offset + count).toNat = writing.offset.toNat + count := by omega
    have left : (writing.lengthToWrite - count).toNat = writing.lengthToWrite.toNat - count := by omega
    simp only [rest, Writing.advance, place, left]
    rw [List.drop_take, List.drop_drop]

theorem startWrite_valid {buffer : List UInt8} {offset lengthToWrite : Int} (nonneg : 0 ≤ offset)
    (started : startWrite buffer offset lengthToWrite = .ok writing) : writing.Valid := by
  unfold startWrite at started
  split at started
  · cases started
  · split at started
    · cases started
    · cases started
      refine ⟨nonneg, ?_, ?_⟩ <;> dsimp only <;> omega

theorem run_writeLoop_done (fuel : Nat) (notified : Bool) (done : ¬ 0 < writing.lengthToWrite) :
    (writeLoop fuel writing notified).run queue = .ok (.returns true notified) queue := by
  unfold writeLoop
  rw [if_neg done, EStateM.run_pure]

theorem run_writeLoop_full (fuel : Nat) (notified : Bool) (more : 0 < writing.lengthToWrite)
    (full : (queue.mBuffer.length : Int) = queue.mStoredBytes) (opened : queue.mOpen = true) :
    (writeLoop fuel writing notified).run queue = .ok (.waits writing notified) queue := by
  unfold writeLoop
  simp only [more, if_true, EStateM.run_bind, EStateM.run_get, full, opened, and_self, EStateM.run_pure]

theorem run_writeLoop_closed (fuel : Nat) (notified : Bool) (more : 0 < writing.lengthToWrite)
    (closed : queue.mOpen = false) :
    (writeLoop fuel writing notified).run queue = .ok (.returns false notified) queue := by
  unfold writeLoop
  simp only [more, if_true, EStateM.run_bind, EStateM.run_get, closed, Bool.false_eq_true, and_false, if_false,
    not_false_eq_true, EStateM.run_pure]

theorem Sound.run_write (sound : queue.Sound) (opened : queue.mOpen = true) (valid : writing.Valid) :
    ∃ (count : Nat) (queue' : ByteQueue), Writes queue queue' (writing.rest.take count) ∧
      (count : Int) = min writing.lengthToWrite (queue.mBuffer.length - queue.mStoredBytes) ∧
      (write writing).run queue = .ok
        (if (count : Int) = writing.lengthToWrite then .returns true (decide (queue.mStoredBytes = 0))
        else .waits (writing.advance count) (decide (queue.mStoredBytes = 0))) queue' := by
  have room := sound.stored_le
  have more := valid.positive
  have offset_nonneg := valid.offset_nonneg
  have inside := valid.inside
  obtain ⟨count, count_eq⟩ : ∃ count : Nat, (count : Int) =
      min writing.lengthToWrite (queue.mBuffer.length - queue.mStoredBytes) :=
    Int.eq_ofNat_of_zero_le (by omega) |>.imp fun _ => Eq.symm
  by_cases full : (queue.mBuffer.length : Int) = queue.mStoredBytes
  · obtain rfl : count = 0 := by omega
    have some : ¬ queue.mStoredBytes = 0 := by have := sound.head_lt; have := sound.head_nonneg; omega
    refine ⟨0, queue, by rw [List.take_zero]; exact .nil sound, count_eq, ?_⟩
    rw [write, run_writeLoop_full _ _ more full opened, if_neg (by omega), decide_eq_false some]
    simp only [Writing.advance, Nat.cast_zero, Int.add_zero, Int.sub_zero]
  · obtain ⟨queue', ran, writes⟩ := sound.run_writeRun count writing.buffer writing.offset.toNat count (Nat.le_refl _)
      (by omega) (by omega)
    have same : (writing.buffer.drop writing.offset.toNat).take count = writing.rest.take count := by
      rw [Writing.rest, List.take_take, Nat.min_eq_left (by omega)]
    rw [same] at writes
    refine ⟨count, queue', writes, count_eq, ?_⟩
    obtain ⟨fuel, fuel_eq⟩ : ∃ fuel, writing.lengthToWrite.toNat = fuel + 1 := ⟨writing.lengthToWrite.toNat - 1, by omega⟩
    rw [Int.toNat_of_nonneg offset_nonneg, show ((writing.offset.toNat + count : Nat) : Int) = writing.offset + count by
      omega] at ran
    have first : (write writing).run queue =
        (writeLoop fuel (writing.advance count) (decide (queue.mStoredBytes = 0))).run queue' := by
      rw [write, fuel_eq, writeLoop]
      simp only [more, if_true, EStateM.run_bind, EStateM.run_get, full, opened, false_and, if_false,
        not_true_eq_false, ← count_eq, Int.toNat_natCast, ran, Bool.false_or]
      rfl
    rw [first]
    by_cases all : (count : Int) = writing.lengthToWrite
    · rw [if_pos all]
      refine run_writeLoop_done _ _ ?_
      show ¬ 0 < writing.lengthToWrite - count
      omega
    · rw [if_neg all]
      refine run_writeLoop_full _ _ ?_ ?_ (writes.opened.trans opened)
      · show 0 < writing.lengthToWrite - count
        omega
      · have before := sound.stored_length
        have after := writes.sound.stored_length
        have length := valid.rest_length
        rw [writes.stored, List.length_append, List.length_take] at after
        rw [writes.size]
        omega

end ByteQueue
