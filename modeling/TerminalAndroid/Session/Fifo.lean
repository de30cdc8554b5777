import TerminalAndroid.Session.QueueContent

open Java Circular

namespace ByteQueue

structure Channel where
  queue : ByteQueue
  writing : Option Writing
  written : List UInt8
  returned : List UInt8

/-- The atomic steps of one producer and one consumer before `close()`. A step of a call that finds nothing to
    do, because the queue is full or empty, leaves the queue as it is. -/
inductive Channel.Step : Channel → Channel → Prop
  | start {channel : Channel} {buffer : List UInt8} {offset lengthToWrite : Int} {writing : Writing}
      (idle : channel.writing = none) (nonneg : 0 ≤ offset)
      (started : startWrite buffer offset lengthToWrite = .ok writing) :
      Step channel { channel with writing := some writing }
  | stores {channel : Channel} {writing writing' : Writing} {notifies : Bool} {queue' : ByteQueue}
      (busy : channel.writing = some writing)
      (ran : (write writing).run channel.queue = .ok (.waits writing' notifies) queue') :
      Step channel { channel with
        queue := queue'
        writing := some writing'
        written := channel.written ++ writing.rest.take (writing'.offset - writing.offset).toNat }
  | finishes {channel : Channel} {writing : Writing} {notifies : Bool} {queue' : ByteQueue}
      (busy : channel.writing = some writing)
      (ran : (write writing).run channel.queue = .ok (.returns true notifies) queue') :
      Step channel { channel with
        queue := queue'
        writing := none
        written := channel.written ++ writing.rest }
  | reads {channel : Channel} {buffer buffer' : List UInt8} {block notifies : Bool} {totalRead : Int} {queue' : ByteQueue}
      (ran : (read buffer block).run channel.queue = .ok (.returns (totalRead, buffer') notifies) queue') :
      Step channel { channel with
        queue := queue'
        returned := channel.returned ++ buffer'.take totalRead.toNat }

def Channel.new (size : Nat) : Channel := ⟨create size, none, [], []⟩

structure Channel.Fifo (size : Nat) (channel : Channel) : Prop where
  sound : channel.queue.Sound
  capacity : channel.queue.mBuffer.length = size
  opened : channel.queue.mOpen = true
  valid : ∀ writing, channel.writing = some writing → writing.Valid
  order : channel.returned ++ channel.queue.stored = channel.written

variable {size : Nat} {channel channel' : Channel}

theorem new_fifo (positive : 1 ≤ size) : (Channel.new size).Fifo size := by
  refine ⟨create_sound positive, by simp [Channel.new, create], rfl, (fun _ none => by cases none), ?_⟩
  simp [Channel.new, create, stored, content_zero]

theorem Channel.Fifo.run_write (fifo : channel.Fifo size) {writing : Writing} {queue' : ByteQueue}
    {result : Leave Bool Writing} (busy : channel.writing = some writing)
    (ran : (write writing).run channel.queue = .ok result queue') :
    ∃ count : Nat, Writes channel.queue queue' (writing.rest.take count) ∧ (count : Int) ≤ writing.lengthToWrite ∧
      ∃ notifies, result = if (count : Int) = writing.lengthToWrite then .returns true notifies
        else .waits (writing.advance count) notifies := by
  obtain ⟨count, queue'', writes, count_eq, same⟩ := fifo.sound.run_write fifo.opened (fifo.valid writing busy)
  rw [ran] at same
  cases same
  exact ⟨count, writes, by omega, _, rfl⟩

theorem Channel.Step.fifo (step : Step channel channel') (fifo : channel.Fifo size) : channel'.Fifo size := by
  cases step with
  | start idle nonneg started =>
    refine { fifo with valid := fun writing same => ?_ }
    cases same
    exact startWrite_valid nonneg started
  | @stores writing writing' notifies queue' busy ran =>
    obtain ⟨count, writes, most, notifies', same⟩ := fifo.run_write busy ran
    split at same
    · cases same
    · cases same
      have offset : (writing.advance count).offset - writing.offset = count := by simp [Writing.advance]
      refine ⟨writes.sound, writes.size.trans fifo.capacity, writes.opened.trans fifo.opened, fun _ found => ?_, ?_⟩
      · cases found
        exact ((fifo.valid writing busy).advance (by omega)).1
      · rw [offset, Int.toNat_natCast, ← fifo.order, List.append_assoc, ← writes.stored]
  | @finishes writing notifies queue' busy ran =>
    obtain ⟨count, writes, most, notifies', same⟩ := fifo.run_write busy ran
    split at same
    next all =>
      refine ⟨writes.sound, writes.size.trans fifo.capacity, writes.opened.trans fifo.opened,
        (fun _ found => by cases found), ?_⟩
      have length := (fifo.valid writing busy).rest_length
      have stored := writes.stored
      rw [List.take_of_length_le (by omega)] at stored
      rw [← fifo.order, List.append_assoc, ← stored]
    · cases same
  | @reads buffer buffer' block notifies totalRead queue' ran =>
    by_cases empty : channel.queue.mStoredBytes = 0
    · rw [read] at ran
      simp only [EStateM.run_bind, EStateM.run_get, empty, fifo.opened, and_self, if_true] at ran
      split at ran
      · cases ran
      · cases ran
        refine { fifo with order := ?_ }
        rw [Int.toNat_zero, List.take_zero, List.append_nil]
        exact fifo.order
    · obtain ⟨queue'', same, reads⟩ := fifo.sound.run_read fifo.opened empty buffer block
      rw [ran] at same
      cases same
      refine ⟨reads.sound, reads.size.trans fifo.capacity, reads.opened.trans fifo.opened, fifo.valid, ?_⟩
      have copied : (overwrite buffer 0 (channel.queue.stored.take buffer.length)).take
          (channel.queue.stored.take buffer.length).length = channel.queue.stored.take buffer.length := by
        rw [overwrite, List.take_zero, List.nil_append, List.take_left]
      rw [Int.toNat_natCast, copied, reads.stored, List.append_assoc, List.take_append_drop]
      exact fifo.order

/-- In every run before `close()` the queue is first in, first out, its counters stay in range, and no call on it
    throws or goes round in a loop that does not end. -/
theorem channel_fifo {size : Nat} (positive : 1 ≤ size) {channel : Channel}
    (run : Relation.ReflTransGen Channel.Step (Channel.new size) channel) :
    channel.written = channel.returned ++ channel.queue.stored ∧
      (0 ≤ channel.queue.mStoredBytes ∧ channel.queue.mStoredBytes ≤ size) ∧
      (0 ≤ channel.queue.mHead ∧ channel.queue.mHead < size) ∧
      (∀ writing, channel.writing = some writing → ∃ result queue', (write writing).run channel.queue = .ok result queue') ∧
      (∀ buffer block, ∃ result queue', (read buffer block).run channel.queue = .ok result queue') := by
  have fifo : channel.Fifo size := by
    induction run with
    | refl => exact new_fifo positive
    | tail _ step ih => exact step.fifo ih
  have capacity := fifo.capacity
  obtain ⟨head_nonneg, head_lt, stored_nonneg, stored_le⟩ := fifo.sound
  refine ⟨fifo.order.symm, ⟨stored_nonneg, by omega⟩, ⟨head_nonneg, by omega⟩, fun writing busy => ?_, fun buffer block => ?_⟩
  · obtain ⟨count, queue', -, -, ran⟩ := fifo.sound.run_write fifo.opened (fifo.valid writing busy)
    exact ⟨_, queue', ran⟩
  · by_cases empty : channel.queue.mStoredBytes = 0
    · rw [read]
      simp only [EStateM.run_bind, EStateM.run_get, empty, fifo.opened, and_self, if_true]
      split
      · exact ⟨_, _, rfl⟩
      · exact ⟨_, _, rfl⟩
    · obtain ⟨queue', ran, -⟩ := fifo.sound.run_read fifo.opened empty buffer block
      exact ⟨_, queue', ran⟩

theorem channel_fifo_two : ∃ channel, Relation.ReflTransGen Channel.Step (Channel.new 2) channel ∧
    channel.returned = [7] ∧ channel.written = channel.returned ++ channel.queue.stored ∧ channel.queue.stored = [8] := by
  have start : Channel.Step (Channel.new 2) ⟨create 2, some ⟨[7, 8, 9], 0, 3⟩, [], []⟩ :=
    .start rfl (by decide) (rfl : startWrite [7, 8, 9] 0 3 = _)
  have filled : (write ⟨[7, 8, 9], 0, 3⟩).run (create 2) = .ok (.waits ⟨[7, 8, 9], 2, 1⟩ true) ⟨[7, 8], 0, 2, true⟩ := by
    decide
  have stores := Channel.Step.stores
    (show Channel.writing ⟨create 2, some ⟨[7, 8, 9], 0, 3⟩, [], []⟩ = some ⟨[7, 8, 9], 0, 3⟩ from rfl) filled
  have taken : (read [0] true).run ⟨[7, 8], 0, 2, true⟩ = .ok (.returns (1, [7]) true) ⟨[7, 8], 1, 1, true⟩ := by
    decide
  have reads : Channel.Step ⟨⟨[7, 8], 0, 2, true⟩, some ⟨[7, 8, 9], 2, 1⟩, [7, 8], []⟩ _ := .reads taken
  have run := ((Relation.ReflTransGen.single start).tail stores).tail reads
  exact ⟨_, run, rfl, (channel_fifo (by decide) run).1, by decide⟩

end ByteQueue
