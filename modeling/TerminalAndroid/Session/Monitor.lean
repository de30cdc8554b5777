import TerminalAndroid.Session.QueueContent

open Java Circular

namespace ByteQueue

/-- Where a thread stands with respect to the lock: it runs or is about to take the lock, it is in the wait set, or
    it was taken out of the wait set and has to take the lock again. -/
inductive Status
  | ready
  | waiting
  | notified
  deriving DecidableEq, Repr

inductive Notify : Status × Status → Status × Status → Prop
  | producer (consumer : Status) : Notify (.waiting, consumer) (.notified, consumer)
  | consumer (producer : Status) : Notify (producer, .waiting) (producer, .notified)
  | nobody {producer consumer : Status} (running : producer ≠ .waiting) (reading : consumer ≠ .waiting) :
      Notify (producer, consumer) (producer, consumer)

def NotifyIf (notifies : Bool) (before after : Status × Status) : Prop :=
  if notifies then Notify before after else after = before

/-- A queue with one producer, one consumer that reads with `block`, and their open calls. -/
structure Monitor where
  queue : ByteQueue
  producer : Status
  writing : Option Writing
  consumer : Status
  reading : Option (List UInt8)

/-- One step takes the lock, runs until it gives the lock back, and gives it back. A thread may also leave the wait
    set without being notified. -/
inductive Monitor.Step : Monitor → Monitor → Prop
  | startWrite {m : Monitor} {buffer : List UInt8} {offset lengthToWrite : Int} {writing : Writing}
      (idle : m.writing = none) (nonneg : 0 ≤ offset)
      (started : ByteQueue.startWrite buffer offset lengthToWrite = .ok writing) :
      Step m { m with writing := some writing }
  | writeReturns {m : Monitor} {writing : Writing} {value notifies : Bool} {queue' : ByteQueue} {consumer : Status}
      (busy : m.writing = some writing) (running : m.producer ≠ .waiting)
      (ran : (write writing).run m.queue = .ok (.returns value notifies) queue')
      (notify : NotifyIf notifies (.ready, m.consumer) (.ready, consumer)) :
      Step m { m with queue := queue', producer := .ready, writing := none, consumer := consumer }
  | writeWaits {m : Monitor} {writing writing' : Writing} {notifies : Bool} {queue' : ByteQueue} {consumer : Status}
      (busy : m.writing = some writing) (running : m.producer ≠ .waiting)
      (ran : (write writing).run m.queue = .ok (.waits writing' notifies) queue')
      (notify : NotifyIf notifies (.ready, m.consumer) (.ready, consumer)) :
      Step m { m with queue := queue', producer := .waiting, writing := some writing', consumer := consumer }
  | startRead {m : Monitor} (buffer : List UInt8) (idle : m.reading = none) : Step m { m with reading := some buffer }
  | readReturns {m : Monitor} {buffer : List UInt8} {value : Int × List UInt8} {notifies : Bool} {queue' : ByteQueue}
      {producer : Status} (busy : m.reading = some buffer) (running : m.consumer ≠ .waiting)
      (ran : (read buffer true).run m.queue = .ok (.returns value notifies) queue')
      (notify : NotifyIf notifies (m.producer, .ready) (producer, .ready)) :
      Step m { m with queue := queue', consumer := .ready, reading := none, producer := producer }
  | readWaits {m : Monitor} {buffer : List UInt8} {notifies : Bool} {queue' : ByteQueue} {producer : Status}
      (busy : m.reading = some buffer) (running : m.consumer ≠ .waiting)
      (ran : (read buffer true).run m.queue = .ok (.waits () notifies) queue')
      (notify : NotifyIf notifies (m.producer, .ready) (producer, .ready)) :
      Step m { m with queue := queue', consumer := .waiting, producer := producer }
  | closes {m : Monitor} {queue' : ByteQueue} {producer consumer : Status}
      (ran : close.run m.queue = .ok () queue') (notify : Notify (m.producer, m.consumer) (producer, consumer)) :
      Step m { m with queue := queue', producer := producer, consumer := consumer }
  | producerWakes {m : Monitor} (waits : m.producer = .waiting) : Step m { m with producer := .notified }
  | consumerWakes {m : Monitor} (waits : m.consumer = .waiting) : Step m { m with consumer := .notified }

def Monitor.new (size : Nat) : Monitor := ⟨create size, .ready, none, .ready, none⟩

structure Monitor.Awake (size : Nat) (m : Monitor) : Prop where
  positive : 1 ≤ size
  sound : m.queue.Sound
  capacity : m.queue.mBuffer.length = size
  valid : ∀ writing, m.writing = some writing → writing.Valid
  consumer : m.consumer = .waiting → m.queue.mStoredBytes = 0 ∧ m.queue.mOpen = true
  producer : m.producer = .waiting → m.queue.mStoredBytes = size ∧ m.queue.mOpen = true

variable {size : Nat} {m m' : Monitor}

theorem Monitor.new_awake (positive : 1 ≤ size) : (Monitor.new size).Awake size :=
  ⟨positive, create_sound positive, by simp [Monitor.new, create], (fun _ none => by cases none),
    (fun waits => by cases waits), (fun waits => by cases waits)⟩

variable {notifies : Bool}

theorem NotifyIf.consumer {before after : Status}
    (notify : NotifyIf notifies (.ready, before) (.ready, after)) :
    after = .waiting → before = .waiting ∧ notifies = false := by
  intro waits
  subst waits
  cases notifies with
  | false =>
    cases notify
    exact ⟨rfl, rfl⟩
  | true =>
    cases notify with
    | nobody running reading => exact absurd rfl reading

theorem NotifyIf.producer {before after : Status}
    (notify : NotifyIf notifies (before, .ready) (after, .ready)) :
    after = .waiting → before = .waiting ∧ notifies = false := by
  intro waits
  subst waits
  cases notifies with
  | false =>
    cases notify
    exact ⟨rfl, rfl⟩
  | true =>
    cases notify with
    | nobody running reading => exact absurd rfl running

theorem Notify.none_waiting {producer consumer producer' consumer' : Status}
    (notify : Notify (producer, consumer) (producer', consumer'))
    (one : ¬ (producer = .waiting ∧ consumer = .waiting)) : producer' ≠ .waiting ∧ consumer' ≠ .waiting := by
  cases notify with
  | producer => exact ⟨by decide, fun reads => one ⟨rfl, reads⟩⟩
  | consumer => exact ⟨fun writes => one ⟨writes, rfl⟩, by decide⟩
  | nobody running reading => exact ⟨running, reading⟩

theorem Monitor.Awake.write (awake : m.Awake size) {writing : Writing} {queue' : ByteQueue} {consumer : Status}
    {result : Leave Bool Writing} (busy : m.writing = some writing)
    (ran : (write writing).run m.queue = .ok result queue')
    (called : (∃ value, result = .returns value notifies) ∨ ∃ writing', result = .waits writing' notifies)
    (notify : NotifyIf notifies (.ready, m.consumer) (.ready, consumer)) :
    queue'.Sound ∧ queue'.mBuffer.length = size ∧
      (consumer = .waiting → queue'.mStoredBytes = 0 ∧ queue'.mOpen = true) ∧
      ∀ writing', result = .waits writing' notifies →
        writing'.Valid ∧ queue'.mStoredBytes = size ∧ queue'.mOpen = true := by
  have valid := awake.valid writing busy
  cases opened : m.queue.mOpen with
  | false =>
    rw [ByteQueue.write, run_writeLoop_closed _ _ valid.positive opened] at ran
    cases ran
    refine ⟨awake.sound, awake.capacity, fun waits => ?_, fun writing' waits => by cases waits⟩
    exact awake.consumer (notify.consumer waits).1
  | true =>
    obtain ⟨count, queue'', writes, count_eq, same⟩ := awake.sound.run_write opened valid
    rw [ran] at same
    cases same
    have positive := awake.positive
    have capacity := awake.capacity
    have flag : notifies = decide (m.queue.mStoredBytes = 0) := by
      rcases called with ⟨value, same⟩ | ⟨writing', same⟩
      · split at same <;> cases same
        rfl
      · split at same <;> cases same
        rfl
    refine ⟨writes.sound, writes.size.trans capacity, fun waits => ?_, fun writing' waits => ?_⟩
    · obtain ⟨before, quiet⟩ := notify.consumer waits
      rw [flag, (awake.consumer before).1] at quiet
      cases quiet
    · split at waits
      · cases waits
      · cases waits
        have before := awake.sound.stored_length
        have after := writes.sound.stored_length
        have length := valid.rest_length
        rw [writes.stored, List.length_append, List.length_take] at after
        exact ⟨(valid.advance (by omega)).1, by omega, writes.opened.trans opened⟩

theorem Monitor.Awake.read (awake : m.Awake size) {buffer : List UInt8} {queue' : ByteQueue} {producer : Status}
    {result : Leave (Int × List UInt8) Unit}
    (ran : (read buffer true).run m.queue = .ok result queue')
    (called : (∃ value, result = .returns value notifies) ∨ result = .waits () notifies)
    (notify : NotifyIf notifies (m.producer, .ready) (producer, .ready)) :
    queue'.Sound ∧ queue'.mBuffer.length = size ∧
      (producer = .waiting → queue'.mStoredBytes = size ∧ queue'.mOpen = true) ∧
      (result = .waits () notifies → queue'.mStoredBytes = 0 ∧ queue'.mOpen = true) := by
  have capacity := awake.capacity
  have positive := awake.positive
  cases opened : m.queue.mOpen with
  | false =>
    simp only [ByteQueue.read, EStateM.run_bind, EStateM.run_get, opened, Bool.false_eq_true, and_false, if_false,
      not_false_eq_true, if_true, EStateM.run_pure] at ran
    cases ran
    refine ⟨awake.sound, capacity, fun waits => ?_, fun waits => by cases waits⟩
    exact awake.producer (notify.producer waits).1
  | true =>
    by_cases empty : m.queue.mStoredBytes = 0
    · simp only [ByteQueue.read, EStateM.run_bind, EStateM.run_get, opened, empty, and_self, if_true,
        EStateM.run_pure] at ran
      cases ran
      refine ⟨awake.sound, capacity, fun waits => ?_, fun _ => ⟨empty, opened⟩⟩
      exact awake.producer (notify.producer waits).1
    · obtain ⟨queue'', same, reads⟩ := awake.sound.run_read opened empty buffer true
      rw [ran] at same
      cases same
      have flag : notifies = decide ((m.queue.mBuffer.length : Int) = m.queue.mStoredBytes) := by
        rcases called with ⟨value, same⟩ | same
        · cases same
          rfl
        · cases same
      refine ⟨reads.sound, reads.size.trans capacity, fun waits => ?_, fun waits => by cases waits⟩
      obtain ⟨before, quiet⟩ := notify.producer waits
      rw [flag, (awake.producer before).1, capacity, decide_eq_true rfl] at quiet
      cases quiet

theorem Monitor.Step.awake (step : Step m m') (awake : m.Awake size) : m'.Awake size := by
  cases step with
  | startWrite idle nonneg started =>
    refine { awake with valid := fun writing same => ?_ }
    cases same
    exact startWrite_valid nonneg started
  | writeReturns busy running ran notify =>
    obtain ⟨sound, capacity, consumer, -⟩ := awake.write busy ran (.inl ⟨_, rfl⟩) notify
    exact ⟨awake.positive, sound, capacity, (fun _ none => by cases none), consumer, (fun waits => by cases waits)⟩
  | writeWaits busy running ran notify =>
    obtain ⟨sound, capacity, consumer, waiting⟩ := awake.write busy ran (.inr ⟨_, rfl⟩) notify
    obtain ⟨valid, full, opened⟩ := waiting _ rfl
    refine ⟨awake.positive, sound, capacity, fun writing same => ?_, consumer, fun _ => ⟨full, opened⟩⟩
    cases same
    exact valid
  | startRead buffer idle => exact { awake with }
  | readReturns busy running ran notify =>
    obtain ⟨sound, capacity, producer, -⟩ := awake.read ran (.inl ⟨_, rfl⟩) notify
    exact ⟨awake.positive, sound, capacity, awake.valid, (fun waits => by cases waits), producer⟩
  | readWaits busy running ran notify =>
    obtain ⟨sound, capacity, producer, waiting⟩ := awake.read ran (.inr rfl) notify
    exact ⟨awake.positive, sound, capacity, awake.valid, fun _ => waiting rfl, producer⟩
  | closes ran notify =>
    cases ran
    -- an empty queue is not full, so at most one of the two was in the wait set
    have positive := awake.positive
    have both : ¬ (m.producer = .waiting ∧ m.consumer = .waiting) := by
      rintro ⟨writes, reads⟩
      have full := (awake.producer writes).1
      have empty := (awake.consumer reads).1
      omega
    obtain ⟨running, reading⟩ := notify.none_waiting both
    obtain ⟨head_nonneg, head_lt, stored_nonneg, stored_le⟩ := awake.sound
    exact ⟨positive, ⟨head_nonneg, head_lt, stored_nonneg, stored_le⟩, awake.capacity, awake.valid,
      fun waits => absurd waits reading, fun waits => absurd waits running⟩
  | producerWakes waits => exact { awake with producer := fun waits => by cases waits }
  | consumerWakes waits => exact { awake with consumer := fun waits => by cases waits }

/-- No thread is left in the wait set once the queue has what it waits for or is closed. -/
theorem monitor_awake {size : Nat} (positive : 1 ≤ size) {m : Monitor}
    (run : Relation.ReflTransGen Monitor.Step (Monitor.new size) m) :
    ¬ (m.consumer = .waiting ∧ (m.queue.mStoredBytes ≠ 0 ∨ m.queue.mOpen = false)) ∧
      ¬ (m.producer = .waiting ∧ (m.queue.mStoredBytes ≠ size ∨ m.queue.mOpen = false)) := by
  have awake : m.Awake size := by
    induction run with
    | refl => exact Monitor.new_awake positive
    | tail _ step ih => exact step.awake ih
  constructor
  · rintro ⟨waits, happened⟩
    obtain ⟨empty, opened⟩ := awake.consumer waits
    rcases happened with some | closed
    · exact some empty
    · rw [opened] at closed
      cases closed
  · rintro ⟨waits, happened⟩
    obtain ⟨full, opened⟩ := awake.producer waits
    rcases happened with room | closed
    · exact room full
    · rw [opened] at closed
      cases closed

theorem monitor_awake_closed : ∃ m, Relation.ReflTransGen Monitor.Step (Monitor.new 2) m ∧ m.queue.mOpen = false ∧
    m.consumer ≠ .waiting := by
  have start : Monitor.Step (Monitor.new 2) ⟨create 2, .ready, none, .ready, some [0]⟩ := .startRead [0] rfl
  have waits : Monitor.Step ⟨create 2, .ready, none, .ready, some [0]⟩ ⟨create 2, .ready, none, .waiting, some [0]⟩ :=
    .readWaits rfl (by decide) (show (read [0] true).run (create 2) = .ok (.waits () false) (create 2) by decide) rfl
  have closes : Monitor.Step ⟨create 2, .ready, none, .waiting, some [0]⟩
      ⟨⟨[0, 0], 0, 0, false⟩, .ready, none, .notified, some [0]⟩ :=
    .closes (show close.run (create 2) = .ok () ⟨[0, 0], 0, 0, false⟩ by decide) (.consumer .ready)
  have run := ((Relation.ReflTransGen.single start).tail waits).tail closes
  exact ⟨_, run, rfl, fun waits => (monitor_awake (by decide) run).1 ⟨waits, .inr rfl⟩⟩

end ByteQueue
