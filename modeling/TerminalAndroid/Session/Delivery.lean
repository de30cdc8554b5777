import TerminalAndroid.Session.QueueContent
import TerminalAndroid.Session.TerminalSession

open Java Circular ByteQueue

namespace TerminalSession

def outputs : List Append → List UInt8
  | [] => []
  | .output bytes :: rest => bytes ++ outputs rest
  | .completed _ :: rest => outputs rest

theorem outputs_append (first second : List Append) : outputs (first ++ second) = outputs first ++ outputs second := by
  induction first with
  | nil => rfl
  | cons entry first ih =>
    cases entry <;> simp only [List.cons_append, outputs, ih, List.append_assoc]

namespace Session

variable {s s' : Session}

def pending (s : Session) : List UInt8 :=
  match s.reader with
  | .writing locals => locals.rest
  | _ => []

def Leaving (s : Session) : Prop := s.main ≠ .idle ∨ ∃ exitCode, .completed exitCode ∈ s.appended

/-- The exit message is taken only while the reader holds no byte, and the reader reads no byte after that. -/
structure Timely (s s' : Session) : Prop where
  taken : s.main = .idle → s'.main ≠ .idle → s.pending = []
  read : s.Leaving → s'.received = s.received

structure Delivers (s : Session) : Prop where
  sound : s.queue.Sound
  capacity : s.queue.mBuffer.length = queueSize
  opened : ¬ s.Leaving → s.queue.mOpen = true
  valid : ∀ locals, s.reader = .writing locals → locals.Valid ∧ locals.rest.length ≤ readerSize
  order : outputs s.appended ++ s.queue.stored ++ s.pending = s.received
  left : s.Leaving → s.queue.stored = [] ∧ s.pending = []
  before : ∀ first exitCode last, s.appended = first ++ .completed exitCode :: last → outputs first = s.received
  room : s.messages = [] → s.reader ≠ .sending → s.queue.stored.length + s.pending.length ≤ readerSize
  drained : s.messages = [] → s.reader ≠ .sending → s.pending = [] → s.queue.stored = []

theorem new_delivers : new.Delivers := by
  have empty : (ByteQueue.create queueSize).stored = [] := content_zero _ _
  have idle : ¬ new.Leaving := by simp [Leaving, new]
  refine ⟨create_sound (by decide), List.length_replicate, fun _ => rfl, (fun _ busy => by cases busy), ?_,
    (fun leaving => absurd leaving idle), ?_, fun _ _ => ?_, fun _ _ _ => empty⟩
  · show [] ++ (ByteQueue.create queueSize).stored ++ [] = []
    rw [empty]
    rfl
  · intro first exitCode last split
    exact absurd split (by simp [new])
  · show (ByteQueue.create queueSize).stored.length + 0 ≤ readerSize
    rw [empty]
    decide

theorem pending_of_writing {locals : Writing} (busy : s.reader = .writing locals) : s.pending = locals.rest := by
  simp only [pending, busy]

theorem Delivers.not_leaving (delivers : s.Delivers) {locals : Writing} (busy : s.reader = .writing locals) :
    ¬ s.Leaving := by
  intro leaving
  have length := (delivers.valid locals busy).1.rest_length
  have positive := (delivers.valid locals busy).1.positive
  rw [← pending_of_writing busy, (delivers.left leaving).2, List.length_nil] at length
  omega

theorem Delivers.run_read (delivers : s.Delivers) {receiveBuffer buffer : List UInt8} {bytesRead : Int} {notifies : Bool}
    {queue' : ByteQueue} (size : receiveBuffer.length = receiveSize)
    (ran : (ByteQueue.read receiveBuffer false).run s.queue = .ok (.returns (bytesRead, buffer) notifies) queue') :
    queue'.Sound ∧ queue'.mBuffer.length = queueSize ∧ queue'.mOpen = s.queue.mOpen ∧ queue'.stored = [] ∧
      outputs (outputOf bytesRead buffer) = s.queue.stored ∧ (s.queue.stored = [] → outputOf bytesRead buffer = []) := by
  have length := delivers.sound.stored_length
  have most := delivers.sound.stored_le
  have capacity := delivers.capacity
  by_cases opened : s.queue.mOpen = true
  · by_cases empty : s.queue.mStoredBytes = 0
    · have none : s.queue.stored = [] := List.length_eq_zero_iff.1 (by omega)
      simp only [ByteQueue.read, EStateM.run_bind, EStateM.run_get, empty, opened, and_self, if_true,
        Bool.false_eq_true, if_false, EStateM.run_pure] at ran
      cases ran
      exact ⟨delivers.sound, capacity, rfl, none, by rw [none]; rfl, fun _ => rfl⟩
    · obtain ⟨queue'', same, reads⟩ := delivers.sound.run_read opened empty receiveBuffer false
      have fits : s.queue.stored.length ≤ receiveBuffer.length := by
        rw [size]
        have : queueSize = receiveSize := rfl
        omega
      rw [List.take_of_length_le fits, ran] at same
      cases same
      have copied : (overwrite receiveBuffer 0 s.queue.stored).take s.queue.stored.length = s.queue.stored := by
        rw [overwrite, List.take_zero, List.nil_append, List.take_left]
      refine ⟨reads.sound, reads.size.trans capacity, reads.opened, ?_, ?_, fun none => ?_⟩
      · rw [reads.stored, List.drop_eq_nil_of_le fits]
      · rw [outputOf, if_pos (by omega), Int.toNat_natCast, copied]
        simp only [outputs, List.append_nil]
      · rw [none, List.length_nil] at length
        omega
  · have leaving : s.Leaving := by
      by_contra staying
      exact opened (delivers.opened staying)
    have none := (delivers.left leaving).1
    simp only [ByteQueue.read, EStateM.run_bind, EStateM.run_get, opened, and_false, Bool.false_eq_true, if_false,
      not_false_eq_true, if_true, EStateM.run_pure] at ran
    cases ran
    exact ⟨delivers.sound, capacity, rfl, none, by rw [none]; rfl, fun _ => rfl⟩

theorem Delivers.run_write (delivers : s.Delivers) {locals : Writing} {result : Leave Bool Writing} {queue' : ByteQueue}
    (busy : s.reader = .writing locals) (ran : (write locals).run s.queue = .ok result queue') :
    ∃ count : Nat, Writes s.queue queue' (locals.rest.take count) ∧ (count : Int) ≤ locals.lengthToWrite ∧
      ∃ notifies, result = if (count : Int) = locals.lengthToWrite then .returns true notifies
        else .waits (locals.advance count) notifies := by
  obtain ⟨count, queue'', writes, count_eq, same⟩ :=
    delivers.sound.run_write (delivers.opened (delivers.not_leaving busy)) (delivers.valid locals busy).1
  rw [ran] at same
  cases same
  exact ⟨count, writes, by omega, _, rfl⟩

theorem split_completed {first last appended : List Append} {entry : Append} {exitCode : Int}
    (split : appended ++ [entry] = first ++ .completed exitCode :: last) :
    first = appended ∨ ∃ last', appended = first ++ .completed exitCode :: last' := by
  rcases List.eq_nil_or_concat last with rfl | ⟨last', entry', rfl⟩
  · exact Or.inl (List.append_inj_left' split rfl).symm
  · rw [List.concat_eq_append, ← List.cons_append, ← List.append_assoc] at split
    exact Or.inr ⟨last', List.append_inj_left' split rfl⟩

theorem Step.delivers (step : Step s s') (timely : Timely s s') (delivers : s.Delivers) : s'.Delivers := by
  cases step with
  | @reads buffer count idle size some most =>
    have staying : ¬ s.Leaving := by
      intro leaving
      have same := congrArg List.length (timely.read leaving)
      simp only [List.length_append, List.length_take] at same
      omega
    have none : s.pending = [] := by simp only [pending, idle]
    have valid : (⟨buffer, 0, count⟩ : Writing).Valid :=
      ⟨Int.le_refl 0, by dsimp only; omega, by dsimp only; omega⟩
    have rest : (⟨buffer, 0, count⟩ : Writing).rest = buffer.take count := by
      simp only [Writing.rest, Int.toNat_zero, List.drop_zero, Int.toNat_natCast]
    have length : (buffer.take count).length ≤ readerSize := by
      rw [List.length_take]
      omega
    refine ⟨delivers.sound, delivers.capacity, delivers.opened, fun locals busy => ?_, ?_,
      (fun leaving => absurd leaving staying), fun first exitCode last split => ?_, fun quiet _ => ?_, fun _ _ none' => ?_⟩
    · cases busy
      exact ⟨valid, by rw [rest]; exact length⟩
    · show outputs s.appended ++ s.queue.stored ++ (⟨buffer, 0, count⟩ : Writing).rest = s.received ++ buffer.take count
      rw [rest, ← delivers.order, none, List.append_nil]
    · exact absurd (Or.inr ⟨exitCode, by simp [show s.appended = _ from split]⟩) staying
    · show s.queue.stored.length + (⟨buffer, 0, count⟩ : Writing).rest.length ≤ readerSize
      rw [delivers.drained quiet (by simp [idle]) none, rest, List.length_nil]
      omega
    · have empty : (⟨buffer, 0, count⟩ : Writing).rest = [] := none'
      rw [rest] at empty
      have := congrArg List.length empty
      rw [List.length_take, List.length_nil] at this
      omega
  | ends idle =>
    have none : s.pending = [] := by simp only [pending, idle]
    refine ⟨delivers.sound, delivers.capacity, delivers.opened, (fun _ busy => by cases busy), ?_, fun leaving => ?_,
      delivers.before, fun quiet _ => ?_, fun quiet _ _ => ?_⟩
    · rw [← delivers.order, none]
      rfl
    · exact ⟨(delivers.left leaving).1, rfl⟩
    · have room := delivers.room quiet (by simp [idle])
      rw [none] at room
      exact room
    · exact delivers.drained quiet (by simp [idle]) none
  | @stores locals locals' notifies queue' busy ran =>
    obtain ⟨count, writes, most, notifies', same⟩ := delivers.run_write busy ran
    have staying := delivers.not_leaving busy
    obtain ⟨valid, small⟩ := delivers.valid locals busy
    split at same
    · cases same
    · cases same
      obtain ⟨valid', rest'⟩ := valid.advance (show (count : Int) < locals.lengthToWrite by omega)
      refine ⟨writes.sound, writes.size.trans delivers.capacity, fun _ => writes.opened.trans (delivers.opened staying),
        fun _ found => ?_, ?_, (fun leaving => absurd leaving staying), delivers.before, fun quiet _ => ?_, fun _ _ none => ?_⟩
      · cases found
        refine ⟨valid', ?_⟩
        rw [rest', List.length_drop]
        omega
      · show outputs s.appended ++ queue'.stored ++ (locals.advance count).rest = s.received
        rw [← delivers.order, pending_of_writing busy, rest', writes.stored]
        simp only [List.append_assoc, List.take_append_drop]
      · have room := delivers.room quiet (by simp [busy])
        rw [pending_of_writing busy] at room
        show queue'.stored.length + (locals.advance count).rest.length ≤ readerSize
        rw [rest', writes.stored, List.length_append, List.length_take, List.length_drop]
        omega
      · have length := valid'.rest_length
        have positive := valid'.positive
        rw [show (locals.advance count).rest = [] from none, List.length_nil] at length
        omega
  | @stored locals value notifies queue' busy ran =>
    obtain ⟨count, writes, most, notifies', same⟩ := delivers.run_write busy ran
    have staying := delivers.not_leaving busy
    obtain ⟨valid, small⟩ := delivers.valid locals busy
    split at same
    next all =>
      cases same
      have length := valid.rest_length
      refine ⟨writes.sound, writes.size.trans delivers.capacity, fun _ => writes.opened.trans (delivers.opened staying),
        (fun _ found => by cases found), ?_, (fun leaving => absurd leaving staying), delivers.before,
        (fun _ sending => absurd rfl sending), fun _ sending => absurd rfl sending⟩
      show outputs s.appended ++ queue'.stored ++ [] = s.received
      rw [← delivers.order, pending_of_writing busy, writes.stored, List.take_of_length_le (by omega)]
      simp only [List.append_assoc, List.append_nil]
    · cases same
  | sends busy =>
    have none : s.pending = [] := by simp only [pending, busy]
    refine ⟨delivers.sound, delivers.capacity, delivers.opened, (fun _ found => by cases found), ?_, fun leaving => ?_,
      delivers.before, fun quiet => ?_, fun quiet => ?_⟩
    · rw [← delivers.order, none]
      rfl
    · exact ⟨(delivers.left leaving).1, rfl⟩
    · exact absurd quiet (List.append_ne_nil_of_right_ne_nil _ (List.cons_ne_nil _ _))
    · exact absurd quiet (List.append_ne_nil_of_right_ne_nil _ (List.cons_ne_nil _ _))
  | exits exitCode running =>
    refine ⟨delivers.sound, delivers.capacity, delivers.opened, delivers.valid, delivers.order, delivers.left,
      delivers.before, fun quiet => ?_, fun quiet => ?_⟩
    · exact absurd quiet (List.append_ne_nil_of_right_ne_nil _ (List.cons_ne_nil _ _))
    · exact absurd quiet (List.append_ne_nil_of_right_ne_nil _ (List.cons_ne_nil _ _))
  | @handles message messages receiveBuffer buffer bytesRead notifies queue' idle next size ran =>
    obtain ⟨sound, capacity, opened, empty, copied, nothing⟩ := delivers.run_read size ran
    have kept : ∀ exitCode, .completed exitCode ∈ s.appended ++ outputOf bytesRead buffer → .completed exitCode ∈ s.appended := by
      intro exitCode member
      rcases List.mem_append.1 member with old | new
      · exact old
      · unfold outputOf at new
        split at new <;> simp at new
    have order : outputs (s.appended ++ outputOf bytesRead buffer) ++ s.pending = s.received := by
      rw [outputs_append, copied, delivers.order]
    refine ⟨sound, capacity, fun staying => opened.trans (delivers.opened ?_), delivers.valid, ?_, fun leaving => ⟨empty, ?_⟩,
      fun first exitCode last split => ?_, fun _ _ => ?_, fun _ _ _ => empty⟩
    · rintro (busy | ⟨exitCode, member⟩)
      · exact busy idle
      · exact staying (Or.inr ⟨exitCode, List.mem_append_left _ member⟩)
    · show outputs (s.appended ++ outputOf bytesRead buffer) ++ queue'.stored ++ s.pending = s.received
      rw [empty, List.append_nil, order]
    · rcases leaving with busy | ⟨exitCode, member⟩
      · exact timely.taken idle busy
      · exact (delivers.left (Or.inr ⟨exitCode, kept exitCode member⟩)).2
    · have split : s.appended ++ outputOf bytesRead buffer = first ++ .completed exitCode :: last := split
      have member := kept exitCode (by rw [split]; simp)
      rw [nothing (delivers.left (Or.inr ⟨exitCode, member⟩)).1, List.append_nil] at split
      exact delivers.before first exitCode last split
    · show queue'.stored.length + s.pending.length ≤ readerSize
      rw [empty, List.length_nil, Nat.zero_add, pending]
      split
      next locals busy => exact (delivers.valid locals busy).2
      · exact Nat.zero_le _
  | @cleans exitCode queue' busy ran =>
    cases ran
    have leaving : s.Leaving := Or.inl (by simp [busy])
    refine ⟨⟨delivers.sound.1, delivers.sound.2, delivers.sound.3, delivers.sound.4⟩, delivers.capacity,
      fun staying => ?_, delivers.valid, delivers.order, (fun _ => delivers.left leaving), delivers.before, delivers.room,
      delivers.drained⟩
    exact absurd (Or.inl (by simp)) staying
  | @completes exitCode busy =>
    have leaving : s.Leaving := Or.inl (by simp [busy])
    obtain ⟨empty, none⟩ := delivers.left leaving
    have all : outputs s.appended = s.received := by
      rw [← delivers.order, empty, none, List.append_nil, List.append_nil]
    refine ⟨delivers.sound, delivers.capacity, fun staying => ?_, delivers.valid, ?_, (fun _ => ⟨empty, none⟩),
      fun first exitCode' last split => ?_, delivers.room, delivers.drained⟩
    · exact absurd (Or.inr ⟨exitCode, by simp⟩) staying
    · rw [← delivers.order, outputs_append]
      simp only [outputs, List.append_nil]
      rfl
    · rcases split_completed split with rfl | ⟨last', old⟩
      · exact all
      · exact delivers.before first exitCode' last' old

theorem Delivers.progress (delivers : s.Delivers) : outputs s.appended = s.received ∨ s.messages ≠ [] ∨
    s.reader = .sending ∨ ∃ locals notifies queue', s.reader = .writing locals ∧
      (write locals).run s.queue = .ok (.returns true notifies) queue' := by
  by_cases quiet : s.messages = []
  · by_cases sending : s.reader = .sending
    · exact Or.inr (Or.inr (Or.inl sending))
    · cases busy : s.reader with
      | writing locals =>
        have room := delivers.room quiet sending
        have length := delivers.sound.stored_length
        have capacity := delivers.capacity
        have small : readerSize ≤ queueSize := by decide
        have staying := delivers.not_leaving busy
        have valid := (delivers.valid locals busy).1
        have rest := valid.rest_length
        rw [pending_of_writing busy] at room
        obtain ⟨count, queue', -, count_eq, ran⟩ := delivers.sound.run_write (delivers.opened staying) valid
        rw [if_pos (by omega)] at ran
        exact Or.inr (Or.inr (Or.inr ⟨locals, _, queue', rfl, ran⟩))
      | _ =>
        have none : s.pending = [] := by simp only [pending, busy]
        refine Or.inl ?_
        rw [← delivers.order, none, delivers.drained quiet sending none, List.append_nil, List.append_nil]
  · exact Or.inr (Or.inl quiet)

/-- All bytes read are appended in order, none twice, and before the text for the end of the process, if the exit message is
    taken while the reader holds no byte and it reads none after that. Bytes that are not yet appended are on their way. -/
theorem session_delivers {s : Session} (run : Relation.ReflTransGen (fun s s' => Step s s' ∧ Timely s s') new s) :
    outputs s.appended ++ s.queue.stored ++ s.pending = s.received ∧
      (∀ first exitCode last, s.appended = first ++ .completed exitCode :: last → outputs first = s.received) ∧
      (outputs s.appended = s.received ∨ s.messages ≠ [] ∨ s.reader = .sending ∨
        ∃ locals notifies queue', s.reader = .writing locals ∧
          (write locals).run s.queue = .ok (.returns true notifies) queue') := by
  have delivers : s.Delivers := by
    induction run with
    | refl => exact new_delivers
    | tail _ step ih => exact Step.delivers step.1 step.2 ih
  exact ⟨delivers.order, delivers.before, delivers.progress⟩

def oneByte : Writing := ⟨List.replicate readerSize 65, 0, 1⟩

theorem oneByte_valid : oneByte.Valid := by
  refine ⟨by decide, by decide, ?_⟩
  rw [show oneByte.buffer.length = readerSize from List.length_replicate]
  decide

theorem oneByte_rest : oneByte.rest = [65] := rfl

theorem new_reads : Step new { new with reader := .writing oneByte, received := [65] } :=
  .reads rfl List.length_replicate (Nat.le_refl 1) (by decide)

theorem session_delivers_one : ∃ s : Session, Relation.ReflTransGen (fun s s' => Step s s' ∧ Timely s s') new s ∧
    s.received = [65] ∧ ∃ first, s.appended = first ++ [.completed 0] ∧ outputs first = s.received := by
  obtain ⟨count, queue, writes, count_eq, ran⟩ := (create_sound (show 1 ≤ queueSize by decide)).run_write rfl oneByte_valid
  obtain rfl : count = 1 := by
    rw [show oneByte.lengthToWrite = 1 from rfl, show (ByteQueue.create queueSize).mStoredBytes = 0 from rfl,
      show (ByteQueue.create queueSize).mBuffer.length = queueSize from List.length_replicate] at count_eq
    have : 1 ≤ queueSize := by decide
    omega
  rw [if_pos (by rfl)] at ran
  have stored : queue.stored = [65] := by
    rw [writes.stored, oneByte_rest, show (ByteQueue.create queueSize).stored = [] from content_zero _ _]
    rfl
  have some : queue.mStoredBytes ≠ 0 := by
    rw [← writes.sound.stored_length, stored]
    decide
  obtain ⟨queue', read, -⟩ := writes.sound.run_read (writes.opened.trans rfl) some (List.replicate receiveSize 0) false
  have run := Relation.ReflTransGen.refl (r := fun s s' => Step s s' ∧ Timely s s') (a := new)
    |>.tail ⟨new_reads, (fun _ busy => absurd rfl busy), fun leaving => by simp [Leaving, new] at leaving⟩
    |>.tail ⟨.stored rfl ran, (fun _ busy => absurd rfl busy), fun _ => rfl⟩
    |>.tail ⟨.exits 0 rfl, (fun _ busy => absurd rfl busy), fun _ => rfl⟩
    |>.tail ⟨.handles rfl rfl List.length_replicate read, (fun _ _ => rfl), fun _ => rfl⟩
    |>.tail ⟨.cleans rfl rfl, (fun idle => by cases idle), fun _ => rfl⟩
    |>.tail ⟨.completes rfl, (fun idle => by cases idle), fun _ => rfl⟩
  exact ⟨_, run, rfl, _, rfl, (session_delivers run).2.1 _ 0 [] rfl⟩

/-- A byte that the reader has read and not yet stored when the exit message is handled is lost. -/
theorem exit_before_store : ∃ s : Session, Relation.ReflTransGen Step new s ∧ s.received = [65] ∧
    s.appended = [.completed 0] ∧ s.reader = .done := by
  have closed : (write oneByte).run { ByteQueue.create queueSize with mOpen := false } =
      .ok (.returns false false) { ByteQueue.create queueSize with mOpen := false } :=
    run_writeLoop_closed _ _ (by decide) rfl
  have read : (ByteQueue.read (List.replicate receiveSize 0) false).run (ByteQueue.create queueSize) =
      .ok (.returns (0, List.replicate receiveSize 0) false) (ByteQueue.create queueSize) := rfl
  have run := Relation.ReflTransGen.refl (r := Step) (a := new)
    |>.tail new_reads
    |>.tail (.exits 0 rfl)
    |>.tail (.handles rfl rfl List.length_replicate read)
    |>.tail (.cleans rfl rfl)
    |>.tail (.completes rfl)
    |>.tail (.stored rfl closed)
  exact ⟨_, run, rfl, rfl, rfl⟩

end Session

end TerminalSession
