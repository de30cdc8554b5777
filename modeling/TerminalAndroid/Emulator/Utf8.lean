import TerminalAndroid.Emulator.Runs
import TerminalAndroid.Session.TerminalSession

open Java Exec Utf8

namespace TerminalSession

def utf8 (codePoint : Nat) : List Nat :=
  if codePoint < 0x80 then [codePoint]
  else if codePoint < 0x800 then [0xC0 + codePoint / 0x40, 0x80 + codePoint % 0x40]
  else if codePoint < 0x10000 then
    [0xE0 + codePoint / 0x1000, 0x80 + codePoint / 0x40 % 0x40, 0x80 + codePoint % 0x40]
  else
    [0xF0 + codePoint / 0x40000, 0x80 + codePoint / 0x1000 % 0x40, 0x80 + codePoint / 0x40 % 0x40,
      0x80 + codePoint % 0x40]

section Bits

variable {codePoint : Nat}

theorem toNat_ofInt (small : codePoint < 2 ^ 31) : (BitVec.ofInt 32 codePoint).toNat = codePoint := by
  rw [BitVec.ofInt_natCast, BitVec.toNat_ofNat]
  omega

theorem toNat_sshiftRight (small : codePoint < 2 ^ 31) (n : Nat) :
    ((BitVec.ofInt 32 codePoint).sshiftRight n).toNat = codePoint / 2 ^ n := by
  rw [BitVec.sshiftRight_eq_of_msb_false, BitVec.toNat_ushiftRight, toNat_ofInt small, Nat.shiftRight_eq_div_pow]
  rw [BitVec.msb_eq_decide, toNat_ofInt small]
  simp
  omega

theorem byte_eq {x : BitVec 32} {n : Nat} (value : x.toNat = n) :
    UInt8.ofBitVec (x.setWidth 8) = UInt8.ofNat n := by
  apply UInt8.toNat_inj.mp
  rw [UInt8.toNat_ofBitVec, BitVec.toNat_setWidth, value, UInt8.toNat_ofNat']

theorem toNat_lead (small : codePoint < 2 ^ 31) (shift i k : Nat) (bound : codePoint / 2 ^ shift < 2 ^ i)
    (fits : 2 ^ i * k < 2 ^ 32) :
    (BitVec.ofNat 32 (2 ^ i * k) ||| (BitVec.ofInt 32 codePoint).sshiftRight shift).toNat =
      2 ^ i * k + codePoint / 2 ^ shift := by
  rw [BitVec.toNat_or, toNat_sshiftRight small, BitVec.toNat_ofNat, Nat.mod_eq_of_lt fits,
    Nat.two_pow_add_eq_or_of_lt bound]

theorem toNat_continuation {x : BitVec 32} {n : Nat} (value : x.toNat = n) :
    (0b10000000 ||| x &&& 0b111111).toNat = 0x80 + n % 0x40 := by
  have low : n % 2 ^ 6 < 2 ^ 6 := Nat.mod_lt _ (by decide)
  have masked : (x &&& 0b111111).toNat = n % 2 ^ 6 := by
    rw [BitVec.toNat_and, value]
    exact Nat.and_two_pow_sub_one_eq_mod n 6
  rw [BitVec.toNat_or, masked]
  exact (Nat.two_pow_add_eq_or_of_lt low 2).symm

end Bits

theorem writeCodePoint_eq {codePoint : Nat} {bytes : List UInt8}
    (accepted : writeCodePoint false codePoint = .ok bytes) :
    codePoint ≤ 0x10FFFF ∧ bytes = (utf8 codePoint).map UInt8.ofNat := by
  unfold writeCodePoint at accepted
  split at accepted
  · cases accepted
  next valid =>
    have small : codePoint < 2 ^ 31 := by omega
    have whole := toNat_ofInt small
    have shifted := toNat_sshiftRight small
    have last := byte_eq (toNat_continuation whole)
    have middle := byte_eq (toNat_continuation (shifted 6))
    have high := byte_eq (toNat_continuation (shifted 12))
    refine ⟨by omega, ?_⟩
    simp only [Bool.false_eq_true, if_false, List.nil_append, Except.ok.injEq] at accepted
    rw [← accepted]
    unfold utf8
    by_cases one : codePoint < 0x80
    · rw [if_pos one, if_pos (by omega)]
      exact congrArg (fun byte => [byte]) (byte_eq whole)
    · rw [if_neg one, if_neg (by omega)]
      by_cases two : codePoint < 0x800
      · rw [if_pos two, if_pos (by omega), last]
        exact congrArg (· :: _) (byte_eq (toNat_lead small 6 6 3 (by omega) (by decide)))
      · rw [if_neg two, if_neg (by omega)]
        by_cases three : codePoint < 0x10000
        · rw [if_pos three, if_pos (by omega), last, middle]
          exact congrArg (· :: _) (byte_eq (toNat_lead small 12 5 7 (by omega) (by decide)))
        · rw [if_neg three, if_neg (by omega), last, middle, high]
          exact congrArg (· :: _) (byte_eq (toNat_lead small 18 4 15 (by omega) (by decide)))

end TerminalSession

namespace TerminalEmulator

variable {host : Host} {e e' : TerminalEmulator}

def Starts (toFollow : Nat) (byte : UInt8) : Prop :=
  (toFollow = 1 ∧ 192 ≤ byte.toNat ∧ byte.toNat < 224) ∨ (toFollow = 2 ∧ 224 ≤ byte.toNat ∧ byte.toNat < 240) ∨
    (toFollow = 3 ∧ 240 ≤ byte.toNat ∧ byte.toNat < 248)

def Continues (byte : UInt8) : Prop := 128 ≤ byte.toNat ∧ byte.toNat < 192

variable {byte first : UInt8} {n : Nat} {rest : List UInt8}

theorem Starts.length {toFollow : Nat} (starts : Starts toFollow byte) : 1 ≤ toFollow ∧ toFollow ≤ 3 := by
  unfold Starts at starts
  omega

structure Encodes (codePoint : Nat) (first : UInt8) (rest : List UInt8) : Prop where
  nonempty : rest ≠ []
  starts : Starts rest.length first
  continues : ∀ byte ∈ rest, Continues byte
  decodes : decodeBytes (first :: rest) = codePoint
  shortest : ¬ ((codePoint ≤ 0b1111111 ∧ 1 < rest.length + 1) ∨ (codePoint < 0b11111111111 ∧ 2 < rest.length + 1) ∨
    (codePoint < 0b1111111111111111 ∧ 3 < rest.length + 1))

theorem decodeStep (codePoint : Nat) (small : n < 0x40) :
    codePoint <<< 6 ||| ((UInt8.ofNat (0x80 + n)).toNat &&& 0b00111111) = codePoint * 0x40 + n := by
  have low : (0x80 + n) % 2 ^ 6 < 2 ^ 6 := Nat.mod_lt _ (by decide)
  rw [UInt8.toNat_ofNat', Nat.mod_eq_of_lt (by omega), show (0b00111111 : Nat) = 2 ^ 6 - 1 from rfl,
    Nat.and_two_pow_sub_one_eq_mod, ← Nat.shiftLeft_add_eq_or_of_lt low, Nat.shiftLeft_eq]
  omega

theorem continues_ofNat (small : n < 0x40) : Continues (.ofNat (0x80 + n)) := by
  unfold Continues
  rw [UInt8.toNat_ofNat', Nat.mod_eq_of_lt (by omega)]
  omega

theorem toNat_first (small : n < 256) : (UInt8.ofNat n).toNat = n := by
  rw [UInt8.toNat_ofNat', Nat.mod_eq_of_lt small]

theorem encodes_utf8 {codePoint : Nat} (lower : 0x80 ≤ codePoint) (upper : codePoint ≤ 0x10FFFF) :
    ∃ first rest, (TerminalSession.utf8 codePoint).map UInt8.ofNat = first :: rest ∧ Encodes codePoint first rest := by
  unfold TerminalSession.utf8
  rw [if_neg (by omega)]
  split
  next two =>
    have first := toNat_first (show 0xC0 + codePoint / 0x40 < 256 by omega)
    refine ⟨_, _, rfl, List.cons_ne_nil _ _, Or.inl ⟨rfl, by omega, by omega⟩, ?_, ?_, ?_⟩
    · simp only [List.map_cons, List.map_nil, List.mem_singleton, forall_eq]
      exact continues_ofNat (by omega)
    · show (_ &&& (2 ^ 5 - 1)) <<< 6 ||| _ = codePoint
      rw [first, Nat.and_two_pow_sub_one_eq_mod, decodeStep _ (by omega)]
      omega
    · simp only [List.map_cons, List.map_nil, List.length_cons, List.length_nil]
      omega
  next two =>
    split
    next three =>
      have first := toNat_first (show 0xE0 + codePoint / 0x1000 < 256 by omega)
      refine ⟨_, _, rfl, List.cons_ne_nil _ _, Or.inr (Or.inl ⟨rfl, by omega, by omega⟩), ?_, ?_, ?_⟩
      · simp only [List.map_cons, List.map_nil, List.mem_cons, List.not_mem_nil, or_false, forall_eq_or_imp, forall_eq]
        exact ⟨continues_ofNat (by omega), continues_ofNat (by omega)⟩
      · show ((_ &&& (2 ^ 4 - 1)) <<< 6 ||| _) <<< 6 ||| _ = codePoint
        rw [first, Nat.and_two_pow_sub_one_eq_mod, decodeStep _ (by omega), decodeStep _ (by omega)]
        omega
      · simp only [List.map_cons, List.map_nil, List.length_cons, List.length_nil]
        omega
    next three =>
      have first := toNat_first (show 0xF0 + codePoint / 0x40000 < 256 by omega)
      refine ⟨_, _, rfl, List.cons_ne_nil _ _, Or.inr (Or.inr ⟨rfl, by omega, by omega⟩), ?_, ?_, ?_⟩
      · simp only [List.map_cons, List.map_nil, List.mem_cons, List.not_mem_nil, or_false, forall_eq_or_imp, forall_eq]
        exact ⟨continues_ofNat (by omega), continues_ofNat (by omega), continues_ofNat (by omega)⟩
      · show (((_ &&& (2 ^ 3 - 1)) <<< 6 ||| _) <<< 6 ||| _) <<< 6 ||| _ = codePoint
        rw [first, Nat.and_two_pow_sub_one_eq_mod, decodeStep _ (by omega),
          decodeStep _ (by omega), decodeStep _ (by omega)]
        omega
      · simp only [List.map_cons, List.map_nil, List.length_cons, List.length_nil]
        omega

def cutShort : EmulatorM Unit := do
  let e ← get
  if 0 < e.mUtf8ToFollow then
    set (e.decoding e.decoder.idle)
    emitCodePoint unicodeReplacementChar

theorem run_processByte_first (other : ¬ Continues byte) :
    (processByte host byte).run e = (do cutShort; startUtf8 host byte).run e := by
  unfold processByte cutShort
  rw [bind_assoc, EStateM.run_bind, EStateM.run_bind, EStateM.run_get]
  dsimp only
  by_cases inside : 0 < e.mUtf8ToFollow
  · rw [if_pos inside, if_pos inside, if_neg (mt (continues_iff byte).mp other), bind_assoc]
    rfl
  · rw [if_neg inside, if_neg inside, pure_bind]

theorem run_processByte_idle (idle : ¬ 0 < e.mUtf8ToFollow) (byte : UInt8) :
    (processByte host byte).run e = (startUtf8 host byte).run e := by
  unfold processByte
  rw [EStateM.run_bind, EStateM.run_get]
  dsimp only
  rw [if_neg idle]

theorem run_processByte_single (idle : ¬ 0 < e.mUtf8ToFollow) (outside : ∀ toFollow, ¬ Starts toFollow byte) :
    (processByte host byte).run e =
      (processCodePoint host (if byte.toNat < 128 then byte.toNat else unicodeReplacementChar)).run e := by
  rw [run_processByte_idle idle, startUtf8]
  by_cases ascii : byte.toNat < 128
  · rw [if_pos ascii, if_pos ((single_iff byte).mpr ascii)]
  · have two := outside 1
    have three := outside 2
    have four := outside 3
    unfold Starts at two three four
    rw [if_neg ascii, if_neg (mt (single_iff byte).mp ascii), if_neg (by rw [starts_two_iff]; omega),
      if_neg (by rw [starts_three_iff]; omega), if_neg (by rw [starts_four_iff]; omega)]

theorem cutShort_decoder (valid : e.decoder.Valid) (ran : cutShort.run e = .ok () e') : e'.decoder = e.decoder.idle := by
  obtain ⟨_, _, got, rest⟩ := bind_inv ran
  cases got
  split at rest
  · obtain ⟨_, t, idled, emitted⟩ := bind_inv rest
    cases idled
    have steps := emitCodePoint_emits unicodeReplacementChar _ _ _ emitted
    rcases steps.decoder with same | idle
    · exact same
    · exact idle
  next outside =>
    cases rest
    rcases valid.inside with ⟨toFollow, index⟩ | ⟨inside, -, -⟩
    · exact (Decoding.idle_eq toFollow index).symm
    · exact absurd inside outside

theorem run_startUtf8_first {toFollow : Nat} (starts : Starts toFollow byte) {buffer : List UInt8}
    (idle : e.decoder = ⟨0, 0, buffer⟩) (room : buffer ≠ []) :
    (startUtf8 host byte).run e = .ok () (e.decoding ⟨toFollow, 1, buffer.set 0 byte⟩) := by
  obtain ⟨-, index, bytes⟩ := Decoding.mk.inj idle
  have stored : ∀ n : Int, (do modify fun e => { e with mUtf8ToFollow := n }; storeUtf8Byte byte : EmulatorM Unit).run e =
      .ok () (e.decoding ⟨n, 1, buffer.set 0 byte⟩) := by
    intro n
    have positive := List.length_pos_iff.mpr room
    rw [EStateM.run_bind, EStateM.run_modify]
    dsimp only
    rw [run_storeUtf8Byte (by show 0 ≤ e.mUtf8Index; omega)
      (by show e.mUtf8Index < e.mUtf8InputBuffer.length; rw [bytes]; omega)]
    simp only [storing, decoding, index, bytes]
    rfl
  unfold startUtf8
  rw [if_neg (by rw [single_iff]; unfold Starts at starts; omega)]
  rcases starts with ⟨rfl, lower, upper⟩ | ⟨rfl, lower, upper⟩ | ⟨rfl, lower, upper⟩
  · rw [if_pos ((starts_two_iff byte).mpr ⟨lower, upper⟩)]
    exact stored 1
  · rw [if_neg (by rw [starts_two_iff]; omega), if_pos ((starts_three_iff byte).mpr ⟨lower, upper⟩)]
    exact stored 2
  · rw [if_neg (by rw [starts_two_iff]; omega), if_neg (by rw [starts_three_iff]; omega),
      if_pos ((starts_four_iff byte).mpr ⟨lower, upper⟩)]
    exact stored 3

theorem run_processByte_next (continues : Continues byte) {d : Decoding} (inside : 0 < d.mUtf8ToFollow)
    {index : Nat} (here : d.mUtf8Index = index) (room : index < d.mUtf8InputBuffer.length) :
    (processByte host byte).run (e.decoding d) =
      if d.mUtf8ToFollow = 1 then
        (finishUtf8 host (sequenceCodePoint (d.mUtf8InputBuffer.set index byte) (index + 1))).run
          (e.decoding ⟨0, 0, d.mUtf8InputBuffer.set index byte⟩)
      else .ok () (e.decoding ⟨d.mUtf8ToFollow - 1, index + 1, d.mUtf8InputBuffer.set index byte⟩) := by
  have store : (storeUtf8Byte byte).run (e.decoding d) =
      .ok () (e.decoding ⟨d.mUtf8ToFollow, index + 1, d.mUtf8InputBuffer.set index byte⟩) := by
    rw [run_storeUtf8Byte (by show 0 ≤ d.mUtf8Index; omega) (by show d.mUtf8Index < d.mUtf8InputBuffer.length; omega)]
    simp only [storing, decoding, here, Int.toNat_natCast]
  have inside' : 0 < (e.decoding d).mUtf8ToFollow := inside
  unfold processByte continueUtf8
  rw [EStateM.run_bind, EStateM.run_get]
  dsimp only
  rw [if_pos inside', if_pos ((continues_iff byte).mpr continues), EStateM.run_bind, store]
  dsimp only
  rw [EStateM.run_bind, EStateM.run_modify]
  dsimp only
  rw [EStateM.run_bind, EStateM.run_get]
  dsimp only [decoding]
  by_cases last : d.mUtf8ToFollow = 1
  · rw [if_pos last, if_pos (by omega)]
    rfl
  · rw [if_neg last, if_neg (by omega)]
    rfl

theorem set_end (read : List UInt8) {free : List UInt8} (room : free ≠ []) (byte : UInt8) :
    (read ++ free).set read.length byte = read ++ [byte] ++ free.drop 1 := by
  obtain ⟨head, tail, rfl⟩ := List.exists_cons_of_ne_nil room
  rw [List.set_append_right _ _ (Nat.le_refl _), Nat.sub_self, List.set_cons_zero, List.drop_one, List.tail_cons,
    List.append_assoc, List.singleton_append]

theorem append_singleton (byte : UInt8) : append host [byte] = processByte host byte := bind_pure_unit

theorem append_append (bytes bytes' : List UInt8) :
    append host (bytes ++ bytes') = (do append host bytes; append host bytes') := by
  induction bytes with
  | nil => rw [List.nil_append, append, pure_bind]
  | cons byte bytes ih => rw [List.cons_append, append, append, ih, bind_assoc]

theorem run_append_rest (nonempty : rest ≠ []) (continues : ∀ byte ∈ rest, Continues byte)
    (read free : List UInt8) (room : rest.length ≤ free.length) :
    (append host rest).run (e.decoding ⟨rest.length, read.length, read ++ free⟩) =
      (finishUtf8 host (sequenceCodePoint (read ++ rest ++ free.drop rest.length) (read.length + rest.length : Nat))).run
        (e.decoding ⟨0, 0, read ++ rest ++ free.drop rest.length⟩) := by
  induction rest generalizing read free with
  | nil => exact absurd rfl nonempty
  | cons byte rest ih =>
    have some : free ≠ [] := by
      rintro rfl
      simp at room
    have inside : read.length < (read ++ free).length := by
      rw [List.length_append]
      exact Nat.lt_add_of_pos_right (List.length_pos_iff.mpr some)
    have next : (processByte host byte).run (e.decoding ⟨(byte :: rest).length, read.length, read ++ free⟩) = _ :=
      run_processByte_next (continues byte List.mem_cons_self) (by simp) rfl inside
    dsimp only at next
    rw [set_end read some byte] at next
    cases rest with
    | nil => exact (congrArg (EStateM.run · _) (append_singleton byte)).trans (next.trans (if_pos rfl))
    | cons second rest =>
      have later := ih (List.cons_ne_nil _ _) (fun byte found => continues byte (List.mem_cons_of_mem _ found))
        (read ++ [byte]) (free.drop 1) (by simp only [List.length_cons, List.length_drop] at room ⊢; omega)
      rw [append, EStateM.run_bind, next, if_neg (by simp only [List.length_cons]; omega)]
      dsimp only
      rw [show ((byte :: second :: rest).length : Int) - 1 = (second :: rest).length by simp,
        show (read.length : Int) + 1 = (read ++ [byte]).length by simp, later, List.drop_drop, List.append_assoc read,
        List.singleton_append, List.length_append, Nat.add_assoc]
      simp only [List.length_cons, List.length_nil, Nat.zero_add, Nat.add_comm 1]

theorem sequenceCodePoint_append (bytes free : List UInt8) :
    sequenceCodePoint (bytes ++ free) bytes.length =
      if (decodeBytes bytes ≤ 0b1111111 ∧ 1 < bytes.length) ∨ (decodeBytes bytes < 0b11111111111 ∧ 2 < bytes.length) ∨
        (decodeBytes bytes < 0b1111111111111111 ∧ 3 < bytes.length) then unicodeReplacementChar
      else decodeBytes bytes := by
  have taken : (bytes ++ free).take (bytes.length : Int).toNat = bytes := by
    rw [Int.toNat_natCast, List.take_left]
  have one : (1 < (bytes.length : Int)) = (1 < bytes.length) := by simp
  have two : (2 < (bytes.length : Int)) = (2 < bytes.length) := by simp
  have three : (3 < (bytes.length : Int)) = (3 < bytes.length) := by simp
  simp only [sequenceCodePoint, taken, one, two, three]

theorem decode_continues (codePoint : Nat) (continues : Continues byte) :
    codePoint <<< 6 ||| (byte.toNat &&& 0b00111111) = codePoint * 0x40 + (byte.toNat - 0x80) := by
  have whole : byte = UInt8.ofNat (0x80 + (byte.toNat - 0x80)) := by
    rw [Nat.add_sub_cancel' continues.1, UInt8.ofNat_toNat]
  have step := decodeStep codePoint (n := byte.toNat - 0x80) (by have := continues.2; omega)
  rwa [← whole] at step

theorem sequence_of_control (free : List UInt8) (starts : Starts rest.length first)
    (continues : ∀ byte ∈ rest, Continues byte)
    (lower : 0x80 ≤ sequenceCodePoint (first :: rest ++ free) (first :: rest).length)
    (upper : sequenceCodePoint (first :: rest ++ free) (first :: rest).length ≤ 0x9F) :
    first = 0xC2 ∧ ∃ byte, rest = [byte] ∧ byte.toNat ≤ 0x9F := by
  rw [sequenceCodePoint_append] at lower upper
  split at upper
  · exact absurd upper (by decide)
  next shortest =>
    rw [if_neg shortest] at lower
    have single : rest.length = 1 := by
      rcases starts with ⟨two, -⟩ | ⟨three, -⟩ | ⟨four, -⟩
      · exact two
      · refine absurd (Or.inr (Or.inl ⟨?_, ?_⟩)) shortest
        · omega
        · rw [List.length_cons]
          omega
      · refine absurd (Or.inr (Or.inr ⟨?_, ?_⟩)) shortest
        · omega
        · rw [List.length_cons]
          omega
    obtain ⟨byte, rfl⟩ := List.length_eq_one_iff.mp single
    have next := continues byte List.mem_cons_self
    have value : decodeBytes [first, byte] = first.toNat % 32 * 0x40 + (byte.toNat - 0x80) := by
      show (first.toNat &&& (2 ^ 5 - 1)) <<< 6 ||| _ = _
      rw [decode_continues _ next, Nat.and_two_pow_sub_one_eq_mod]
    rw [value] at lower upper
    obtain ⟨above, below⟩ := next
    have bounds : 192 ≤ first.toNat ∧ first.toNat < 224 := by
      unfold Starts at starts
      omega
    exact ⟨UInt8.toNat_inj.mp (by show first.toNat = 194; omega), byte, rfl, by omega⟩

variable {codePoint : Nat}

def Passes (host : Host) (codePoint : Nat) : Prop :=
  ¬ (0x80 ≤ codePoint ∧ codePoint ≤ 0x9F) ∧ host.getType codePoint ≠ unassigned ∧ host.getType codePoint ≠ surrogate

theorem finishUtf8_eq (passes : Passes host codePoint) : finishUtf8 host codePoint = processCodePoint host codePoint := by
  obtain ⟨control, unassigned, surrogate⟩ := passes
  unfold finishUtf8
  rw [if_neg control, if_neg (by rintro (h | h); exacts [unassigned h, surrogate h])]

theorem Encodes.sequenceCodePoint (encodes : Encodes codePoint first rest)
    (free : List UInt8) : sequenceCodePoint (first :: rest ++ free) (rest.length + 1 : Nat) = codePoint := by
  have shortest := encodes.shortest
  rw [← List.length_cons, sequenceCodePoint_append, encodes.decodes]
  exact if_neg shortest

def received (bytes : List UInt8) (e : TerminalEmulator) : TerminalEmulator :=
  if bytes.length = 1 then e else e.decoding ⟨0, 0, bytes ++ e.mUtf8InputBuffer.drop bytes.length⟩

theorem run_append_first (valid : e.decoder.Valid) (other : ¬ Continues first) (rest : List UInt8)
    {m : EmulatorM Unit}
    (idle : ∀ t, t.decoder = e.decoder.idle → (do startUtf8 host first; append host rest).run t = m.run t) :
    (append host (first :: rest)).run e = (do cutShort; m).run e := by
  rw [append, EStateM.run_bind, run_processByte_first other, ← EStateM.run_bind, bind_assoc]
  exact run_bind_congr fun _ t ran => idle t (cutShort_decoder valid ran)

theorem run_append_sequence (starts : Starts rest.length first)
    (continues : ∀ byte ∈ rest, Continues byte) {buffer : List UInt8} (idle : e.decoder = ⟨0, 0, buffer⟩)
    (length : buffer.length = 4) :
    (do startUtf8 host first; append host rest).run e =
      (finishUtf8 host (sequenceCodePoint (first :: rest ++ buffer.drop (rest.length + 1)) (rest.length + 1 : Nat))).run
        (e.decoding ⟨0, 0, first :: rest ++ buffer.drop (rest.length + 1)⟩) := by
  have few := starts.length
  have some : buffer ≠ [] := by
    rw [← List.length_pos_iff]
    omega
  have nonempty : rest ≠ [] := by
    rw [← List.length_pos_iff]
    omega
  have read := set_end [] some first
  rw [List.nil_append, List.length_nil, List.nil_append] at read
  have later : (append host rest).run (e.decoding ⟨rest.length, ([first] : List UInt8).length, [first] ++
    buffer.drop 1⟩) = _ := run_append_rest nonempty continues [first] _ (by rw [List.length_drop]; omega)
  rw [EStateM.run_bind, run_startUtf8_first starts idle some, read]
  dsimp only
  rw [List.length_singleton, List.drop_drop, List.singleton_append, Nat.add_comm 1] at later
  exact later

theorem Encodes.run_append (valid : e.decoder.Valid)
    (encodes : Encodes codePoint first rest) (passes : Passes host codePoint) :
    (append host (first :: rest)).run e =
      (do cutShort; modify (received (first :: rest)); processCodePoint host codePoint).run e := by
  have starts := encodes.starts
  refine run_append_first valid (by unfold Continues; unfold Starts at starts; omega) rest fun t idle => ?_
  have bytes : t.mUtf8InputBuffer = e.decoder.idle.mUtf8InputBuffer := congrArg Decoding.mUtf8InputBuffer idle
  rw [run_append_sequence starts encodes.continues (idle.trans (congrArg (Decoding.mk 0 0) bytes.symm))
    (bytes ▸ valid.length), encodes.sequenceCodePoint, finishUtf8_eq passes, EStateM.run_bind, EStateM.run_modify]
  dsimp only
  rw [received, if_neg (by rw [List.length_cons]; have := starts.length; omega), List.length_cons]

theorem run_append_ascii (valid : e.decoder.Valid) (ascii : codePoint < 0x80) :
    (append host [UInt8.ofNat codePoint]).run e =
      (do cutShort; modify (received [UInt8.ofNat codePoint]); processCodePoint host codePoint).run e := by
  have value := toNat_first (show codePoint < 256 by omega)
  refine run_append_first valid (by unfold Continues; omega) [] fun t _ => ?_
  have single : startUtf8 host (.ofNat codePoint) = processCodePoint host codePoint := by
    unfold startUtf8
    rw [if_pos ((single_iff _).mpr (by omega)), value]
  rw [show (do startUtf8 host (.ofNat codePoint); append host []) = startUtf8 host (.ofNat codePoint) from bind_pure_unit,
    single, EStateM.run_bind, EStateM.run_modify]
  rfl

theorem run_append_utf8 (valid : e.decoder.Valid) {bytes : List UInt8}
    (accepted : TerminalSession.writeCodePoint false codePoint = .ok bytes)
    (control : ¬ (0x80 ≤ codePoint ∧ codePoint ≤ 0x9F))
    (assigned : codePoint < 0x80 ∨ (host.getType codePoint ≠ unassigned ∧ host.getType codePoint ≠ surrogate)) :
    (append host bytes).run e = (do cutShort; modify (received bytes); processCodePoint host codePoint).run e := by
  obtain ⟨upper, rfl⟩ := TerminalSession.writeCodePoint_eq accepted
  by_cases ascii : codePoint < 0x80
  · rw [TerminalSession.utf8, if_pos ascii]
    exact run_append_ascii valid ascii
  · obtain ⟨first, rest, eq, encodes⟩ := encodes_utf8 (by omega) upper
    rw [eq]
    exact encodes.run_append valid ⟨control, assigned.resolve_left ascii⟩

theorem append_decoder {bytes : List UInt8} (valid : e.decoder.Valid) (ran : (append host bytes).run e = .ok () e') :
    e'.decoder.Valid := by
  induction bytes generalizing e with
  | nil =>
    cases ran
    exact valid
  | cons byte bytes ih =>
    obtain ⟨_, t, first, rest⟩ := bind_inv ran
    exact ih (processByte_decoder valid first) rest

/-- Whatever was fed before, the bytes that `writeCodePoint` sends for a code point make it the last one that is
    processed, after a replacement character if they cut a sequence short, and the decoder is idle afterwards. -/
theorem append_writeCodePoint {e₀ : TerminalEmulator} {columns rows cellWidthPixels cellHeightPixels : Int}
    {transcriptRows : Option Int} {before bytes : List UInt8}
    (created : create host columns rows cellWidthPixels cellHeightPixels transcriptRows = .ok e₀)
    (fed : (append host before).run e₀ = .ok () e)
    (accepted : TerminalSession.writeCodePoint false codePoint = .ok bytes)
    (control : ¬ (0x80 ≤ codePoint ∧ codePoint ≤ 0x9F))
    (assigned : codePoint < 0x80 ∨ (host.getType codePoint ≠ unassigned ∧ host.getType codePoint ≠ surrogate)) :
    (append host bytes).run e = (do cutShort; modify (received bytes); processCodePoint host codePoint).run e ∧
      ∀ e', (append host bytes).run e = .ok () e' → e'.mUtf8Index = 0 ∧ e'.mUtf8ToFollow = 0 := by
  have valid := append_decoder (create_decoder created) fed
  have same := run_append_utf8 valid accepted control assigned
  refine ⟨same, fun e' ran => ?_⟩
  rw [same] at ran
  obtain ⟨_, t, restarted, rest⟩ := bind_inv ran
  obtain ⟨_, s, modified, processed⟩ := bind_inv rest
  cases modified
  have idle : (received bytes t).mUtf8Index = 0 ∧ (received bytes t).mUtf8ToFollow = 0 := by
    unfold received
    split
    · have decoder := cutShort_decoder valid restarted
      exact ⟨congrArg Decoding.mUtf8Index decoder, congrArg Decoding.mUtf8ToFollow decoder⟩
    · exact ⟨rfl, rfl⟩
  rcases (processCodePoint_steps host codePoint () e' processed).decoder with same | idled
  · exact ⟨(congrArg Decoding.mUtf8Index same).trans idle.1, (congrArg Decoding.mUtf8ToFollow same).trans idle.2⟩
  · exact ⟨congrArg Decoding.mUtf8Index idled, congrArg Decoding.mUtf8ToFollow idled⟩

theorem append_writeCodePoint_late : ∃ e, fed 4 2 [0xE2] = .ok e ∧ 0 < e.mUtf8ToFollow ∧
    (append plainHost [0xC3, 0xA9]).run e =
      (do cutShort; modify (received [0xC3, 0xA9]); processCodePoint plainHost 0xE9).run e := by
  obtain ⟨e, ran⟩ := exists_of_isOk (show (fed 4 2 [0xE2]).isOk = true by decide +kernel)
  obtain ⟨e₀, created, before⟩ := started_inv ran
  have toFollow : (fed 4 2 [0xE2]).toOption.map (fun e => decide (0 < e.mUtf8ToFollow)) = some true := by decide +kernel
  rw [ran] at toFollow
  refine ⟨e, ran, of_decide_eq_true (Option.some.inj toFollow), ?_⟩
  exact (append_writeCodePoint created before (show TerminalSession.writeCodePoint false (0xE9 : Nat) = .ok [0xC3, 0xA9] by
    decide) (by decide) (Or.inr (by decide))).1

end TerminalEmulator
