import TerminalAndroid.Emulator.Utf8

open Java Exec Utf8

namespace TerminalEmulator

/-- What the decoder hands on: the bytes it has read, the code point it makes of them, and the state of the decoder at
    that moment. A sequence that is cut short is put on the screen directly. -/
structure Delivery where
  bytes : List UInt8
  codePoint : Nat
  direct : Bool
  decoder : Decoding

end TerminalEmulator

namespace Decoding

open TerminalEmulator

def start (byte : UInt8) (d : Decoding) : List Delivery × Decoding :=
  if byte.toNat < 128 then ([⟨[byte], byte.toNat, false, d⟩], d)
  else if 192 ≤ byte.toNat ∧ byte.toNat < 224 then ([], ⟨1, 1, d.mUtf8InputBuffer.set 0 byte⟩)
  else if 224 ≤ byte.toNat ∧ byte.toNat < 240 then ([], ⟨2, 1, d.mUtf8InputBuffer.set 0 byte⟩)
  else if 240 ≤ byte.toNat ∧ byte.toNat < 248 then ([], ⟨3, 1, d.mUtf8InputBuffer.set 0 byte⟩)
  else ([⟨[byte], unicodeReplacementChar, false, d⟩], d)

def finish (host : Host) (bytes : List UInt8) (d : Decoding) : List Delivery :=
  let codePoint := sequenceCodePoint bytes bytes.length
  if 0x80 ≤ codePoint ∧ codePoint ≤ 0x9F then []
  else if host.getType codePoint = unassigned ∨ host.getType codePoint = surrogate then
    [⟨bytes, unicodeReplacementChar, false, d⟩]
  else [⟨bytes, codePoint, false, d⟩]

def next (host : Host) (byte : UInt8) (d : Decoding) : List Delivery × Decoding :=
  if 0 < d.mUtf8ToFollow then
    if 128 ≤ byte.toNat ∧ byte.toNat < 192 then
      let buffer := d.mUtf8InputBuffer.set d.mUtf8Index.toNat byte
      if d.mUtf8ToFollow = 1 then (finish host (buffer.take (d.mUtf8Index.toNat + 1)) ⟨0, 0, buffer⟩, ⟨0, 0, buffer⟩)
      else ([], ⟨d.mUtf8ToFollow - 1, d.mUtf8Index + 1, buffer⟩)
    else
      let (later, d') := start byte d.idle
      (⟨d.mUtf8InputBuffer.take d.mUtf8Index.toNat, unicodeReplacementChar, true, d.idle⟩ :: later, d')
  else start byte d

def deliveries (host : Host) : List UInt8 → Decoding → List Delivery
  | [], _ => []
  | byte :: bytes, d => (d.next host byte).1 ++ deliveries host bytes (d.next host byte).2

def after (host : Host) : List UInt8 → Decoding → Decoding
  | [], d => d
  | byte :: bytes, d => after host bytes (d.next host byte).2

end Decoding

namespace TerminalEmulator

variable {host : Host} {e e' : TerminalEmulator}

section Runs

def deliver (host : Host) (x : Delivery) : EmulatorM Unit := do
  modify fun e => e.decoding x.decoder
  if x.direct then emitCodePoint x.codePoint else processCodePoint host x.codePoint

def deliverAll (host : Host) (d : Decoding) : List Delivery → EmulatorM Unit
  | [] => modify fun e => e.decoding d
  | x :: xs => do
    deliver host x
    deliverAll host d xs

theorem decoding_decoding (e : TerminalEmulator) (d d' : Decoding) : (e.decoding d).decoding d' = e.decoding d' := rfl

theorem run_deliverAll_decoding (d d' : Decoding) (xs : List Delivery) :
    (deliverAll host d' xs).run (e.decoding d) = (deliverAll host d' xs).run e := by
  cases xs with
  | nil => rfl
  | cons x xs =>
    unfold deliverAll deliver
    simp only [bind_assoc, EStateM.run_bind, EStateM.run_modify, decoding_decoding]

theorem run_deliverAll_append (d d' : Decoding) (xs ys : List Delivery) :
    (deliverAll host d' (xs ++ ys)).run e = (do deliverAll host d xs; deliverAll host d' ys).run e := by
  induction xs generalizing e with
  | nil =>
    rw [List.nil_append, deliverAll, EStateM.run_bind, EStateM.run_modify]
    exact (run_deliverAll_decoding d d' ys).symm
  | cons x xs ih =>
    rw [List.cons_append, deliverAll, deliverAll, bind_assoc]
    exact run_bind_congr fun _ t _ => ih

theorem deliverAll_decoder {d : Decoding} {xs : List Delivery} (ran : (deliverAll host d xs).run e = .ok () e') :
    e'.decoder = d := by
  induction xs generalizing e with
  | nil =>
    cases ran
    rfl
  | cons x xs ih =>
    obtain ⟨_, t, -, rest⟩ := bind_inv ran
    exact ih rest

theorem run_bind_decoding {m : EmulatorM Unit} {d : Decoding} (kept : ∀ e', m.run e = .ok () e' → e'.decoder = d) :
    (do m; modify fun e : TerminalEmulator => e.decoding d).run e = m.run e := by
  rw [EStateM.run_bind]
  cases ran : m.run e with
  | error thrown t => rfl
  | ok a t =>
    rw [← kept t ran]
    rfl

theorem processCodePoint_idle {codePoint : Nat} {buffer : List UInt8} (idle : e.decoder = ⟨0, 0, buffer⟩)
    (ran : (processCodePoint host codePoint).run e = .ok () e') : e'.decoder = ⟨0, 0, buffer⟩ := by
  rcases (processCodePoint_steps host codePoint () e' ran).decoder with same | idled
  · exact same.trans idle
  · exact idled.trans (congrArg Decoding.idle idle)

theorem run_deliverAll_single (bytes : List UInt8) (codePoint : Nat) {buffer : List UInt8}
    (idle : e.decoder = ⟨0, 0, buffer⟩) :
    (deliverAll host ⟨0, 0, buffer⟩ [⟨bytes, codePoint, false, ⟨0, 0, buffer⟩⟩]).run e =
      (processCodePoint host codePoint).run e := by
  rw [← idle]
  show (do processCodePoint host codePoint; modify fun e : TerminalEmulator => e.decoding _).run e = _
  exact run_bind_decoding fun e' ran => (processCodePoint_idle idle ran).trans idle.symm

theorem run_startUtf8 {byte : UInt8} {buffer : List UInt8} (idle : e.decoder = ⟨0, 0, buffer⟩) (length : buffer.length = 4) :
    (startUtf8 host byte).run e =
      (deliverAll host (Decoding.start byte ⟨0, 0, buffer⟩).2 (Decoding.start byte ⟨0, 0, buffer⟩).1).run e := by
  have some : buffer ≠ [] := by
    rintro rfl
    cases length
  have first : ∀ toFollow, Starts toFollow byte → (startUtf8 host byte).run e =
      (deliverAll host ⟨toFollow, 1, buffer.set 0 byte⟩ []).run e := fun toFollow starts =>
    run_startUtf8_first starts idle some
  unfold Decoding.start
  by_cases ascii : byte.toNat < 128
  · rw [if_pos ascii, startUtf8, if_pos ((single_iff byte).mpr ascii)]
    exact (run_deliverAll_single _ _ idle).symm
  rw [if_neg ascii]
  by_cases two : 192 ≤ byte.toNat ∧ byte.toNat < 224
  · rw [if_pos two]
    exact first 1 (Or.inl ⟨rfl, two⟩)
  rw [if_neg two]
  by_cases three : 224 ≤ byte.toNat ∧ byte.toNat < 240
  · rw [if_pos three]
    exact first 2 (Or.inr (Or.inl ⟨rfl, three⟩))
  rw [if_neg three]
  by_cases four : 240 ≤ byte.toNat ∧ byte.toNat < 248
  · rw [if_pos four]
    exact first 3 (Or.inr (Or.inr ⟨rfl, four⟩))
  rw [if_neg four, startUtf8, if_neg (mt (single_iff byte).mp ascii), if_neg (mt (starts_two_iff byte).mp two),
    if_neg (mt (starts_three_iff byte).mp three), if_neg (mt (starts_four_iff byte).mp four)]
  exact (run_deliverAll_single _ _ idle).symm

theorem run_finishUtf8 {buffer : List UInt8} {count : Nat} (fits : count ≤ buffer.length) :
    (finishUtf8 host (sequenceCodePoint buffer count)).run (e.decoding ⟨0, 0, buffer⟩) =
      (deliverAll host ⟨0, 0, buffer⟩ (Decoding.finish host (buffer.take count) ⟨0, 0, buffer⟩)).run e := by
  have length : (buffer.take count).length = count := by
    rw [List.length_take]
    omega
  have same : sequenceCodePoint (buffer.take count) count = sequenceCodePoint buffer count := by
    unfold sequenceCodePoint
    rw [Int.toNat_natCast, List.take_take, Nat.min_self]
  rw [finishUtf8, Decoding.finish, length, same]
  split
  · rfl
  split
  · rw [← run_deliverAll_decoding ⟨0, 0, buffer⟩]
    exact (run_deliverAll_single _ _ rfl).symm
  · rw [← run_deliverAll_decoding ⟨0, 0, buffer⟩]
    exact (run_deliverAll_single _ _ rfl).symm

theorem run_processByte_cut {byte : UInt8} (valid : e.decoder.Valid) (inside : 0 < e.mUtf8ToFollow)
    (other : ¬ Continues byte) :
    (processByte host byte).run e = (do
      deliver host ⟨e.mUtf8InputBuffer.take e.mUtf8Index.toNat, unicodeReplacementChar, true, e.decoder.idle⟩
      deliverAll host (e.decoder.idle.start byte).2 (e.decoder.idle.start byte).1).run e := by
  have cut : cutShort.run e =
      (deliver host ⟨e.mUtf8InputBuffer.take e.mUtf8Index.toNat, unicodeReplacementChar, true, e.decoder.idle⟩).run e := by
    unfold cutShort
    rw [EStateM.run_bind, EStateM.run_get]
    dsimp only
    rw [if_pos inside]
    rfl
  rw [run_processByte_first other, EStateM.run_bind, EStateM.run_bind, ← cut, ← EStateM.run_bind, ← EStateM.run_bind]
  exact run_bind_congr fun _ t ran => run_startUtf8 (cutShort_decoder valid ran) valid.length

theorem run_processByte {byte : UInt8} (valid : e.decoder.Valid) :
    (processByte host byte).run e =
      (deliverAll host (e.decoder.next host byte).2 (e.decoder.next host byte).1).run e := by
  have length := valid.length
  unfold Decoding.next
  by_cases inside : 0 < e.decoder.mUtf8ToFollow
  · have index : 0 < e.decoder.mUtf8Index ∧ e.decoder.mUtf8Index + e.decoder.mUtf8ToFollow ≤ 4 := by
      rcases valid.inside with ⟨idle, -⟩ | inside
      · omega
      · exact inside.2
    rw [if_pos inside]
    by_cases continues : 128 ≤ byte.toNat ∧ byte.toNat < 192
    · have next := @run_processByte_next host e byte continues e.decoder inside e.decoder.mUtf8Index.toNat (by omega)
        (by omega)
      rw [if_pos continues]
      by_cases last : e.decoder.mUtf8ToFollow = 1
      · rw [if_pos last] at next ⊢
        have fits : e.decoder.mUtf8Index.toNat + 1 ≤
            (e.decoder.mUtf8InputBuffer.set e.decoder.mUtf8Index.toNat byte).length := by
          rw [List.length_set]
          omega
        exact next.trans (run_finishUtf8 fits)
      · rw [if_neg last] at next ⊢
        rw [Int.toNat_of_nonneg (by omega)] at next
        exact next
    · rw [if_neg continues]
      exact run_processByte_cut valid inside continues
  · rw [if_neg inside]
    have idle : e.decoder = ⟨0, 0, e.decoder.mUtf8InputBuffer⟩ := by
      rcases valid.inside with ⟨toFollow, index⟩ | ⟨inside', -, -⟩
      · exact (Decoding.idle_eq toFollow index).symm
      · exact absurd inside' inside
    rw [run_processByte_idle inside, idle]
    exact run_startUtf8 idle length

theorem run_append {bytes : List UInt8} (valid : e.decoder.Valid) :
    (append host bytes).run e =
      (deliverAll host (e.decoder.after host bytes) (e.decoder.deliveries host bytes)).run e := by
  induction bytes generalizing e with
  | nil => rfl
  | cons byte bytes ih =>
    rw [append, Decoding.deliveries, Decoding.after, run_deliverAll_append (e.decoder.next host byte).2, EStateM.run_bind,
      EStateM.run_bind, ← run_processByte valid]
    cases ran : (processByte host byte).run e with
    | error thrown t => rfl
    | ok a t =>
      have after : t.decoder = (e.decoder.next host byte).2 := deliverAll_decoder ((run_processByte valid).symm.trans ran)
      rw [← after]
      exact ih (processByte_decoder valid ran)

end Runs

section WellFormed

def WellFormed (bytes : List UInt8) (codePoint : Nat) : Prop :=
  codePoint ≤ 0x10FFFF ∧ ¬ (0xD800 ≤ codePoint ∧ codePoint ≤ 0xDFFF) ∧
    bytes = (TerminalSession.utf8 codePoint).map UInt8.ofNat

instance (bytes : List UInt8) (codePoint : Nat) : Decidable (WellFormed bytes codePoint) :=
  inferInstanceAs (Decidable (_ ∧ _))

/-- What the decoder needs of `Character.getType`: the surrogates are known as such, and neither the numbers beyond the
    last code point nor the noncharacter `U+FFFF` are assigned. -/
structure KnowsUnicode (host : Host) : Prop where
  surrogates : ∀ codePoint, 0xD800 ≤ codePoint → codePoint ≤ 0xDFFF → host.getType codePoint = surrogate
  beyond : ∀ codePoint, 0x10FFFF < codePoint → host.getType codePoint = unassigned
  noncharacter : host.getType 0xFFFF = unassigned

theorem wellFormed_ascii {byte : UInt8} (ascii : byte.toNat < 128) : WellFormed [byte] byte.toNat := by
  refine ⟨by omega, by omega, ?_⟩
  rw [TerminalSession.utf8, if_pos ascii, List.map_singleton, UInt8.ofNat_toNat]

variable {a b c d : UInt8}

theorem byte_of_toNat {n : Nat} (same : a.toNat = n) : a = UInt8.ofNat n := by
  rw [← same, UInt8.ofNat_toNat]

theorem wellFormed_two (first : 192 ≤ a.toNat ∧ a.toNat < 224) (second : Continues b)
    (shortest : 0x7F < decodeBytes [a, b]) : WellFormed [a, b] (decodeBytes [a, b]) := by
  have value : decodeBytes [a, b] = a.toNat % 32 * 0x40 + (b.toNat - 0x80) := by
    show (a.toNat &&& (2 ^ 5 - 1)) <<< 6 ||| _ = _
    rw [decode_continues _ second, Nat.and_two_pow_sub_one_eq_mod]
  rw [value] at shortest ⊢
  obtain ⟨lower, upper⟩ := second
  refine ⟨by omega, by omega, ?_⟩
  rw [TerminalSession.utf8, if_neg (by omega), if_pos (by omega), List.map_cons, List.map_singleton,
    ← byte_of_toNat (a := a) (by omega), ← byte_of_toNat (a := b) (by omega)]

theorem decode_three (second : Continues b) (third : Continues c) :
    decodeBytes [a, b, c] = (a.toNat % 16 * 0x40 + (b.toNat - 0x80)) * 0x40 + (c.toNat - 0x80) := by
  show ((a.toNat &&& (2 ^ 4 - 1)) <<< 6 ||| _) <<< 6 ||| _ = _
  rw [decode_continues _ third, decode_continues _ second, Nat.and_two_pow_sub_one_eq_mod]

theorem wellFormed_three (first : 224 ≤ a.toNat ∧ a.toNat < 240) (second : Continues b) (third : Continues c)
    (shortest : 0x7FF < decodeBytes [a, b, c])
    (scalar : ¬ (0xD800 ≤ decodeBytes [a, b, c] ∧ decodeBytes [a, b, c] ≤ 0xDFFF)) :
    WellFormed [a, b, c] (decodeBytes [a, b, c]) := by
  have value := @decode_three a b c second third
  obtain ⟨lower, upper⟩ := second
  obtain ⟨lower', upper'⟩ := third
  rw [value] at shortest scalar ⊢
  refine ⟨by omega, scalar, ?_⟩
  rw [TerminalSession.utf8, if_neg (by omega), if_neg (by omega), if_pos (by omega), List.map_cons, List.map_cons,
    List.map_singleton, ← byte_of_toNat (a := a) (by omega), ← byte_of_toNat (a := b) (by omega),
    ← byte_of_toNat (a := c) (by omega)]

theorem wellFormed_four (first : 240 ≤ a.toNat ∧ a.toNat < 248) (second : Continues b) (third : Continues c)
    (fourth : Continues d) (shortest : 0xFFFF < decodeBytes [a, b, c, d]) (last : decodeBytes [a, b, c, d] ≤ 0x10FFFF) :
    WellFormed [a, b, c, d] (decodeBytes [a, b, c, d]) := by
  have value : decodeBytes [a, b, c, d] =
      ((a.toNat % 8 * 0x40 + (b.toNat - 0x80)) * 0x40 + (c.toNat - 0x80)) * 0x40 + (d.toNat - 0x80) := by
    show (((a.toNat &&& (2 ^ 3 - 1)) <<< 6 ||| _) <<< 6 ||| _) <<< 6 ||| _ = _
    rw [decode_continues _ fourth, decode_continues _ third, decode_continues _ second, Nat.and_two_pow_sub_one_eq_mod]
  obtain ⟨lower, upper⟩ := second
  obtain ⟨lower', upper'⟩ := third
  obtain ⟨lower'', upper''⟩ := fourth
  rw [value] at shortest last ⊢
  refine ⟨last, by omega, ?_⟩
  rw [TerminalSession.utf8, if_neg (by omega), if_neg (by omega), if_neg (by omega), List.map_cons, List.map_cons,
    List.map_cons, List.map_singleton, ← byte_of_toNat (a := a) (by omega), ← byte_of_toNat (a := b) (by omega),
    ← byte_of_toNat (a := c) (by omega), ← byte_of_toNat (a := d) (by omega)]

theorem overlong_three (first : 224 ≤ a.toNat ∧ a.toNat < 240) (second : Continues b) (third : Continues c)
    (longest : decodeBytes [a, b, c] = 0x7FF) : [a, b, c] = [0xE0, 0x9F, 0xBF] := by
  rw [decode_three second third] at longest
  obtain ⟨lower, upper⟩ := second
  obtain ⟨lower', upper'⟩ := third
  rw [byte_of_toNat (a := a) (n := 0xE0) (by omega), byte_of_toNat (a := b) (n := 0x9F) (by omega),
    byte_of_toNat (a := c) (n := 0xBF) (by omega)]
  rfl

theorem sequence_wellFormed {first : UInt8} {rest : List UInt8} (unicode : KnowsUnicode host)
    (starts : Starts rest.length first) (continues : ∀ byte ∈ rest, Continues byte)
    (passes : Passes host (sequenceCodePoint (first :: rest) (first :: rest).length))
    (other : sequenceCodePoint (first :: rest) (first :: rest).length ≠ unicodeReplacementChar) :
    WellFormed (first :: rest) (sequenceCodePoint (first :: rest) (first :: rest).length) ∨
      first :: rest = [0xE0, 0x9F, 0xBF] := by
  have value := sequenceCodePoint_append (first :: rest) []
  rw [List.append_nil] at value
  rw [value] at passes other ⊢
  have shortest : ¬ (_ ∨ _) := fun overlong => other (if_pos overlong)
  rw [if_neg shortest] at passes ⊢
  obtain ⟨-, assigned, scalar⟩ := passes
  have last : decodeBytes (first :: rest) ≤ 0x10FFFF := not_lt.mp fun beyond => assigned (unicode.beyond _ beyond)
  have scalar : ¬ (0xD800 ≤ decodeBytes (first :: rest) ∧ decodeBytes (first :: rest) ≤ 0xDFFF) := fun inside =>
    scalar (unicode.surrogates _ inside.1 inside.2)
  rw [List.length_cons] at shortest
  rcases starts with ⟨length, range⟩ | ⟨length, range⟩ | ⟨length, range⟩
  · obtain ⟨b, rfl⟩ := List.length_eq_one_iff.mp length
    exact Or.inl (wellFormed_two range (continues b (by simp)) (by omega))
  · obtain ⟨b, c, rfl⟩ := List.length_eq_two.mp length
    by_cases overlong : decodeBytes [first, b, c] = 0x7FF
    · exact Or.inr (overlong_three range (continues b (by simp)) (continues c (by simp)) overlong)
    · exact Or.inl (wellFormed_three range (continues b (by simp)) (continues c (by simp)) (by omega) scalar)
  · obtain ⟨b, c, d, rfl⟩ := List.length_eq_three.mp length
    have noncharacter : decodeBytes [first, b, c, d] ≠ 0xFFFF := fun eq => assigned (eq ▸ unicode.noncharacter)
    exact Or.inl (wellFormed_four range (continues b (by simp)) (continues c (by simp)) (continues d (by simp))
      (by omega) last)

end WellFormed

end TerminalEmulator

namespace Decoding

open TerminalEmulator

variable {host : Host} {d : Decoding}

structure Reading (d : Decoding) (read : List UInt8) : Prop where
  length : d.mUtf8InputBuffer.length = 4
  index : d.mUtf8Index = read.length
  taken : d.mUtf8InputBuffer.take read.length = read
  inside : (read = [] ∧ d.mUtf8ToFollow = 0) ∨ ∃ (first : UInt8) (rest : List UInt8) (toFollow : Nat), read = first :: rest ∧
    d.mUtf8ToFollow = toFollow ∧ 0 < toFollow ∧ Starts (rest.length + toFollow) first ∧ ∀ byte ∈ rest, Continues byte

structure Sound (host : Host) (input : List UInt8) (x : Delivery) : Prop where
  inside : x.bytes <:+: input
  wellFormed : x.codePoint ≠ unicodeReplacementChar →
    WellFormed x.bytes x.codePoint ∨ (x.bytes = [0xE0, 0x9F, 0xBF] ∧ Passes host 0x7FF)

theorem Sound.mono {input input' : List UInt8} {x : Delivery} (sound : Sound host input x) (part : input <:+: input') :
    Sound host input' x := ⟨sound.inside.trans part, sound.wellFormed⟩

theorem Reading.to_idle {read : List UInt8} (reading : d.Reading read) : d.idle.Reading [] :=
  ⟨reading.length, rfl, rfl, Or.inl ⟨rfl, rfl⟩⟩

theorem Reading.push {read : List UInt8} (reading : d.Reading read) (room : read.length < 4) (byte : UInt8) :
    (d.mUtf8InputBuffer.set read.length byte).take (read.length + 1) = read ++ [byte] := by
  have free : d.mUtf8InputBuffer.drop read.length ≠ [] := by
    rw [← List.length_pos_iff, List.length_drop, reading.length]
    omega
  have split := List.take_append_drop read.length d.mUtf8InputBuffer
  rw [reading.taken] at split
  rw [← split, set_end _ free]
  exact List.take_left' (by simp)

theorem start_sound {byte : UInt8} (idle : d.Reading []) :
    (∀ x ∈ (d.start byte).1, Sound host [byte] x) ∧ ∃ read, (d.start byte).2.Reading read ∧ read <:+ [byte] := by
  have kept : ∃ read, d.Reading read ∧ read <:+ [byte] := ⟨[], idle, List.nil_suffix⟩
  have first : ∀ toFollow : Nat, Starts toFollow byte →
      ∃ read, (Decoding.mk toFollow 1 (d.mUtf8InputBuffer.set 0 byte)).Reading read ∧ read <:+ [byte] := by
    intro toFollow starts
    refine ⟨[byte], ⟨(List.length_set ..).trans idle.length, rfl, ?_, Or.inr ?_⟩, List.suffix_refl _⟩
    · obtain ⟨head, tail, split⟩ := List.exists_cons_of_length_pos (show 0 < d.mUtf8InputBuffer.length by rw [idle.length]; decide)
      rw [split]
      rfl
    · exact ⟨byte, [], toFollow, rfl, rfl, starts.length.1, by rwa [List.length_nil, Nat.zero_add], nofun⟩
  unfold start
  split
  next ascii =>
    refine ⟨fun x single => ?_, kept⟩
    rw [List.mem_singleton.mp single]
    exact ⟨List.infix_refl _, fun _ => Or.inl (wellFormed_ascii ascii)⟩
  split
  next two => exact ⟨nofun, first 1 (Or.inl ⟨rfl, two⟩)⟩
  split
  next three => exact ⟨nofun, first 2 (Or.inr (Or.inl ⟨rfl, three⟩))⟩
  split
  next four => exact ⟨nofun, first 3 (Or.inr (Or.inr ⟨rfl, four⟩))⟩
  next =>
    refine ⟨fun x single => ?_, kept⟩
    rw [List.mem_singleton.mp single]
    exact ⟨List.infix_refl _, fun other => absurd rfl other⟩

theorem finish_sound {first : UInt8} {rest : List UInt8} (unicode : KnowsUnicode host)
    (starts : Starts rest.length first) (continues : ∀ byte ∈ rest, Continues byte) :
    ∀ x ∈ finish host (first :: rest) d, Sound host (first :: rest) x := by
  intro x delivered
  unfold finish at delivered
  dsimp only at delivered
  split at delivered
  · cases delivered
  next control =>
    split at delivered
    · rw [List.mem_singleton.mp delivered]
      exact ⟨List.infix_refl _, fun other => absurd rfl other⟩
    next assigned =>
      rw [List.mem_singleton.mp delivered]
      have passes : Passes host (sequenceCodePoint (first :: rest) (first :: rest).length) :=
        ⟨control, not_or.mp assigned⟩
      refine ⟨List.infix_refl _, fun other => (sequence_wellFormed unicode starts continues passes other).imp id ?_⟩
      intro overlong
      rw [overlong] at passes
      exact ⟨overlong, passes⟩

theorem next_sound {byte : UInt8} {read : List UInt8} (unicode : KnowsUnicode host) (reading : d.Reading read) :
    (∀ x ∈ (d.next host byte).1, Sound host (read ++ [byte]) x) ∧
      ∃ read', (d.next host byte).2.Reading read' ∧ read' <:+ read ++ [byte] := by
  rcases reading.inside with ⟨rfl, idle⟩ | ⟨first, rest, toFollow, rfl, following, positive, starts, continues⟩
  · rw [next, if_neg (by omega)]
    exact start_sound reading
  have index : d.mUtf8Index.toNat = (first :: rest).length := by
    rw [reading.index, Int.toNat_natCast]
  rw [next, if_pos (by omega), index]
  by_cases follows : 128 ≤ byte.toNat ∧ byte.toNat < 192
  · have room := starts.length
    have read' := reading.push (show (first :: rest).length < 4 by rw [List.length_cons]; omega) byte
    have continues' : ∀ next ∈ rest ++ [byte], Continues next := by
      intro next inside
      rcases List.mem_append.mp inside with before | last
      · exact continues next before
      · exact List.mem_singleton.mp last ▸ follows
    have length : (rest ++ [byte]).length = rest.length + 1 := by simp
    rw [if_pos follows]
    split
    next last =>
      dsimp only
      rw [read', List.cons_append]
      refine ⟨finish_sound unicode ?_ continues', [], ?_, List.nil_suffix⟩
      · rwa [length, show 1 = toFollow by omega]
      · exact ⟨(List.length_set ..).trans reading.length, rfl, rfl, Or.inl ⟨rfl, rfl⟩⟩
    next more =>
      refine ⟨nofun, first :: rest ++ [byte], ⟨(List.length_set ..).trans reading.length, ?_, ?_, Or.inr ?_⟩, List.suffix_refl _⟩
      · rw [reading.index]
        simp
      · rw [List.length_append, List.length_singleton]
        exact read'
      · refine ⟨first, rest ++ [byte], toFollow - 1, rfl, ?_, ?_, ?_, continues'⟩
        · show d.mUtf8ToFollow - 1 = _
          omega
        · omega
        · rwa [length, show rest.length + 1 + (toFollow - 1) = rest.length + toFollow by omega]
  · rw [if_neg follows, reading.taken]
    obtain ⟨later, read', reading', part⟩ := @start_sound host d.idle byte reading.to_idle
    refine ⟨fun x delivered => ?_, read', reading', part.trans (List.suffix_append _ _)⟩
    rcases List.mem_cons.mp delivered with rfl | started
    · exact ⟨(List.prefix_append _ _).isInfix, fun other => absurd rfl other⟩
    · exact (later x started).mono (List.suffix_append _ _).isInfix

theorem deliveries_sound {bytes read : List UInt8} (unicode : KnowsUnicode host) (reading : d.Reading read) :
    ∀ x ∈ d.deliveries host bytes, Sound host (read ++ bytes) x := by
  induction bytes generalizing d read with
  | nil => exact nofun
  | cons byte bytes ih =>
    intro x delivered
    obtain ⟨now, read', reading', part⟩ := @next_sound host d byte read unicode reading
    have whole : read ++ byte :: bytes = read ++ [byte] ++ bytes := by simp
    rw [whole]
    rcases List.mem_append.mp delivered with first | later
    · exact (now x first).mono (List.prefix_append _ _).isInfix
    · obtain ⟨before, split⟩ := part
      refine (ih reading' x later).mono ⟨before, [], ?_⟩
      rw [← split]
      simp

theorem deliveries_append (bytes bytes' : List UInt8) (d : Decoding) :
    d.deliveries host (bytes ++ bytes') = d.deliveries host bytes ++ (d.after host bytes).deliveries host bytes' := by
  induction bytes generalizing d with
  | nil => rfl
  | cons byte bytes ih => rw [List.cons_append, deliveries, deliveries, after, ih, List.append_assoc]

theorem after_reading {bytes read : List UInt8} (unicode : KnowsUnicode host) (reading : d.Reading read) :
    ∃ read', (d.after host bytes).Reading read' := by
  induction bytes generalizing d read with
  | nil => exact ⟨read, reading⟩
  | cons byte bytes ih =>
    obtain ⟨-, read', reading', -⟩ := @next_sound host d byte read unicode reading
    exact ih reading'

theorem deliveries_overlong {read : List UInt8} (reading : d.Reading read) (passes : Passes host 0x7FF)
    (later : List UInt8) : ∃ d', ⟨[0xE0, 0x9F, 0xBF], 0x7FF, false, d'⟩ ∈ d.deliveries host ([0xE0, 0x9F, 0xBF] ++ later) := by
  obtain ⟨first, second, third, fourth, buffer⟩ : ∃ first second third fourth, d.mUtf8InputBuffer =
      [first, second, third, fourth] := List.length_eq_four.mp reading.length
  have lead : (d.next host 0xE0).2 = ⟨2, 1, [0xE0, second, third, fourth]⟩ := by
    have start : ∀ d' : Decoding, d'.mUtf8InputBuffer = d.mUtf8InputBuffer →
        (d'.start 0xE0).2 = ⟨2, 1, [0xE0, second, third, fourth]⟩ := by
      intro d' same
      rw [Decoding.start, if_neg (by decide), if_neg (by decide), if_pos (by decide), same, buffer]
      rfl
    unfold next
    split
    · rw [if_neg (by decide)]
      exact start d.idle rfl
    · exact start d rfl
  have middle : next host 0x9F ⟨2, 1, [0xE0, second, third, fourth]⟩ = ([], ⟨1, 2, [0xE0, 0x9F, third, fourth]⟩) := rfl
  have last : (next host 0xBF ⟨1, 2, [0xE0, 0x9F, third, fourth]⟩).1 =
      finish host [0xE0, 0x9F, 0xBF] ⟨0, 0, [0xE0, 0x9F, 0xBF, fourth]⟩ := by
    simp [next]
  have overlong : finish host [0xE0, 0x9F, 0xBF] ⟨0, 0, [0xE0, 0x9F, 0xBF, fourth]⟩ =
      [⟨[0xE0, 0x9F, 0xBF], 0x7FF, false, ⟨0, 0, [0xE0, 0x9F, 0xBF, fourth]⟩⟩] := by
    unfold finish
    rw [show sequenceCodePoint [0xE0, 0x9F, 0xBF] ([0xE0, 0x9F, 0xBF] : List UInt8).length = 0x7FF by decide]
    exact (if_neg passes.1).trans (if_neg (not_or.mpr passes.2))
  refine ⟨⟨0, 0, [0xE0, 0x9F, 0xBF, fourth]⟩, ?_⟩
  rw [List.cons_append, deliveries, lead, List.cons_append, deliveries, middle, List.cons_append, deliveries, last, overlong]
  simp

end Decoding

namespace TerminalEmulator

variable {host : Host} {e : TerminalEmulator}

/-- `append` hands on code points. Those that are not the replacement character come from well-formed bytes, exactly if
    the bytes do not contain the overlong form of `U+07FF` or that character is unassigned. -/
theorem append_delivers_wellFormed_iff (unicode : KnowsUnicode host) (decodes : e.decoder.Valid)
    (idle : e.mUtf8ToFollow = 0) (bytes : List UInt8) :
    (append host bytes).run e =
        (deliverAll host (e.decoder.after host bytes) (e.decoder.deliveries host bytes)).run e ∧
      ((∀ x ∈ e.decoder.deliveries host bytes, x.codePoint ≠ unicodeReplacementChar → WellFormed x.bytes x.codePoint) ↔
        ¬ ([0xE0, 0x9F, 0xBF] <:+: bytes ∧ Passes host 0x7FF)) := by
  have reading : e.decoder.Reading [] := by
    rcases decodes.inside with ⟨toFollow, index⟩ | ⟨inside, -, -⟩
    · exact ⟨decodes.length, index, rfl, Or.inl ⟨rfl, toFollow⟩⟩
    · exact absurd idle (Int.ne_of_gt inside)
  refine ⟨run_append decodes, ?_, ?_⟩
  · rintro wellFormed ⟨⟨before, later, rfl⟩, passes⟩
    obtain ⟨read, reading'⟩ := @Decoding.after_reading host e.decoder before [] unicode reading
    obtain ⟨d, delivered⟩ := Decoding.deliveries_overlong reading' passes later
    refine absurd (wellFormed ⟨[0xE0, 0x9F, 0xBF], 0x7FF, false, d⟩ ?_ ?_) ?_
    · rw [List.append_assoc, Decoding.deliveries_append]
      exact List.mem_append_right _ delivered
    · show 0x7FF ≠ unicodeReplacementChar
      decide
    · show ¬ WellFormed [0xE0, 0x9F, 0xBF] 0x7FF
      decide
  · intro absent x delivered other
    have sound := Decoding.deliveries_sound unicode reading x delivered
    rcases sound.wellFormed other with wellFormed | ⟨overlong, passes⟩
    · exact wellFormed
    · exact absurd ⟨overlong ▸ sound.inside, passes⟩ absent

def unicodeHost : Host :=
  { plainHost with
    getType := fun codePoint =>
      if 0xD800 ≤ codePoint ∧ codePoint ≤ 0xDFFF then surrogate
      else if 0x10FFFF < codePoint ∨ codePoint = 0xFFFF then unassigned
      else 1 }

theorem unicodeHost_knowsUnicode : KnowsUnicode unicodeHost where
  surrogates := fun _ lower upper => if_pos ⟨lower, upper⟩
  beyond := fun _ beyond => (if_neg (by omega)).trans (if_pos (Or.inl beyond))
  noncharacter := by decide

theorem append_delivers_wellFormed_accent : ∃ e, create unicodeHost 10 4 1 1 (some 100) = .ok e ∧
    ∀ x ∈ e.decoder.deliveries unicodeHost [0xC3, 0xA9, 0xFF], x.codePoint ≠ unicodeReplacementChar →
      WellFormed x.bytes x.codePoint := by
  obtain ⟨e, created, idle⟩ := exists_of_toOption (show (create unicodeHost 10 4 1 1 (some 100)).toOption.map
    (fun e => e.mUtf8ToFollow) = some 0 by decide +kernel)
  refine ⟨e, created, (append_delivers_wellFormed_iff unicodeHost_knowsUnicode (create_decoder created) idle _).2.mpr ?_⟩
  exact fun overlong => absurd overlong.1 (by decide)

theorem overlong_not_wellFormed (codePoint : Nat) : ¬ WellFormed [0xE0, 0x9F, 0xBF] codePoint := by
  rintro ⟨-, -, bytes⟩
  have values := congrArg (List.map UInt8.toNat) bytes
  unfold TerminalSession.utf8 at values
  split_ifs at values
  · simp at values
  · simp at values
  · simp at values
    omega
  · simp at values

/-- `E0 9F BF`, an overlong form, is put on the screen as `U+07FF`. -/
theorem append_overlong : ∃ e e', create unicodeHost 10 4 1 1 (some 100) = .ok e ∧
    (append unicodeHost [0xE0, 0x9F, 0xBF]).run e = .ok () e' ∧ e'.mLastEmittedCodePoint = 0x7FF ∧
    ∀ codePoint, ¬ WellFormed [0xE0, 0x9F, 0xBF] codePoint := by
  obtain ⟨e, created, shown⟩ := exists_of_toOption (show (create unicodeHost 10 4 1 1 (some 100)).toOption.map
    (fun e => (leftState ((append unicodeHost [0xE0, 0x9F, 0xBF]).run e)).map (·.mLastEmittedCodePoint)) =
      some (some 0x7FF) by decide +kernel)
  obtain ⟨⟨⟩, e', ran, last⟩ := exists_of_leftState shown
  exact ⟨e, e', created, ran, last, overlong_not_wellFormed⟩

end TerminalEmulator
