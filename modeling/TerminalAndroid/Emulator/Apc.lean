import TerminalAndroid.Emulator.Utf8

open Java Exec

namespace TerminalEmulator

variable {host : Host} {e e' : TerminalEmulator}

/-- Bytes without a sequence that is cut short: single bytes, stray ones included, and sequences with all their bytes. -/
inductive Whole : List UInt8 → Prop
  | nil : Whole []
  | single {byte : UInt8} {rest : List UInt8} (outside : ∀ toFollow, ¬ Starts toFollow byte) (later : Whole rest) :
      Whole (byte :: rest)
  | sequence {first : UInt8} {bytes rest : List UInt8} (starts : Starts bytes.length first)
      (continues : ∀ byte ∈ bytes, Continues byte) (later : Whole rest) : Whole (first :: bytes ++ rest)

section Escapes

def trailingEscapes (bytes : List UInt8) : Nat := (bytes.reverse.takeWhile (· == 27)).length

theorem trailingEscapes_append_singleton (bytes : List UInt8) (byte : UInt8) :
    trailingEscapes (bytes ++ [byte]) = if byte = 27 then trailingEscapes bytes + 1 else 0 := by
  unfold trailingEscapes
  rw [List.reverse_append, List.reverse_singleton, List.singleton_append, List.takeWhile_cons]
  by_cases escape : byte = 27
  · rw [if_pos escape, if_pos (by simp [escape]), List.length_cons]
  · rw [if_neg escape, if_neg (by simp [escape]), List.length_nil]

theorem suffix_of_trailingEscapes {bytes : List UInt8} (some : trailingEscapes bytes ≠ 0) : [27] <:+ bytes := by
  rcases List.eq_nil_or_concat bytes with rfl | ⟨init, byte, rfl⟩
  · exact absurd rfl some
  · rw [List.concat_eq_append, trailingEscapes_append_singleton] at *
    have escape : byte = 27 := not_not.mp fun other => some (if_neg other)
    rw [escape]
    exact List.suffix_append init [27]

theorem trailingEscapes_sequence (before : List UInt8) {first : UInt8} {bytes : List UInt8}
    (starts : Starts bytes.length first) (continues : ∀ byte ∈ bytes, Continues byte) :
    trailingEscapes (before ++ first :: bytes) = 0 := by
  rcases List.eq_nil_or_concat bytes with rfl | ⟨init, byte, rfl⟩
  · exact absurd starts.length.1 (by simp)
  · have last := continues byte (by simp)
    rw [List.concat_eq_append, ← List.cons_append, ← List.append_assoc, trailingEscapes_append_singleton, if_neg]
    rintro rfl
    exact absurd last.1 (by decide)

def apcState (escapes : Nat) : EscapeState := if escapes % 2 = 1 then .apcEscape else .apc

end Escapes

def inApc (e : TerminalEmulator) (state : EscapeState) (buffer : List UInt8) : TerminalEmulator :=
  { e.startEscapeSequence with mEscapeState := state, mContinueSequence := true }.decoding ⟨0, 0, buffer⟩

section Command

variable (escapes : Nat) (buffer : List UInt8)

theorem run_processCodePoint_apc {b : Nat} (data : b = 92 → escapes % 2 = 0) :
    (processCodePoint host b).run (e.inApc (apcState escapes) buffer) =
      .ok () (e.inApc (apcState (if b = 27 then escapes + 1 else 0)) buffer) := by
  have inside : (processCodePoint host b).run (e.inApc .apc buffer) = .ok () (doApc b (e.inApc .apc buffer)) := rfl
  have escape : (processCodePoint host b).run (e.inApc .apcEscape buffer) =
      .ok () (doApcEscape b (e.inApc .apcEscape buffer)) := rfl
  unfold apcState
  by_cases odd : escapes % 2 = 1
  · rw [if_pos odd, escape, doApcEscape, if_neg fun final => by have := data final; omega, if_neg (by split <;> omega)]
    rfl
  · rw [if_neg odd, inside, doApc]
    by_cases escape : b = 27
    · rw [if_pos escape, if_pos escape, if_pos (by omega)]
      rfl
    · rw [if_neg escape, if_neg escape, if_neg (by decide)]

theorem run_single_apc {byte : UInt8} (outside : ∀ toFollow, ¬ Starts toFollow byte)
    (data : byte = 92 → escapes % 2 = 0) :
    (processByte host byte).run (e.inApc (apcState escapes) buffer) =
      .ok () (e.inApc (apcState (if byte = 27 then escapes + 1 else 0)) buffer) := by
  have value : ∀ b : UInt8, b.toNat < 128 → ((if byte.toNat < 128 then byte.toNat else unicodeReplacementChar) = b.toNat ↔
      byte = b) := by
    intro b ascii
    rw [← UInt8.toNat_inj]
    unfold unicodeReplacementChar
    split <;> omega
  rw [run_processByte_single (Int.lt_irrefl 0) outside,
    run_processCodePoint_apc escapes buffer fun final => data ((value 92 (by decide)).mp final)]
  simp only [show (27 : Nat) = (27 : UInt8).toNat from rfl, value 27 (by decide)]

theorem run_sequence_apc {first : UInt8} {rest : List UInt8} (starts : Starts rest.length first)
    (continues : ∀ byte ∈ rest, Continues byte) (length : buffer.length = 4)
    (data : first = 0xC2 ∧ (∃ byte, rest = [byte] ∧ byte.toNat ≤ 0x9F) → escapes % 2 = 0) :
    ∃ buffer' : List UInt8, buffer'.length = 4 ∧
      (append host (first :: rest)).run (e.inApc (apcState escapes) buffer) = .ok () (e.inApc (apcState 0) buffer') := by
  have few := starts.length
  refine ⟨first :: rest ++ buffer.drop (rest.length + 1), ?_, ?_⟩
  · rw [List.length_append, List.length_cons, List.length_drop]
    omega
  have beyond := sequenceCodePoint_beyond (first :: rest ++ buffer.drop (rest.length + 1))
    (show 1 < ((rest.length + 1 : Nat) : Int) by omega)
  rw [append, EStateM.run_bind, run_processByte_idle (Int.lt_irrefl 0), ← EStateM.run_bind,
    run_append_sequence starts continues rfl length]
  have ends : ∀ codePoint, 128 ≤ codePoint → (processCodePoint host codePoint).run (e.inApc (apcState escapes)
      (first :: rest ++ buffer.drop (rest.length + 1))) =
      .ok () (e.inApc (apcState 0) (first :: rest ++ buffer.drop (rest.length + 1))) := by
    intro codePoint beyond
    rw [run_processCodePoint_apc _ _ (by omega), if_neg (by omega)]
  unfold finishUtf8
  split
  next control =>
    have even := data (sequence_of_control _ starts continues control.1 control.2)
    rw [apcState, if_neg (by omega)]
    rfl
  next =>
    split
    · exact ends _ (by decide)
    · exact ends _ beyond

end Command

theorem run_append_apc {payload : List UInt8} (whole : Whole payload) (before : List UInt8)
    (first : ¬ [27, 92] <:+: before ++ payload)
    (control : ∀ byte : UInt8, byte.toNat ≤ 0x9F → ¬ [27, 0xC2, byte] <:+: before ++ payload) {buffer : List UInt8}
    (length : buffer.length = 4) : ∃ buffer' : List UInt8, buffer'.length = 4 ∧
      (append host payload).run (e.inApc (apcState (trailingEscapes before)) buffer) =
        .ok () (e.inApc (apcState (trailingEscapes (before ++ payload))) buffer') := by
  induction whole generalizing before buffer with
  | nil =>
    rw [List.append_nil]
    exact ⟨buffer, length, rfl⟩
  | @single byte rest outside later ih =>
    have split : before ++ byte :: rest = before ++ [byte] ++ rest := by simp
    rw [split] at first control ⊢
    have data : byte = 92 → trailingEscapes before % 2 = 0 := by
      rintro rfl
      rcases Nat.mod_two_eq_zero_or_one (trailingEscapes before) with even | odd
      · exact even
      · obtain ⟨init, rfl⟩ := suffix_of_trailingEscapes (show trailingEscapes before ≠ 0 by omega)
        exact absurd ⟨init, rest, by simp⟩ first
    obtain ⟨buffer', length', ran⟩ := ih (before ++ [byte]) first control length
    rw [trailingEscapes_append_singleton] at ran
    refine ⟨buffer', length', ?_⟩
    rw [append, EStateM.run_bind, run_single_apc _ _ outside data]
    exact ran
  | @sequence start bytes rest starts continues later ih =>
    have split : before ++ (start :: bytes ++ rest) = before ++ start :: bytes ++ rest := by simp
    rw [split] at first control ⊢
    have data : start = 0xC2 ∧ (∃ byte, bytes = [byte] ∧ byte.toNat ≤ 0x9F) → trailingEscapes before % 2 = 0 := by
      rintro ⟨rfl, byte, rfl, small⟩
      rcases Nat.mod_two_eq_zero_or_one (trailingEscapes before) with even | odd
      · exact even
      · obtain ⟨init, rfl⟩ := suffix_of_trailingEscapes (show trailingEscapes before ≠ 0 by omega)
        exact absurd ⟨init, rest, by simp⟩ (control byte small)
    obtain ⟨middle, length', read⟩ :=
      @run_sequence_apc host e (trailingEscapes before) buffer start bytes starts continues length data
    obtain ⟨buffer', length'', ran⟩ := ih (before ++ start :: bytes) first control length'
    rw [trailingEscapes_sequence before starts continues] at ran
    refine ⟨buffer', length'', ?_⟩
    rw [append_append, EStateM.run_bind, read]
    exact ran

def Interruptible (e : TerminalEmulator) : Prop :=
  e.mUtf8ToFollow = 0 ∧ ¬ e.Ignoring ∧ e.mEscapeState ≠ .osc ∧ e.mEscapeState ≠ .p

theorem run_processCodePoint_escape (outside : ¬ e.Ignoring) (osc : e.mEscapeState ≠ .osc) (p : e.mEscapeState ≠ .p) :
    (processCodePoint host 27).run e = .ok () e.startEscapeSequence := by
  unfold processCodePoint
  rw [EStateM.run_bind, EStateM.run_get]
  dsimp only
  rw [if_neg fun apc => outside (Or.inl apc), if_neg fun apc => outside (Or.inr apc), doCodePoint]
  iterate 9 rw [if_neg (by decide)]
  rw [if_pos rfl, EStateM.run_bind, EStateM.run_get]
  dsimp only
  rw [if_neg p, if_pos osc]
  rfl

theorem Interruptible.index (free : e.Interruptible) (decodes : e.decoder.Valid) : e.mUtf8Index = 0 := by
  rcases decodes.inside with ⟨-, index⟩ | ⟨inside, -, -⟩
  · exact index
  · exact absurd free.1 (Int.ne_of_gt inside)

theorem run_append_start (decodes : e.decoder.Valid) (free : e.Interruptible) :
    (append host [27, 95]).run e = .ok () (e.inApc .apc e.mUtf8InputBuffer) := by
  have index := free.index decodes
  obtain ⟨idle, outside, osc, p⟩ := free
  have escape : (processByte host 27).run e = .ok () e.startEscapeSequence :=
    (run_processByte_idle (by omega) 27).trans (run_processCodePoint_escape outside osc p)
  have command : (processByte host 95).run e.startEscapeSequence =
      .ok () { e.startEscapeSequence with mEscapeState := .apc, mContinueSequence := true } := by
    rw [run_processByte_idle (show ¬ 0 < e.startEscapeSequence.mUtf8ToFollow by show ¬ 0 < e.mUtf8ToFollow; omega)]
    rfl
  rw [append, append_singleton, EStateM.run_bind, escape]
  dsimp only
  rw [command]
  simp only [inApc, decoding, startEscapeSequence, idle, index]

theorem run_append_command {payload : List UInt8} (decodes : e.decoder.Valid) (free : e.Interruptible)
    (first : ¬ [27, 92] <:+: payload) (whole : Whole payload)
    (control : ∀ byte : UInt8, byte.toNat ≤ 0x9F → ¬ [27, 0xC2, byte] <:+: payload)
    (even : trailingEscapes payload % 2 = 0) :
    ∃ buffer, (append host ([27, 95] ++ payload ++ [27, 92])).run e = .ok () (e.inApc .none buffer) := by
  obtain ⟨buffer, -, ran⟩ := @run_append_apc host e payload whole [] first control e.mUtf8InputBuffer decodes.length
  rw [List.nil_append, apcState, if_neg (show ¬ trailingEscapes [] % 2 = 1 by decide), apcState, if_neg (by omega)] at ran
  refine ⟨buffer, ?_⟩
  rw [append_append, append_append, EStateM.run_bind, EStateM.run_bind, run_append_start decodes free]
  dsimp only
  rw [ran]
  rfl

/-- Up to its first terminator an application program command changes nothing but the parameters and the bytes in the
    decoder, if none of its sequences is cut short, no encoded control character C1 follows an escape character, and it
    does not end with an odd number of escape characters. -/
theorem append_command_silent {payload : List UInt8} (decodes : e.decoder.Valid) (free : e.Interruptible)
    (first : ¬ [27, 92] <:+: payload) (whole : Whole payload)
    (control : ∀ byte : UInt8, byte.toNat ≤ 0x9F → ¬ [27, 0xC2, byte] <:+: payload)
    (even : trailingEscapes payload % 2 = 0) :
    ∃ buffer, (append host ([27, 95] ++ payload ++ [27, 92])).run e = .ok () { e with
      mEscapeState := .none
      mContinueSequence := true
      mArgIndex := 0
      mArgs := Vector.replicate 32 (-1)
      mArgsSubParamsBitSet := 0
      mUtf8InputBuffer := buffer } := by
  obtain ⟨buffer, ran⟩ := @run_append_command host e payload decodes free first whole control even
  refine ⟨buffer, ran.trans ?_⟩
  simp only [inApc, decoding, startEscapeSequence, free.1, free.index decodes]

theorem append_command_silent_graphics : ∃ e buffer, create plainHost 10 4 1 1 (some 100) = .ok e ∧
    (append plainHost ([27, 95] ++ [71, 0xC3, 0xA9, 27, 65] ++ [27, 92])).run e = .ok () { e with
      mEscapeState := .none
      mContinueSequence := true
      mArgIndex := 0
      mArgs := Vector.replicate 32 (-1)
      mArgsSubParamsBitSet := 0
      mUtf8InputBuffer := buffer } := by
  obtain ⟨e, created, state⟩ := exists_of_toOption (show (create plainHost 10 4 1 1 (some 100)).toOption.map
    (fun e => (e.mUtf8ToFollow, e.mEscapeState)) = some (0, .none) by decide +kernel)
  obtain ⟨idle, ground⟩ := Prod.mk.inj state
  have free : e.Interruptible := ⟨idle, by rw [Ignoring, ground]; decide, by rw [ground]; decide, by rw [ground]; decide⟩
  have plain : ∀ {byte : UInt8}, byte.toNat < 128 → ∀ toFollow, ¬ Starts toFollow byte := by
    intro byte ascii toFollow starts
    unfold Starts at starts
    omega
  have whole : Whole [71, 0xC3, 0xA9, 27, 65] := by
    refine .single (plain (by decide)) (@Whole.sequence 0xC3 [0xA9] _ ?_ ?_
      (.single (plain (by decide)) (.single (plain (by decide)) .nil)))
    · exact Or.inl ⟨rfl, by decide, by decide⟩
    · simp [Continues]
  obtain ⟨buffer, ran⟩ := append_command_silent (create_decoder created) free (by decide) whole (fun byte _ inside =>
    absurd (inside.subset (show 0xC2 ∈ [27, 0xC2, byte] by simp)) (by decide)) (by decide)
  exact ⟨e, buffer, created, ran⟩

/-- A sequence that the terminator cuts short is put on the screen. -/
theorem append_command_truncated : ∃ e e', create plainHost 10 4 1 1 (some 100) = .ok e ∧
    (append plainHost ([27, 95] ++ [0xC3] ++ [27, 92])).run e = .ok () e' ∧ e.mCursorCol = 0 ∧ e'.mCursorCol = 1 := by
  obtain ⟨e', ran, after⟩ := exists_of_toOption (show (fed 10 4 ([27, 95] ++ [0xC3] ++ [27, 92])).toOption.map
    (fun e => e.mCursorCol) = some 1 by decide +kernel)
  obtain ⟨e, created, appended⟩ := started_inv ran
  obtain ⟨e₀, created₀, before⟩ := exists_of_toOption (show (create plainHost 10 4 1 1 (some 100)).toOption.map
    (fun e => e.mCursorCol) = some 0 by decide +kernel)
  obtain rfl := Except.ok.inj (created.symm.trans created₀)
  exact ⟨e, e', created, appended, before, after⟩

end TerminalEmulator
