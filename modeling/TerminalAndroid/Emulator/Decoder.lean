import TerminalAndroid.Emulator.Refine.Process
import TerminalAndroid.Text.Utf8Masks

open Java Exec Utf8

structure Decoding where
  mUtf8ToFollow : Int
  mUtf8Index : Int
  mUtf8InputBuffer : List UInt8

def Decoding.idle (d : Decoding) : Decoding := { d with mUtf8ToFollow := 0, mUtf8Index := 0 }

structure Decoding.Valid (d : Decoding) : Prop where
  length : d.mUtf8InputBuffer.length = 4
  inside : (d.mUtf8ToFollow = 0 ∧ d.mUtf8Index = 0) ∨
    (0 < d.mUtf8ToFollow ∧ 0 < d.mUtf8Index ∧ d.mUtf8Index + d.mUtf8ToFollow ≤ 4)

theorem Decoding.idle_eq {d : Decoding} (toFollow : d.mUtf8ToFollow = 0) (index : d.mUtf8Index = 0) : d.idle = d := by
  cases d
  subst toFollow index
  rfl

theorem Decoding.Valid.to_idle {d : Decoding} (valid : d.Valid) : d.idle.Valid := ⟨valid.length, Or.inl ⟨rfl, rfl⟩⟩

namespace TerminalCore

def decoder (c : TerminalCore) : Decoding := ⟨c.mUtf8ToFollow, c.mUtf8Index, c.mUtf8InputBuffer⟩

theorem withScreen_decoder (c : TerminalCore) (buffer : TerminalBuffer) : (c.withScreen buffer).decoder = c.decoder := by
  unfold withScreen
  cases c.mScreen <;> rfl

theorem withSavedState_decoder (c : TerminalCore) (state : SavedScreenState) :
    (c.withSavedState state).decoder = c.decoder := by
  unfold withSavedState
  cases c.mScreen <;> rfl

end TerminalCore

namespace TerminalEmulator

open TerminalCore

variable {host : Host} {permits : Label → Prop} {e e' : TerminalEmulator}

section Decoder

theorem FitsScreen.decoder (fits : FitsScreen e e') : e'.decoder = e.decoder := by
  obtain ⟨cursor, buffer, -, rfl⟩ := fits
  exact withScreen_decoder _ _

theorem Switched.decoder {setting : Bool} (switched : Switched e setting e') : e'.decoder = e.decoder := by
  have saved : e.saveCursor.decoder = e.decoder := withSavedState_decoder _ _
  cases switched with
  | stays same => rfl
  | toAlt from_main fitted cleared =>
    obtain ⟨buffer, -, same⟩ := onScreen_inv cleared
    rw [same, withScreen_decoder]
    rcases fitted with ⟨-, rfl⟩ | ⟨-, fits⟩
    · exact saved
    · exact fits.decoder.trans saved
  | toMain from_alt fitted =>
    rcases fitted with ⟨-, rfl⟩ | ⟨-, fits⟩
    · rfl
    · exact fits.decoder

theorem Effect.decoder {c c' : TerminalCore} (effect : Effect permits c c') :
    c'.decoder = c.decoder ∨ c'.decoder = c.decoder.idle := by
  cases effect with
  | draws drawing ran => exact Or.inl (withScreen_decoder _ _)
  | saves => exact Or.inl (withSavedState_decoder _ _)
  | setsOrigin _ set _ | rowMargins _ _ _ set _ | columnMargins _ _ _ _ set _ => exact set ▸ Or.inl rfl
  | idles => exact Or.inr rfl
  | switches setting permitted ran => exact Or.inl (switchScreen_inv ran).decoder
  | _ => exact Or.inl rfl

theorem Steps.decoder (steps : Steps permits e e') : e'.decoder = e.decoder ∨ e'.decoder = e.decoder.idle := by
  unfold Steps at steps
  generalize e.toTerminalCore = c at steps ⊢
  generalize e'.toTerminalCore = c' at steps ⊢
  induction steps with
  | refl => exact Or.inl rfl
  | tail _ effect ih =>
    rcases Effect.decoder effect with same | idle
    · rw [same]
      exact ih
    · right
      rcases ih with same | before
      · rw [idle, same]
      · rw [idle, before]
        rfl

end Decoder

def decoding (e : TerminalEmulator) (d : Decoding) : TerminalEmulator :=
  { e with
    mUtf8ToFollow := d.mUtf8ToFollow
    mUtf8Index := d.mUtf8Index
    mUtf8InputBuffer := d.mUtf8InputBuffer }

def storing (e : TerminalEmulator) (byte : UInt8) : TerminalEmulator :=
  e.decoding ⟨e.mUtf8ToFollow, e.mUtf8Index + 1, e.mUtf8InputBuffer.set e.mUtf8Index.toNat byte⟩

theorem run_storeUtf8Byte (lower : 0 ≤ e.mUtf8Index) (upper : e.mUtf8Index < e.mUtf8InputBuffer.length) (byte : UInt8) :
    (storeUtf8Byte byte).run e = .ok () (e.storing byte) := by
  unfold storeUtf8Byte writeArray
  simp only [EStateM.run_bind, EStateM.run_get, if_pos (And.intro lower upper), EStateM.run_pure]
  rfl

variable {byte : UInt8}

theorem storeUtf8Byte_inv (ran : (storeUtf8Byte byte).run e = .ok () e') : e' = e.storing byte := by
  obtain ⟨_, _, got, rest⟩ := bind_inv ran
  cases got
  obtain ⟨bytes, t, wrote, rest⟩ := bind_inv rest
  unfold writeArray at wrote
  split at wrote
  · cases wrote
    cases rest
    rfl
  · cases wrote

section Bytes

variable {R : TerminalEmulator → TerminalEmulator → Prop}

theorem startUtf8_leads [IsTrans TerminalEmulator R] (decoder : ∀ e d, R e (decoding e d))
    (ascii : byte.toNat < 128 → Leads R (processCodePoint host byte.toNat) e)
    (replaced : Leads R (processCodePoint host unicodeReplacementChar) e) : Leads R (startUtf8 host byte) e := by
  have started : ∀ toFollow, Leads R
      (do modify fun e => { e with mUtf8ToFollow := toFollow }; storeUtf8Byte byte : EmulatorM Unit) e := fun toFollow =>
    Leads.bind (Leads.modify (decoder e ⟨toFollow, e.mUtf8Index, e.mUtf8InputBuffer⟩)) fun _ t _ _ t' stored =>
      storeUtf8Byte_inv stored ▸ decoder t _
  exact Leads.ite (fun single => ascii ((single_iff byte).mp single)) fun _ => Leads.ite (fun _ => started 1) fun _ =>
    Leads.ite (fun _ => started 2) fun _ => Leads.ite (fun _ => started 3) fun _ => replaced

theorem sequenceCodePoint_beyond (bytes : List UInt8) {index : Int} (more : 1 < index) :
    128 ≤ sequenceCodePoint bytes index := by
  unfold sequenceCodePoint unicodeReplacementChar
  dsimp only
  split
  · decide
  next long => omega

theorem finishUtf8_leads [Std.Refl R] {codePoint : Nat} (processed : Leads R (processCodePoint host codePoint) e)
    (replaced : Leads R (processCodePoint host unicodeReplacementChar) e) : Leads R (finishUtf8 host codePoint) e :=
  Leads.ite (fun _ => Leads.pure ()) fun _ => Leads.ite (fun _ => replaced) fun _ => processed

theorem continueUtf8_leads [Std.Refl R] [IsTrans TerminalEmulator R] (decoder : ∀ e d, R e (decoding e d))
    (beyond : ∀ codePoint, 128 ≤ codePoint → Returns R (processCodePoint host codePoint)) (byte : UInt8)
    (started : 0 < e.mUtf8Index) : Leads R (continueUtf8 host byte) e := by
  refine Leads.bind (fun _ t stored => storeUtf8Byte_inv stored ▸ decoder e _) fun _ t stored => ?_
  rw [storeUtf8Byte_inv stored]
  refine Leads.bind (Leads.modify (decoder _ ⟨_, _, _⟩)) fun _ t' modified => Leads.get_bind ?_
  cases modified
  refine Leads.ite (fun _ => Leads.bind (Leads.set (decoder _ ⟨_, _, _⟩)) fun _ t'' _ => ?_) fun _ => Leads.pure ()
  refine finishUtf8_leads (beyond _ (sequenceCodePoint_beyond _ ?_) t'') (beyond _ (by decide) t'')
  show 1 < e.mUtf8Index + 1
  omega

/-- What a byte does follows from what its code point does, and before it the replacement character of a sequence that
    the byte cuts short. -/
theorem processByte_leads [Std.Refl R] [IsTrans TerminalEmulator R] (decoder : ∀ e d, R e (decoding e d))
    (emits : Returns R (emitCodePoint unicodeReplacementChar))
    (beyond : ∀ codePoint, 128 ≤ codePoint → Returns R (processCodePoint host codePoint)) (valid : e.decoder.Valid)
    (single : byte.toNat < 128 → e.mUtf8ToFollow = 0 → Leads R (processCodePoint host byte.toNat) e)
    (late : byte.toNat < 128 → 0 < e.mUtf8ToFollow → ∀ t,
      (emitCodePoint unicodeReplacementChar).run (e.decoding e.decoder.idle) = .ok () t →
        Leads R (processCodePoint host byte.toNat) t) : Leads R (processByte host byte) e := by
  refine Leads.get_bind (Leads.ite (fun inside => Leads.ite (fun _ => ?_) fun _ => ?_) fun outside => ?_)
  · refine continueUtf8_leads decoder beyond byte ?_
    rcases valid.inside with ⟨idle, -⟩ | ⟨-, started, -⟩
    · exact absurd idle (by show e.mUtf8ToFollow ≠ 0; omega)
    · exact started
  · refine Leads.bind (Leads.modify (decoder e e.decoder.idle)) fun _ s modified => ?_
    cases modified
    refine Leads.bind (emits _) fun _ t emitted => ?_
    exact startUtf8_leads decoder (fun ascii => late ascii inside t emitted) (beyond _ (by decide) t)
  · refine startUtf8_leads decoder (fun ascii => single ascii ?_) (beyond _ (by decide) e)
    rcases valid.inside with ⟨idle, -⟩ | ⟨inside, -, -⟩
    · exact idle
    · exact absurd inside outside

end Bytes

section Valid

theorem Steps.decoder_valid (steps : Steps permits e e') (valid : e.decoder.Valid) : e'.decoder.Valid := by
  rcases steps.decoder with same | idle
  · exact same ▸ valid
  · exact idle ▸ valid.to_idle

theorem processCodePoint_decoder (codePoint : Nat) (valid : e.decoder.Valid)
    (ran : (processCodePoint host codePoint).run e = .ok () e') : e'.decoder.Valid :=
  (processCodePoint_steps host codePoint () e' ran).decoder_valid valid

theorem finishUtf8_decoder {codePoint : Nat} (valid : e.decoder.Valid)
    (ran : (finishUtf8 host codePoint).run e = .ok () e') : e'.decoder.Valid := by
  unfold finishUtf8 at ran
  split at ran
  · cases ran
    exact valid
  · split at ran
    · exact processCodePoint_decoder _ valid ran
    · exact processCodePoint_decoder _ valid ran

theorem startUtf8_decoder (valid : e.decoder.Valid) (idle : e.mUtf8Index = 0)
    (ran : (startUtf8 host byte).run e = .ok () e') : e'.decoder.Valid := by
  have started : ∀ toFollow : Int, 0 < toFollow → toFollow ≤ 3 →
      (do modify fun e => { e with mUtf8ToFollow := toFollow }; storeUtf8Byte byte : EmulatorM Unit).run e = .ok () e' →
        e'.decoder.Valid := by
    intro toFollow lower upper ran
    obtain ⟨_, t, modified, stored⟩ := bind_inv ran
    cases modified
    rw [storeUtf8Byte_inv stored]
    refine ⟨(List.length_set ..).trans valid.length, Or.inr ⟨lower, ?_, ?_⟩⟩
    · show 0 < e.mUtf8Index + 1
      omega
    · show e.mUtf8Index + 1 + toFollow ≤ 4
      omega
  unfold startUtf8 at ran
  split at ran
  · exact processCodePoint_decoder _ valid ran
  · split at ran
    · exact started 1 (by decide) (by decide) ran
    · split at ran
      · exact started 2 (by decide) (by decide) ran
      · split at ran
        · exact started 3 (by decide) (by decide) ran
        · exact processCodePoint_decoder _ valid ran

theorem continueUtf8_decoder (valid : e.decoder.Valid) (inside : 0 < e.mUtf8ToFollow)
    (ran : (continueUtf8 host byte).run e = .ok () e') : e'.decoder.Valid := by
  have length := valid.length
  obtain ⟨_, t, stored, rest⟩ := bind_inv ran
  obtain ⟨_, t', modified, rest⟩ := bind_inv rest
  cases modified
  obtain ⟨_, _, got, rest⟩ := bind_inv rest
  cases got
  rw [storeUtf8Byte_inv stored] at rest
  have stored : (e.mUtf8InputBuffer.set e.mUtf8Index.toNat byte).length = 4 := (List.length_set ..).trans length
  split at rest
  · obtain ⟨_, t'', idled, rest⟩ := bind_inv rest
    cases idled
    refine finishUtf8_decoder ?_ rest
    exact ⟨stored, Or.inl ⟨rfl, rfl⟩⟩
  next more =>
    cases rest
    refine ⟨stored, Or.inr ?_⟩
    have more : e.mUtf8ToFollow - 1 ≠ 0 := more
    have inside' := valid.inside
    show 0 < e.mUtf8ToFollow - 1 ∧ 0 < e.mUtf8Index + 1 ∧ e.mUtf8Index + 1 + (e.mUtf8ToFollow - 1) ≤ 4
    change (e.mUtf8ToFollow = 0 ∧ e.mUtf8Index = 0) ∨
      (0 < e.mUtf8ToFollow ∧ 0 < e.mUtf8Index ∧ e.mUtf8Index + e.mUtf8ToFollow ≤ 4) at inside'
    omega

theorem processByte_decoder (valid : e.decoder.Valid)
    (ran : (processByte host byte).run e = .ok () e') : e'.decoder.Valid := by
  obtain ⟨_, _, got, rest⟩ := bind_inv ran
  cases got
  split at rest
  next inside =>
    split at rest
    · exact continueUtf8_decoder valid inside rest
    · obtain ⟨_, s, modified, rest⟩ := bind_inv rest
      cases modified
      obtain ⟨_, t, emitted, rest⟩ := bind_inv rest
      have steps := emitCodePoint_emits unicodeReplacementChar _ _ _ emitted
      refine startUtf8_decoder (steps.decoder_valid valid.to_idle) ?_ rest
      rcases steps.decoder with same | idle
      · exact congrArg Decoding.mUtf8Index same
      · exact congrArg Decoding.mUtf8Index idle
  next outside =>
    refine startUtf8_decoder valid ?_ rest
    rcases valid.inside with ⟨-, idle⟩ | ⟨inside, -, -⟩
    · exact idle
    · exact absurd inside outside

end Valid

end TerminalEmulator
