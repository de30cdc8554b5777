import TerminalAndroid.Terminal.Buffer.Frames
import TerminalAndroid.Terminal.Buffer.Ring

open Java Exec

namespace TextStyle

variable {fore back effect color : BitVec 32} {s : BitVec 64} {i : Nat}

def TrueColor (color : BitVec 32) : Prop := 0xff000000 &&& color = 0xff000000

instance TrueColor.decidable (color : BitVec 32) : Decidable (TrueColor color) := inferInstanceAs (Decidable (_ = _))

theorem getLsbD_mask {w n : Nat} (fits : n ≤ w) : ((BitVec.allOnes n).setWidth w).getLsbD i = decide (i < n) := by
  rw [BitVec.getLsbD_setWidth, BitVec.getLsbD_allOnes]
  grind

theorem getLsbD_low9 : (0b111111111 : BitVec 64).getLsbD i = decide (i < 9) := getLsbD_mask (by decide : 9 ≤ 64)
theorem getLsbD_low9' : (0b111111111 : BitVec 32).getLsbD i = decide (i < 9) := getLsbD_mask (by decide : 9 ≤ 32)
theorem getLsbD_low24 : (0x00ffffff : BitVec 64).getLsbD i = decide (i < 24) := getLsbD_mask (by decide : 24 ≤ 64)

theorem foreFlag_eq : characterAttributeTruecolorForeground.signExtend 64 = BitVec.twoPow 64 9 := by decide

theorem backFlag_eq : characterAttributeTruecolorBackground.signExtend 64 = BitVec.twoPow 64 10 := by decide

theorem getLsbD_effect (inside : i < 64) :
    ((effect &&& 0b111111111).signExtend 64).getLsbD i = (effect.getLsbD i && decide (i < 9)) := by
  have positive : (effect &&& 0b111111111).msb = false := by
    rw [BitVec.msb_and, show (0b111111111 : BitVec 32).msb = false by decide, Bool.and_false]
  rw [BitVec.getLsbD_signExtend, positive, BitVec.getLsbD_and, getLsbD_low9']
  grind

theorem getLsbD_color {color : BitVec 32} {at_ : Nat} (inside : i < 64) : (if 0xff000000 &&& color = 0xff000000 then
      (color.signExtend 64 &&& 0x00ffffff) <<< at_ else (color.signExtend 64 &&& 0b111111111) <<< at_ : BitVec 64).getLsbD i =
    (decide (at_ ≤ i) && color.getLsbD (i - at_) && decide (i - at_ < if TrueColor color then 24 else 9)) := by
  unfold TrueColor
  split <;> simp only [BitVec.getLsbD_shiftLeft, BitVec.getLsbD_and, BitVec.getLsbD_signExtend, getLsbD_low9, getLsbD_low24] <;> grind

theorem getLsbD_encode (inside : i < 64) : (encode fore back effect).getLsbD i =
    if i < 9 then effect.getLsbD i else if i = 9 then decide (TrueColor fore) else if i = 10 then decide (TrueColor back)
    else if i < 40 then decide (16 ≤ i) && back.getLsbD (i - 16) && decide (i - 16 < if TrueColor back then 24 else 9)
    else fore.getLsbD (i - 40) && decide (i - 40 < if TrueColor fore then 24 else 9) := by
  have foreColor := @getLsbD_color i fore 40 inside
  have backColor := @getLsbD_color i back 16 inside
  unfold TrueColor at *
  unfold encode
  rw [foreFlag_eq, backFlag_eq]
  dsimp only
  split at foreColor <;> split at backColor <;>
    simp only [BitVec.getLsbD_or, getLsbD_effect inside, BitVec.getLsbD_twoPow, *, if_true, if_false] <;> grind

theorem getLsbD_top8 (inside : i < 32) : (0xff000000 : BitVec 32).getLsbD i = decide (24 ≤ i) := by
  rw [show (0xff000000 : BitVec 32) = (BitVec.allOnes 8).setWidth 32 <<< 24 by decide, BitVec.getLsbD_shiftLeft,
    getLsbD_mask (by decide)]
  grind

theorem trueColor_iff {color : BitVec 32} : TrueColor color ↔ ∀ i, 24 ≤ i → i < 32 → color.getLsbD i = true := by
  constructor
  · intro same i above inside
    have bit := congrArg (·.getLsbD i) same
    simpa only [BitVec.getLsbD_and, getLsbD_top8 inside, decide_eq_true above, Bool.true_and] using bit
  · intro top
    apply BitVec.eq_of_getLsbD_eq
    intro i inside
    rw [BitVec.getLsbD_and, getLsbD_top8 inside]
    grind

theorem flag_iff {k : Nat} (inside : k < 64) : s &&& BitVec.twoPow 64 k = 0 ↔ s.getLsbD k = false := by
  rw [BitVec.and_twoPow]
  cases s.getLsbD k with
  | false => simp
  | true => simpa using fun zero => absurd (congrArg (·.getLsbD k) zero) (by simp [inside])

def colorBit (s : BitVec 64) (flag at_ i : Nat) : Bool :=
  if s.getLsbD flag then decide (24 ≤ i) || s.getLsbD (at_ + i) else decide (i < 9) && s.getLsbD (at_ + i)

theorem getLsbD_decode {flag at_ : Nat} (known : flag < 64) (inside : i < 32) :
    (if s &&& BitVec.twoPow 64 flag = 0 then ((s >>> at_) &&& 0b111111111).setWidth 32
      else 0xff000000 ||| ((s >>> at_) &&& 0x00ffffff).setWidth 32 : BitVec 32).getLsbD i = colorBit s flag at_ i := by
  have flagged := @flag_iff s flag known
  unfold colorBit
  split <;> simp only [BitVec.getLsbD_or, BitVec.getLsbD_setWidth, BitVec.getLsbD_and, BitVec.getLsbD_ushiftRight,
    getLsbD_low9, getLsbD_low24, getLsbD_top8 inside] <;> grind

theorem getLsbD_decodeForeColor (inside : i < 32) : (decodeForeColor s).getLsbD i = colorBit s 9 40 i := by
  rw [decodeForeColor, foreFlag_eq]
  exact getLsbD_decode (by decide) inside

theorem getLsbD_decodeBackColor (inside : i < 32) : (decodeBackColor s).getLsbD i = colorBit s 10 16 i := by
  rw [decodeBackColor, backFlag_eq]
  exact getLsbD_decode (by decide) inside

theorem getLsbD_decodeEffect (inside : i < 32) : (decodeEffect s).getLsbD i = (decide (i < 11) && s.getLsbD i) := by
  rw [decodeEffect, BitVec.getLsbD_setWidth, BitVec.getLsbD_and,
    show (0b11111111111 : BitVec 64).getLsbD i = decide (i < 11) from getLsbD_mask (by decide : 11 ≤ 64)]
  grind

theorem trueColor_decodeForeColor : TrueColor (decodeForeColor s) ↔ s.getLsbD 9 = true := by
  rw [trueColor_iff]
  constructor
  · intro top
    have := top 31
    rw [getLsbD_decodeForeColor (by decide)] at this
    grind [colorBit]
  · intro flag i above inside
    rw [getLsbD_decodeForeColor inside]
    grind [colorBit]

theorem trueColor_decodeBackColor : TrueColor (decodeBackColor s) ↔ s.getLsbD 10 = true := by
  rw [trueColor_iff]
  constructor
  · intro top
    have := top 31
    rw [getLsbD_decodeBackColor (by decide)] at this
    grind [colorBit]
  · intro flag i above inside
    rw [getLsbD_decodeBackColor inside]
    grind [colorBit]

theorem getLsbD_small (small : color.toNat < 512) (above : 9 ≤ i) : color.getLsbD i = false :=
  Nat.testBit_lt_two_pow (Nat.lt_of_lt_of_le small (show 2 ^ 9 ≤ 2 ^ i from Nat.pow_le_pow_right (by decide) above))

def IsColor (color : BitVec 32) : Prop := color.toNat < 512 ∨ TrueColor color

theorem decodeForeColor_encode (isColor : IsColor fore) : decodeForeColor (encode fore back effect) = fore := by
  apply BitVec.eq_of_getLsbD_eq
  intro i inside
  have flag := @getLsbD_encode fore back effect 9 (by decide)
  have bit := @getLsbD_encode fore back effect (40 + i)
  rw [getLsbD_decodeForeColor inside, colorBit]
  grind [IsColor, getLsbD_small, trueColor_iff]

theorem decodeBackColor_encode (isColor : IsColor back) : decodeBackColor (encode fore back effect) = back := by
  apply BitVec.eq_of_getLsbD_eq
  intro i inside
  have flag := @getLsbD_encode fore back effect 10 (by decide)
  have bit := @getLsbD_encode fore back effect (16 + i)
  rw [getLsbD_decodeBackColor inside, colorBit]
  grind [IsColor, getLsbD_small, trueColor_iff]

def Encoded (s : BitVec 64) : Prop := ∃ fore back effect, s = encode fore back effect

theorem getLsbD_reencode (encoded : Encoded s) (inside : i < 64) :
    (encode (decodeForeColor s) (decodeBackColor s) effect).getLsbD i = if i < 9 then effect.getLsbD i else s.getLsbD i := by
  rcases encoded with ⟨fore, back, effect', rfl⟩
  have bit := @getLsbD_encode fore back effect' i inside
  have foreFlag : (encode fore back effect').getLsbD 9 = decide (TrueColor fore) := getLsbD_encode (by decide)
  have backFlag : (encode fore back effect').getLsbD 10 = decide (TrueColor back) := getLsbD_encode (by decide)
  rw [getLsbD_encode inside]
  simp only [trueColor_decodeForeColor, trueColor_decodeBackColor, foreFlag, backFlag, decide_eq_true_eq]
  rcases Nat.lt_or_ge i 16 with low | high
  · grind
  · rcases Nat.lt_or_ge i 40 with middle | top
    · obtain ⟨k, rfl⟩ := Nat.exists_eq_add_of_le high
      have backBit := @getLsbD_decodeBackColor (encode fore back effect') k (by omega)
      rw [Nat.add_sub_cancel_left] at *
      rw [backBit, colorBit, backFlag, bit]
      by_cases true : TrueColor back <;> by_cases index : k < 9 <;> grind
    · obtain ⟨k, rfl⟩ := Nat.exists_eq_add_of_le top
      have foreBit := @getLsbD_decodeForeColor (encode fore back effect') k (by omega)
      rw [Nat.add_sub_cancel_left] at *
      rw [foreBit, colorBit, foreFlag, bit]
      by_cases true : TrueColor fore <;> by_cases index : k < 9 <;> grind

theorem encode_decode (encoded : Encoded s) : encode (decodeForeColor s) (decodeBackColor s) (decodeEffect s) = s := by
  apply BitVec.eq_of_getLsbD_eq
  intro i inside
  rw [getLsbD_reencode encoded inside]
  grind [getLsbD_decodeEffect]

theorem decodeEffect_encode (small : effect.toNat < 512) : decodeEffect (encode fore back effect) &&& 0b111111111 = effect := by
  apply BitVec.eq_of_getLsbD_eq
  intro i inside
  have above := @getLsbD_small effect i small
  rw [BitVec.getLsbD_and, getLsbD_decodeEffect inside, getLsbD_low9', getLsbD_encode (by omega)]
  grind

def Touches (bits : BitVec 32) (s s' : BitVec 64) : Prop :=
  ∀ i < 64, ¬ (i < 9 ∧ bits.getLsbD i = true) → s'.getLsbD i = s.getLsbD i

def changed (bits : BitVec 32) (setOrClear reverse : Bool) (s : BitVec 64) : BitVec 64 :=
  let effect := decodeEffect s
  encode (decodeForeColor s) (decodeBackColor s) (if reverse then (effect &&& ~~~bits) ||| (bits &&& ~~~effect)
    else if setOrClear then effect ||| bits else effect &&& ~~~bits)

theorem touches_changed (encoded : Encoded s) (bits : BitVec 32) (setOrClear reverse : Bool) :
    Touches bits s (changed bits setOrClear reverse s) := by
  intro i inside spared
  rw [changed, getLsbD_reencode encoded inside]
  split
  · next low =>
    have effect : (decodeEffect s).getLsbD i = s.getLsbD i := by
      rw [getLsbD_decodeEffect (by omega)]
      grind
    have off : bits.getLsbD i = false := Bool.eq_false_of_not_eq_true fun on => spared ⟨low, on⟩
    have narrow : decide (i < 32) = true := decide_eq_true (by omega)
    cases reverse <;> cases setOrClear <;> simp [-BitVec.getLsbD_eq_getElem, effect, off, narrow]
  · rfl

end TextStyle

open TextStyle

namespace TerminalRow

structure EffectsOnly (bits : BitVec 32) (row row' : TerminalRow) : Prop where
  rest : row' = { row with mStyle := row'.mStyle }
  length : row'.mStyle.length = row.mStyle.length
  styles : ∀ (x : Nat) s, row.mStyle[x]? = some s → Encoded s →
    ∃ s', row'.mStyle[x]? = some s' ∧ Encoded s' ∧ Touches bits s s'

variable {bits : BitVec 32}

theorem EffectsOnly.refl (row : TerminalRow) : EffectsOnly bits row row :=
  ⟨rfl, rfl, fun _ s found encoded => ⟨s, found, encoded, fun _ _ _ => rfl⟩⟩

theorem EffectsOnly.trans {row row' row'' : TerminalRow} (first : EffectsOnly bits row row')
    (second : EffectsOnly bits row' row'') : EffectsOnly bits row row'' := by
  refine ⟨?_, second.length.trans first.length, ?_⟩
  · rw [second.rest, first.rest]
  · intro x s found encoded
    rcases first.styles x s found encoded with ⟨s', found', encoded', touches⟩
    rcases second.styles x s' found' encoded' with ⟨s'', found'', encoded'', touches'⟩
    exact ⟨s'', found'', encoded'', fun i inside spared => (touches' i inside spared).trans (touches i inside spared)⟩

theorem effectsOnly_set {row : TerminalRow} {x : Nat} {s : Style} (found : row.mStyle[x]? = some s) (setOrClear reverse : Bool) :
    EffectsOnly bits row { row with mStyle := row.mStyle.set x (changed bits setOrClear reverse s) } := by
  refine ⟨rfl, List.length_set, ?_⟩
  intro y s' found' encoded
  by_cases same : y = x
  · subst same
    cases found.symm.trans found'
    have inside := (List.getElem?_eq_some_iff.mp found).1
    exact ⟨_, List.getElem?_set_self inside, ⟨_, _, _, rfl⟩, touches_changed encoded bits setOrClear reverse⟩
  · exact ⟨s', (List.getElem?_set_ne (Ne.symm same)).trans found', encoded, fun _ _ _ => rfl⟩

end TerminalRow

namespace TerminalBuffer

structure EffectsOnly (bits : BitVec 32) (b b' : TerminalBuffer) : Prop where
  rest : b' = { b with rows := b'.rows }
  length : b'.rows.length = b.rows.length
  rows : ∀ (ref : Nat) row, b.rows[ref]? = some row → ∃ row', b'.rows[ref]? = some row' ∧ row.EffectsOnly bits row'

variable {bits : BitVec 32} {setOrClear reverse : Bool}

instance EffectsOnly.refl : Std.Refl (EffectsOnly bits) :=
  ⟨fun _ => ⟨rfl, rfl, fun _ row found => ⟨row, found, .refl row⟩⟩⟩

instance EffectsOnly.trans : IsTrans TerminalBuffer (EffectsOnly bits) := by
  refine ⟨fun b b' b'' first second => ⟨?_, second.length.trans first.length, ?_⟩⟩
  · rw [second.rest, first.rest]
  · intro ref row found
    rcases first.rows ref row found with ⟨row', found', only⟩
    rcases second.rows ref row' found' with ⟨row'', found'', only'⟩
    exact ⟨row'', found'', only.trans only'⟩

theorem withRow_effectsOnly {α : Type} (ref : Nat) {method : RowM α} (frame : Frame (TerminalRow.EffectsOnly bits) method) :
    Frame (EffectsOnly bits) (withRow ref method) := by
  intro b
  cases found : b.rows[ref]? with
  | none =>
    simp only [withRow, EStateM.run, found]
    exact EffectsOnly.refl.refl b
  | some row =>
    have only := frame row
    have set : ∀ row', row.EffectsOnly bits row' → EffectsOnly bits b { b with rows := b.rows.set ref row' } := by
      intro row' only
      refine ⟨rfl, List.length_set, ?_⟩
      intro other row'' found'
      by_cases same : other = ref
      · subst same
        cases found.symm.trans found'
        exact ⟨row', List.getElem?_set_self (List.getElem?_eq_some_iff.mp found).1, only⟩
      · exact ⟨row'', (List.getElem?_set_ne (Ne.symm same)).trans found', .refl row''⟩
    rw [run_withRow found]
    cases ran : method.run row with
    | ok a row' | error thrown row' =>
      rw [ran] at only
      exact set row' only

theorem effectLoop_effectsOnly (setOrClear reverse : Bool) (ref count : Nat) (x : Int) :
    Frame (EffectsOnly bits) (effectLoop bits setOrClear reverse ref count x) := by
  induction count generalizing x with
  | zero => exact Frame.pure _
  | succ count ih =>
    refine Frame.bind (withRow_effectsOnly ref (Frame.get_bind fun line => ?_)) fun _ => ih _
    unfold TerminalRow.getStyle readArray writeArray
    split
    · split
      · next s found =>
        by_cases inside : 0 ≤ x ∧ x < line.mStyle.length
        · simp only [pure_bind, if_pos inside]
          exact TerminalRow.effectsOnly_set found setOrClear reverse
        · simp only [pure_bind, if_neg inside]
          exact .refl line
      · exact .refl line
    · exact .refl line

theorem effectRows_effectsOnly (setOrClear reverse rectangular : Bool) (leftMargin rightMargin top left bottom right : Int)
    (count : Nat) (y : Int) : Frame (EffectsOnly bits)
      (effectRows bits setOrClear reverse rectangular leftMargin rightMargin top left bottom right count y) := by
  induction count generalizing y with
  | zero => exact Frame.pure _
  | succ count ih =>
    refine Frame.bind (externalToInternalRow_frame _) fun row => Frame.bind (getLine_frame _) fun line => ?_
    exact Frame.ite (fun _ => Frame.bind (deref_frame _) fun _ => Frame.bind (effectLoop_effectsOnly _ _ _ _ _) fun _ => ih _)
      fun _ => ih _

/-- Colours and effects come back from a style, a style from its parts, and `setOrClearEffect` changes nothing but the
    requested bits of effects. -/
theorem style_roundTrip :
    (∀ fore back effect, IsColor fore → IsColor back → effect.toNat < 512 →
      decodeForeColor (encode fore back effect) = fore ∧ decodeBackColor (encode fore back effect) = back ∧
        decodeEffect (encode fore back effect) &&& 0b111111111 = effect) ∧
    (∀ s, Encoded s → encode (decodeForeColor s) (decodeBackColor s) (decodeEffect s) = s) ∧
    ∀ bits setOrClear reverse rectangular leftMargin rightMargin top left bottom right (b : TerminalBuffer),
      EffectsOnly bits b (final ((setOrClearEffect bits setOrClear reverse rectangular leftMargin rightMargin top left bottom
        right).run b)) :=
  ⟨fun _ _ _ fore back small => ⟨decodeForeColor_encode fore, decodeBackColor_encode back, decodeEffect_encode small⟩,
    fun _ => encode_decode, fun _ setOrClear reverse _ _ _ _ _ _ _ => effectRows_effectsOnly setOrClear reverse _ _ _ _ _ _ _ _ _⟩

end TerminalBuffer
