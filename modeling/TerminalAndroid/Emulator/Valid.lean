import TerminalAndroid.Emulator.Runs
import TerminalAndroid.Terminal.Buffer.Size

open Java Exec

namespace TerminalCore

def MouseExclusive (flags : BitVec 32) : Prop :=
  flags &&& TerminalEmulator.decsetBitMouseTrackingPressRelease = 0 ∨
    flags &&& TerminalEmulator.decsetBitMouseTrackingButtonEvent = 0

structure Bounded (c : TerminalCore) : Prop where
  rows : 2 ≤ c.mRows
  columns : 2 ≤ c.mColumns
  top : 0 ≤ c.mTopMargin
  height : c.mTopMargin + 2 ≤ c.mBottomMargin
  bottom : c.mBottomMargin ≤ c.mRows
  left : 0 ≤ c.mLeftMargin
  width : c.mLeftMargin < c.mRightMargin
  right : c.mRightMargin ≤ c.mColumns
  tabStops : (c.mTabStop.length : Int) = c.mColumns
  argIndex : 0 ≤ c.mArgIndex ∧ c.mArgIndex < 32
  args : ∀ (i : Nat) (inside : i < 32), -1 ≤ c.mArgs[i] ∧ c.mArgs[i] ≤ 9999
  mouse : MouseExclusive c.mCurrentDecSetFlags

structure Valid (c : TerminalCore) : Prop extends Bounded c where
  screenColumns : c.screen.mColumns = c.mColumns
  screenRows : c.screen.mScreenRows = c.mRows

section Flags

variable {x y z : BitVec 32}

theorem or_and_eq_zero (left : x &&& z = 0) (right : y &&& z = 0) : (x ||| y) &&& z = 0 := by
  rw [BitVec.and_comm, BitVec.and_or_distrib_left, BitVec.and_comm z x, BitVec.and_comm z y, left, right]
  rfl

theorem and_not_and_eq_zero (x z : BitVec 32) : (x &&& ~~~z) &&& z = 0 := by
  rw [BitVec.and_assoc]
  simp

theorem and_and_eq_zero (zero : x &&& z = 0) (y : BitVec 32) : (x &&& y) &&& z = 0 := by
  rw [BitVec.and_assoc, BitVec.and_comm y z, ← BitVec.and_assoc, zero]
  simp

theorem MouseExclusive.decsetFlags {flags bit : BitVec 32} (exclusive : MouseExclusive flags)
    (single : SingleMouseBit bit) (setting : Bool) : MouseExclusive (TerminalEmulator.decsetFlags flags bit setting) := by
  unfold TerminalEmulator.decsetFlags
  cases setting with
  | false => exact exclusive.imp (and_and_eq_zero · _) (and_and_eq_zero · _)
  | true =>
    rw [if_pos rfl]
    rcases single with rfl | rfl | ⟨press, button⟩
    · rw [if_pos rfl]
      exact Or.inr (or_and_eq_zero (and_not_and_eq_zero _ _) (by decide))
    · rw [if_neg (by decide), if_pos rfl]
      exact Or.inl (or_and_eq_zero (and_not_and_eq_zero _ _) (by decide))
    · have other : bit ≠ TerminalEmulator.decsetBitMouseTrackingPressRelease := by
        rintro rfl
        exact absurd press (by decide)
      have other' : bit ≠ TerminalEmulator.decsetBitMouseTrackingButtonEvent := by
        rintro rfl
        exact absurd button (by decide)
      rw [if_neg other, if_neg other']
      exact exclusive.imp (or_and_eq_zero · press) (or_and_eq_zero · button)

theorem MouseExclusive.restored {flags saved : BitVec 32} (exclusive : MouseExclusive flags) :
    MouseExclusive (flags &&& ~~~(TerminalEmulator.decsetBitAutowrap ||| TerminalEmulator.decsetBitOriginMode) |||
      saved &&& (TerminalEmulator.decsetBitAutowrap ||| TerminalEmulator.decsetBitOriginMode)) := by
  have outside : ∀ z : BitVec 32, (TerminalEmulator.decsetBitAutowrap ||| TerminalEmulator.decsetBitOriginMode) &&& z = 0 →
      (saved &&& (TerminalEmulator.decsetBitAutowrap ||| TerminalEmulator.decsetBitOriginMode)) &&& z = 0 := by
    intro z zero
    rw [BitVec.and_assoc, zero]
    exact BitVec.and_zero
  exact exclusive.imp (fun press => or_and_eq_zero (and_and_eq_zero press _) (outside _ (by decide)))
    fun button => or_and_eq_zero (and_and_eq_zero button _) (outside _ (by decide))

theorem restored_bit {flags saved mask bit : BitVec 32} (inside : mask &&& bit = bit) :
    (flags &&& ~~~mask ||| saved &&& mask) &&& bit = saved &&& bit := by
  apply BitVec.eq_of_getLsbD_eq
  intro i small
  have bits := congrArg (BitVec.getLsbD · i) inside
  simp only [BitVec.getLsbD_and, BitVec.getLsbD_or, BitVec.getLsbD_not, small, decide_true, Bool.true_and] at bits ⊢
  cases masked : mask.getLsbD i with
  | true => simp
  | false =>
    rw [masked, Bool.false_and] at bits
    rw [← bits, Bool.and_false, Bool.and_false]

theorem mouseExclusive_initial :
    MouseExclusive (TerminalEmulator.decsetBitAutowrap ||| TerminalEmulator.decsetBitCursorEnabled) := Or.inl (by decide)

end Flags

variable {c c' : TerminalCore} {permits : Label → Prop}

theorem Bounded.withScreen (bounded : c.Bounded) (buffer : TerminalBuffer) : (c.withScreen buffer).Bounded := by
  unfold TerminalCore.withScreen
  cases c.mScreen <;> exact { bounded with }

theorem withScreen_screen (c : TerminalCore) (buffer : TerminalBuffer) : (c.withScreen buffer).screen = buffer := by
  unfold withScreen
  cases h : c.mScreen <;> simp only [screen]

theorem Valid.withScreen (valid : c.Valid) {buffer : TerminalBuffer} (same : TerminalBuffer.SameSize c.screen buffer) :
    (c.withScreen buffer).Valid where
  toBounded := valid.toBounded.withScreen buffer
  screenColumns := by rw [withScreen_screen, withScreen_mColumns, same.columns, valid.screenColumns]
  screenRows := by rw [withScreen_screen, withScreen_mRows, same.screenRows, valid.screenRows]

theorem Valid.withSavedState (valid : c.Valid) (state : SavedScreenState) : (c.withSavedState state).Valid := by
  unfold TerminalCore.withSavedState
  split <;> exact { valid with }

theorem Valid.withMain (valid : c.Valid) {buffer : TerminalBuffer}
    (same : TerminalBuffer.SameSize c.mMainBuffer buffer) : ({ c with mMainBuffer := buffer } : TerminalCore).Valid := by
  have shown : TerminalBuffer.SameSize c.screen ({ c with mMainBuffer := buffer } : TerminalCore).screen := by
    unfold screen
    cases c.mScreen with
    | main => exact same
    | alt => exact Std.Refl.refl _
  exact { valid with
    screenColumns := shown.columns.trans valid.screenColumns
    screenRows := shown.screenRows.trans valid.screenRows }

theorem Drawing.sameSize {α : Type} {method : BufferM α} (drawing : Drawing method) :
    Frame TerminalBuffer.SameSize method := by
  cases drawing with
  | setChar => exact TerminalBuffer.setChar_frame _ _ _ _
  | blockSet => exact TerminalBuffer.blockSet_frame _ _ _ _ _ _
  | blockCopy => exact TerminalBuffer.blockCopy_frame _ _ _ _ _ _
  | scrollDownOneLine => exact TerminalBuffer.scrollDownOneLine_sameSize _ _ _
  | setLineWrap => exact TerminalBuffer.setLineWrap_frame _
  | getLineWrap => exact TerminalBuffer.getLineWrap_frame _
  | clearLineWrap => exact TerminalBuffer.clearLineWrap_frame _
  | getStyleAt => exact TerminalBuffer.getStyleAt_frame _ _
  | setOrClearEffect => exact TerminalBuffer.setOrClearEffect_frame _ _ _ _ _ _ _ _ _ _

theorem Drawing.sameSize_of_run {α : Type} {method : BufferM α} (drawing : Drawing method) {a : α}
    {b b' : TerminalBuffer} (ran : method.run b = .ok a b') : TerminalBuffer.SameSize b b' :=
  Returns.of_frame drawing.sameSize _ _ _ ran

theorem clearTranscript_sameSize {b b' : TerminalBuffer} (ran : TerminalBuffer.clearTranscript.run b = .ok () b') :
    TerminalBuffer.SameSize b b' := Returns.of_frame TerminalBuffer.clearTranscript_sameSize _ _ _ ran

end TerminalCore

namespace TerminalEmulator

open TerminalCore

variable {host : Host} {allows : TerminalEmulator → UInt8 → Prop} {permits : Label → Prop} {e e' : TerminalEmulator}

theorem FitsScreen.valid (bounded : e.Bounded) (fits : FitsScreen e e') : e'.Valid := by
  obtain ⟨cursor, buffer, ran, rfl⟩ := fits
  have resized := (TerminalBuffer.resize_resized (by have := bounded.columns; omega) (by have := bounded.rows; omega) ran).1
  refine { (bounded.withScreen buffer) with screenColumns := ?_, screenRows := ?_ }
  · exact (congrArg _ (withScreen_screen _ _)).trans (resized.columns.trans (withScreen_mColumns _ _).symm)
  · exact (congrArg _ (withScreen_screen _ _)).trans (resized.screenRows.trans (withScreen_mRows _ _).symm)

theorem restoreCursor_bounded (bounded : e.Bounded) : e.restoreCursor.Bounded :=
  { bounded with mouse := bounded.mouse.restored }

theorem Switched.valid {setting : Bool} (switched : Switched e setting e') (valid : e.Valid) : e'.Valid := by
  cases switched with
  | stays same => exact valid
  | @toAlt t _ from_main fitted cleared =>
    rw [saveCursor_of_main from_main] at fitted
    have fit : t.Valid := by
      rcases fitted with ⟨current, rfl⟩ | ⟨-, fits⟩
      · have current := not_not.mp current
        exact { valid.toBounded with screenColumns := current.1, screenRows := current.2 }
      · refine fits.valid ?_
        exact { valid.toBounded with }
    obtain ⟨buffer, ran, same⟩ := onScreen_inv cleared
    rw [same]
    exact fit.withScreen ((Drawing.blockSet ..).sameSize_of_run ran)
  | toMain from_alt fitted =>
    have bounded : ({ e with mScreen := .main } : TerminalEmulator).Bounded := { valid.toBounded with }
    rcases fitted with ⟨current, rfl⟩ | ⟨-, fits⟩
    · have current := not_not.mp current
      exact { restoreCursor_bounded bounded with screenColumns := current.1, screenRows := current.2 }
    · refine fits.valid ?_
      exact { restoreCursor_bounded bounded with }

theorem Effect.valid {c c' : TerminalCore} (effect : Effect permits c c') (valid : c.Valid) : c'.Valid := by
  have rows := valid.rows
  have columns := valid.columns
  cases effect with
  | draws drawing ran => exact valid.withScreen (drawing.sameSize_of_run ran)
  | moves move => exact { valid with }
  | backspaces => exact { valid with }
  | clearsTranscript permitted ran => exact valid.withMain (clearTranscript_sameSize ran)
  | flags bit setting single => exact { valid with mouse := valid.mouse.decsetFlags single setting }
  | setsOrigin permitted set place =>
    subst set
    exact { valid with mouse := valid.mouse.decsetFlags (by decide) true }
  | saves => exact valid.withSavedState _
  | restores => exact { valid with mouse := valid.mouse.restored }
  | rowMargins permitted n m set place =>
    subst set
    exact { valid with
      top := by dsimp only [moved]; omega
      height := by dsimp only [moved]; omega
      bottom := by dsimp only [moved]; omega }
  | columnMargins permitted n m nonneg set place =>
    subst set
    exact { valid with
      left := by dsimp only [moved]; omega
      width := by dsimp only [moved]; omega
      right := by dsimp only [moved]; omega }
  | resetsColumnMargins =>
    exact { valid with
      left := Int.le_refl 0
      width := by dsimp only; omega
      right := Int.le_refl _ }
  | resetsMargins =>
    exact { valid with
      left := Int.le_refl 0
      width := by dsimp only; omega
      right := Int.le_refl _
      top := Int.le_refl 0
      height := by dsimp only; omega
      bottom := Int.le_refl _ }
  | tabStops length => exact { valid with tabStops := by rw [← valid.tabStops, ← length] }
  | startsArgs => exact { valid with argIndex := (by decide : (0 : Int) ≤ 0 ∧ (0 : Int) < 32), args := fun i inside => by simp }
  | resetsArgIndex => exact { valid with argIndex := (by decide : (0 : Int) ≤ 0 ∧ (0 : Int) < 32) }
  | digit permitted within lower upper =>
    refine { valid with args := fun i inside => ?_ }
    dsimp only
    rw [Vector.getElem_set]
    split
    · exact ⟨by omega, upper⟩
    · exact valid.args i inside
  | nextArg room => exact { valid with argIndex := ⟨by have := valid.argIndex; dsimp only; omega, room⟩ }
  | clampsArgIndex beyond => exact { valid with argIndex := (by decide : (0 : Int) ≤ 31 ∧ (31 : Int) < 32) }
  | idles => exact { valid with }
  | resetsSaved permitted flags_eq atOrigin saved =>
    subst flags_eq
    exact { valid with mouse := mouseExclusive_initial }
  | switches setting permitted ran => exact (switchScreen_inv ran).valid valid

theorem processByte_valid {byte : UInt8} (decodes : e.decoder.Valid) (valid : e.Valid)
    (ran : (processByte host byte).run e = .ok () e') : e'.Valid := by
  have steps : ∀ {permits e e'}, Steps permits e e' → e.Valid → e'.Valid := fun steps => steps.keeps fun _ _ => Effect.valid
  have processed : ∀ codePoint, Returns (Keeps fun e : TerminalEmulator => e.Valid) (processCodePoint host codePoint) :=
    fun codePoint e _ e' ran => steps (processCodePoint_steps host codePoint () e' ran)
  refine processByte_leads (R := Keeps fun e : TerminalEmulator => e.Valid) (fun e d valid => { valid with }) ?_
    (fun codePoint _ => processed codePoint) decodes (fun _ _ => processed _ e) (fun _ _ t _ => processed _ t) () e' ran valid
  intro e _ e' ran
  exact steps (emitCodePoint_emits unicodeReplacementChar e () e' ran)

theorem Widened.bounded {columns rows : Int} {s : TerminalEmulator} (widened : Widened columns rows e s)
    (wide : 2 ≤ columns) (high : 2 ≤ rows) (valid : e.Valid) : s.Bounded := by
  obtain ⟨stops, length, core⟩ := widened
  rw [core]
  have tabStops : (stops.length : Int) = columns := by
    rcases length with ⟨rfl, rfl⟩ | length
    · exact valid.tabStops
    · omega
  have := valid.height
  have := valid.bottom
  have := valid.width
  have := valid.right
  have := valid.top
  have := valid.left
  exact { valid with
    rows := high
    columns := wide
    top := by dsimp only; split <;> omega
    height := by dsimp only; split <;> omega
    bottom := by dsimp only; split <;> omega
    left := by dsimp only; split <;> omega
    width := by dsimp only; split <;> omega
    right := by dsimp only; split <;> omega
    tabStops := tabStops }

theorem resize_valid {columns rows cellWidthPixels cellHeightPixels : Int} (valid : e.Valid)
    (ran : (resize columns rows cellWidthPixels cellHeightPixels).run e = .ok () e') : e'.Valid := by
  rcases resize_inv ran with quiet | ⟨wide, high, s, widened, fits⟩
  · exact quiet.symm ▸ valid
  · exact fits.valid (widened.bounded wide high valid)

theorem create_valid {columns rows cellWidthPixels cellHeightPixels : Int} {transcriptRows : Option Int}
    (wide : 2 ≤ columns) (high : 2 ≤ rows)
    (created : create host columns rows cellWidthPixels cellHeightPixels transcriptRows = .ok e) : e.Valid := by
  obtain ⟨mainBuffer, altBuffer, stops, savedMain, savedAlt, main, -, length, core⟩ := create_core created
  have size := TerminalBuffer.create_sameSize main
  rw [core]
  exact
    { rows := high
      columns := wide
      top := Int.le_refl 0
      height := by dsimp only; omega
      bottom := Int.le_refl rows
      left := Int.le_refl 0
      width := by dsimp only; omega
      right := Int.le_refl columns
      tabStops := by dsimp only; omega
      argIndex := (by decide : (0 : Int) ≤ 0 ∧ (0 : Int) < 32)
      args := fun i inside => by simp
      mouse := mouseExclusive_initial
      screenColumns := size.columns
      screenRows := size.screenRows }

theorem Reaches.valid {allows : TerminalEmulator → UInt8 → Prop} (reached : Reaches host allows e) :
    e.Valid ∧ e.decoder.Valid := by
  refine ⟨?_, reached.decoder_valid⟩
  induction reached with
  | create wide high created => exact create_valid wide high created
  | process reached _ ran ih => exact processByte_valid reached.decoder_valid ih ran
  | resize _ _ _ ran ih => exact resize_valid ih ran

/-- The margins, the tab stops, the parameters and the modes stay in their ranges in every run. -/
theorem reaches_valid (reached : Reaches host (fun _ _ => True) e) : e.Valid := reached.valid.1

theorem reaches_valid_margins : ∃ e, fed 10 4 [27, 91, 63, 54, 57, 104, 27, 91, 53, 59, 57, 115] = .ok e ∧ e.Valid := by
  obtain ⟨e, ran⟩ := exists_of_isOk
    (show (fed 10 4 [27, 91, 63, 54, 57, 104, 27, 91, 53, 59, 57, 115]).isOk = true by decide +kernel)
  exact ⟨e, ran, reaches_valid (fed_reaches (by decide) (by decide) (fun _ _ _ => trivial) ran)⟩

end TerminalEmulator
