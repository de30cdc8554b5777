import TerminalAndroid.Emulator.Ready
import TerminalAndroid.Terminal.Buffer.Alike

open Java Exec
open TerminalBuffer (Alike RunsAlike)

namespace TerminalEmulator

variable {e e' : TerminalEmulator} {b b' : TerminalBuffer}

def scrollRegion (e : TerminalEmulator) : BufferM Unit :=
  if e.mLeftMargin ≠ 0 ∨ e.mRightMargin ≠ e.mColumns then do
    TerminalBuffer.blockCopy e.mLeftMargin (e.mTopMargin + 1) (e.mRightMargin - e.mLeftMargin)
      (e.mBottomMargin - e.mTopMargin - 1) e.mLeftMargin e.mTopMargin
    TerminalBuffer.blockSet e.mLeftMargin (e.mBottomMargin - 1) (e.mRightMargin - e.mLeftMargin) 1 TerminalRow.space
      e.getStyle
  else TerminalBuffer.scrollDownOneLine e.mTopMargin e.mBottomMargin e.getStyle

theorem scrollRegion_alike (ready : e.Ready) (alike : e.screen.Alike b') : RunsAlike e.scrollRegion e.screen b' := by
  obtain ⟨-, top, height, bottom, left, width, right, columns, rows, -⟩ := id ready
  unfold scrollRegion
  split
  · refine RunsAlike.bind (alike.run_blockCopy left ?_ ?_ ?_ left top ?_ ?_ ?_ ?_) fun c c' size same => ?_
    all_goals try omega
    have columns' := size.columns
    have rows' := size.screenRows
    exact same.run_blockSet (by decide) (by decide) left (by omega) (by omega) (by omega) e.getStyle
  · exact alike.run_scrollDownOneLine top (by omega) (by omega) e.getStyle

theorem run_scrollDownOneLine (e : TerminalEmulator) :
    scrollDownOneLine.run e = (onScreen e.scrollRegion).run { e with mScrollCounter := e.mScrollCounter + 1 } := by
  unfold scrollDownOneLine scrollRegion
  simp only [onScreen_bind, EStateM.run_bind, EStateM.run_modify, EStateM.run_get]
  split <;> rfl

structure FeedsAlike (e e' : TerminalEmulator) : Prop where
  row : e'.mCursorRow = e.mCursorRow
  scrolled : e'.mScrollCounter = e.mScrollCounter
  screen : e.screen.Alike e'.screen

def emitting (e : TerminalEmulator) (codePoint : Int) : TerminalEmulator := { e with mLastEmittedCodePoint := codePoint }

theorem drawn_moved (e : TerminalEmulator) (b : TerminalBuffer) (column count point : Int) :
    ({ (e.emitting point).drawn b with mCursorCol := column, mScrollCounter := count } : TerminalEmulator) =
      ({ e.emitting point with mCursorCol := column, mScrollCounter := count } : TerminalEmulator).drawn b := by
  unfold drawn TerminalCore.withScreen emitting
  cases e.mScreen <;> rfl

section

variable (ready : e.Ready) (point : Int)
include ready

theorem scrollDownOneLine_alike (alike : e.screen.Alike b') (column : Int) :
    ∃ c c', scrollDownOneLine.run e = .ok () (({ e with mScrollCounter := e.mScrollCounter + 1 } : TerminalEmulator).drawn c) ∧
      scrollDownOneLine.run { (e.emitting point).drawn b' with mCursorCol := column } = .ok ()
        (({ e.emitting point with mCursorCol := column, mScrollCounter := e.mScrollCounter + 1 } : TerminalEmulator).drawn
          c') ∧
      c.Alike c' := by
  obtain ⟨c, c', ran, ran', -, same⟩ := scrollRegion_alike ready alike
  have region : ({ (e.emitting point).drawn b' with mCursorCol := column } : TerminalEmulator).scrollRegion =
      e.scrollRegion := by
    unfold drawn TerminalCore.withScreen emitting
    cases e.mScreen <;> rfl
  refine ⟨c, c', ?_, ?_, same⟩
  · rw [run_scrollDownOneLine]
    exact run_zoom_ok ran
  · have start := drawn_moved e b' column (e.mScrollCounter + 1) point
    rw [run_scrollDownOneLine, region]
    exact (congrArg (EStateM.run _) start).trans (run_onScreen_drawn _ ran')

theorem run_wrapLine : ∃ b', e.screen.Alike b' ∧ wrapLine.run (e.emitting point) =
    (do modify fun e => { e with mCursorCol := e.mLeftMargin }
        if e.mCursorRow + 1 < e.mBottomMargin then modify fun e => { e with mCursorRow := e.mCursorRow + 1 }
        else scrollDownOneLine : EmulatorM Unit).run ((e.emitting point).drawn b') := by
  obtain ⟨row, -⟩ := ready.toOnScreen
  obtain ⟨⟨⟩, b', ran, painted⟩ := ready.formed.run_setLineWrap row.1 (by rw [ready.screenRows]; exact row.2)
  have set : (onScreen (TerminalBuffer.setLineWrap e.mCursorRow)).run (e.emitting point) =
      .ok () ((e.emitting point).drawn b') := run_zoom_ok ran
  refine ⟨b', .wrapped ready.formed painted, ?_⟩
  unfold wrapLine
  simp only [EStateM.run_bind, EStateM.run_get, show (e.emitting point).mCursorRow = e.mCursorRow from rfl, set]
  rfl

theorem run_wrapLine_scrolls (alike : e.screen.Alike b') :
    ∃ c c', scrollDownOneLine.run e = .ok () (({ e with mScrollCounter := e.mScrollCounter + 1 } : TerminalEmulator).drawn c) ∧
      (do modify fun e => { e with mCursorCol := e.mLeftMargin }
          scrollDownOneLine : EmulatorM Unit).run ((e.emitting point).drawn b') = .ok ()
        (({ e.emitting point with mCursorCol := e.mLeftMargin, mScrollCounter := e.mScrollCounter + 1 }
          : TerminalEmulator).drawn c') ∧
      c.Alike c' := by
  have left : ((e.emitting point).drawn b').mLeftMargin = e.mLeftMargin := TerminalCore.withScreen_mLeftMargin ..
  obtain ⟨c, c', plain, wrapped, same⟩ := scrollDownOneLine_alike ready point alike ((e.emitting point).drawn b').mLeftMargin
  refine ⟨c, c', plain, wrapped.trans ?_, same⟩
  rw [left]

theorem wrapLine_feeds (above : e.mCursorRow < e.mBottomMargin) :
    ∃ e₁ e₂, wrapLine.run (e.emitting point) = .ok () e₁ ∧ doLinefeed.run e = .ok () e₂ ∧ FeedsAlike e₂ e₁ := by
  obtain ⟨b', alike, ran⟩ := run_wrapLine ready point
  rw [ran]
  unfold doLinefeed
  simp only [EStateM.run_bind, EStateM.run_get, if_neg (show ¬ e.mBottomMargin ≤ e.mCursorRow by omega)]
  by_cases last : e.mCursorRow + 1 = e.mBottomMargin
  · obtain ⟨c, c', plain, wrapped, same⟩ := run_wrapLine_scrolls ready point alike
    rw [if_neg (by omega), if_pos last]
    simp only [EStateM.run_bind, plain, EStateM.run_modify] at wrapped ⊢
    refine ⟨_, _, wrapped, rfl, ⟨?_, rfl, ?_⟩⟩
    · show (TerminalCore.withScreen _ c').mCursorRow = (TerminalCore.withScreen _ c).mBottomMargin - 1
      rw [TerminalCore.withScreen_mCursorRow, TerminalCore.withScreen_mBottomMargin]
      show e.mCursorRow = e.mBottomMargin - 1
      omega
    · show (TerminalEmulator.drawn _ c).screen.Alike (TerminalEmulator.drawn _ c').screen
      rw [drawn_screen, drawn_screen]
      exact same
  · rw [if_pos (by omega), if_neg last]
    refine ⟨_, _, rfl, rfl, ⟨?_, rfl, ?_⟩⟩
    · exact congrArg (· + 1) (TerminalCore.withScreen_mCursorRow ..)
    · show e.screen.Alike ((e.emitting point).drawn b').screen
      rw [drawn_screen]
      exact alike

theorem wrapLine_scrolls (below : e.mBottomMargin ≤ e.mCursorRow) :
    ∃ e₁ e₂, wrapLine.run (e.emitting point) = .ok () e₁ ∧ doLinefeed.run e = .ok () e₂ ∧
      e₁.mScrollCounter = e₂.mScrollCounter + 1 := by
  obtain ⟨b', alike, ran⟩ := run_wrapLine ready point
  obtain ⟨c, c', -, wrapped, -⟩ := run_wrapLine_scrolls ready point alike
  rw [ran, if_neg (by omega), wrapped]
  unfold doLinefeed
  simp only [EStateM.run_bind, EStateM.run_get, if_pos below]
  split
  · exact ⟨_, _, rfl, rfl, rfl⟩
  · exact ⟨_, _, rfl, rfl, rfl⟩

end

def Wraps (e : TerminalEmulator) (x : Nat) : Prop :=
  e.isDecsetInternalBitSet decsetBitAutowrap = true ∧ e.mCursorCol = e.mRightMargin - 1 ∧
    ((e.mAboutToAutoWrap = true ∧ WcWidth.width x = 1) ∨ WcWidth.width x = 2)

def Skips (e : TerminalEmulator) (x : Nat) : Prop :=
  e.isDecsetInternalBitSet decsetBitAutowrap = false ∧ e.mCursorCol = e.mRightMargin - 1 ∧ WcWidth.width x = 2

instance (e : TerminalEmulator) (x : Nat) : Decidable (e.Wraps x) := inferInstanceAs (Decidable (_ ∧ _))

instance (e : TerminalEmulator) (x : Nat) : Decidable (e.Skips x) := inferInstanceAs (Decidable (_ ∧ _))

theorem run_emitCodePoint (e : TerminalEmulator) (codePoint : Nat) : (emitCodePoint codePoint).run e =
    (if e.Skips (e.shownCodePoint codePoint) then pure ()
    else do
      (if e.Wraps (e.shownCodePoint codePoint) then wrapLine else pure ())
      placeCodePoint (e.isDecsetInternalBitSet decsetBitAutowrap) (e.shownCodePoint codePoint) : EmulatorM Unit).run
        (e.emitting codePoint) := by
  have emits : (emitCodePoint codePoint).run e = (if e.isDecsetInternalBitSet decsetBitAutowrap = true then do
        (if e.mCursorCol = e.mRightMargin - 1 ∧ ((e.mAboutToAutoWrap = true ∧ WcWidth.width (e.shownCodePoint codePoint) = 1) ∨
          WcWidth.width (e.shownCodePoint codePoint) = 2) then wrapLine else pure ())
        placeCodePoint (e.isDecsetInternalBitSet decsetBitAutowrap) (e.shownCodePoint codePoint)
      else if e.mCursorCol = e.mRightMargin - 1 ∧ WcWidth.width (e.shownCodePoint codePoint) = 2 then pure ()
      else placeCodePoint (e.isDecsetInternalBitSet decsetBitAutowrap) (e.shownCodePoint codePoint) : EmulatorM Unit).run
        (e.emitting codePoint) := rfl
  rw [emits]
  by_cases on : e.isDecsetInternalBitSet decsetBitAutowrap = true
  · have wraps : (if e.Wraps (e.shownCodePoint codePoint) then wrapLine else pure ()) = _ :=
      if_congr (and_iff_right on) rfl rfl
    have kept : ¬ e.Skips (e.shownCodePoint codePoint) := fun skips => by
      rw [skips.1] at on
      cases on
    rw [if_pos on, if_neg kept, wraps]
  · have off := Bool.eq_false_iff.mpr on
    have stays : ¬ e.Wraps (e.shownCodePoint codePoint) := fun wraps => on wraps.1
    rw [if_neg on, if_neg stays, pure_bind]
    exact congrArg (fun m => EStateM.run m (e.emitting codePoint)) (if_congr (and_iff_right off).symm rfl rfl)

/-- A pending wrap is a line feed just when the cursor is not below the scroll region. -/
theorem autoWrap_feeds_iff (e : TerminalEmulator) (codePoint : Nat) (ready : e.Ready)
    (on : e.isDecsetInternalBitSet decsetBitAutowrap = true) (last : e.mCursorCol = e.mRightMargin - 1)
    (pending : e.mAboutToAutoWrap = true) (one : WcWidth.width (e.shownCodePoint codePoint) = 1) :
    ∃ e₁ e₂, wrapLine.run (e.emitting codePoint) = .ok () e₁ ∧
      (emitCodePoint codePoint).run e = (placeCodePoint true (e.shownCodePoint codePoint)).run e₁ ∧
      doLinefeed.run e = .ok () e₂ ∧ (FeedsAlike e₂ e₁ ↔ e.mCursorRow < e.mBottomMargin) := by
  have emits : (emitCodePoint codePoint).run e =
      (do wrapLine; placeCodePoint true (e.shownCodePoint codePoint)).run (e.emitting codePoint) := by
    have kept : ¬ e.Skips (e.shownCodePoint codePoint) := fun skips => by
      rw [skips.1] at on
      cases on
    rw [run_emitCodePoint, if_neg kept, if_pos ⟨on, last, .inl ⟨pending, one⟩⟩, on]
  by_cases above : e.mCursorRow < e.mBottomMargin
  · obtain ⟨e₁, e₂, wrapped, fed, alike⟩ := wrapLine_feeds ready codePoint above
    exact ⟨e₁, e₂, wrapped, emits.trans (run_bind_of wrapped), fed, iff_of_true alike above⟩
  · obtain ⟨e₁, e₂, wrapped, fed, more⟩ := wrapLine_scrolls ready codePoint (Int.not_lt.mp above)
    refine ⟨e₁, e₂, wrapped, emits.trans (run_bind_of wrapped), fed, iff_of_false (fun alike => ?_) above⟩
    have same := alike.scrolled
    omega

def pendingAt (e : TerminalEmulator) (row : Int) : TerminalEmulator :=
  { e with
    mBottomMargin := 2, mCursorRow := row, mCursorCol := 3, mAboutToAutoWrap := true
    mCurrentDecSetFlags := decsetBitAutowrap }

theorem pendingAt_ready (ready : e.Ready) (columns : e.mColumns = 4) (rows : e.mRows = 3) (top : e.mTopMargin = 0) {row : Int}
    (lower : 0 ≤ row) (upper : row < 3) : (pendingAt e row).Ready := by
  refine { ready with row := ⟨lower, ?_⟩, col := ⟨?_, ?_⟩, height := ?_, bottom := ?_ } <;>
    simp only [pendingAt, columns, rows, top] <;> omega

theorem filledWith_pendingAt {row : Int} (lower : 0 ≤ row) (upper : row < 3) : (pendingAt (filledWith 4 3 120) row).Ready :=
  pendingAt_ready (filledWith_ready (by decide) (by decide) (by decide) (by decide) (by decide)) rfl rfl rfl lower upper

theorem autoWrap_feeds_iff_inside : ∃ e₁ e₂, wrapLine.run ((pendingAt (filledWith 4 3 120) 1).emitting 97) = .ok () e₁ ∧
    doLinefeed.run (pendingAt (filledWith 4 3 120) 1) = .ok () e₂ ∧ FeedsAlike e₂ e₁ := by
  obtain ⟨e₁, e₂, wrapped, -, fed, iff⟩ := autoWrap_feeds_iff (pendingAt (filledWith 4 3 120) 1) 97
    (filledWith_pendingAt (by decide) (by decide)) rfl rfl rfl (by decide)
  exact ⟨e₁, e₂, wrapped, fed, iff.mpr (by decide)⟩

/-- On the last row, below the scroll region, the wrap scrolls the region. -/
theorem autoWrap_scrolls_below : (pendingAt (filledWith 4 3 120) 2).Ready ∧
    ∃ e₁ e₂, wrapLine.run ((pendingAt (filledWith 4 3 120) 2).emitting 97) = .ok () e₁ ∧
      doLinefeed.run (pendingAt (filledWith 4 3 120) 2) = .ok () e₂ ∧ ¬ FeedsAlike e₂ e₁ := by
  have ready := @filledWith_pendingAt 2 (by decide) (by decide)
  obtain ⟨e₁, e₂, wrapped, fed, more⟩ := wrapLine_scrolls ready 97 (by decide)
  refine ⟨ready, e₁, e₂, wrapped, fed, fun alike => ?_⟩
  have same := alike.scrolled
  omega

end TerminalEmulator
