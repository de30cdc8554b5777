import TerminalAndroid.Emulator.Ready
import TerminalAndroid.Emulator.OriginMode

open Java Exec

structure TerminalCore.ValidMargins (c : TerminalCore) : Prop where
  top : 0 ≤ c.mTopMargin
  height : c.mTopMargin + 2 ≤ c.mBottomMargin
  bottom : c.mBottomMargin ≤ c.mRows
  left : 0 ≤ c.mLeftMargin
  width : c.mLeftMargin < c.mRightMargin
  right : c.mRightMargin ≤ c.mColumns

theorem TerminalCore.Bounded.validMargins {c : TerminalCore} (bounded : c.Bounded) : c.ValidMargins where
  top := bounded.top
  height := bounded.height
  bottom := bounded.bottom
  left := bounded.left
  width := bounded.width
  right := bounded.right

/-- HPA, VPR, CNL, CPL and ESC F. -/
inductive CursorMove
  | columnAbsolute
  | rowRelative
  | nextLine
  | previousLine
  | lowerLeft
  deriving DecidableEq, Repr

namespace CursorMove

open TerminalEmulator

variable {e : TerminalEmulator} {host : Host}

def sequence : CursorMove → EscapeState × Nat
  | columnAbsolute => (.csi, 96)
  | rowRelative => (.csi, 'e'.toNat)
  | nextLine => (.csi, 'E'.toNat)
  | previousLine => (.csi, 'F'.toNat)
  | lowerLeft => (.esc, 'F'.toNat)

def moved (e : TerminalEmulator) : CursorMove → TerminalEmulator
  | columnAbsolute => e.setCursorColRespectingOriginMode (e.getArg0 1 - 1)
  | rowRelative => e.setCursorPosition e.mCursorCol (e.mCursorRow + e.getArg0 1)
  | nextLine => e.setCursorPosition 0 (e.mCursorRow + e.getArg0 1)
  | previousLine => e.setCursorPosition 0 (e.mCursorRow - e.getArg0 1)
  | lowerLeft => e.setCursorRowCol 0 (e.mBottomMargin - 1)

theorem ends_sequence (host : Host) (op : CursorMove) (received : e.mEscapeState = op.sequence.1) :
    Ends (fun _ e' => e'.mCursorRow = (op.moved e).mCursorRow ∧ e'.mCursorCol = (op.moved e).mCursorCol)
      (processCodePoint host op.sequence.2) e := by
  have kept : Ends (fun _ e' => e'.mCursorRow = (op.moved e).mCursorRow ∧ e'.mCursorCol = (op.moved e).mCursorCol)
      (modify (op.moved ·) : EmulatorM Unit) { e with mContinueSequence := false } := by
    apply Ends.modify
    cases op <;> exact ⟨rfl, rfl⟩
  have csi : ∀ {b : Nat}, e.mEscapeState = .csi → 28 ≤ b → doCsi b = modify (op.moved ·) →
      Ends (fun _ e' => e'.mCursorRow = (op.moved e).mCursorRow ∧ e'.mCursorCol = (op.moved e).mCursorCol)
        (processCodePoint host b) e := fun csi printable final =>
    ends_csi (P := fun c => c.mCursorRow = _ ∧ c.mCursorCol = _) csi printable final kept
  cases op with
  | columnAbsolute => exact csi received (by decide) rfl
  | rowRelative => exact csi received (by decide) rfl
  | nextLine => exact csi received (by decide) rfl
  | previousLine => exact csi received (by decide) rfl
  | lowerLeft =>
    exact ends_esc (P := fun c => c.mCursorRow = _ ∧ c.mCursorCol = _) received (by decide) rfl kept

/-- Where the command is to put the cursor. The rows and columns that can be addressed are those between the margins
    while DECOM is set. -/
def Meant (e : TerminalEmulator) (row col : Int) : CursorMove → Prop
  | columnAbsolute => row = e.mCursorRow
  | rowRelative => row = min (e.mCursorRow + e.getArg0 1) (e.effectiveBottomMargin - 1) ∧ col = e.mCursorCol
  | nextLine => row = min (e.mCursorRow + e.getArg0 1) (e.effectiveBottomMargin - 1)
  | previousLine => row = max (e.mCursorRow - e.getArg0 1) e.effectiveTopMargin
  | lowerLeft => row = e.effectiveBottomMargin - 1 ∧ col = e.effectiveLeftMargin

/-- The margins are not added to the place of the cursor, or the place is at the margin after all. -/
def Unshifted (e : TerminalEmulator) : CursorMove → Prop
  | columnAbsolute => e.Origin → e.mTopMargin = 0 ∨ e.mCursorRow = e.mBottomMargin - 1
  | rowRelative =>
    e.Origin → (e.mTopMargin = 0 ∨ e.mBottomMargin - 1 ≤ e.mCursorRow + e.getArg0 1) ∧
      (e.mLeftMargin = 0 ∨ e.mCursorCol = e.mRightMargin - 1)
  | nextLine => e.Origin → e.mTopMargin = 0 ∨ e.mBottomMargin - 1 ≤ e.mCursorRow + e.getArg0 1
  | previousLine => e.Origin → e.mTopMargin = 0 ∨ e.mCursorRow ≤ e.getArg0 1
  | lowerLeft => False

theorem meant_moved_iff (op : CursorMove) (valid : e.ValidMargins) (inside : e.OnScreen) (confined : e.Confined) :
    op.Meant e (op.moved e).mCursorRow (op.moved e).mCursorCol ↔ op.Unshifted e := by
  obtain ⟨top, height, bottom, left, width, right⟩ := valid
  obtain ⟨row, col⟩ := inside
  have positive := e.getArg0_pos
  by_cases origin : e.Origin
  · have within := confined origin
    have set : e.isDecsetInternalBitSet decsetBitOriginMode = true := by
      simpa [isDecsetInternalBitSet, TerminalCore.Origin] using origin
    unfold TerminalCore.Within at within
    cases op <;> simp only [Meant, Unshifted, moved, setCursorColRespectingOriginMode, setCursorPosition, setCursorRowCol,
      effectiveTopMargin, effectiveBottomMargin, effectiveLeftMargin, effectiveRightMargin, set, if_true, origin,
      true_implies, iff_false] <;> omega
  · have set : e.isDecsetInternalBitSet decsetBitOriginMode = false := by
      simpa [isDecsetInternalBitSet, TerminalCore.Origin] using origin
    cases op <;> simp only [Meant, Unshifted, moved, setCursorColRespectingOriginMode, setCursorPosition, setCursorRowCol,
      effectiveTopMargin, effectiveBottomMargin, effectiveLeftMargin, effectiveRightMargin, set, Bool.false_eq_true, if_false,
      origin, false_implies, iff_true, iff_false] <;> omega

/-- The commands put the cursor where it is meant to be just when the margins are not added a second time. ESC F never
    does: its row and its column are swapped. -/
theorem cursorMove_meant_iff (host : Host) (op : CursorMove) (e : TerminalEmulator) (valid : e.ValidMargins)
    (inside : e.OnScreen) (confined : e.Confined) (received : e.mEscapeState = op.sequence.1) :
    ∃ e', (processCodePoint host op.sequence.2).run e = .ok () e' ∧
      (op.Meant e e'.mCursorRow e'.mCursorCol ↔ op.Unshifted e) := by
  obtain ⟨⟨⟩, e', ran, row, col⟩ := ends_sequence host op received
  refine ⟨e', ran, ?_⟩
  rw [row, col]
  exact meant_moved_iff op valid inside confined

theorem exists_regionTop : ∃ e, fed 10 4 [27, 91, 50, 59, 51, 114, 27, 91, 63, 54, 104, 27, 91] = .ok e ∧
    e.mEscapeState = .csi ∧ e.ValidMargins ∧ e.OnScreen ∧ e.Confined ∧ e.Origin ∧
    e.mTopMargin = 1 ∧ e.mBottomMargin = 3 ∧ e.mCursorRow = 1 ∧ e.getArg0 1 = 1 := by
  obtain ⟨e, ran, shown⟩ := exists_of_toOption
    (show (fed 10 4 [27, 91, 50, 59, 51, 114, 27, 91, 63, 54, 104, 27, 91]).toOption.map (fun e =>
        (e.mEscapeState, decide (e.Confined ∧ e.Origin), [e.mTopMargin, e.mBottomMargin, e.mCursorRow, e.getArg0 1, e.mRows,
          e.mCursorCol, e.mColumns])) = some (.csi, true, [1, 3, 1, 1, 4, 0, 10]) by decide +kernel)
  simp only [Prod.mk.injEq, decide_eq_true_eq, List.cons.injEq] at shown
  obtain ⟨csi, ⟨confined, origin⟩, top, bottom, row, arg, rows, col, columns, -⟩ := shown
  have reached := fed_reaches (by decide) (by decide) (fun _ _ _ => trivial) ran
  have onScreen : e.OnScreen := ⟨by omega, by omega⟩
  exact ⟨e, ran, csi, reached.valid.1.toBounded.validMargins, onScreen, confined, origin, top, bottom, row, arg⟩

theorem cursorMove_meant_iff_previousLine :
    ∃ e, fed 10 4 [27, 91, 50, 59, 51, 114, 27, 91, 63, 54, 104, 27, 91] = .ok e ∧
      ∃ e', (processCodePoint plainHost 'F'.toNat).run e = .ok () e' ∧ e.Origin ∧
        previousLine.Meant e e'.mCursorRow e'.mCursorCol := by
  obtain ⟨e, ran, csi, valid, inside, confined, origin, top, bottom, row, arg⟩ := exists_regionTop
  obtain ⟨e', moved, iff⟩ := cursorMove_meant_iff plainHost previousLine e valid inside confined csi
  exact ⟨e, ran, e', moved, origin, iff.mpr fun _ => by omega⟩

/-- HPA at the top of the region moves the cursor down. -/
theorem columnAbsolute_changes_row :
    ∃ e, fed 10 4 [27, 91, 50, 59, 51, 114, 27, 91, 63, 54, 104, 27, 91] = .ok e ∧
      e.ValidMargins ∧ e.OnScreen ∧ e.Confined ∧ e.mCursorRow = 1 ∧
      ∃ e', (processCodePoint plainHost 96).run e = .ok () e' ∧ e'.mCursorRow ≠ e.mCursorRow := by
  obtain ⟨e, ran, csi, valid, inside, confined, origin, top, bottom, row, arg⟩ := exists_regionTop
  obtain ⟨⟨⟩, e', moved, rowMoved, colMoved⟩ := ends_sequence plainHost columnAbsolute csi
  refine ⟨e, ran, valid, inside, confined, row, e', moved, fun kept => ?_⟩
  have unshifted := (meant_moved_iff columnAbsolute valid inside confined).mp (rowMoved.symm.trans kept) origin
  omega

end CursorMove
