import TerminalAndroid.Terminal.Buffer.RowsOnly

open Java Exec Circular

namespace TerminalBuffer

variable {b : TerminalBuffer} {columns : Int} {style : Style}

structure FreshRow (columns : Int) (style : Style) (row : TerminalRow) : Prop extends BlankRow columns style row where
  unwrapped : row.mLineWrap = false
  narrow : row.mHasNonOneWidthOrSurrogateChars = false

def NoWrapAt (b : TerminalBuffer) (r : Int) : Prop :=
  ∀ old, b.shown r = some old → old.mLineWrap = false

theorem cleared_fresh_iff {row : TerminalRow} (width : (row.mColumns : Int) = columns) :
    FreshRow columns style (row.cleared .java style) ↔ row.mLineWrap = false :=
  ⟨fun fresh => fresh.unwrapped, fun unwrapped => ⟨cleared_blank width style, unwrapped, rfl⟩⟩

theorem lineToTouch_unwrapped_iff (r : Int) : (b.lineToTouch r).mLineWrap = false ↔ b.NoWrapAt r := by
  unfold lineToTouch NoWrapAt
  cases b.shown r with
  | none => simp [TerminalRow.create, TerminalRow.cleared]
  | some old => simp

theorem Linked.cleared_fresh_iff (linked : b.Linked) (columns : 0 ≤ b.mColumns) (r : Int) (style : Style) :
    FreshRow b.mColumns style ((b.lineToTouch r).cleared .java style) ↔ b.NoWrapAt r :=
  (TerminalBuffer.cleared_fresh_iff (linked.lineToTouch_width columns r)).trans (lineToTouch_unwrapped_iff r)

/-- The row above the bottom margin is as good as new after a scroll, and a row that growing the screen adds
    below the old ones, exactly when the row object reused for it did not have its wrap flag set. -/
theorem revealed_row_fresh_iff (b : TerminalBuffer) (ring : b.Ring) (style : Style) :
    (∀ top bottom, 0 ≤ top → top < bottom → bottom ≤ b.mScreenRows →
      ∃ b' row, (scrollDownOneLine top bottom style).run b = .ok () b' ∧ b'.shown (bottom - 1) = some row ∧
        (FreshRow b.mColumns style row ↔
          b.NoWrapAt (if b.mScreenRows < b.mTotalRows then b.mScreenRows else top))) ∧
    (∀ newRows newTotalRows cursor altScreen, b.mScreenRows ≤ newRows → newRows ≤ b.mTotalRows →
      ∃ cursor' b', (resize b.mColumns newRows newTotalRows cursor style altScreen).run b = .ok cursor' b' ∧
        ∀ r, b.mScreenRows ≤ r → r < max b.mScreenRows (newRows - b.mActiveTranscriptRows) →
          ∃ row, b'.rowAt (slot b.mTotalRows b.mScreenFirstRow r) = some row ∧
            (newTotalRows = b.mTotalRows →
              b'.shown (r - max (b.mScreenRows - newRows) (-b.mActiveTranscriptRows)) = some row) ∧
            (FreshRow b.mColumns style row ↔ b.NoWrapAt r)) := by
  have columns := ring.columns_nonneg
  constructor
  · intro top bottom top_nonneg less bottom_le
    obtain ⟨b', ran, scrolled⟩ := exists_scrolled top_nonneg less bottom_le ring style
    have source : scrollSource b top bottom bottom =
        if b.mScreenRows < b.mTotalRows then b.mScreenRows else top := by
      rw [scrollSource, if_neg (Int.lt_irrefl bottom), if_pos rfl]
    exact ⟨b', _, ran, scrolled.cleared, source ▸ ring.cleared_fresh_iff columns _ style⟩
  · intro newRows newTotalRows cursor altScreen more most
    obtain ⟨shift, shift_eq⟩ : ∃ shift, shift = max (b.mScreenRows - newRows) (-b.mActiveTranscriptRows) := ⟨_, rfl⟩
    obtain ⟨b', revealed, ran⟩ :=
      ring.run_resizeRows_grow more most shift_eq newTotalRows cursor.2 style altScreen
    refine ⟨_, _, run_resize_rows cursor most ran, fun r lower upper => ?_⟩
    have found := revealed.cleared r lower (by omega)
    refine ⟨_, ?_, fun same => ?_, ring.cleared_fresh_iff columns r style⟩
    · rw [shown_eq_rowAt, revealed.totalRows, revealed.first] at found
      exact found
    · rw [same, ← revealed.totalRows, shown_shiftedRows, shift_eq, ← found]
      congr 1
      omega

theorem smallBuffer_noWrap : ∀ r, smallBuffer.NoWrapAt r := by
  have every : ∀ row ∈ smallBuffer.rows, row.mLineWrap = false := by decide
  exact fun r old found => every old (shown_mem found)

theorem revealed_row_fresh_small :
    (∃ b' row, (scrollDownOneLine 0 3 9).run smallBuffer = .ok () b' ∧ b'.shown 2 = some row ∧ FreshRow 2 9 row) ∧
    ∃ cursor' b' row, (resize 2 4 4 (0, 0) 9 false).run smallBuffer = .ok cursor' b' ∧ b'.shown 3 = some row ∧
      FreshRow 2 9 row := by
  obtain ⟨scrolls, grows⟩ := revealed_row_fresh_iff smallBuffer smallBuffer_ring 9
  obtain ⟨b', row, ran, found, iff⟩ := scrolls 0 3 (by decide) (by decide) (by decide)
  obtain ⟨cursor', b'', grown, every⟩ := grows 4 4 (0, 0) false (by decide) (by decide)
  obtain ⟨row', -, shown, iff'⟩ := every 3 (by decide) (by decide)
  exact ⟨⟨b', row, ran, found, iff.mpr (smallBuffer_noWrap _)⟩,
    cursor', b'', row', grown, shown rfl, iff'.mpr (smallBuffer_noWrap _)⟩

def wrappedScreen : TerminalBuffer := final ((setLineWrap 0).run freshScreen)

theorem wrappedScreen_ring : wrappedScreen.Ring := by
  have ring : RingOf 3 freshScreen := ⟨freshLines_ring _ (by decide) (by decide) (by decide) 7, rfl⟩
  exact (@setLineWrap_frame (Keeps (RingOf 3)) _ 0 freshScreen ring).1

theorem scrollDownOneLine_keeps_wrap : wrappedScreen.Ring ∧
    ∃ b' row, (scrollDownOneLine 0 3 9).run wrappedScreen = .ok () b' ∧ b'.shown 2 = some row ∧
      row.mLineWrap = true ∧ ¬ FreshRow 2 9 row := by
  have scrolled : ∃ row, (final ((scrollDownOneLine 0 3 9).run wrappedScreen)).shown 2 = some row ∧
      row.mLineWrap = true := ⟨_, rfl, by decide⟩
  obtain ⟨row, found, wrapped⟩ := scrolled
  exact ⟨wrappedScreen_ring, _, row, by decide, found, wrapped,
    fun fresh => Bool.noConfusion (wrapped.symm.trans fresh.unwrapped)⟩

end TerminalBuffer
