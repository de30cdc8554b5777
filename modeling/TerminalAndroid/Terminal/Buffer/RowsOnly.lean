import TerminalAndroid.Terminal.Buffer.Runs

open Java Exec Circular

namespace TerminalBuffer

variable {b : TerminalBuffer}

def window (b : TerminalBuffer) (start : Int) (count : Nat) : List (Option TerminalRow) :=
  (List.range count).map fun k : Nat => b.shown (start + k)

theorem window_add (b : TerminalBuffer) (start : Int) (m n : Nat) :
    b.window start (m + n) = b.window start m ++ b.window (start + m) n := by
  simp only [window, List.range_add, List.map_append, List.map_map]
  congr 1
  refine List.map_congr_left fun k _ => ?_
  rw [Function.comp_apply, Int.natCast_add, Int.add_assoc]

variable {b' : TerminalBuffer} {newRows : Int}

theorem window_congr {start start' : Int} {count : Nat}
    (same : ∀ k : Nat, k < count → b'.shown (start' + k) = b.shown (start + k)) :
    b'.window start' count = b.window start count :=
  List.map_congr_left fun k member => same k (List.mem_range.mp member)

theorem mem_window {start : Int} {count : Nat} {row : Option TerminalRow} (member : row ∈ b.window start count) :
    ∃ r, start ≤ r ∧ r < start + count ∧ b.shown r = row := by
  obtain ⟨k, bound, rfl⟩ := List.mem_map.mp member
  have := List.mem_range.mp bound
  exact ⟨start + k, by omega, by omega, rfl⟩

def allRows (b : TerminalBuffer) : List (Option TerminalRow) :=
  b.window (-b.mActiveTranscriptRows) (b.mActiveTranscriptRows + b.mScreenRows).toNat

def bottomBlanks (b : TerminalBuffer) (cursorRow : Int) : Nat → Nat
  | 0 => 0
  | i + 1 => if (i : Int) + 1 ≤ cursorRow then 0 else if b.blankRow (i + 1) then bottomBlanks b cursorRow i + 1 else 0

theorem bottomBlanks_spec (b : TerminalBuffer) (cursorRow : Int) (i : Nat) {r : Int}
    (lower : i - b.bottomBlanks cursorRow i < r) (upper : r ≤ i) : cursorRow < r ∧ b.blankRow r = true := by
  induction i with
  | zero =>
    rw [bottomBlanks] at lower
    omega
  | succ i ih =>
    rw [bottomBlanks] at lower
    split at lower
    · omega
    · split at lower
      · rename_i below blank
        by_cases last : r = (i : Int) + 1
        · subst last
          exact ⟨by omega, blank⟩
        · exact ih (by omega) (by omega)
      · omega

theorem blanksBelow_le (b : TerminalBuffer) (cursorRow : Int) (i : Nat) (lower : 0 ≤ cursorRow) :
    (b.blanksBelow cursorRow i : Int) ≤ max 0 (i - cursorRow) := by
  induction i with
  | zero =>
    rw [blanksBelow]
    omega
  | succ i ih =>
    rw [blanksBelow]
    split
    · omega
    · split <;> omega

theorem Ring.readable (ring : b.Ring) (fits : ∀ r row, b.shown r = some row → row.mSpaceUsed ≤ row.mText.length) :
    b.Readable := by
  refine ⟨ring.toCounters, fun r lower upper => ?_⟩
  obtain ⟨-, row, -, -, found⟩ := ring.shown_isSome (by have := ring.active_nonneg; omega) upper
  exact ⟨row, found, fits r row found⟩

theorem allRows_shrunk (ring : b.Ring) {shift : Int} (positive : 1 ≤ newRows) (lower : 0 ≤ shift)
    (upper : shift ≤ b.mScreenRows - newRows) :
    b.allRows = (b.shiftedRows shift newRows b.mTotalRows false).allRows ++
      b.window (newRows + shift) (b.mScreenRows - newRows - shift).toNat := by
  have active := ring.active_nonneg
  have count : (b.mActiveTranscriptRows + b.mScreenRows).toNat =
      (max 0 (b.mActiveTranscriptRows + shift) + newRows).toNat + (b.mScreenRows - newRows - shift).toNat := by omega
  unfold allRows
  rw [count, window_add]
  congr 1
  · refine (window_congr fun k _ => ?_).symm
    rw [shown_shiftedRows]
    congr 1
    show shift + (-max 0 (b.mActiveTranscriptRows + shift) + k) = -b.mActiveTranscriptRows + k
    omega
  · congr 1
    omega

theorem allRows_grown (ring : b.Ring) {shift : Int} {style : Style}
    (revealed : Revealed b b' b.mScreenRows (newRows + shift) style) (lower : -b.mActiveTranscriptRows ≤ shift)
    (more : b.mScreenRows ≤ newRows + shift) :
    (b'.shiftedRows shift newRows b.mTotalRows false).allRows =
      b.allRows ++ b'.window b.mScreenRows (newRows + shift - b.mScreenRows).toNat := by
  have active := ring.active_nonneg
  have screen := ring.screen_pos
  have least := ring.active_le
  have sameActive := revealed.active
  have count : (max 0 (b'.mActiveTranscriptRows + shift) + newRows).toNat =
      (b.mActiveTranscriptRows + b.mScreenRows).toNat + (newRows + shift - b.mScreenRows).toNat := by omega
  have moved : (b'.shiftedRows shift newRows b.mTotalRows false).allRows =
      b'.window (-b.mActiveTranscriptRows) (max 0 (b'.mActiveTranscriptRows + shift) + newRows).toNat := by
    refine window_congr fun k _ => ?_
    rw [← revealed.totalRows, shown_shiftedRows]
    congr 1
    show shift + (-max 0 (b'.mActiveTranscriptRows + shift) + k) = -b.mActiveTranscriptRows + k
    omega
  rw [moved, count, window_add]
  congr 1
  · exact window_congr fun k bound => revealed.shown _ (by omega) (by omega) (.inl (by omega))
  · congr 1
    omega

theorem run_resize_rows {newTotalRows row : Int} (cursor : Int × Int) {style : Style} {altScreen : Bool}
    (most : newRows ≤ b.mTotalRows)
    (ran : (resizeRows newRows newTotalRows cursor.2 style altScreen).run b = .ok row b') :
    (resize b.mColumns newRows newTotalRows cursor style altScreen).run b =
      .ok (if cursor.1 < 0 ∨ row < 0 then (0, 0) else (cursor.1, row)) b' := by
  unfold resize
  simp only [EStateM.run_bind, EStateM.run_get, most, and_self, if_true, ran, EStateM.run_pure]

/-- A resize that leaves the columns as they are only drops blank rows from below the cursor or appends blank
    rows, provided the rows it drops are not more than the blank rows at the bottom. -/
theorem resize_rows_keeps_allRows (b : TerminalBuffer) (ring : b.Ring)
    (fits : ∀ r row, b.shown r = some row → row.mSpaceUsed ≤ row.mText.length) (newRows : Int) (positive : 1 ≤ newRows)
    (most : newRows ≤ b.mTotalRows) (cursor : Int × Int) (column : 0 ≤ cursor.1) (top : 0 ≤ cursor.2)
    (bottom : cursor.2 < b.mScreenRows) (style : Style)
    (blanks : b.mScreenRows - newRows ≤ b.bottomBlanks cursor.2 (b.mScreenRows - 1).toNat ∨
      b.blanksBelow cursor.2 (b.mScreenRows - 1).toNat = b.bottomBlanks cursor.2 (b.mScreenRows - 1).toNat) :
    ∃ cursor' b', (resize b.mColumns newRows b.mTotalRows cursor style false).run b = .ok cursor' b' ∧
      ((∃ dropped, b.allRows = b'.allRows ++ dropped ∧ cursor.2 + dropped.length < b.mScreenRows ∧
          ∀ row ∈ dropped, ∃ line, row = some line ∧ line.isBlank = .ok true) ∨
        (∃ added, b'.allRows = b.allRows ++ added ∧
          ∀ row ∈ added, ∃ line, row = some line ∧ BlankRow b.mColumns style line)) ∧
      (if b.mActiveTranscriptRows + cursor.2 < b'.mActiveTranscriptRows then cursor' = (0, 0)
        else cursor'.1 = cursor.1 ∧ 0 ≤ cursor'.2 ∧ cursor'.2 < newRows ∧
          b'.mActiveTranscriptRows + cursor'.2 = b.mActiveTranscriptRows + cursor.2) := by
  have active := ring.active_nonneg
  have least := ring.active_le
  by_cases less : newRows < b.mScreenRows
  · have ran := run_resize_rows cursor most
      ((ring.readable fits).run_resizeRows_shrink positive less b.mTotalRows cursor.2 style false)
    have room := b.blanksBelow_le cursor.2 (b.mScreenRows - 1).toNat top
    generalize shift_eq : b.shrinkShift newRows cursor.2 = shift at ran
    rw [shrinkShift] at shift_eq
    have after : (b.shiftedRows shift newRows b.mTotalRows false).mActiveTranscriptRows =
      max 0 (b.mActiveTranscriptRows + shift) := rfl
    refine ⟨_, _, ran, .inl ⟨_, allRows_shrunk ring positive (by omega) (by omega), ?_, fun row member => ?_⟩, ?_⟩
    · rw [window, List.length_map, List.length_range]
      omega
    · obtain ⟨r, lower, upper, rfl⟩ := mem_window member
      obtain ⟨-, blank⟩ := b.bottomBlanks_spec cursor.2 (b.mScreenRows - 1).toNat (r := r) (by omega) (by omega)
      obtain ⟨-, line, -, -, found⟩ := ring.shown_isSome (r := r) (by omega) (by omega)
      simp only [blankRow, found] at blank
      exact ⟨line, found, by rw [TerminalRow.isBlank_eq (fits r line found), blank]⟩
    · rw [after]
      by_cases above : cursor.2 - shift < 0
      · rw [if_pos (by omega), if_pos (.inr above)]
      · rw [if_neg (by omega), if_neg (by omega)]
        refine ⟨rfl, by show 0 ≤ cursor.2 - shift; omega, by show cursor.2 - shift < newRows; omega, ?_⟩
        show max 0 (b.mActiveTranscriptRows + shift) + (cursor.2 - shift) = b.mActiveTranscriptRows + cursor.2
        omega
  · obtain ⟨shift, shift_eq⟩ : ∃ shift, shift = max (b.mScreenRows - newRows) (-b.mActiveTranscriptRows) := ⟨_, rfl⟩
    obtain ⟨b', revealed, ran⟩ := ring.run_resizeRows_grow (by omega) most shift_eq b.mTotalRows cursor.2 style false
    have sameActive := revealed.active
    have after : (b'.shiftedRows shift newRows b.mTotalRows false).mActiveTranscriptRows =
      max 0 (b'.mActiveTranscriptRows + shift) := rfl
    refine ⟨_, _, run_resize_rows cursor most ran,
      .inr ⟨_, allRows_grown ring revealed (by omega) (by omega), fun row member => ?_⟩, ?_⟩
    · obtain ⟨r, lower, upper, rfl⟩ := mem_window member
      exact revealed.blank ring.toLinked ring.columns_nonneg lower (by omega)
    · rw [after, if_neg (by omega), if_neg (by omega)]
      refine ⟨rfl, by show 0 ≤ cursor.2 - shift; omega, by show cursor.2 - shift < newRows; omega, ?_⟩
      show max 0 (b'.mActiveTranscriptRows + shift) + (cursor.2 - shift) = b.mActiveTranscriptRows + cursor.2
      omega

theorem shown_mem {r : Int} {row : TerminalRow} (found : b.shown r = some row) : row ∈ b.rows := by
  obtain ⟨ref, -, live⟩ := shown_ref found
  exact List.mem_of_getElem? live

theorem smallBuffer_fits (r : Int) (row : TerminalRow) (found : smallBuffer.shown r = some row) :
    row.mSpaceUsed ≤ row.mText.length := by
  have every : ∀ row ∈ smallBuffer.rows, row.mSpaceUsed ≤ row.mText.length := by decide
  exact every row (shown_mem found)

theorem resize_rows_keeps_allRows_small : ∃ cursor' b',
    (resize 2 2 4 (0, 1) 5 false).run smallBuffer = .ok cursor' b' ∧ cursor' = (0, 1) ∧
      b'.mActiveTranscriptRows = 0 := by
  obtain ⟨cursor', b', ran, -, -⟩ := resize_rows_keeps_allRows smallBuffer smallBuffer_ring
    smallBuffer_fits 2 (by decide) (by decide) (0, 1) (by decide) (by decide) (by decide) 5 (by decide)
  have result : (resize 2 2 4 (0, 1) 5 false).run smallBuffer = .ok (0, 1) (smallBuffer.shiftedRows 0 2 4 false) := by
    decide
  rw [show smallBuffer.mColumns = 2 from rfl, show smallBuffer.mTotalRows = 4 from rfl, result] at ran
  cases ran
  exact ⟨_, _, result, rfl, rfl⟩

def built (columns totalRows screenRows : Int) (ops : List BufferOp) : TerminalBuffer :=
  match create columns totalRows screenRows with
  | .ok b => BufferOp.runAll ops b
  | .error _ => allocated columns totalRows screenRows

def gappedScreen : TerminalBuffer := built 2 3 3 [.setChar 0 2 99 0]

def fullScreen : TerminalBuffer := built 2 5 3 [.setChar 0 0 97 0, .setChar 0 1 98 0, .setChar 0 2 99 0]

/-- A blank row between the cursor and the text below makes the text fall off the screen, and a cursor
    above a screen full of text is not on its row any more. -/
theorem resize_rows_loses_text :
    (∃ b', (resize 2 2 3 (0, 0) 0 false).run gappedScreen = .ok (0, 0) b' ∧
      (gappedScreen.allRows.filter fun row => row.any fun row => row.isBlank = .ok false).length = 1 ∧
      (b'.allRows.filter fun row => row.any fun row => row.isBlank = .ok false).length = 0) ∧
    (∃ b', (resize 2 2 5 (1, 0) 0 false).run fullScreen = .ok (0, 0) b' ∧ b'.shown 0 = fullScreen.shown 1 ∧
      b'.shown 0 ≠ fullScreen.shown 0) :=
  ⟨⟨final ((resize 2 2 3 (0, 0) 0 false).run gappedScreen), by decide +kernel⟩,
    ⟨final ((resize 2 2 5 (1, 0) 0 false).run fullScreen), by decide +kernel⟩⟩

def rowAt (b : TerminalBuffer) (index : Int) : Option TerminalRow :=
  (b.mLines[index.toNat]?).join.bind (b.rows[·]?)

theorem shown_eq_rowAt (b : TerminalBuffer) (r : Int) :
    b.shown r = b.rowAt (slot b.mTotalRows b.mScreenFirstRow r) := rfl

def freshScreen : TerminalBuffer := (allocated 2 3 3).freshLines 2 3 3 7

end TerminalBuffer
