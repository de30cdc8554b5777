import TerminalAndroid.Terminal.Buffer.Frames
import TerminalAndroid.Terminal.Buffer.Scroll

open Java Exec Circular

namespace TerminalBuffer

def RingOf (total : Int) (b : TerminalBuffer) : Prop := b.Ring ∧ b.mTotalRows = total

variable {total : Int}

theorem withRow_keeps {α : Type} (ref : Nat) {method : RowM α}
    (width : Frame (fun row row' => row'.mColumns = row.mColumns) method) :
    Frame (Keeps (RingOf total)) (withRow ref method) := by
  intro b ⟨ring, size⟩
  cases live : b.rows[ref]? with
  | none =>
    simp only [withRow, EStateM.run, live]
    exact ⟨ring, size⟩
  | some row =>
    have same := width row
    rw [run_withRow live]
    cases ran : method.run row with
    | ok a row' | error thrown row' =>
      rw [ran] at same
      exact ⟨ring.setRow live same, size⟩

theorem allocateFullLineIfNecessary_keeps (row : Int) :
    Frame (Keeps (RingOf total)) (allocateFullLineIfNecessary row) := by
  intro b ⟨ring, size⟩
  unfold allocateFullLineIfNecessary
  rw [EStateM.run_bind]
  by_cases inside : 0 ≤ row ∧ row < b.mLines.length
  · obtain ⟨index, rfl⟩ := Int.eq_ofNat_of_zero_le inside.1
    have bound : index < b.mLines.length := by omega
    have entry := List.getElem?_eq_getElem bound
    have read : (getLine (index : Int)).run b = .ok b.mLines[index] b := run_readArray entry b
    rw [read]
    cases line : b.mLines[index] with
    | some ref => exact ⟨ring, size⟩
    | none =>
      rw [line] at entry
      have put : (setLine (index : Int) (some b.rows.length)).run
          { b with rows := b.rows ++ [TerminalRow.create b.mColumns.toNat 0] } =
            .ok () { b with
              rows := b.rows ++ [TerminalRow.create b.mColumns.toNat 0]
              mLines := b.mLines.set index (some b.rows.length) } := by
        unfold setLine
        simp only [EStateM.run_bind, EStateM.run_get, run_writeArray b.mLines index _ bound, EStateM.run_set]
      simp only [EStateM.run_bind, EStateM.run_get, run_newRow ring.columns_nonneg, put]
      exact ⟨ring.fillLine entry (Int.toNat_of_nonneg ring.columns_nonneg), size⟩
  · have outside : (getLine row).run b = .error .indexOutOfBounds b := by
      unfold getLine readArray
      simp only [EStateM.run_bind, EStateM.run_get]
      split
      · rw [List.getElem?_eq_none (by omega)]
        rfl
      · rfl
    rw [outside]
    exact ⟨ring, size⟩

theorem scrollDownOneLine_keeps (topMargin bottomMargin : Int) (style : Style) :
    Frame (Keeps (RingOf total)) (scrollDownOneLine topMargin bottomMargin style) := by
  intro b ⟨ring, size⟩
  by_cases margins : bottomMargin - 1 < topMargin ∨ topMargin < 0 ∨ b.mScreenRows < bottomMargin
  · unfold scrollDownOneLine
    simp only [EStateM.run_bind, EStateM.run_get, margins, if_true, EStateM.run_throw]
    exact ⟨ring, size⟩
  · obtain ⟨b', ran, scrolled⟩ :=
      exists_scrolled (show 0 ≤ topMargin by omega) (by omega) (show bottomMargin ≤ b.mScreenRows by omega) ring style
    rw [ran]
    exact ⟨scrolled.ring, scrolled.totalRows.trans size⟩

instance : Framed (Keeps (RingOf total)) where
  withRow := withRow_keeps
  allocate := allocateFullLineIfNecessary_keeps
  scroll := scrollDownOneLine_keeps

theorem arraysFill_eq {α : Type} (array : List α) (fromIndex toIndex : Int) (ordered : fromIndex ≤ toIndex)
    (lower : 0 ≤ fromIndex) (upper : toIndex ≤ array.length) (value : α) :
    ∃ filled, arraysFill array fromIndex toIndex value = .ok filled ∧ filled.length = array.length ∧
      ∀ i : Nat, filled[i]? = if fromIndex ≤ i ∧ (i : Int) < toIndex then some value else array[i]? := by
  refine ⟨_, by rw [arraysFill, if_neg (by omega), if_neg (by omega)], ?_, fun i => ?_⟩
  · simp only [List.length_append, List.length_take, List.length_replicate, List.length_drop]
    omega
  · by_cases before : (i : Int) < fromIndex
    · rw [if_neg (by omega), List.append_assoc, List.getElem?_append_left (by simp; omega),
        List.getElem?_take_of_lt (by omega)]
    · by_cases inside : (i : Int) < toIndex
      · rw [if_pos (by omega), List.append_assoc, List.getElem?_append_right (by simp; omega),
          List.getElem?_append_left (by simp; omega), List.getElem?_replicate, if_pos (by simp; omega)]
      · rw [if_neg (by omega), List.getElem?_append_right (by simp; omega), List.getElem?_drop]
        congr 1
        simp
        omega

theorem Ring.withoutTranscript {b : TerminalBuffer} (ring : b.Ring) {lines : List (Option Nat)}
    (length : lines.length = b.mLines.length)
    (subset : ∀ i ref : Nat, lines[i]? = some (some ref) → b.mLines[i]? = some (some ref))
    (screen : ∀ r, 0 ≤ r → r < b.mScreenRows → look lines b.mScreenFirstRow r = look b.mLines b.mScreenFirstRow r) :
    ({ b with mLines := lines, mActiveTranscriptRows := 0 } : TerminalBuffer).Ring := by
  have least := ring.screen_le
  have counters : ({ b with mLines := lines, mActiveTranscriptRows := 0 } : TerminalBuffer).Sized :=
    { ring.toSized with
      length := by simpa [length] using ring.length
      active_nonneg := Int.le_refl 0
      active_le := by
        show (0 : Int) ≤ b.mTotalRows - b.mScreenRows
        omega }
  refine ⟨⟨counters, ?_, ?_⟩, ?_⟩
  · exact fun i ref found => ring.live i ref (subset i ref found)
  · exact fun i j ref left right => ring.distinct i j ref (subset i ref left) (subset j ref right)
  · intro r lower upper
    have nonneg : 0 ≤ r := by simpa using lower
    obtain ⟨ref, found⟩ := ring.filled r (by have := ring.active_nonneg; omega) upper
    exact ⟨ref, (screen r nonneg upper).trans found⟩

theorem Ring.exists_clearTranscript {b : TerminalBuffer} (ring : b.Ring) :
    ∃ lines, clearTranscript.run b = .ok () { b with mLines := lines, mActiveTranscriptRows := 0 } ∧
      lines.length = b.mLines.length ∧ (∀ i ref : Nat, lines[i]? = some (some ref) → b.mLines[i]? = some (some ref)) ∧
      ∀ r, 0 ≤ r → r < b.mScreenRows → look lines b.mScreenFirstRow r = look b.mLines b.mScreenFirstRow r := by
  have length := ring.length
  have first := ring.first_nonneg
  have last := ring.first_lt
  have active := ring.active_nonneg
  have most := ring.active_le
  have screen := ring.screen_pos
  have positive : (0 : Int) < b.mLines.length := Int.natCast_pos.mpr ring.length_pos
  have index : ∀ r, 0 ≤ r → r < b.mScreenRows →
      slot b.mLines.length b.mScreenFirstRow r = b.mScreenFirstRow + r ∧ b.mScreenFirstRow + r < b.mTotalRows ∨
      slot b.mLines.length b.mScreenFirstRow r = b.mScreenFirstRow + r - b.mTotalRows ∧
        b.mTotalRows ≤ b.mScreenFirstRow + r := by
    intro r lower upper
    by_cases turned : b.mScreenFirstRow + r < b.mTotalRows
    · exact .inl ⟨slot_of_range (by omega) (by omega), turned⟩
    · refine .inr ⟨?_, by omega⟩
      rw [← slot_sub_self, slot_of_range (by omega) (by omega)]
      omega
  unfold clearTranscript
  rw [EStateM.run_bind, EStateM.run_get]
  dsimp only
  by_cases wraps : b.mScreenFirstRow < b.mActiveTranscriptRows
  · obtain ⟨lines, filled, sameLength, entries⟩ := arraysFill_eq b.mLines
      (b.mTotalRows + b.mScreenFirstRow - b.mActiveTranscriptRows) b.mTotalRows
      (by omega) (by omega) (by omega) none
    obtain ⟨lines', filled', sameLength', entries'⟩ := arraysFill_eq lines 0 b.mScreenFirstRow first (by omega) (by omega) none
    rw [if_pos wraps]
    simp only [EStateM.run_bind, filled, run_liftResult_ok, EStateM.run_set, filled', EStateM.run_modify]
    refine ⟨lines', rfl, sameLength'.trans sameLength, ?_, ?_⟩
    · intro i ref found
      rw [entries' i, entries i] at found
      split at found
      · cases found
      · split at found
        · cases found
        · exact found
    · intro r lower upper
      have place := index r lower upper
      have nonneg := slot_nonneg positive b.mScreenFirstRow r
      rw [look, look, sameLength', sameLength, entries', if_neg (by omega), entries, if_neg (by omega)]
  · obtain ⟨lines, filled, sameLength, entries⟩ := arraysFill_eq b.mLines
      (b.mScreenFirstRow - b.mActiveTranscriptRows) b.mScreenFirstRow (by omega) (by omega) (by omega) none
    rw [if_neg wraps]
    simp only [EStateM.run_bind, filled, run_liftResult_ok, EStateM.run_set, EStateM.run_modify]
    refine ⟨lines, rfl, sameLength, ?_, ?_⟩
    · intro i ref found
      rw [entries i] at found
      split at found
      · cases found
      · exact found
    · intro r lower upper
      have place := index r lower upper
      have nonneg := slot_nonneg positive b.mScreenFirstRow r
      rw [look, look, sameLength, entries, if_neg (by omega)]

theorem clearTranscript_keeps : Frame (Keeps (RingOf total)) clearTranscript := by
  intro b ⟨ring, size⟩
  obtain ⟨lines, ran, length, subset, screen⟩ := ring.exists_clearTranscript
  rw [ran]
  exact ⟨ring.withoutTranscript length subset screen, size⟩

end TerminalBuffer
