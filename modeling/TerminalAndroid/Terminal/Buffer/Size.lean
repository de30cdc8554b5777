import TerminalAndroid.Exec.Returns
import TerminalAndroid.Terminal.Buffer.Runs

open Java Exec

namespace TerminalBuffer

structure SameSize (b b' : TerminalBuffer) : Prop where
  columns : b'.mColumns = b.mColumns
  screenRows : b'.mScreenRows = b.mScreenRows
  totalRows : b'.mTotalRows = b.mTotalRows

instance : Std.Refl SameSize := ⟨fun _ => ⟨rfl, rfl, rfl⟩⟩

instance : IsTrans TerminalBuffer SameSize :=
  ⟨fun _ _ _ first second => ⟨second.columns.trans first.columns, second.screenRows.trans first.screenRows,
    second.totalRows.trans first.totalRows⟩⟩

section Frames

theorem withRow_sameSize {α : Type} (ref : Nat) (method : RowM α) : Frame SameSize (withRow ref method) := by
  intro b
  unfold withRow EStateM.run
  dsimp only
  split
  · exact ⟨rfl, rfl, rfl⟩
  · split <;> exact ⟨rfl, rfl, rfl⟩

theorem newRow_sameSize (columns : Int) (style : Style) : Frame SameSize (newRow columns style) := by
  intro b
  unfold newRow
  split <;> exact ⟨rfl, rfl, rfl⟩

theorem setLine_sameSize (index : Int) (ref : Option Nat) : Frame SameSize (setLine index ref) := by
  refine Frame.get_bind fun b => ?_
  unfold writeArray
  split <;> exact ⟨rfl, rfl, rfl⟩

theorem allocate_sameSize (row : Int) : Frame SameSize (allocateFullLineIfNecessary row) := by
  refine Frame.bind (getLine_frame row) fun line => ?_
  cases line with
  | some ref => exact Frame.pure ref
  | none =>
    refine Frame.get_bind fun b => Frame.bind (newRow_sameSize _ _) (fun ref => ?_) b
    exact Frame.bind (setLine_sameSize _ _) fun _ => Frame.pure ref

theorem copyLinesLoop_sameSize (srcInternal totalRows : Int) (count : Nat) :
    Frame SameSize (copyLinesLoop srcInternal totalRows count) := by
  induction count with
  | zero => exact Frame.pure ()
  | succ count ih =>
    refine Frame.bind (liftResult_frame _) fun target => Frame.bind (liftResult_frame _) fun source => ?_
    exact Frame.bind (getLine_frame _) fun line => Frame.bind (setLine_sameSize _ _) fun _ => ih

theorem blockCopyLinesDown_sameSize (srcInternal len : Int) : Frame SameSize (blockCopyLinesDown srcInternal len) := by
  unfold blockCopyLinesDown
  refine Frame.ite (fun _ => Frame.pure ()) fun _ => Frame.get_bind fun b => ?_
  refine Frame.bind (liftResult_frame _) (fun last => Frame.bind (getLine_frame _) fun line => ?_) b
  refine Frame.bind (copyLinesLoop_sameSize _ _ _) fun _ => Frame.bind (liftResult_frame _) fun first => ?_
  exact setLine_sameSize _ _

theorem scrollDownOneLine_sameSize (topMargin bottomMargin : Int) (style : Style) :
    Frame SameSize (scrollDownOneLine topMargin bottomMargin style) := by
  refine Frame.get_bind fun b => ?_
  dsimp only
  split
  · exact ⟨rfl, rfl, rfl⟩
  · refine Frame.bind (blockCopyLinesDown_sameSize _ _) (fun _ => ?_) b
    refine Frame.bind (externalToInternalRow_frame _) fun bottom => Frame.bind (blockCopyLinesDown_sameSize _ _) fun _ => ?_
    refine Frame.bind (liftResult_frame _) fun first => Frame.bind (Frame.modify fun b => ⟨rfl, rfl, rfl⟩) fun _ => ?_
    refine Frame.bind (externalToInternalRow_frame _) fun blankRow => Frame.bind (getLine_frame _) fun line => ?_
    cases line with
    | none => exact Frame.bind (newRow_sameSize _ _) fun ref => setLine_sameSize _ _
    | some ref => exact withRow_sameSize _ _

instance : Framed SameSize where
  withRow := fun ref method _ => withRow_sameSize ref method
  allocate := allocate_sameSize
  scroll := scrollDownOneLine_sameSize

theorem clearTranscript_sameSize : Frame SameSize clearTranscript := by
  refine Frame.get_bind fun b => ?_
  split
  · rw [EStateM.run_bind]
    cases arraysFill b.mLines (b.mTotalRows + b.mScreenFirstRow - b.mActiveTranscriptRows) b.mTotalRows none with
    | error thrown => exact ⟨rfl, rfl, rfl⟩
    | ok lines =>
      simp only [EStateM.run_bind, run_liftResult_ok, EStateM.run_set]
      cases arraysFill lines 0 b.mScreenFirstRow none <;> exact ⟨rfl, rfl, rfl⟩
  · rw [EStateM.run_bind]
    cases arraysFill b.mLines (b.mScreenFirstRow - b.mActiveTranscriptRows) b.mScreenFirstRow none <;>
      exact ⟨rfl, rfl, rfl⟩

theorem clearRevealedRows_sameSize (style : Style) (count : Nat) (i : Int) :
    Frame SameSize (clearRevealedRows style count i) := by
  induction count generalizing i with
  | zero => exact Frame.pure ()
  | succ count ih =>
    refine Frame.get_bind fun b => Frame.bind (liftResult_frame _) (fun row => Frame.bind ?_ fun _ => ih _) b
    exact onLine_frame row (Frame.modify fun _ => rfl)

theorem create_sameSize {columns totalRows screenRows : Int} {b : TerminalBuffer}
    (created : create columns totalRows screenRows = .ok b) : SameSize (allocated columns totalRows screenRows) b := by
  unfold create at created
  split at created
  · cases created
  · split at created
    next a b' ran =>
      cases created
      exact Returns.of_frame (blockSet_frame _ _ _ _ _ _) _ _ _ ran
    · cases created

end Frames

def OfSize (columns rows : Int) (b : TerminalBuffer) : Prop := b.mColumns = columns ∧ b.mScreenRows = rows

variable {columns rows : Int}

theorem OfSize.triple {α : Type} {m : BufferM α} (frame : Frame SameSize m) :
    Triple (OfSize columns rows) m (fun _ => OfSize columns rows) (fun _ _ => True) := by
  intro b size
  have same := frame b
  cases ran : m.run b with
  | error thrown b' => trivial
  | ok a b' =>
    rw [ran] at same
    exact ⟨same.columns.trans size.1, same.screenRows.trans size.2⟩

def Reflow.Fits (columns rows : Int) (reflow : Reflow) : Prop :=
  reflow.newCursorColumn < columns ∧ reflow.newCursorRow < rows

variable {reflow : Reflow} {style : Style}

section Cursor

theorem nextOutputRow_fits (style : Style) (adjustCursor : Bool) (fits : reflow.Fits columns rows) :
    Triple (OfSize columns rows) (nextOutputRow style adjustCursor reflow)
      (fun reflow' b => b.OfSize columns rows ∧ reflow'.Fits columns rows) (fun _ _ => True) := by
  intro b size
  refine Triple.ite (fun _ => ?_) (fun _ => Triple.pure _ fun b size => ⟨size, fits⟩) b size
  refine Triple.bind (OfSize.triple (scrollDownOneLine_sameSize _ _ _)) fun _ => Triple.pure _ fun b size => ⟨size, fits.1, ?_⟩
  have := fits.2
  dsimp only
  split <;> omega

theorem insertSkippedLines_fits (style : Style) (count : Nat) (fits : reflow.Fits columns rows) :
    Triple (OfSize columns rows) (insertSkippedLines style count reflow)
      (fun reflow' b => b.OfSize columns rows ∧ reflow'.Fits columns rows) (fun _ _ => True) := by
  induction count generalizing reflow with
  | zero => exact Triple.pure _ fun b size => ⟨size, fits⟩
  | succ count ih =>
    refine Triple.bind (nextOutputRow_fits style false fits) fun reflow' b after => ih after.2 b after.1

theorem setChar_inside (column row : Int) (codePoint : Nat) (style : Style) :
    Triple (OfSize columns rows) (setChar column row codePoint style)
      (fun _ b => b.OfSize columns rows ∧ row < rows ∧ column < columns) (fun _ _ => True) := by
  intro b size
  have same := OfSize.triple (setChar_frame column row codePoint style) b size
  cases ran : (setChar column row codePoint style).run b with
  | error thrown b' => trivial
  | ok a b' =>
    rw [ran] at same
    refine ⟨same, ?_⟩
    by_contra outside
    rw [← size.1, ← size.2] at outside
    unfold setChar at ran
    simp only [EStateM.run_bind, EStateM.run_get,
      show row < 0 ∨ b.mScreenRows ≤ row ∨ column < 0 ∨ b.mColumns ≤ column by omega, if_true, EStateM.run_throw] at ran
    cases ran

theorem reflowCodePoint_fits (style : Style) (cursorAtThisRow : Bool) (oldCursorColumn currentOldCol : Int)
    (codePoint : Nat) (styleAtCol : Style) (fits : reflow.Fits columns rows) :
    Triple (OfSize columns rows)
      (reflowCodePoint style cursorAtThisRow oldCursorColumn currentOldCol codePoint styleAtCol reflow)
      (fun result b => b.OfSize columns rows ∧ result.1.Fits columns rows) (fun _ _ => True) := by
  intro b size
  have wrapped : Triple (OfSize columns rows)
      (if b.mColumns < reflow.currentOutputExternalColumn + WcWidth.width codePoint then do
        setLineWrap reflow.currentOutputExternalRow
        nextOutputRow style true reflow
      else pure reflow : BufferM Reflow)
      (fun reflow' b => b.OfSize columns rows ∧ reflow'.Fits columns rows) (fun _ _ => True) :=
    Triple.ite (fun _ => Triple.bind (OfSize.triple (setLineWrap_frame _)) fun _ => nextOutputRow_fits style true fits)
      fun _ => Triple.pure _ fun b size => ⟨size, fits⟩
  refine Triple.bind wrapped (fun reflow' b' after => ?_) b size
  refine Triple.bind (setChar_inside _ _ _ _) (fun _ => Triple.ite (fun wide => ?_) fun _ => ?_) b' after.1
  · refine Triple.pure _ fun b inside => ⟨inside.1, ?_⟩
    rw [if_neg (by omega)] at inside
    dsimp only
    split
    · exact ⟨by simpa using inside.2.2, inside.2.1⟩
    · exact after.2
  · exact Triple.pure _ fun b inside => ⟨inside.1, after.2⟩

theorem reflowChars_fits (style : Style) (oldLine : TerminalRow) (cursorAtThisRow : Bool)
    (oldCursorColumn lastNonSpaceIndex : Int) (chars : List Nat) (i : Nat) (currentOldCol : Int) (styleAtCol : Style)
    (fits : reflow.Fits columns rows) :
    Triple (OfSize columns rows) (reflowChars style oldLine cursorAtThisRow oldCursorColumn lastNonSpaceIndex
      chars i currentOldCol styleAtCol reflow) (fun reflow' b => b.OfSize columns rows ∧ reflow'.Fits columns rows)
      (fun _ _ => True) := by
  have read : ∀ (p : Prop) [Decidable p] (col : Int) (style : Style),
      Frame SameSize (if p then readArray oldLine.mStyle col else pure style : BufferM Style) :=
    fun _ _ _ _ => Frame.ite (fun _ => readArray_frame _ _) fun _ => Frame.pure _
  fun_induction reflowChars style oldLine cursorAtThisRow oldCursorColumn lastNonSpaceIndex chars i currentOldCol
    styleAtCol reflow with
  | case1 | case3 => exact Triple.throw _ fun _ _ => trivial
  | case2 | case6 => exact Triple.pure _ fun b size => ⟨size, fits⟩
  | case4 c i currentOldCol styleAtCol reflow more high d chars codePoint ih =>
    clear_value codePoint
    refine Triple.bind (OfSize.triple (read _ _ _)) fun style => ?_
    refine Triple.bind (reflowCodePoint_fits _ _ _ _ _ _ fits) fun result b after => ?_
    exact Triple.ite (fun _ => Triple.pure _ fun b size => ⟨size, after.2⟩) (fun _ => ih _ _ after.2) b after.1
  | case5 c chars i currentOldCol styleAtCol reflow more bmp ih =>
    refine Triple.bind (OfSize.triple (read _ _ _)) fun style => ?_
    refine Triple.bind (reflowCodePoint_fits _ _ _ _ _ _ fits) fun result b after => ?_
    exact Triple.ite (fun _ => Triple.pure _ fun b size => ⟨size, after.2⟩) (fun _ => ih _ _ after.2) b after.1

theorem reflowLine_fits (style : Style) (oldLine : TerminalRow) (cursorAtThisRow lastRow : Bool) (oldCursorColumn : Int)
    (fits : reflow.Fits columns rows) :
    Triple (OfSize columns rows) (reflowLine style oldLine cursorAtThisRow lastRow oldCursorColumn reflow)
      (fun reflow' b => b.OfSize columns rows ∧ reflow'.Fits columns rows) (fun _ _ => True) := by
  refine Triple.bind (insertSkippedLines_fits _ _ fits) fun reflow b after => ?_
  refine Triple.bind (OfSize.triple (liftResult_frame _)) (fun last => ?_) b after.1
  refine Triple.bind (reflowChars_fits _ _ _ _ _ _ _ _ _ after.2) fun reflow b after => ?_
  exact Triple.ite (fun _ => nextOutputRow_fits _ _ after.2) (fun _ => Triple.pure _ fun b size => ⟨size, after.2⟩) b after.1

theorem reflowRows_fits (style : Style) (old : OldLines) (oldCursorColumn oldCursorRow : Int) (count : Nat)
    (externalOldRow : Int) (fits : reflow.Fits columns rows) :
    Triple (OfSize columns rows) (reflowRows style old oldCursorColumn oldCursorRow count externalOldRow reflow)
      (fun reflow' b => b.OfSize columns rows ∧ reflow'.Fits columns rows) (fun _ _ => True) := by
  induction count generalizing externalOldRow reflow with
  | zero => exact Triple.pure _ fun b size => ⟨size, fits⟩
  | succ count ih =>
    refine Triple.bind (OfSize.triple (liftResult_frame _)) fun index => ?_
    refine Triple.bind (OfSize.triple (readArray_frame _ _)) fun ref => ?_
    refine Triple.bind ?_ fun reflow b (after : b.OfSize columns rows ∧ reflow.Fits columns rows) =>
      ih _ after.2 b after.1
    cases ref with
    | none => exact Triple.pure _ fun b size => ⟨size, fits⟩
    | some ref =>
      refine Triple.bind (OfSize.triple (withRow_sameSize ref _)) fun oldLine => ?_
      refine Triple.bind (OfSize.triple (liftResult_frame _)) fun blank => ?_
      exact Triple.ite (fun _ => Triple.pure _ fun b size => ⟨size, fits⟩) fun _ => reflowLine_fits _ _ _ _ _ fits

structure Resized (newColumns newRows newTotalRows : Int) (b' : TerminalBuffer) : Prop where
  columns : b'.mColumns = newColumns
  screenRows : b'.mScreenRows = newRows
  totalRows : b'.mTotalRows = newTotalRows

variable {newColumns newRows newTotalRows : Int} {b b' : TerminalBuffer}

theorem Resized.of_sameSize {b₀ : TerminalBuffer} (resized : Resized newColumns newRows newTotalRows b₀)
    (same : SameSize b₀ b') : Resized newColumns newRows newTotalRows b' :=
  ⟨same.columns.trans resized.columns, same.screenRows.trans resized.screenRows, same.totalRows.trans resized.totalRows⟩

theorem reflowAll_resized {cursor : Int × Int} (wide : 0 ≤ newColumns)
    (high : 0 ≤ newRows) (ran : (reflowAll newColumns newRows newTotalRows cursor style).run b = .ok reflow b') :
    Resized newColumns newRows newTotalRows b' ∧ reflow.Fits newColumns newRows := by
  by_cases negative : newTotalRows < 0
  · unfold reflowAll at ran
    simp only [EStateM.run_bind, EStateM.run_get, negative, if_true, EStateM.run_throw] at ran
    cases ran
  · rw [run_reflowAll wide (by omega)] at ran
    have start : Resized newColumns newRows newTotalRows (b.freshLines newColumns newRows newTotalRows style) := by
      refine ⟨rfl, rfl, ?_⟩
      show ((List.replicate newTotalRows.toNat _).length : Int) = newTotalRows
      rw [List.length_replicate]
      omega
    have same : SameSize _ b' := Returns.of_frame (reflowRows_frame _ _ _ _ _ _ _) _ _ _ ran
    have fits := (reflowRows_fits style b.oldLines cursor.1 cursor.2 (b.mActiveTranscriptRows + b.mScreenRows).toNat
      (-b.mActiveTranscriptRows) (show Reflow.Fits newColumns newRows {} by exact ⟨by show -1 < _; omega, by show -1 < _; omega⟩)).ok
      ⟨rfl, rfl⟩ ran
    exact ⟨start.of_sameSize same, fits.2⟩

theorem shiftOfRows_bound {cursorRow shift : Int}
    (ran : (if 0 < b.mScreenRows - newRows ∧ b.mScreenRows - newRows < b.mScreenRows then
        skipBlankRows cursorRow (b.mScreenRows - 1).toNat (b.mScreenRows - newRows)
      else if b.mScreenRows - newRows < 0 then do
        let actualShift := max (b.mScreenRows - newRows) (-b.mActiveTranscriptRows)
        clearRevealedRows style (actualShift - (b.mScreenRows - newRows)).toNat 0
        pure actualShift
      else pure (b.mScreenRows - newRows) : BufferM Int).run b = .ok shift b') :
    SameSize b b' ∧ (1 ≤ newRows → 0 ≤ cursorRow →
      cursorRow < b.mScreenRows ∨ (cursorRow < newRows ∧ newRows ≤ b.mScreenRows) → cursorRow - shift < newRows) := by
  split at ran
  next shrinks =>
    obtain ⟨rfl, lower, upper, least⟩ := (skipBlankRows_range cursorRow _ shrinks.1 b).ok rfl ran
    exact ⟨Std.Refl.refl _, by omega⟩
  · split at ran
    next grows =>
      obtain ⟨_, t, cleared, rest⟩ := bind_inv ran
      have same : SameSize b t := Returns.of_frame (clearRevealedRows_sameSize _ _ _) _ _ _ cleared
      cases rest
      exact ⟨same, by omega⟩
    · cases ran
      exact ⟨Std.Refl.refl _, by omega⟩

theorem resizeRows_resized {cursorRow row : Int} {altScreen : Bool}
    (ran : (resizeRows newRows newTotalRows cursorRow style altScreen).run b = .ok row b') :
    Resized b.mColumns newRows newTotalRows b' ∧ (1 ≤ newRows → 0 ≤ cursorRow →
      cursorRow < b.mScreenRows ∨ (cursorRow < newRows ∧ newRows ≤ b.mScreenRows) → row < newRows) := by
  obtain ⟨buffer, t, got, rest⟩ := bind_inv ran
  cases got
  obtain ⟨shift, t, shifted, rest⟩ := bind_inv rest
  obtain ⟨same, bound⟩ := shiftOfRows_bound shifted
  dsimp only at rest
  obtain ⟨first, t', lifted, rest⟩ := bind_inv rest
  have unchanged : SameSize t t' := Returns.of_frame (liftResult_frame _) _ _ _ lifted
  cases rest
  exact ⟨⟨unchanged.columns.trans same.columns, rfl, rfl⟩, bound⟩

theorem resize_resized {cursor cursor' : Int × Int} {altScreen : Bool} (wide : 1 ≤ newColumns)
    (high : 1 ≤ newRows)
    (ran : (resize newColumns newRows newTotalRows cursor style altScreen).run b = .ok cursor' b') :
    Resized newColumns newRows newTotalRows b' ∧ (0 ≤ cursor.1 → cursor.1 < newColumns ∨ cursor.1 < b.mColumns →
      0 ≤ cursor.2 → cursor.2 < b.mScreenRows ∨ (cursor.2 < newRows ∧ newRows ≤ b.mScreenRows) ∨ b.mTotalRows < newRows →
      (0 ≤ cursor'.1 ∧ cursor'.1 < newColumns) ∧ 0 ≤ cursor'.2 ∧ cursor'.2 < newRows) := by
  obtain ⟨buffer, t, got, rest⟩ := bind_inv ran
  cases got
  obtain ⟨found, t, resized, rest⟩ := bind_inv rest
  cases rest
  split at resized
  next same =>
    obtain ⟨row, t', rows, rest⟩ := bind_inv resized
    cases rest
    obtain ⟨size, bound⟩ := resizeRows_resized rows
    rw [← same.1] at size
    refine ⟨size, fun left right top bottom => ?_⟩
    have := bound high top (by omega)
    dsimp only
    split
    · exact ⟨⟨Int.le_refl 0, by omega⟩, Int.le_refl 0, by omega⟩
    · exact ⟨⟨left, by omega⟩, by omega, this⟩
  · obtain ⟨reflow, t', all, rest⟩ := bind_inv resized
    cases rest
    obtain ⟨size, fits⟩ := reflowAll_resized (by omega) (by omega) all
    refine ⟨size, fun _ _ _ _ => ?_⟩
    dsimp only
    split
    · exact ⟨⟨Int.le_refl 0, by omega⟩, Int.le_refl 0, by omega⟩
    · exact ⟨⟨by omega, fits.1⟩, by omega, fits.2⟩

end Cursor

end TerminalBuffer
