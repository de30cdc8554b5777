import TerminalAndroid.Exec.Frame
import TerminalAndroid.Terminal.TerminalRow

open Java Exec

namespace Java

variable {σ α : Type} {R : σ → σ → Prop} [Std.Refl R]

theorem liftResult_frame (result : Except Throwable α) : Frame R (liftResult result : EStateM Throwable σ α) := by
  cases result with
  | ok value => exact Frame.pure value
  | error thrown => exact Frame.throw thrown

theorem readArray_frame (array : List α) (index : Int) : Frame R (readArray array index : EStateM Throwable σ α) := by
  unfold readArray
  refine Frame.ite (fun _ => ?_) (fun _ => Frame.throw _)
  split
  · exact Frame.pure _
  · exact Frame.throw _

theorem writeArray_cases (array : List α) (index : Int) (value : α) (s : σ) :
    (writeArray array index value : EStateM Throwable σ (List α)).run s = .error .indexOutOfBounds s ∨
      ∃ result : List α, (writeArray array index value : EStateM Throwable σ (List α)).run s = .ok result s ∧
        result.length = array.length := by
  unfold writeArray
  split
  · exact .inr ⟨_, rfl, List.length_set⟩
  · exact .inl rfl

theorem arraycopy_cases (source : List α) (sourcePosition : Int) (target : List α) (targetPosition length : Int)
    (s : σ) :
    (arraycopy source sourcePosition target targetPosition length : EStateM Throwable σ (List α)).run s =
        .error .indexOutOfBounds s ∨
      ∃ result : List α, (arraycopy source sourcePosition target targetPosition length :
        EStateM Throwable σ (List α)).run s = .ok result s ∧ result.length = target.length := by
  unfold arraycopy
  split
  · exact .inl rfl
  · refine .inr ⟨_, rfl, ?_⟩
    simp only [List.length_append, List.length_take, List.length_drop]
    omega

end Java

namespace TerminalRow

structure SameShape (row row' : TerminalRow) : Prop where
  columns : row'.mColumns = row.mColumns
  capacity : row.mText.length ≤ row'.mText.length
  styles : row'.mStyle.length = row.mStyle.length
  lineWrap : row'.mLineWrap = row.mLineWrap

theorem SameShape.refl (row : TerminalRow) : SameShape row row := ⟨rfl, Nat.le_refl _, rfl, rfl⟩

instance : Std.Refl SameShape := ⟨SameShape.refl⟩

instance : IsTrans TerminalRow SameShape :=
  ⟨fun _ _ _ first second => ⟨second.columns.trans first.columns, Nat.le_trans first.capacity second.capacity,
    second.styles.trans first.styles, second.lineWrap.trans first.lineWrap⟩⟩

theorem shiftRight_frame (source target : Int) : Frame SameShape (shiftRight source target) := by
  refine Frame.get_bind fun row => ?_
  dsimp only
  split
  · rw [EStateM.run_bind]
    rcases arraycopy_cases row.mText 0 (List.replicate (row.mText.length + row.mColumns) 0) 0 source row with
      thrown | ⟨front, copied, length⟩
    · rw [thrown]
      exact SameShape.refl row
    · rw [copied]
      dsimp only
      rw [EStateM.run_bind]
      rcases arraycopy_cases row.mText source front target (row.mSpaceUsed - source) row with
        thrown | ⟨text, copied, same⟩
      · rw [thrown]
        exact SameShape.refl row
      · rw [copied]
        refine ⟨rfl, ?_, rfl, rfl⟩
        simp only [List.length_replicate] at length
        show row.mText.length ≤ text.length
        omega
  · rw [EStateM.run_bind]
    rcases arraycopy_cases row.mText source row.mText target (row.mSpaceUsed - source) row with
      thrown | ⟨text, copied, same⟩
    · rw [thrown]
      exact SameShape.refl row
    · rw [copied]
      exact ⟨rfl, Nat.le_of_eq same.symm, rfl, rfl⟩

theorem shiftLeft_frame (source target : Int) : Frame SameShape (shiftLeft source target) := by
  refine Frame.get_bind fun row => ?_
  rw [EStateM.run_bind]
  rcases arraycopy_cases row.mText source row.mText target (row.mSpaceUsed - source) row with
    thrown | ⟨text, copied, same⟩
  · rw [thrown]
    exact SameShape.refl row
  · rw [copied]
    exact ⟨rfl, Nat.le_of_eq same.symm, rfl, rfl⟩

theorem storeChars_frame (codePoint : Nat) (index : Int) : Frame SameShape (storeChars codePoint index) := by
  refine Frame.get_bind fun row => ?_
  split
  · rw [EStateM.run_bind]
    rcases writeArray_cases row.mText index codePoint row with thrown | ⟨text, written, same⟩
    · rw [thrown]
      exact SameShape.refl row
    · rw [written]
      exact ⟨rfl, Nat.le_of_eq same.symm, rfl, rfl⟩
  · split
    · rw [EStateM.run_bind]
      rcases writeArray_cases row.mText (index + 1) (Utf16.lowSurrogate codePoint) row with
        thrown | ⟨low, written, lowSame⟩
      · rw [thrown]
        exact SameShape.refl row
      · rw [written]
        dsimp only
        rw [EStateM.run_bind]
        rcases writeArray_cases low index (Utf16.highSurrogate codePoint) row with thrown | ⟨text, written, same⟩
        · rw [thrown]
          exact SameShape.refl row
        · rw [written]
          exact ⟨rfl, Nat.le_of_eq (same.trans lowSame).symm, rfl, rfl⟩
    · exact SameShape.refl row

theorem modify_frame {f : TerminalRow → TerminalRow} (step : ∀ row, SameShape row (f row)) :
    Frame SameShape (modify f : RowM Unit) := Frame.modify step

theorem addSpaceUsed_frame (rules : RowRules) (difference : Int) :
    Frame SameShape (addSpaceUsed rules difference) :=
  modify_frame fun _ => ⟨rfl, Nat.le_refl _, rfl, rfl⟩

theorem replaceChars_frame (rules : RowRules) (codePoint : Nat) (index oldNext newNext : Int) :
    Frame SameShape (replaceChars rules codePoint index oldNext newNext) := by
  have finish : Frame SameShape (do addSpaceUsed rules (newNext - oldNext); storeChars codePoint index : RowM Unit) :=
    Frame.bind (addSpaceUsed_frame _ _) fun _ => storeChars_frame _ _
  unfold replaceChars
  dsimp only
  split
  · exact Frame.bind (shiftRight_frame _ _) fun _ => finish
  · split
    · exact Frame.bind (shiftLeft_frame _ _) fun _ => finish
    · exact finish

theorem adjustWidth_frame (rules : RowRules) (columnToSet : Int) (oldWidth newWidth : Nat) (index : Int) :
    Frame SameShape (adjustWidth rules columnToSet oldWidth newWidth index) := by
  unfold adjustWidth
  refine Frame.get_bind fun row => ?_
  split
  · exact Frame.bind (shiftRight_frame _ _)
      (fun _ => Frame.bind (storeChars_frame _ _) fun _ => addSpaceUsed_frame _ _) row
  · split
    · split
      · exact SameShape.refl row
      · split
        · exact ⟨rfl, Nat.le_refl _, rfl, rfl⟩
        · exact Frame.bind (readArray_frame _ _)
            (fun _ => Frame.bind (shiftLeft_frame _ _) fun _ => addSpaceUsed_frame _ _) row
    · exact SameShape.refl row

theorem storeInColumn_frame (rules : RowRules) (columnToSet : Int) (codePoint : Nat) :
    Frame SameShape (storeInColumn rules columnToSet codePoint) := by
  unfold storeInColumn
  refine Frame.get_bind fun row => ?_
  refine Frame.bind (liftResult_frame _) (fun start => ?_) row
  refine Frame.bind (Frame.bind (readArray_frame _ _) fun c => ?_) fun oldWidth => ?_
  · split
    · exact Frame.bind (readArray_frame _ _) fun _ => Frame.pure _
    · exact Frame.pure _
  · refine Frame.bind (liftResult_frame _) fun stop => Frame.bind (liftResult_frame _) fun count => ?_
    dsimp only
    split
    · exact Frame.pure _
    · exact Frame.bind (replaceChars_frame _ _ _ _ _) fun _ => adjustWidth_frame _ _ _ _ _

theorem setCharFuel_frame (rules : RowRules) (fuel : Nat) (columnToSet : Int) (codePoint : Nat) (style : Style) :
    Frame SameShape (setCharFuel rules fuel columnToSet codePoint style) := by
  induction fuel generalizing columnToSet codePoint with
  | zero => exact Frame.throw _
  | succ fuel ih =>
    unfold setCharFuel
    refine Frame.get_bind fun row => ?_
    dsimp only
    by_cases outside : columnToSet < 0 ∨ (row.mStyle.length : Int) ≤ columnToSet
    · rw [if_pos outside]
      exact SameShape.refl row
    · rw [if_neg outside]
      let styled := { row with mStyle := row.mStyle.set columnToSet.toNat style }
      have shape : SameShape row styled := ⟨rfl, Nat.le_refl _, List.length_set, rfl⟩
      refine IsTrans.trans row styled _ shape ?_
      rw [EStateM.run_bind, EStateM.run_set]
      dsimp only
      split
      · rw [EStateM.run_bind]
        rcases writeArray_cases row.mText columnToSet codePoint styled with thrown | ⟨text, written, same⟩
        · rw [thrown]
          exact SameShape.refl styled
        · rw [written]
          exact ⟨rfl, Nat.le_of_eq same.symm, rfl, rfl⟩
      · have flagged : Frame SameShape
            (modify fun row => { row with mHasNonOneWidthOrSurrogateChars := true } : RowM Unit) :=
          modify_frame fun _ => ⟨rfl, Nat.le_refl _, rfl, rfl⟩
        refine Frame.bind flagged (fun _ => ?_) styled
        refine Frame.bind (liftResult_frame _) fun extra => Frame.ite (fun _ => storeInColumn_frame _ _ _) fun _ => ?_
        have finish : Frame SameShape (do
            let row ← get
            let overwriting ← liftResult (if WcWidth.width codePoint = 2 then
              row.wideDisplayCharacterStartingAt (columnToSet + 1) else .ok false)
            if overwriting then
              setCharFuel rules fuel (columnToSet + 1) space style
              storeInColumn rules columnToSet codePoint
            else storeInColumn rules columnToSet codePoint : RowM Unit) := by
          refine Frame.get_bind fun row => Frame.bind (liftResult_frame _) (fun overwriting => ?_) row
          exact Frame.ite (fun _ => Frame.bind (ih _ _) fun _ => storeInColumn_frame _ _ _) fun _ =>
            storeInColumn_frame _ _ _
        exact Frame.ite (fun _ => Frame.bind (ih _ _) fun _ => finish) fun _ => finish

theorem setChar_frame (rules : RowRules) (columnToSet : Int) (codePoint : Nat) (style : Style) :
    Frame SameShape (setChar rules columnToSet codePoint style) := setCharFuel_frame _ _ _ _ _

theorem copyStep_frame (rules : RowRules) (line : TerminalRow) (same : Bool) (source destination : Int)
    (codePoint : Nat) {rest : RowM Unit} (after : Frame SameShape rest) :
    Frame SameShape (do
      let row ← get
      let style ← getStyle (if same then row else line) source
      setChar rules destination codePoint style
      rest) :=
  Frame.get_bind fun row =>
    Frame.bind (readArray_frame _ _) (fun _ => Frame.bind (setChar_frame _ _ _ _) fun _ => after) row

theorem copyLoop_frame (rules : RowRules) (line : TerminalRow) (same : Bool) (x2 : Int) (chars : List Nat) (i : Nat)
    (second : Bool) (sourceX1 destinationX : Int) (width : Nat) :
    Frame SameShape (copyLoop rules line same x2 chars i second sourceX1 destinationX width) := by
  fun_induction copyLoop rules line same x2 chars i second sourceX1 destinationX width with
  | case1 | case3 => exact Frame.throw _
  | case2 | case6 => exact Frame.pure _
  | case4 c i second sourceX1 destinationX width more high d chars codePoint w step ih
  | case5 c chars i second sourceX1 destinationX width more bmp codePoint w step ih =>
    exact copyStep_frame rules line same _ _ codePoint ih

theorem copyInterval_frame (rules : RowRules) (line : TerminalRow) (same : Bool)
    (sourceX1 sourceX2 destinationX : Int) :
    Frame SameShape (copyInterval rules line same sourceX1 sourceX2 destinationX) := by
  have flagged : Frame SameShape (modify fun row => { row with
      mHasNonOneWidthOrSurrogateChars :=
        row.mHasNonOneWidthOrSurrogateChars || line.mHasNonOneWidthOrSurrogateChars } : RowM Unit) :=
    modify_frame fun _ => ⟨rfl, Nat.le_refl _, rfl, rfl⟩
  unfold copyInterval
  refine Frame.bind flagged fun _ => Frame.bind (liftResult_frame _) fun x1 => ?_
  refine Frame.bind (liftResult_frame _) fun x2 => Frame.bind (liftResult_frame _) fun second => ?_
  exact copyLoop_frame _ _ _ _ _ _ _ _ _ _

theorem cleared_shape (rules : RowRules) (style : Style) (row : TerminalRow) :
    SameShape row (row.cleared rules style) :=
  ⟨rfl, by simp [cleared], by simp [cleared], rfl⟩

end TerminalRow
