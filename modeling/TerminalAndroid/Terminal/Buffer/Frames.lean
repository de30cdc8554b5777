import TerminalAndroid.Terminal.Row.Shape
import TerminalAndroid.Terminal.TerminalBuffer

open Java Exec

namespace TerminalRow

def SameWidth (row row' : TerminalRow) : Prop := row'.mColumns = row.mColumns

instance : Std.Refl SameWidth := ⟨fun _ => rfl⟩

instance : IsTrans TerminalRow SameWidth := ⟨fun _ _ _ first second => Eq.trans second first⟩

end TerminalRow

namespace TerminalBuffer

open TerminalRow (SameWidth)

variable {R : TerminalBuffer → TerminalBuffer → Prop}

section

variable [Std.Refl R]

theorem getLine_frame (index : Int) : Frame R (getLine index) :=
  Frame.get_bind fun b => readArray_frame b.mLines index b

theorem deref_frame (ref : Option Nat) : Frame R (deref ref) := by
  cases ref with
  | none => exact Frame.throw _
  | some ref => exact Frame.pure ref

theorem externalToInternalRow_frame (externalRow : Int) : Frame R (externalToInternalRow externalRow) := by
  refine Frame.get_bind fun b => ?_
  dsimp only
  split
  · exact Std.Refl.refl b
  · split
    · exact Std.Refl.refl b
    · exact liftResult_frame _ b

end

class Framed (R : TerminalBuffer → TerminalBuffer → Prop) : Prop extends Std.Refl R, IsTrans TerminalBuffer R where
  withRow : ∀ {α : Type} (ref : Nat) {method : RowM α},
    Frame SameWidth method → Frame R (TerminalBuffer.withRow ref method)
  allocate : ∀ row, Frame R (allocateFullLineIfNecessary row)
  scroll : ∀ topMargin bottomMargin style, Frame R (scrollDownOneLine topMargin bottomMargin style)

variable [Framed R]

theorem setRow_frame (ref : Nat) {f : TerminalRow → TerminalRow} (width : ∀ row, (f row).mColumns = row.mColumns) :
    Frame R (withRow ref (modify f)) := Framed.withRow ref (Frame.modify width)

theorem readRow_frame {α : Type} (ref : Nat) (f : TerminalRow → RowM α)
    (reads : ∀ row, Frame (fun row row' : TerminalRow => row' = row) (f row)) :
    Frame R (withRow ref (do f (← get))) :=
  Framed.withRow ref (Frame.get_bind fun row => congrArg TerminalRow.mColumns (reads row row))

theorem onLine_frame {α : Type} (row : Int) {method : RowM α}
    (width : Frame SameWidth method) :
    Frame R (onLine row method) :=
  Frame.bind (Framed.allocate row) fun ref => Framed.withRow ref width

theorem setChar_frame (column row : Int) (codePoint : Nat) (style : Style) :
    Frame R (setChar column row codePoint style) := by
  refine Frame.get_bind fun b => ?_
  dsimp only
  split
  · exact Std.Refl.refl b
  · refine Frame.bind (externalToInternalRow_frame _) (fun row => onLine_frame row ?_) b
    exact (TerminalRow.setChar_frame _ _ _ _).mono fun _ _ shape => shape.columns

theorem blockSetRow_frame (sx row : Int) (codePoint : Nat) (style : Style) (count : Nat) (x : Int) :
    Frame R (blockSetRow sx row codePoint style count x) := by
  induction count generalizing x with
  | zero => exact Frame.pure _
  | succ count ih => exact Frame.bind (setChar_frame _ _ _ _) fun _ => ih _

theorem blockSetRows_frame (sx sy w : Int) (codePoint : Nat) (style : Style) (count : Nat) (y : Int) :
    Frame R (blockSetRows sx sy w codePoint style count y) := by
  induction count generalizing y with
  | zero => exact Frame.pure _
  | succ count ih => exact Frame.bind (blockSetRow_frame _ _ _ _ _ _) fun _ => ih _

theorem blockSet_frame (sx sy w h : Int) (codePoint : Nat) (style : Style) :
    Frame R (blockSet sx sy w h codePoint style) := by
  refine Frame.get_bind fun b => ?_
  dsimp only
  split
  · exact Std.Refl.refl b
  · exact blockSetRows_frame _ _ _ _ _ _ _ b

theorem copyIntervalOf_frame (target source : Nat) (sourceX1 sourceX2 destinationX : Int) :
    Frame R (copyIntervalOf target source sourceX1 sourceX2 destinationX) := by
  refine Frame.get_bind fun b => ?_
  split
  · exact Std.Refl.refl b
  · refine Framed.withRow target ?_ b
    exact (TerminalRow.copyInterval_frame _ _ _ _ _ _).mono fun _ _ shape => shape.columns

theorem blockCopyRows_frame (sx sy w h dx dy : Int) (copyingUp : Bool) (count : Nat) (y : Int) :
    Frame R (blockCopyRows sx sy w h dx dy copyingUp count y) := by
  induction count generalizing y with
  | zero => exact Frame.pure _
  | succ count ih =>
    refine Frame.bind (externalToInternalRow_frame _) fun row => ?_
    refine Frame.bind (Framed.allocate row) fun source => ?_
    refine Frame.bind (externalToInternalRow_frame _) fun row => ?_
    refine Frame.bind (Framed.allocate row) fun target => ?_
    exact Frame.bind (copyIntervalOf_frame _ _ _ _ _) fun _ => ih _

theorem blockCopy_frame (sx sy w h dx dy : Int) : Frame R (blockCopy sx sy w h dx dy) := by
  unfold blockCopy
  split
  · exact Frame.pure _
  · refine Frame.get_bind fun b => ?_
    dsimp only
    split
    · exact Std.Refl.refl b
    · exact blockCopyRows_frame _ _ _ _ _ _ _ _ _ b

theorem lineAt_frame (externalRow : Int) : Frame R (lineAt externalRow) :=
  Frame.bind (externalToInternalRow_frame _) fun _ => Frame.bind (getLine_frame _) fun _ => deref_frame _

theorem setLineWrap_frame (row : Int) : Frame R (setLineWrap row) :=
  Frame.bind (lineAt_frame row) fun ref => setRow_frame ref fun _ => rfl

theorem getLineWrap_frame (row : Int) : Frame R (getLineWrap row) :=
  Frame.bind (lineAt_frame row) fun ref => readRow_frame ref _ fun _ => Frame.pure _

theorem clearLineWrap_frame (row : Int) : Frame R (clearLineWrap row) :=
  Frame.bind (lineAt_frame row) fun ref => setRow_frame ref fun _ => rfl

theorem getStyleAt_frame (externalRow column : Int) : Frame R (getStyleAt externalRow column) := by
  refine Frame.bind (externalToInternalRow_frame _) fun row => onLine_frame row (Frame.get_bind fun line => ?_)
  exact readArray_frame line.mStyle column line

theorem effectLoop_frame (bits : BitVec 32) (setOrClear reverse : Bool) (ref count : Nat) (x : Int) :
    Frame R (effectLoop bits setOrClear reverse ref count x) := by
  induction count generalizing x with
  | zero => exact Frame.pure _
  | succ count ih =>
    refine Frame.bind (Framed.withRow ref (Frame.get_bind fun line => ?_)) fun _ => ih _
    unfold TerminalRow.getStyle readArray writeArray
    split
    · split
      · by_cases inside : 0 ≤ x ∧ x < line.mStyle.length
        · simp only [pure_bind, if_pos inside]
          rfl
        · simp only [pure_bind, if_neg inside]
          rfl
      · rfl
    · rfl

theorem effectRows_frame (bits : BitVec 32) (setOrClear reverse rectangular : Bool)
    (leftMargin rightMargin top left bottom right : Int) (count : Nat) (y : Int) :
    Frame R (effectRows bits setOrClear reverse rectangular leftMargin rightMargin top left bottom right count y) := by
  induction count generalizing y with
  | zero => exact Frame.pure _
  | succ count ih =>
    refine Frame.bind (externalToInternalRow_frame _) fun row => Frame.bind (getLine_frame _) fun line => ?_
    exact Frame.ite (fun _ => Frame.bind (deref_frame _) fun _ => Frame.bind (effectLoop_frame _ _ _ _ _ _) fun _ => ih _)
      fun _ => ih _

theorem setOrClearEffect_frame (bits : BitVec 32) (setOrClear reverse rectangular : Bool)
    (leftMargin rightMargin top left bottom right : Int) :
    Frame R (setOrClearEffect bits setOrClear reverse rectangular leftMargin rightMargin top left bottom right) :=
  effectRows_frame _ _ _ _ _ _ _ _ _ _ _ _

theorem nextOutputRow_frame (currentStyle : Style) (adjustCursor : Bool) (reflow : Reflow) :
    Frame R (nextOutputRow currentStyle adjustCursor reflow) := by
  refine Frame.get_bind fun b => ?_
  split
  · exact Frame.bind (Framed.scroll _ _ _) (fun _ => Frame.pure _) b
  · exact Std.Refl.refl b

theorem insertSkippedLines_frame (currentStyle : Style) (count : Nat) (reflow : Reflow) :
    Frame R (insertSkippedLines currentStyle count reflow) := by
  induction count generalizing reflow with
  | zero => exact Frame.pure _
  | succ count ih => exact Frame.bind (nextOutputRow_frame _ _ _) fun reflow => ih reflow

theorem reflowCodePoint_frame (currentStyle : Style) (cursorAtThisRow : Bool) (oldCursorColumn currentOldCol : Int)
    (codePoint : Nat) (styleAtCol : Style) (reflow : Reflow) :
    Frame R
      (reflowCodePoint currentStyle cursorAtThisRow oldCursorColumn currentOldCol codePoint styleAtCol reflow) := by
  unfold reflowCodePoint
  refine Frame.get_bind fun b => ?_
  refine Frame.bind (Frame.ite (fun _ => ?_) fun _ => Frame.pure _) (fun reflow => ?_) b
  · exact Frame.bind (setLineWrap_frame _) fun _ => nextOutputRow_frame _ _ _
  · refine Frame.bind (setChar_frame _ _ _ _) fun _ => ?_
    exact Frame.ite (fun _ => Frame.pure _) fun _ => Frame.pure _

theorem reflowChars_frame (currentStyle : Style) (oldLine : TerminalRow) (cursorAtThisRow : Bool)
    (oldCursorColumn lastNonSpaceIndex : Int) (chars : List Nat) (i : Nat) (currentOldCol : Int) (styleAtCol : Style)
    (reflow : Reflow) :
    Frame R (reflowChars currentStyle oldLine cursorAtThisRow oldCursorColumn lastNonSpaceIndex
      chars i currentOldCol styleAtCol reflow) := by
  fun_induction reflowChars currentStyle oldLine cursorAtThisRow oldCursorColumn lastNonSpaceIndex chars i currentOldCol
    styleAtCol reflow with
  | case1 | case3 => exact Frame.throw _
  | case2 | case6 => exact Frame.pure _
  | case4 c i currentOldCol styleAtCol reflow more high d chars codePoint ih
  | case5 c chars i currentOldCol styleAtCol reflow more bmp ih =>
    refine Frame.bind (Frame.ite (fun _ => readArray_frame _ _) fun _ => Frame.pure _) fun style => ?_
    refine Frame.bind (reflowCodePoint_frame _ _ _ _ _ _ _) fun result => ?_
    exact Frame.ite (fun _ => Frame.pure _) fun _ => ih _ _

theorem reflowLine_frame (currentStyle : Style) (oldLine : TerminalRow) (cursorAtThisRow lastRow : Bool)
    (oldCursorColumn : Int) (reflow : Reflow) :
    Frame R
      (reflowLine currentStyle oldLine cursorAtThisRow lastRow oldCursorColumn reflow) := by
  refine Frame.bind (insertSkippedLines_frame _ _ _) fun reflow => Frame.bind (liftResult_frame _) fun last => ?_
  refine Frame.bind (reflowChars_frame _ _ _ _ _ _ _ _ _ _) fun reflow => ?_
  exact Frame.ite (fun _ => nextOutputRow_frame _ _ _) fun _ => Frame.pure _

theorem reflowRows_frame (currentStyle : Style) (old : OldLines) (oldCursorColumn oldCursorRow : Int) (count : Nat)
    (externalOldRow : Int) (reflow : Reflow) :
    Frame R
      (reflowRows currentStyle old oldCursorColumn oldCursorRow count externalOldRow reflow) := by
  induction count generalizing externalOldRow reflow with
  | zero => exact Frame.pure _
  | succ count ih =>
    refine Frame.bind (liftResult_frame _) fun index => Frame.bind (readArray_frame _ _) fun ref => ?_
    refine Frame.bind ?_ fun reflow => ih _ reflow
    cases ref with
    | none => exact Frame.pure _
    | some ref =>
      refine Frame.bind (Framed.withRow ref fun _ => rfl) fun oldLine => Frame.bind (liftResult_frame _) fun blank => ?_
      exact Frame.ite (fun _ => Frame.pure _) fun _ => reflowLine_frame _ _ _ _ _ _

end TerminalBuffer
