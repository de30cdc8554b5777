import TerminalAndroid.Emulator.AutoWrap
import TerminalAndroid.Emulator.Redraw

open Java Exec
open TerminalBuffer (Reformed)

namespace TerminalEmulator

variable {e e' : TerminalEmulator} {x : Nat}

theorem isValidChar_ite {c : Prop} [Decidable c] {x y : Nat} (first : x.isValidChar) (second : y.isValidChar) :
    (if c then x else y).isValidChar := by
  split
  · exact first
  · exact second

theorem lineDrawing_valid (scalar : x.isValidChar) : (lineDrawing x).isValidChar := by
  unfold lineDrawing
  repeat refine isValidChar_ite (by decide) ?_
  exact scalar

theorem shownCodePoint_valid (scalar : x.isValidChar) : (e.shownCodePoint x).isValidChar :=
  isValidChar_ite (lineDrawing_valid scalar) scalar

def placeColumn (e : TerminalEmulator) (x : Nat) : Int :=
  let offsetDueToCombiningChar := if (WcWidth.width x : Int) ≤ 0 ∧ 0 < e.mCursorCol ∧ ¬ e.mAboutToAutoWrap then 1 else 0
  let column := e.mCursorCol - offsetDueToCombiningChar
  if column < 0 then 0 else column

def advanced (e : TerminalEmulator) (autoWrap : Bool) (x : Nat) : TerminalEmulator :=
  { e with
    mAboutToAutoWrap :=
      if autoWrap ∧ 0 < (WcWidth.width x : Int) then decide (e.mCursorCol = e.mRightMargin - WcWidth.width x)
      else e.mAboutToAutoWrap
    mCursorCol := min (e.mCursorCol + WcWidth.width x) (e.mRightMargin - 1) }

theorem advanced_drawn (e : TerminalEmulator) (b : TerminalBuffer) (autoWrap : Bool) (x : Nat) :
    (e.drawn b).advanced autoWrap x = (e.advanced autoWrap x).drawn b := by
  unfold drawn TerminalCore.withScreen advanced
  cases e.mScreen <;> rfl

def Places (autoWrap : Bool) (x : Nat) (e e' : TerminalEmulator) : Prop :=
  ∃ b b', Reformed e.screen b ∧ Reformed b b' ∧
    (TerminalBuffer.setChar (e.placeColumn x) e.mCursorRow x e.getStyle).run b = .ok () b' ∧
      e' = (e.advanced autoWrap x).drawn b'

def startingAt (e : TerminalEmulator) (row count : Int) : TerminalEmulator :=
  { e with mCursorCol := e.mLeftMargin, mCursorRow := row, mScrollCounter := count }

def LineWrapped (e e' : TerminalEmulator) : Prop :=
  ∃ row count, (0 ≤ row ∧ row < e.mRows) ∧ Redraws (e.startingAt row count) e'

theorem LineWrapped.ready (wrapped : LineWrapped e e') (ready : e.Ready) : e'.Ready := by
  obtain ⟨row, count, onScreen, redraws⟩ := wrapped
  have left := ready.left
  have width := ready.width
  have right := ready.right
  exact redraws.ready { ready with row := onScreen, col := ⟨left, show e.mLeftMargin < e.mColumns by omega⟩ }

section

variable (ready : e.Ready)
include ready

theorem placeColumn_range (x : Nat) : 0 ≤ e.placeColumn x ∧ e.placeColumn x < e.mColumns ∧
    (WcWidth.width x = 2 → e.placeColumn x = e.mCursorCol) := by
  obtain ⟨left, right⟩ := ready.col
  unfold placeColumn
  dsimp only
  split <;> split <;> omega

theorem insertMode_redraws (x : Nat) : Ends (fun _ => Redraws e)
    (if e.mInsertMode ∧ 0 < (WcWidth.width x : Int) ∧ e.mCursorCol + WcWidth.width x < e.mRightMargin then
      onScreen (TerminalBuffer.blockCopy e.mCursorCol e.mCursorRow (e.mRightMargin - (e.mCursorCol + WcWidth.width x)) 1
        (e.mCursorCol + WcWidth.width x) e.mCursorRow)
    else pure ()) e := by
  obtain ⟨⟨lower, upper⟩, left, right⟩ := ready.toOnScreen
  have edge := ready.right
  refine Ends.ite (fun inserting => (Redraws.refl ready).copy ready ?_ ?_) fun _ => Ends.pure (Redraws.refl ready)
  all_goals
    simp only [TerminalCore.Contains]
    omega

theorem placeCodePoint_places (autoWrap : Bool) (scalar : x.isValidChar)
    (room : WcWidth.width x = 2 → e.mCursorCol + 1 < e.mColumns) : 
    Ends (fun _ => Places autoWrap x e) (placeCodePoint autoWrap x) e := by
  obtain ⟨⟨⟨lower, upper⟩, first, last⟩, -, -, -, left, width, right, columns, rows, -⟩ := id ready
  obtain ⟨column, inside, wide⟩ := placeColumn_range ready x
  refine Ends.get_bind (Ends.bind (insertMode_redraws ready x) ?_)
  rintro - e₁ ⟨b, rfl, reformed⟩
  have columns' := reformed.columns
  have rows' := reformed.screenRows
  obtain ⟨⟨⟩, b', ran, reformed'⟩ := reformed.formed.reforms_setChar scalar column (by omega)
    (fun two => by have := wide two; have := room two; omega) lower (by omega) e.getStyle
  have put : Ends (fun _ e' => e' = e.drawn b')
      (onScreen (TerminalBuffer.setChar (e.placeColumn x) e.mCursorRow x e.getStyle)) (e.drawn b) :=
    ⟨(), e.drawn b', run_onScreen_drawn e ran, rfl⟩
  refine Ends.bind put fun _ e₂ same => ?_
  rw [same]
  exact Ends.modify ⟨b, b', reformed, reformed', ran, advanced_drawn e b' autoWrap x⟩

theorem placeCodePoint_throws (autoWrap : Bool) (scalar : x.isValidChar) (wide : WcWidth.width x = 2)
    (last : e.mCursorCol + 1 = e.mColumns) : ¬ Completes (placeCodePoint autoWrap x) e := by
  obtain ⟨⟨⟨lower, upper⟩, -⟩, -, -, -, -, -, -, columns, rows, -⟩ := id ready
  obtain ⟨column, -, here⟩ := placeColumn_range ready x
  obtain ⟨⟨⟩, e₁, inserted, b, rfl, reformed⟩ := insertMode_redraws ready x
  have columns' := reformed.columns
  have rows' := reformed.screenRows
  obtain ⟨thrown, b', throws⟩ := reformed.formed.setChar_throws scalar column wide
    (by rw [here wide]; omega) lower (by omega) e.getStyle
  have put : (onScreen (TerminalBuffer.setChar (e.placeColumn x) e.mCursorRow x e.getStyle)).run (e.drawn b) = _ :=
    run_zoom_error (by rw [drawn_screen]; exact throws)
  intro completes
  obtain ⟨⟨⟩, e₂, first, rest⟩ := completes_bind_iff.mp (Completes.of_get_bind completes)
  obtain rfl : e₂ = e.drawn b := by
    have same := first.symm.trans inserted
    injection same
  obtain ⟨⟨⟩, e₃, second, -⟩ := completes_bind_iff.mp rest
  have differ := second.symm.trans put
  injection differ

theorem placeCodePoint_completes_iff (autoWrap : Bool) (scalar : x.isValidChar) :
    Completes (placeCodePoint autoWrap x) e ↔ (WcWidth.width x = 2 → e.mCursorCol ≠ e.mColumns - 1) := by
  have last := ready.col.2
  constructor
  · intro completes wide edge
    exact placeCodePoint_throws ready autoWrap scalar wide (by omega) completes
  · intro room
    exact (placeCodePoint_places ready autoWrap scalar fun wide => by have := room wide; omega).completes

theorem wrapLine_wraps : Ends (fun _ => LineWrapped e) wrapLine e := by
  obtain ⟨⟨⟨lower, upper⟩, -⟩, top, height, bottom, left, width, right, columns, rows, -⟩ := id ready
  have flagged : Ends (fun _ => Redraws e) (onScreen (TerminalBuffer.setLineWrap e.mCursorRow)) e :=
    (Redraws.refl ready).onScreen fun buffer reformed =>
      (reformed.formed.run_setLineWrap lower (by rw [reformed.screenRows]; omega)).mono fun _ _ painted => painted.reformed
  refine Ends.get_bind (Ends.bind flagged ?_)
  rintro - e₁ ⟨b, rfl, reformed⟩
  have start : ({ e.drawn b with mCursorCol := (e.drawn b).mLeftMargin } : TerminalEmulator) =
      (e.startingAt e.mCursorRow e.mScrollCounter).drawn b := by
    unfold drawn TerminalCore.withScreen startingAt
    cases e.mScreen <;> rfl
  have ready₁ : (e.startingAt e.mCursorRow e.mScrollCounter).Ready :=
    { ready with col := ⟨left, show e.mLeftMargin < e.mColumns by omega⟩ }
  refine Ends.modify_bind ?_
  rw [start]
  refine Ends.ite (fun above => Ends.modify ?_) fun last => ?_
  · refine ⟨e.mCursorRow + 1, e.mScrollCounter, by omega, b, ?_, reformed⟩
    unfold drawn TerminalCore.withScreen startingAt
    cases e.mScreen <;> rfl
  · refine (scrollDownOneLine_redraws (ready₁.drawn reformed)).mono ?_
    rintro - e' ⟨b', rfl, reformed'⟩
    refine ⟨e.mCursorRow, e.mScrollCounter + 1, ⟨lower, upper⟩, b', ?_, ?_⟩
    · exact drawn_drawn (e.startingAt e.mCursorRow (e.mScrollCounter + 1)) b b'
    · have screen : ({ (e.startingAt e.mCursorRow e.mScrollCounter).drawn b with
          mScrollCounter := ((e.startingAt e.mCursorRow e.mScrollCounter).drawn b).mScrollCounter + 1 } :
            TerminalEmulator).screen = b := drawn_screen _ b
      rw [screen] at reformed'
      exact reformed.trans reformed'

end

/-- `emitCodePoint` returns unless it comes to put a wide character into the last column of the screen: the cursor is there
although the right margin is elsewhere, or the character is wrapped to a left margin that is there. -/
theorem emit_completes_iff (e : TerminalEmulator) (ready : e.Ready) (x : Nat) (scalar : x.isValidChar) :
    (∃ e', (emitCodePoint x).run e = .ok () e') ↔ (WcWidth.width (e.shownCodePoint x) = 2 →
      if e.mCursorCol = e.mRightMargin - 1 then
        e.isDecsetInternalBitSet decsetBitAutowrap = true → e.mLeftMargin ≠ e.mColumns - 1
      else e.mCursorCol ≠ e.mColumns - 1) := by
  have shown := shownCodePoint_valid (e := e) scalar
  have ready₀ : (e.emitting x).Ready := { ready with }
  have completes : (∃ e', (emitCodePoint x).run e = .ok () e') ↔ Completes
      (if e.Skips (e.shownCodePoint x) then pure ()
      else do
        (if e.Wraps (e.shownCodePoint x) then wrapLine else pure ())
        placeCodePoint (e.isDecsetInternalBitSet decsetBitAutowrap) (e.shownCodePoint x)) (e.emitting x) := by
    rw [run_emitCodePoint]
    exact ⟨fun ⟨e', ran⟩ => ⟨(), e', ran⟩, fun ⟨⟨⟩, e', ran⟩ => ⟨e', ran⟩⟩
  rw [completes]
  generalize e.shownCodePoint x = y at shown
  by_cases skips : e.Skips y
  · rw [if_pos skips]
    refine iff_of_true (Completes.pure ()) fun _ => ?_
    rw [if_pos skips.2.1, skips.1]
    nofun
  · rw [if_neg skips]
    by_cases wraps : e.Wraps y
    · obtain ⟨⟨⟩, e₁, ran, wrapped⟩ := wrapLine_wraps ready₀
      have place := placeCodePoint_completes_iff (wrapped.ready ready₀) (e.isDecsetInternalBitSet decsetBitAutowrap) shown
      obtain ⟨row, count, -, b, rfl, -⟩ := wrapped
      have corner : (((e.emitting x).startingAt row count).drawn b).mCursorCol = e.mLeftMargin ∧
          (((e.emitting x).startingAt row count).drawn b).mColumns = e.mColumns := by
        unfold drawn TerminalCore.withScreen startingAt emitting
        cases e.mScreen <;> exact ⟨rfl, rfl⟩
      rw [corner.1, corner.2] at place
      rw [if_pos wraps, completes_bind_iff, if_pos wraps.2.1]
      simp only [wraps.1, true_imp_iff]
      rw [← wraps.1, ← place]
      constructor
      · rintro ⟨⟨⟩, e₂, ran', rest⟩
        have same := ran'.symm.trans ran
        injection same with _ same
        rw [same] at rest
        exact rest
      · exact fun rest => ⟨(), _, ran, rest⟩
    · have place := placeCodePoint_completes_iff ready₀ (e.isDecsetInternalBitSet decsetBitAutowrap) shown
      rw [if_neg wraps, pure_bind, place]
      refine forall_congr' fun wide => ?_
      have inside : e.mCursorCol ≠ e.mRightMargin - 1 := fun last => by
        cases on : e.isDecsetInternalBitSet decsetBitAutowrap with
        | true => exact wraps ⟨on, last, .inr wide⟩
        | false => exact skips ⟨on, last, wide⟩
      rw [if_neg inside]
      rfl

def beyondMargin (e : TerminalEmulator) : TerminalEmulator :=
  { e with mRightMargin := 5, mCursorCol := 9, mCurrentDecSetFlags := decsetBitLeftrightMarginMode ||| decsetBitAutowrap }

theorem beyondMargin_ready (ready : e.Ready) (columns : e.mColumns = 10) (left : e.mLeftMargin = 0) :
    (beyondMargin e).Ready := by
  refine { ready with col := ⟨?_, ?_⟩, width := ?_, right := ?_ } <;> simp only [beyondMargin, columns, left] <;> decide

theorem tenColumns_ready : (beyondMargin (filledWith 10 3 120)).Ready :=
  beyondMargin_ready (filledWith_ready (by decide) (by decide) (by decide) (by decide) (by decide)) rfl rfl

theorem emit_completes_iff_narrow : ∃ e', (emitCodePoint 97).run (beyondMargin (filledWith 10 3 120)) = .ok () e' :=
  (emit_completes_iff (beyondMargin (filledWith 10 3 120)) tenColumns_ready 97 (by decide)).mpr fun wide =>
    absurd wide (by decide)

/-- A wide character beyond the right margin, in the last column of the screen. -/
theorem emit_wide_throws : (beyondMargin (filledWith 10 3 120)).Ready ∧
    ¬ ∃ e', (emitCodePoint 0x4E16).run (beyondMargin (filledWith 10 3 120)) = .ok () e' := by
  refine ⟨tenColumns_ready, fun ⟨e', ran⟩ => ?_⟩
  have throws : (leftState ((emitCodePoint 0x4E16).run (beyondMargin (filledWith 10 3 120)))).isSome = false := by
    decide +kernel
  rw [ran] at throws
  cases throws

end TerminalEmulator
