import TerminalAndroid.Terminal.Row.Interval

open Java Utf16 Exec

namespace TerminalRow

variable {row row' : TerminalRow} {cells : List Cell} {x column count : Nat} {style : Style}

inductive SetRun (x : Nat) (style : Style) : Nat → Nat → TerminalRow → TerminalRow → Prop
  | done (column : Nat) (row : TerminalRow) : SetRun x style column 0 row row
  | next {column count : Nat} {row between row' : TerminalRow} (inside : column < row.mColumns)
      (ran : (setChar .java column x style).run row = .ok () between) (good : between.Good)
      (rest : SetRun x style (column + 1) count between row') : SetRun x style column (count + 1) row row'

theorem Good.exists_set (good : row.Good) (scalar : x.isValidChar) (narrow : WcWidth.width x ≠ 2)
    (inside : column < row.mColumns) (style : Style) :
    ∃ row', (setChar .java column x style).run row = .ok () row' ∧ row'.Good ∧ SameShape row row' := by
  obtain ⟨cells, holds⟩ := good.stored
  cases found : setCells x cells column with
  | none =>
    exact absurd ((setCells_eq_none_iff holds.valid (holds.width ▸ inside)).mp found).1 narrow
  | some cells' =>
    obtain ⟨row', ran, rewritten⟩ := good.run_setChar holds scalar inside found style
    exact ⟨row', ran, rewritten.good, rewritten.shape⟩

theorem Good.exists_setRun (good : row.Good) (scalar : x.isValidChar) (narrow : WcWidth.width x ≠ 2)
    (inside : column + count ≤ row.mColumns) (style : Style) :
    ∃ row', SetRun x style column count row row' ∧ row'.Good ∧ SameShape row row' := by
  induction count generalizing row column with
  | zero => exact ⟨row, .done column row, good, SameShape.refl row⟩
  | succ count ih =>
    obtain ⟨between, ran, goodBetween, shape⟩ := good.exists_set scalar narrow (show column < row.mColumns by omega) style
    obtain ⟨row', rest, good', shape'⟩ := @ih between (column + 1) goodBetween (by rw [shape.columns]; omega)
    exact ⟨row', .next (by omega) ran goodBetween rest, good', IsTrans.trans _ _ _ shape shape'⟩

structure ColumnsSet (x : Nat) (style : Style) (column count : Nat) (row row' : TerminalRow) (cells : List Cell) :
    Prop where
  rewritten : Rewritten row row' (copiedCells (List.replicate count (.bare x)) cells column) row'.mStyle
  styles : ∀ c, row'.mStyle[c]? = if (column ≤ c ∧ c < column + count) ∨
    (0 < count ∧ c + 1 = column ∧ extraColumn cells column = true) then some style else row.mStyle[c]?

theorem SetRun.columnsSet (run : SetRun x style column count row row') (good : row.Good) (holds : row.Holds cells)
    (scalar : x.isValidChar) (one : WcWidth.width x = 1) : ColumnsSet x style column count row row' cells := by
  induction run generalizing cells with
  | done column row =>
    refine ⟨⟨good, ?_, rfl, SameShape.refl row⟩, fun c => ?_⟩
    · rw [List.replicate_zero, copiedCells, if_pos rfl]
      exact holds
    · rw [if_neg (by omega)]
  | @next column count row between row' inside ran _ rest ih =>
    have bare : (Cell.bare x).width = 1 := one
    have head := Cell.bare_valid scalar (show 0 < WcWidth.width x by omega)
    have room : column + (Cell.bare x).width ≤ cellsWidth cells := by
      rw [holds.width]
      omega
    obtain ⟨found, same, put⟩ := good.run_put holds scalar (by omega) (show column + WcWidth.width x ≤ row.mColumns by omega) style
    obtain rfl : between = found := by
      rw [ran] at same
      cases same
      rfl
    have overlaid : overlay (.bare x) cells column =
        leftOf cells column ++ ⟨x, keptMarks x cells column⟩ :: rightOf cells (column + WcWidth.width x) := by
      rw [overlay, Cell.bare, keptMarks_of_ne_two (show WcWidth.width x ≠ 2 by omega)]
      rfl
    rw [← overlaid] at put
    have further := ih put.good put.holds
    have rewritten := further.rewritten
    have extra := extraColumn_overlay holds.valid head room
    have whole := @copiedCells_overlay (List.replicate count (.bare x)) cells (.bare x) column holds.valid head room
    rw [bare] at extra whole
    rw [whole, ← List.replicate_succ] at rewritten
    refine ⟨put.trans rewritten, fun c => ?_⟩
    have before := setStyles_getElem? (show 0 < WcWidth.width x by omega) cells style
      (show column + WcWidth.width x ≤ row.mStyle.length by rw [holds.styles]; omega) [] c
    have touches : Touches cells column 0 ⟨x, []⟩ c ↔ c = column ∨ (c + 1 = column ∧ extraColumn cells column = true) := by
      unfold Touches
      rw [show (⟨x, []⟩ : Cell).width = 1 from one]
      simp
    rw [further.styles, put.styled, before, extra, ← ite_or]
    refine if_congr ?_ rfl rfl
    rw [touches]
    by_cases cut : extraColumn cells column = true
    · simp only [cut, and_true, Bool.false_eq_true, and_false, or_false]
      omega
    · simp only [cut, and_false, Bool.false_eq_true, or_false]
      omega

end TerminalRow
