import TerminalAndroid.Terminal.Row.SetRun

open Java Utf16 Exec

def TerminalRow.Narrow (row : TerminalRow) : Prop := ∀ cell ∈ row.cells, cell.width = 1

section

variable {cells : List Cell} {c : Nat}

theorem exists_cellAt_narrow (narrow : ∀ c ∈ cells, c.width = 1) (inside : c < cellsWidth cells) :
    ∃ cell, cellAt cells c = some (cell, 0) := by
  obtain ⟨cell, offset, found⟩ := exists_cellAt inside
  obtain ⟨pre, post, -, -, within⟩ := split_of_cellAt found
  have one := narrow cell (mem_of_cellAt found)
  obtain rfl : offset = 0 := by omega
  exact ⟨cell, found⟩

theorem narrow_of_cellAt (valid : ∀ c ∈ cells, c.Valid)
    (columns : ∀ c cell, c < cellsWidth cells → cellAt cells c = some (cell, 0) → cell.width = 1) :
    ∀ c ∈ cells, c.width = 1 := by
  intro cell member
  obtain ⟨pre, post, rfl⟩ := List.append_of_mem member
  have base := (valid cell member).base
  have positive : 0 < cell.width := base
  have found := @cellAt_split pre post cell 0 positive
  refine columns _ cell ?_ found
  rw [cellsWidth_append, cellsWidth_cons]
  omega

theorem extraColumn_narrow (valid : ∀ c ∈ cells, c.Valid) (narrow : ∀ c ∈ cells, c.width = 1)
    (column : Nat) : extraColumn cells column = false := by
  rw [Bool.eq_false_iff, ne_eq, extraColumn_iff valid]
  rintro ⟨cell, found⟩
  obtain ⟨pre, post, rfl, -, within⟩ := split_of_cellAt found
  have one := narrow cell (by simp)
  omega

theorem startsWide_narrow (valid : ∀ c ∈ cells, c.Valid) (narrow : ∀ c ∈ cells, c.width = 1)
    (column : Nat) : startsWide cells column = false := by
  rw [Bool.eq_false_iff, ne_eq, startsWide_iff valid]
  rintro ⟨cell, found, wide⟩
  have one := narrow cell (mem_of_cellAt found)
  omega

theorem sourceCells_narrow (narrow : ∀ c ∈ cells, c.width = 1) (sx w : Nat) :
    ∀ c ∈ sourceCells cells sx w, c.width = 1 := by
  have rest : ∀ c ∈ remnant cells sx, c.width = 1 := by
    induction cells generalizing sx with
    | nil => exact nofun
    | cons cell cells ih =>
      rw [remnant]
      split
      · exact narrow
      · rw [List.forall_mem_cons] at narrow
        split
        · exact List.forall_mem_cons.mpr ⟨Cell.blank_width, narrow.2⟩
        · exact ih narrow.2 _
  obtain ⟨post, split⟩ := exists_fitting (remnant cells sx) w
  rw [split, List.forall_mem_append] at rest
  exact rest.1

end

namespace TerminalRow

theorem Holds.narrow_iff {row : TerminalRow} {cells : List Cell} (holds : row.Holds cells) :
    row.Narrow ↔ ∀ c ∈ cells, c.width = 1 := by
  rw [Narrow, holds.cells_eq]

namespace IntervalCopied

variable {same : Bool} {line row row' : TerminalRow} {source cells : List Cell} {sx w dx : Nat}
  (run : IntervalCopied same line row row' source cells sx w dx) (lineNarrow : line.Narrow)
include run lineNarrow

theorem sources_narrow : ∀ c ∈ source, c.width = 1 := by
  rw [← run.lineHolds.narrow_iff]
  exact lineNarrow

theorem width_narrow : cellsWidth (sourceCells source sx w) = w := by
  have extent := run.extent
  rw [extraColumn_narrow run.lineHolds.valid (run.sources_narrow lineNarrow)] at extent
  exact extent

theorem cellFrom_narrow {k : Nat} (inside : k < w) : ∃ cell, cellFrom (sourceCells source sx w) k = some cell := by
  have narrow := sourceCells_narrow (run.sources_narrow lineNarrow) sx w
  obtain ⟨cell, found⟩ := exists_cellAt_narrow narrow (by rw [run.width_narrow lineNarrow]; exact inside)
  exact ⟨cell, (cellFrom_eq_some run.sources).mpr found⟩

theorem cellAt_copied_narrow {j : Nat} (inside : j < w) : cellAt row'.cells (dx + j) = cellAt line.cells (sx + j) := by
  have sources := run.sources_narrow lineNarrow
  have within : j < cellsWidth (sourceCells source sx w) := by
    rw [run.width_narrow lineNarrow]
    exact inside
  obtain ⟨cell, found⟩ := exists_cellAt_narrow (sourceCells_narrow sources sx w) within
  have one : WcWidth.width cell.base = 1 := sourceCells_narrow sources sx w cell (mem_of_cellAt found)
  have bound := (run.sources cell (mem_of_cellAt found)).bound
  rw [run.cellAt_inside found, keptMarks_of_ne_two (by omega), Cell.withMarks, List.nil_append,
    List.take_of_length_le bound, run.lineHolds.cells_eq,
    ← cellAt_sourceCells run.lineHolds.valid within (.inr (extraColumn_narrow run.lineHolds.valid sources sx)), found]

variable (narrow : row.Narrow)
include narrow

omit lineNarrow in
theorem cells_narrow : ∀ c ∈ cells, c.width = 1 := by
  rw [← run.holds.narrow_iff]
  exact narrow

theorem cellAt_kept_narrow {c : Nat} (outside : c < dx ∨ dx + w ≤ c) : cellAt row'.cells c = cellAt row.cells c := by
  have valid := run.holds.valid
  have own := run.cells_narrow narrow
  have width := run.width_narrow lineNarrow
  have positive := run.positive
  have nonempty := nonempty_of_extent (show 0 < cellsWidth (sourceCells source sx w) by omega)
  rw [run.cells_eq, run.holds.cells_eq]
  rcases outside with before | behind
  · rw [cellAt_copied_before valid run.fits nonempty before, startsWide_narrow valid own, if_neg (by simp)]
  · obtain ⟨more, rfl⟩ := Nat.exists_eq_add_of_le behind
    have shown := cellAt_copied_behind valid run.fits nonempty more
    rw [width, extraColumn_narrow valid own, if_neg (by simp)] at shown
    exact shown

theorem cellAt_narrow (c : Nat) :
    cellAt row'.cells c = if dx ≤ c ∧ c < dx + w then cellAt line.cells (sx + (c - dx)) else cellAt row.cells c := by
  split
  next inside =>
    obtain ⟨j, rfl⟩ := Nat.exists_eq_add_of_le inside.1
    rw [run.cellAt_copied_narrow lineNarrow (by omega), Nat.add_sub_cancel_left]
  next outside => exact run.cellAt_kept_narrow lineNarrow narrow (by omega)

theorem narrow_after : row'.Narrow := by
  have holds := run.copied.rewritten.holds
  rw [holds.narrow_iff]
  refine narrow_of_cellAt holds.valid fun c cell _ found => ?_
  rw [← holds.cells_eq, run.cellAt_narrow lineNarrow narrow] at found
  split at found
  · exact lineNarrow cell (mem_of_cellAt found)
  · exact narrow cell (mem_of_cellAt found)

theorem touches_narrow {k c : Nat} {cell : Cell} (found : cellFrom (sourceCells source sx w) k = some cell) :
    Touches cells dx k cell c ↔ c = dx + k := by
  have one := sourceCells_narrow (run.sources_narrow lineNarrow) sx w cell
    (mem_of_cellAt ((cellFrom_eq_some run.sources).mp found))
  rw [Touches, extraColumn_narrow run.holds.valid (run.cells_narrow narrow), one]
  simp

theorem styles_copied_narrow {j : Nat} (inside : j < w) :
    row'.mStyle[dx + j]? = line.mStyle[sx + if same = true ∧ sx < dx then j % (dx - sx) else j]? := by
  induction j using Nat.strong_induction_on with
  | _ j ih =>
    obtain ⟨cell, found⟩ := run.cellFrom_narrow lineNarrow inside
    by_cases smeared : (same = true ∧ sx < dx) ∧ dx - sx ≤ j
    · obtain ⟨⟨own, right⟩, less⟩ := smeared
      obtain ⟨other, earlier⟩ := run.cellFrom_narrow lineNarrow (show j - (dx - sx) < w by omega)
      have touches := (run.touches_narrow lineNarrow narrow earlier).mpr
        (show sx + j = dx + (j - (dx - sx)) by omega)
      rw [run.copied.styles.smeared own _ j other cell (by omega) earlier found touches, ih _ (by omega) (by omega),
        if_pos ⟨own, right⟩, if_pos ⟨own, right⟩, ← Nat.mod_eq_sub_mod less]
    · rw [run.copied.styles.fresh j cell found fun own k other before present touches => ?_, run.readStyles_eq]
      · split
        next right => rw [Nat.mod_eq_of_lt (not_le.mp fun less => smeared ⟨right, less⟩)]
        · rfl
      · rw [run.touches_narrow lineNarrow narrow present] at touches
        exact smeared ⟨⟨own, by omega⟩, by omega⟩

theorem styles_narrow (c : Nat) :
    row'.mStyle[c]? = if dx ≤ c ∧ c < dx + w then
      line.mStyle[sx + if same = true ∧ sx < dx then (c - dx) % (dx - sx) else c - dx]? else row.mStyle[c]? := by
  have width := run.width_narrow lineNarrow
  split
  next inside =>
    obtain ⟨j, rfl⟩ := Nat.exists_eq_add_of_le inside.1
    rw [run.styles_copied_narrow lineNarrow narrow (by omega), Nat.add_sub_cancel_left]
  next outside =>
    refine run.styles_outside (by omega) ?_
    rw [extraColumn_narrow run.holds.valid (run.cells_narrow narrow)]
    simp

end IntervalCopied

theorem cellAt_replicate {cell : Cell} (one : cell.width = 1) {count j : Nat} (inside : j < count) :
    cellAt (List.replicate count cell) j = some (cell, 0) := by
  induction count generalizing j with
  | zero => cases inside
  | succ count ih =>
    rw [List.replicate_succ, cellAt, one]
    split
    next first => rw [show j = 0 by omega]
    next later => exact ih (by omega)

theorem cellsWidth_replicate {cell : Cell} (one : cell.width = 1) (count : Nat) :
    cellsWidth (List.replicate count cell) = count := by
  induction count with
  | zero => rfl
  | succ count ih => rw [List.replicate_succ, cellsWidth_cons, one, ih, Nat.add_comm]

namespace ColumnsSet

variable {x column count : Nat} {style : Style} {row row' : TerminalRow} {cells : List Cell}
  (set : ColumnsSet x style column count row row' cells) (holds : row.Holds cells) (narrow : row.Narrow)
include set holds narrow

theorem styles_narrow (c : Nat) :
    row'.mStyle[c]? = if column ≤ c ∧ c < column + count then some style else row.mStyle[c]? := by
  rw [set.styles, extraColumn_narrow holds.valid (holds.narrow_iff.mp narrow)]
  simp

variable (one : WcWidth.width x = 1) (room : column + count ≤ row.mColumns)
include one room

theorem cellAt_narrow (c : Nat) :
    cellAt row'.cells c = if column ≤ c ∧ c < column + count then some (.bare x, 0) else cellAt row.cells c := by
  have cells_eq := set.rewritten.holds.cells_eq
  have own := holds.narrow_iff.mp narrow
  have bare : (Cell.bare x).width = 1 := one
  have width := cellsWidth_replicate bare count
  have fits : column + cellsWidth (List.replicate count (.bare x)) ≤ cellsWidth cells := by
    rw [width, holds.width]
    exact room
  rcases Nat.eq_zero_or_pos count with rfl | positive
  · rw [cells_eq, List.replicate_zero, copiedCells, if_pos rfl, if_neg (by omega), holds.cells_eq]
  have nonempty : List.replicate count (Cell.bare x) ≠ [] := by
    rw [ne_eq, List.replicate_eq_nil_iff]
    omega
  rw [cells_eq, holds.cells_eq]
  split
  next inside =>
    obtain ⟨j, rfl⟩ := Nat.exists_eq_add_of_le inside.1
    rw [cellAt_copied holds.valid fits (cellAt_replicate bare (show j < count by omega)), Cell.bare,
      keptMarks_of_ne_two (show WcWidth.width x ≠ 2 by omega)]
    rfl
  next outside =>
    by_cases before : c < column
    · rw [cellAt_copied_before holds.valid fits nonempty before, startsWide_narrow holds.valid own, if_neg (by simp)]
    · obtain ⟨more, rfl⟩ := Nat.exists_eq_add_of_le (show column + count ≤ c by omega)
      have shown := cellAt_copied_behind holds.valid fits nonempty more
      rw [width, extraColumn_narrow holds.valid own, if_neg (by simp)] at shown
      exact shown

theorem narrow_after : row'.Narrow := by
  have after := set.rewritten.holds
  rw [after.narrow_iff]
  refine narrow_of_cellAt after.valid fun c cell _ found => ?_
  rw [← after.cells_eq, set.cellAt_narrow holds narrow one room] at found
  split at found
  · cases found
    exact one
  · exact narrow cell (mem_of_cellAt found)

end ColumnsSet

end TerminalRow
