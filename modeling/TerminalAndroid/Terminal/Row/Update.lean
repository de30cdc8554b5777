import TerminalAndroid.Terminal.Row.SetChar

open Java Utf16

theorem Cell.Valid.addMark {cell : Cell} (valid : cell.Valid) {x : Nat} (scalar : x.isValidChar)
    (zero : WcWidth.width x = 0) : (cell.addMark x).Valid := by
  unfold Cell.addMark
  split
  · exact valid
  · rename_i free
    refine ⟨?_, valid.base, ?_, ?_⟩
    · intro y member
      have cases : y ∈ cell.codePoints ∨ y = x := by simpa [codePoints, or_assoc] using member
      rcases cases with old | rfl
      · exact valid.scalars y old
      · exact scalar
    · intro y member
      rcases List.mem_append.mp member with old | new
      · exact valid.marks y old
      · exact List.mem_singleton.mp new ▸ zero
    · simp only [List.length_append, List.length_singleton]
      omega

@[simp] theorem Cell.addMark_width (cell : Cell) (x : Nat) : (cell.addMark x).width = cell.width := by
  unfold Cell.addMark
  split <;> rfl

theorem Cell.Valid.rebase {cell : Cell} (valid : cell.Valid) {x : Nat} (scalar : x.isValidChar)
    (positive : 0 < WcWidth.width x) : (⟨x, cell.marks⟩ : Cell).Valid where
  scalars := by
    intro y member
    rcases List.mem_cons.mp member with rfl | mark
    · exact scalar
    · exact valid.mark_scalars y mark
  base := positive
  marks := valid.marks
  bound := valid.bound

theorem placeWide_valid {x : Nat} (scalar : x.isValidChar) (wide : WcWidth.width x = 2) {post cells : List Cell}
    (valid : ∀ c ∈ post, c.Valid) (found : placeWide x post = some cells) :
    (∀ c ∈ cells, c.Valid) ∧ cellsWidth cells = cellsWidth post + 1 := by
  cases post with
  | nil => cases found
  | cons next post =>
    have bare := Cell.bare_valid scalar (by omega)
    simp only [List.forall_mem_cons] at valid
    have cases := valid.1.width_cases
    simp only [placeWide] at found
    split at found
    · cases found
      simp only [List.forall_mem_cons, cellsWidth_cons, Cell.bare_width, Cell.blank_width]
      exact ⟨⟨bare, Cell.blank_valid, valid.2⟩, by omega⟩
    · split at found
      · rename_i last
        cases found
        subst last
        simp only [List.forall_mem_cons, cellsWidth_cons, cellsWidth_nil, Cell.bare_width]
        exact ⟨⟨bare, by simp⟩, by omega⟩
      · cases found
        have width : (⟨x, next.marks⟩ : Cell).width = 2 := wide
        simp only [List.forall_mem_cons, cellsWidth_cons, width]
        exact ⟨⟨valid.1.rebase scalar (by omega), valid.2⟩, by omega⟩

theorem setCells_valid {x : Nat} (scalar : x.isValidChar) {cells cells' : List Cell} {column : Nat}
    (valid : ∀ c ∈ cells, c.Valid) (found : setCells x cells column = some cells') :
    (∀ c ∈ cells', c.Valid) ∧ cellsWidth cells' = cellsWidth cells := by
  induction cells generalizing column cells' with
  | nil => cases found
  | cons cell post ih =>
    simp only [List.forall_mem_cons] at valid
    have cases := valid.1.width_cases
    have most := WcWidth.width_le_two x
    simp only [setCells] at found
    split_ifs at found with here zero one narrow first narrow first
    · cases found
      simp only [List.forall_mem_cons, cellsWidth_cons, Cell.addMark_width]
      exact ⟨⟨valid.1.addMark scalar zero, valid.2⟩, trivial⟩
    · cases found
      simp only [List.forall_mem_cons, cellsWidth_cons, Cell.bare_width]
      exact ⟨⟨Cell.bare_valid scalar (by omega), valid.2⟩, by omega⟩
    · cases found
      simp only [List.forall_mem_cons, cellsWidth_cons, Cell.bare_width, Cell.blank_width]
      exact ⟨⟨Cell.bare_valid scalar (by omega), Cell.blank_valid, valid.2⟩, by omega⟩
    · cases found
      simp only [List.forall_mem_cons, cellsWidth_cons, Cell.bare_width, Cell.blank_width]
      exact ⟨⟨Cell.blank_valid, Cell.bare_valid scalar (by omega), valid.2⟩, by omega⟩
    · have placed := placeWide_valid scalar (by omega) valid.2 found
      simp only [cellsWidth_cons]
      exact ⟨placed.1, by omega⟩
    · cases found
      simp only [List.forall_mem_cons, cellsWidth_cons, Cell.bare_width]
      exact ⟨⟨Cell.bare_valid scalar (by omega), valid.2⟩, by omega⟩
    · obtain ⟨cells, placed, rfl⟩ := Option.map_eq_some_iff.mp found
      have rest := placeWide_valid scalar (by omega) valid.2 placed
      simp only [List.forall_mem_cons, cellsWidth_cons, Cell.blank_width]
      exact ⟨⟨Cell.blank_valid, rest.1⟩, by omega⟩
    · obtain ⟨cells, set, rfl⟩ := Option.map_eq_some_iff.mp found
      have rest := ih valid.2 set
      simp only [List.forall_mem_cons, cellsWidth_cons]
      exact ⟨⟨valid.1, rest.1⟩, by omega⟩

def Cell.Plain (cell : Cell) : Prop := cell.marks = [] ∧ cell.base < 0x10000 ∧ cell.width = 1

theorem cellsText_plain {cells : List Cell} (plain : ∀ c ∈ cells, c.Plain) :
    cellsText cells = cells.map Cell.base := by
  induction cells with
  | nil => rfl
  | cons cell cells ih =>
    simp only [List.forall_mem_cons] at plain
    obtain ⟨⟨marks, bmp, -⟩, rest⟩ := plain
    simp [ih rest, Cell.chars_eq, marks, toChars_bmp bmp]

theorem cellsWidth_plain {cells : List Cell} (plain : ∀ c ∈ cells, c.Plain) :
    cellsWidth cells = cells.length := by
  induction cells with
  | nil => rfl
  | cons cell cells ih =>
    simp only [List.forall_mem_cons] at plain
    simp only [cellsWidth_cons, plain.1.2.2, ih plain.2, List.length_cons]
    omega

theorem startsWide_plain {cells : List Cell} (plain : ∀ c ∈ cells, c.Plain) (column : Nat) :
    startsWide cells column = false := by
  induction cells generalizing column with
  | nil => rfl
  | cons cell cells ih =>
    simp only [List.forall_mem_cons] at plain
    simp only [startsWide, plain.1.2.2]
    split
    · rfl
    · split
      · rfl
      · exact ih plain.2 _

theorem setCells_plain {x : Nat} (one : WcWidth.width x = 1) {cells : List Cell} (plain : ∀ c ∈ cells, c.Plain)
    {column : Nat} (inside : column < cells.length) :
    setCells x cells column = some (cells.set column (.bare x)) := by
  induction cells generalizing column with
  | nil => simp at inside
  | cons cell cells ih =>
    simp only [List.forall_mem_cons] at plain
    have narrow := plain.1.2.2
    cases column with
    | zero => simp [setCells, narrow, one]
    | succ column =>
      simp only [List.length_cons] at inside
      simp only [setCells, narrow, show ¬ column + 1 < 1 by omega, if_false, Nat.add_sub_cancel,
        ih plain.2 (Nat.lt_of_succ_lt_succ inside), Option.map_some, List.set_cons_succ]

namespace TerminalRow

variable {row : TerminalRow} {cells : List Cell} {x column : Nat}

structure Updated (row row' : TerminalRow) (cells : List Cell) (styles : List Style) : Prop where
  holds : row'.Holds cells
  style : row'.mStyle = styles
  lineWrap : row'.mLineWrap = row.mLineWrap
  columns : row'.mColumns = row.mColumns

theorem run_setCharFuel_fast (holds : row.Holds cells) (inside : column < row.mColumns) (scalar : x.isValidChar)
    (flag : row.mHasNonOneWidthOrSurrogateChars = false) (bmp : x < 0x10000) (one : WcWidth.width x = 1)
    (style : Style) :
    ∃ row', (∀ (rules : RowRules) (fuel : Nat), rules.fastPath = true →
        (setCharFuel rules (fuel + 1) column x style).run row = .ok () row') ∧
      Updated row row' (cells.set column (.bare x)) (row.mStyle.set column style) := by
  have plain : ∀ c ∈ cells, c.Plain := holds.narrow flag
  have width := holds.width
  rw [cellsWidth_plain plain] at width
  obtain ⟨spare, text⟩ := holds.text
  have length : column < row.mText.length := by
    rw [text, cellsText_plain plain]
    simp only [List.length_append, List.length_map]
    omega
  have plain' : ∀ c ∈ cells.set column (.bare x), c.Plain := by
    intro c member
    rcases List.mem_or_eq_of_mem_set member with old | rfl
    · exact plain c old
    · exact ⟨rfl, bmp, one⟩
  have bound : ¬ ((column : Int) < 0 ∨ (row.mStyle.length : Int) ≤ column) := by
    rw [holds.styles]
    omega
  refine ⟨{ row with mStyle := row.mStyle.set column style, mText := row.mText.set column x },
    fun rules fuel path => ?_, ?_, rfl, rfl, rfl⟩
  · rw [setCharFuel]
    simp only [EStateM.run_bind, EStateM.run_get, bound, if_false, EStateM.run_set, path, flag, one,
      Nat.not_le.mpr bmp, run_writeArray _ _ x length, EStateM.run_modify, Int.toNat_natCast,
      ne_eq, not_true, or_self, not_false_eq_true, and_self, if_true]
  · refine ⟨⟨spare, ?_⟩, ?_, ?_, ?_, fun _ => plain'⟩
    · have used := holds.used
      rw [cellsText_plain plain, List.length_map] at used
      have text' : row.mText.set column x = (cells.set column (.bare x)).map Cell.base ++ spare := by
        rw [text, cellsText_plain plain, List.set_append_left _ _ (by simp; omega), List.map_set]
        rfl
      simp [withCells, cellsText_plain plain', text', used]
    · intro c member
      rcases List.mem_or_eq_of_mem_set member with old | rfl
      · exact holds.valid c old
      · exact Cell.bare_valid scalar (by omega)
    · rw [cellsWidth_plain plain', List.length_set, width]
    · simp [holds.styles]

theorem Holds.roomFor (holds : row.Holds cells) (columns : 2 ≤ row.mColumns) (x : Nat) : row.RoomFor (charCount x) := by
  obtain ⟨spare, text⟩ := holds.text
  have two := charCount_le_two x
  rw [RoomFor, holds.used, text, List.length_append]
  omega

theorem Holds.run_setChar (holds : row.Holds cells) (length : (cellsText cells).length ≤ 32764)
    (room : WcWidth.width x = 0 → row.RoomFor (charCount x)) (scalar : x.isValidChar) (inside : column < row.mColumns) (fast : Bool) (style : Style) :
    match setCells x cells column with
    | some cells' => ∃ row', (∀ rules : RowRules, rules.Exact → rules.fastPath = fast →
        (setChar rules column x style).run row = .ok () row') ∧
          Updated row row' cells' (setStyles x cells column style row.mStyle)
    | none => ∃ row', (∀ rules : RowRules, rules.Exact → rules.fastPath = fast →
        (setChar rules column x style).run row =
          .error (.illegalArgument "Cannot put wide character in last column") row') ∧ row'.Overfull := by
  by_cases quick : fast = true ∧ row.mHasNonOneWidthOrSurrogateChars = false ∧ x < 0x10000 ∧ WcWidth.width x = 1
  · obtain ⟨path, flag, bmp, one⟩ := quick
    have plain : ∀ c ∈ cells, c.Plain := holds.narrow flag
    have width := holds.width
    rw [cellsWidth_plain plain] at width
    obtain ⟨row', ran, updated⟩ := run_setCharFuel_fast holds inside scalar flag bmp one style
    simp only [setCells_plain one plain (width ▸ inside), setStyles_one one, extraColumn, startsWide_plain plain,
      Bool.and_false, Bool.false_eq_true, if_false]
    exact ⟨row', fun rules _ same => ran rules 2 (same.trans path), updated⟩
  · have slow : ∀ rules : RowRules, rules.fastPath = fast → rules.Slow row x := by
      intro rules same path flag
      by_contra not
      rw [not_or, not_not] at not
      exact quick ⟨same.symm.trans path, flag, by omega, not.2⟩
    obtain ⟨pre, cell, post, offset, rfl, rfl, within⟩ := split_at_column (holds.width ▸ inside)
    have outcome : SlowOutcome row (pre ++ cell :: post) x (cellsWidth pre + offset) 1 style := by
      have most := WcWidth.width_le_two x
      rcases (by omega : WcWidth.width x = 0 ∨ WcWidth.width x = 1 ∨ WcWidth.width x = 2) with zero | one | two
      · exact slowOutcome_mark length scalar 1 style within holds (room zero) zero
      · exact slowOutcome_narrow length scalar 1 style within holds one
      · exact slowOutcome_wide length scalar 1 style within holds two
    unfold SlowOutcome at outcome
    cases found : setCells x (pre ++ cell :: post) (cellsWidth pre + offset) with
    | none =>
      rw [found] at outcome
      obtain ⟨row', thrown, overfull⟩ := outcome
      exact ⟨row', fun rules exact' same => thrown rules exact' (slow rules same), overfull⟩
    | some cells' =>
      rw [found] at outcome
      obtain ⟨spare, ran⟩ := outcome
      obtain ⟨valid, width⟩ := setCells_valid scalar holds.valid found
      have styled := holds.restyled (setStyles x (pre ++ cell :: post) (cellsWidth pre + offset) style
        row.mStyle) (by unfold setStyles; split_ifs <;> simp)
      exact ⟨_, fun rules exact' same => ran rules exact' (slow rules same),
        styled.replace cells' spare valid width rfl, rfl, rfl, rfl⟩

end TerminalRow
