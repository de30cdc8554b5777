import TerminalAndroid.Terminal.Row.Splice

open Java Utf16

theorem startsWide_append {pre : List Cell} (valid : ∀ c ∈ pre, c.Valid) (post : List Cell) (column : Nat) :
    startsWide (pre ++ post) (cellsWidth pre + column) = startsWide post column := by
  induction pre with
  | nil => simp
  | cons first pre ih =>
    have positive := (valid first (by simp)).base
    have tail := ih (fun c member => valid c (List.mem_cons_of_mem _ member))
    simp only [List.cons_append, cellsWidth_cons, startsWide]
    rw [if_neg (by omega), if_neg (by omega),
      show first.width + cellsWidth pre + column - first.width = cellsWidth pre + column by omega, tail]

theorem startsWide_split {pre : List Cell} (valid : ∀ c ∈ pre, c.Valid) (cell : Cell) (post : List Cell) :
    startsWide (pre ++ cell :: post) (cellsWidth pre) = (cell.width == 2) := by
  have split := startsWide_append valid (cell :: post) 0
  simpa [startsWide] using split

theorem startsWide_inside {pre : List Cell} (valid : ∀ c ∈ pre, c.Valid) {cell : Cell} (post : List Cell)
    (offset : Nat) (positive : 0 < offset) (inside : offset < cell.width) :
    startsWide (pre ++ cell :: post) (cellsWidth pre + offset) = false := by
  rw [startsWide_append valid, startsWide, if_neg (by omega), if_pos inside]

theorem startsWide_past (cells : List Cell) {column : Nat} (past : cellsWidth cells ≤ column) :
    startsWide cells column = false := by
  induction cells generalizing column with
  | nil => rfl
  | cons cell cells ih =>
    simp only [cellsWidth_cons] at past
    simp only [startsWide]
    by_cases zero : column = 0
    · simp [show cell.width = 0 by omega, zero]
    · rw [if_neg zero, if_neg (by omega), ih (by omega)]

theorem startsWide_before {pre post : List Cell} (valid : ∀ c ∈ pre, c.Valid) (nonempty : pre ≠ []) :
    startsWide (pre ++ post) (cellsWidth pre - 1) = false := by
  obtain ⟨front, last, rfl⟩ := List.eq_nil_or_concat pre |>.resolve_left nonempty
  have frontValid : ∀ c ∈ front, c.Valid := fun c member => valid c (by simp [member])
  have lastValid : last.Valid := valid last (by simp)
  simp only [List.concat_eq_append, List.append_assoc, List.singleton_append, cellsWidth_append,
    cellsWidth_cons, cellsWidth_nil, Nat.add_zero]
  rcases lastValid.width_cases with narrow | wide
  · rw [narrow, Nat.add_sub_cancel, startsWide_split frontValid, narrow]
    rfl
  · rw [wide, show cellsWidth front + 2 - 1 = cellsWidth front + 1 by omega]
    exact startsWide_inside frontValid post 1 (by omega) (by omega)

theorem split_at_column {cells : List Cell} {column : Nat} (inside : column < cellsWidth cells) :
    ∃ pre cell post offset, cells = pre ++ cell :: post ∧ column = cellsWidth pre + offset ∧
      offset < cell.width := by
  induction cells generalizing column with
  | nil => simp at inside
  | cons cell cells ih =>
    by_cases here : column < cell.width
    · exact ⟨[], cell, cells, column, rfl, by simp, here⟩
    · simp only [cellsWidth_cons] at inside
      obtain ⟨pre, found, post, offset, rfl, position, bound⟩ := @ih (column - cell.width) (by omega)
      exact ⟨cell :: pre, found, post, offset, rfl, by simp only [cellsWidth_cons]; omega, bound⟩

namespace TerminalRow

def withCells (row : TerminalRow) (cells : List Cell) (spare : List Nat) : TerminalRow :=
  { row with mText := cellsText cells ++ spare, mSpaceUsed := ((cellsText cells).length : Int) }

structure Holds (row : TerminalRow) (cells : List Cell) : Prop where
  stored : ∃ spare, row = row.withCells cells spare
  valid : ∀ c ∈ cells, c.Valid
  width : cellsWidth cells = row.mColumns
  styles : row.mStyle.length = row.mColumns
  narrow : row.mHasNonOneWidthOrSurrogateChars = false →
    ∀ c ∈ cells, c.marks = [] ∧ c.base < 0x10000 ∧ c.width = 1

namespace Holds

variable {row : TerminalRow} {cells pre post : List Cell} {cell : Cell}

theorem text (holds : row.Holds cells) : ∃ spare, row.mText = cellsText cells ++ spare := by
  obtain ⟨spare, stored⟩ := holds.stored
  exact ⟨spare, congrArg mText stored⟩

theorem used (holds : row.Holds cells) : row.mSpaceUsed = ((cellsText cells).length : Int) := by
  obtain ⟨spare, stored⟩ := holds.stored
  exact congrArg mSpaceUsed stored

theorem length_le (holds : row.Holds cells) (columns : row.mColumns ≤ 1023) :
    (cellsText cells).length ≤ 32736 := by
  have bound := cellsText_length_le holds.valid
  rw [holds.width] at bound
  omega

theorem columns_pos (holds : row.Holds (pre ++ cell :: post)) : 1 ≤ row.mColumns := by
  have width := holds.width
  have positive := (holds.valid cell (by simp)).base
  simp only [cellsWidth_append, cellsWidth_cons] at width
  omega

theorem findStart_inside (holds : row.Holds (pre ++ cell :: post)) (offset : Nat)
    (inside : offset < cell.width) :
    row.findStartOfColumn (cellsWidth pre + offset : Nat) = .ok ((cellsText pre).length : Int) := by
  obtain ⟨spare, text⟩ := holds.text
  have width := holds.width
  simp only [cellsWidth_append, cellsWidth_cons] at width
  unfold findStartOfColumn
  rw [if_neg (by omega), text, findStartLoop_cells holds.valid spare inside 0 0
    (by rw [holds.used]; simp) (by simp)]
  simp [Except.map]

theorem findStart_split (holds : row.Holds (pre ++ post)) :
    row.findStartOfColumn (cellsWidth pre : Nat) = .ok ((cellsText pre).length : Int) := by
  cases post with
  | nil =>
    rw [List.append_nil] at holds
    unfold findStartOfColumn
    rw [if_pos (by rw [holds.width]), holds.used]
  | cons cell post =>
    exact holds.findStart_inside 0 (holds.valid cell (by simp)).base

theorem wideStart (holds : row.Holds cells) (column : Nat) :
    row.wideDisplayCharacterStartingAt column = .ok (startsWide cells column) := by
  obtain ⟨spare, text⟩ := holds.text
  unfold wideDisplayCharacterStartingAt
  rw [text]
  exact wideStartLoop_cells holds.valid spare column 0 0 (by rw [holds.used]; simp) (by simp)

theorem run_widthAt (holds : row.Holds (pre ++ cell :: post)) (s : TerminalRow) :
    (widthAt row.mText (cellsText pre).length).run s = .ok cell.width s := by
  obtain ⟨spare, text⟩ := holds.text
  have scalar := (holds.valid cell (by simp)).base_scalar
  have text : row.mText = cellsText pre ++ (toChars cell.base ++
      (cell.marks.flatMap toChars ++ cellsText post ++ spare)) := by
    simp [text, Cell.chars_eq]
  unfold widthAt
  by_cases supplementary : 0x10000 ≤ cell.base
  · rw [toChars_supplementary supplementary] at text
    have high : row.mText[(cellsText pre).length]? = some (highSurrogate cell.base) := by simp [text]
    have low : row.mText[(cellsText pre).length + 1]? = some (lowSurrogate cell.base) := by
      simp [text]
    have next : ((cellsText pre).length : Int) + 1 = (((cellsText pre).length + 1 : Nat) : Int) := by simp
    simp only [EStateM.run_bind, run_readArray high, next, run_readArray low,
      isHighSurrogate_highSurrogate scalar supplementary, if_true, EStateM.run_pure,
      toCodePoint_surrogates scalar supplementary, Cell.width]
  · have bmp : cell.base < 0x10000 := by omega
    rw [toChars_bmp bmp] at text
    have here : row.mText[(cellsText pre).length]? = some cell.base := by simp [text]
    simp only [EStateM.run_bind, run_readArray here, isHighSurrogate_bmp scalar bmp, Bool.false_eq_true,
      if_false, EStateM.run_pure, Cell.width]

theorem marksCount (holds : row.Holds (pre ++ cell :: post)) :
    zeroWidthCharsCount row.mText (cellsText pre).length
      ((cellsText pre).length + cell.chars.length : Nat) = .ok cell.marks.length := by
  obtain ⟨spare, text⟩ := holds.text
  have head := holds.valid cell (by simp)
  have positive := cell.chars_length_pos
  have length : (cellsText pre).length + cell.chars.length ≤ row.mText.length := by
    simp [text]
  have base := head.base
  have count := charCount_pos cell.base
  unfold zeroWidthCharsCount
  rw [if_neg (by omega), text, Int.toNat_natCast]
  simp only [cellsText_append, cellsText_cons, List.append_assoc, List.drop_left, Cell.chars_eq]
  unfold Cell.width at base
  rw [zeroWidthLoop_toChars head.base_scalar, if_pos (by simp only [List.length_append, toChars_length]; omega),
    if_neg (by omega), zeroWidthLoop_marks head.mark_scalars head.marks _ _ _
      (by simp only [List.length_append, toChars_length]; omega),
    zeroWidthLoop_end (by simp only [List.length_append, toChars_length]; omega)]
  simp

theorem replace (holds : row.Holds cells) (cells' : List Cell) (spare : List Nat)
    (valid : ∀ c ∈ cells', c.Valid) (width : cellsWidth cells' = cellsWidth cells)
    (flag : row.mHasNonOneWidthOrSurrogateChars = true) : (row.withCells cells' spare).Holds cells' where
  stored := ⟨spare, rfl⟩
  valid := valid
  width := width.trans holds.width
  styles := holds.styles
  narrow := fun unset => absurd (flag.symm.trans unset) (by decide)

end Holds

end TerminalRow
