import TerminalAndroid.Terminal.Row.CellWise

open Java Utf16 Exec

def cellAt : List Cell → Nat → Option (Cell × Nat)
  | [], _ => none
  | cell :: post, column => if column < cell.width then some (cell, column) else cellAt post (column - cell.width)

section

variable (pre post : List Cell) (cell : Cell) (column : Nat)

theorem cellAt_append : cellAt (pre ++ post) (cellsWidth pre + column) = cellAt post column := by
  induction pre with
  | nil => simp
  | cons cell pre ih =>
    rw [List.cons_append, cellsWidth_cons, cellAt, if_neg (by omega), Nat.add_assoc, Nat.add_sub_cancel_left, ih]

variable {pre cell column}

theorem cellAt_behind {width : Nat} (before : cellsWidth pre = width) (column : Nat) :
    cellAt (pre ++ post) (width + column) = cellAt post column := by
  rw [← before, cellAt_append]

theorem cellAt_append_left (inside : column < cellsWidth pre) : cellAt (pre ++ post) column = cellAt pre column := by
  induction pre generalizing column with
  | nil => cases inside
  | cons cell pre ih =>
    rw [cellsWidth_cons] at inside
    rw [List.cons_append, cellAt, cellAt]
    split
    · rfl
    · exact ih (by omega)

theorem cellAt_split {offset : Nat} (inside : offset < cell.width) :
    cellAt (pre ++ cell :: post) (cellsWidth pre + offset) = some (cell, offset) := by
  rw [cellAt_append, cellAt, if_pos inside]

end

variable {cells : List Cell} {column : Nat}

theorem cellAt_past (past : cellsWidth cells ≤ column) : cellAt cells column = none := by
  induction cells generalizing column with
  | nil => rfl
  | cons cell cells ih =>
    rw [cellsWidth_cons] at past
    rw [cellAt, if_neg (by omega), ih (by omega)]

theorem exists_cellAt (inside : column < cellsWidth cells) : ∃ cell offset, cellAt cells column = some (cell, offset) := by
  obtain ⟨pre, cell, post, offset, rfl, rfl, within⟩ := split_at_column inside
  exact ⟨cell, offset, cellAt_split post within⟩

theorem split_of_cellAt {cell : Cell} {offset : Nat} (found : cellAt cells column = some (cell, offset)) :
    ∃ pre post, cells = pre ++ cell :: post ∧ column = cellsWidth pre + offset ∧ offset < cell.width := by
  by_cases inside : column < cellsWidth cells
  · obtain ⟨pre, cell', post, offset', rfl, rfl, within⟩ := split_at_column inside
    rw [cellAt_split post within] at found
    cases found
    exact ⟨pre, post, rfl, rfl, within⟩
  · rw [cellAt_past (Nat.not_lt.mp inside)] at found
    cases found

theorem cellAt_start {cell : Cell} {offset : Nat} (found : cellAt cells column = some (cell, offset)) :
    cellAt cells (column - offset) = some (cell, 0) := by
  obtain ⟨pre, post, rfl, rfl, within⟩ := split_of_cellAt found
  rw [Nat.add_sub_cancel]
  exact cellAt_split post (show 0 < cell.width by omega)

theorem mem_of_cellAt {cell : Cell} {offset : Nat} (found : cellAt cells column = some (cell, offset)) :
    cell ∈ cells := by
  obtain ⟨pre, post, rfl, -, -⟩ := split_of_cellAt found
  simp

variable (valid : ∀ c ∈ cells, c.Valid)
include valid

theorem cellFrom_eq_some {cell : Cell} : cellFrom cells column = some cell ↔ cellAt cells column = some (cell, 0) := by
  by_cases inside : column < cellsWidth cells
  · obtain ⟨pre, cell', post, offset, rfl, rfl, within⟩ := split_at_column inside
    rw [List.forall_mem_append] at valid
    rw [cellFrom_append valid.1, cellAt_split post within, cellFrom]
    by_cases zero : offset = 0
    · simp [zero]
    · simp [zero, within]
  · have past := Nat.not_lt.mp inside
    have outside : cellFrom cells column = none := by
      obtain ⟨more, rfl⟩ := Nat.exists_eq_add_of_le past
      have ending := cellFrom_append valid [] more
      rw [List.append_nil] at ending
      exact ending
    rw [outside, cellAt_past past]
    simp

theorem startsWide_iff :
    startsWide cells column = true ↔ ∃ cell, cellAt cells column = some (cell, 0) ∧ cell.width = 2 := by
  by_cases inside : column < cellsWidth cells
  · obtain ⟨pre, cell, post, offset, rfl, rfl, within⟩ := split_at_column inside
    rw [List.forall_mem_append] at valid
    rw [startsWide_append valid.1, cellAt_split post within, startsWide]
    by_cases zero : offset = 0
    · simp [zero]
    · simp [zero, within]
  · rw [startsWide_past cells (Nat.not_lt.mp inside), cellAt_past (Nat.not_lt.mp inside)]
    simp

theorem extraColumn_iff : extraColumn cells column = true ↔ ∃ cell, cellAt cells column = some (cell, 1) := by
  by_cases inside : column < cellsWidth cells
  · obtain ⟨pre, cell, post, offset, rfl, rfl, within⟩ := split_at_column inside
    rw [extraColumn_split valid offset within, cellAt_split post within]
    simp
  · have past := Nat.not_lt.mp inside
    rw [cellAt_past past]
    simp only [reduceCtorEq, exists_false, iff_false, Bool.not_eq_true, extraColumn, Bool.and_eq_false_imp,
      decide_eq_true_eq]
    intro positive
    rw [Bool.eq_false_iff, ne_eq, startsWide_iff valid]
    rintro ⟨cell, found, wide⟩
    obtain ⟨pre, post, rfl, place, -⟩ := split_of_cellAt found
    simp only [cellsWidth_append, cellsWidth_cons] at past
    omega

theorem rightOf_past (past : cellsWidth cells ≤ column) : rightOf cells column = [] := by
  obtain ⟨more, rfl⟩ := Nat.exists_eq_add_of_le past
  have ending := rightOf_append valid [] more
  rw [List.append_nil] at ending
  exact ending

theorem rightOf_rightOf (more : Nat) : rightOf (rightOf cells column) more = rightOf cells (column + more) := by
  by_cases inside : column < cellsWidth cells
  · obtain ⟨pre, cell, post, offset, rfl, rfl, within⟩ := split_at_column inside
    simp only [List.forall_mem_append, List.forall_mem_cons] at valid
    rw [rightOf_append valid.1, Nat.add_assoc, rightOf_append valid.1]
    have cases := valid.2.1.width_cases
    by_cases zero : offset = 0
    · simp [zero]
    · have wide : cell.width = 2 := by omega
      obtain rfl : offset = 1 := by omega
      cases more with
      | zero => rw [rightOf_zero, Nat.add_zero]
      | succ more =>
        have left : rightOf (cell :: post) 1 = .blank :: post := by simp [rightOf, wide]
        have cut : rightOf (.blank :: post) (more + 1) = rightOf post more := by simp [rightOf]
        have behind : rightOf (cell :: post) (1 + (more + 1)) = rightOf post more := by
          rw [rightOf, if_neg (by omega), if_neg (by omega)]
          congr 1
          omega
        rw [left, cut, behind]
  · have past := Nat.not_lt.mp inside
    rw [rightOf_past valid past, rightOf_past valid (by omega)]
    rfl

theorem cellsWidth_rightOf : cellsWidth (rightOf cells column) = cellsWidth cells - column := by
  by_cases inside : column < cellsWidth cells
  · obtain ⟨pre, cell, post, offset, rfl, rfl, within⟩ := split_at_column inside
    simp only [List.forall_mem_append, List.forall_mem_cons] at valid
    have cases := valid.2.1.width_cases
    rw [rightOf_append valid.1, rightOf, cellsWidth_append, cellsWidth_cons]
    split
    · rw [cellsWidth_cons]
      omega
    · rw [cellsWidth_cons, Cell.blank_width]
      omega
  · have past := Nat.not_lt.mp inside
    rw [rightOf_past valid past, Nat.sub_eq_zero_of_le past]
    rfl

theorem cellsWidth_leftOf (inside : column ≤ cellsWidth cells) : cellsWidth (leftOf cells column) = column := by
  rcases Nat.lt_or_eq_of_le inside with inside | rfl
  · obtain ⟨pre, cell, post, offset, rfl, rfl, within⟩ := split_at_column inside
    simp only [List.forall_mem_append, List.forall_mem_cons] at valid
    have cases := valid.2.1.width_cases
    rw [leftOf_append valid.1, leftOf, cellsWidth_append]
    split
    · next zero => rw [zero, cellsWidth_nil]
    · rw [cellsWidth_cons, Cell.blank_width, cellsWidth_nil]
      omega
  · have whole := leftOf_append valid [] 0
    rw [List.append_nil, Nat.add_zero, leftOf_zero, List.append_nil] at whole
    rw [whole]

theorem leftOf_valid : ∀ c ∈ leftOf cells column, c.Valid := by
  induction cells generalizing column with
  | nil => simp [leftOf]
  | cons cell cells ih =>
    rw [List.forall_mem_cons] at valid
    unfold leftOf
    split
    · simp
    · split
      · simpa using Cell.blank_valid
      · exact List.forall_mem_cons.mpr ⟨valid.1, ih valid.2⟩

theorem rightOf_valid : ∀ c ∈ rightOf cells column, c.Valid := by
  induction cells generalizing column with
  | nil => simp [rightOf]
  | cons cell cells ih =>
    unfold rightOf
    split
    · exact valid
    · rw [List.forall_mem_cons] at valid
      split
      · exact List.forall_mem_cons.mpr ⟨Cell.blank_valid, valid.2⟩
      · exact ih valid.2

theorem cellAt_leftOf {c : Nat} (left : c < column) (inside : column ≤ cellsWidth cells) :
    cellAt (leftOf cells column) c =
      if c + 1 = column ∧ startsWide cells c = true then some (.blank, 0) else cellAt cells c := by
  obtain ⟨pre, cell, post, offset, rfl, rfl, within⟩ := split_at_column (show c < cellsWidth cells by omega)
  simp only [List.forall_mem_append, List.forall_mem_cons] at valid
  obtain ⟨more, rfl⟩ : ∃ more, column = cellsWidth pre + more := ⟨column - cellsWidth pre, by omega⟩
  have cases := valid.2.1.width_cases
  rw [leftOf_append valid.1, cellAt_append, cellAt_append, startsWide_append valid.1, leftOf, if_neg (by omega)]
  by_cases cut : more < cell.width
  · have wide : cell.width = 2 := by omega
    obtain rfl : offset = 0 := by omega
    rw [if_pos cut, if_pos ⟨by omega, by simp [startsWide, wide]⟩]
    simp [cellAt]
  · rw [if_neg cut, if_neg, cellAt, cellAt, if_pos within, if_pos within]
    rintro ⟨edge, starts⟩
    rw [startsWide] at starts
    split at starts
    · simp only [beq_iff_eq] at starts
      omega
    · cases starts

theorem cellAt_rightOf (c : Nat) :
    cellAt (rightOf cells column) c =
      if c = 0 ∧ extraColumn cells column = true then some (.blank, 0) else cellAt cells (column + c) := by
  by_cases inside : column < cellsWidth cells
  · obtain ⟨pre, cell, post, offset, rfl, rfl, within⟩ := split_at_column inside
    rw [extraColumn_split valid offset within]
    simp only [List.forall_mem_append, List.forall_mem_cons] at valid
    have cases := valid.2.1.width_cases
    rw [rightOf_append valid.1, Nat.add_assoc, cellAt_append, rightOf]
    by_cases zero : offset = 0
    · simp [zero]
    · have wide : cell.width = 2 := by omega
      obtain rfl : offset = 1 := by omega
      rw [if_neg zero, if_pos within]
      cases c with
      | zero => simp [cellAt]
      | succ c =>
        rw [if_neg (by omega), cellAt, if_neg (by rw [Cell.blank_width]; omega), cellAt, if_neg (by omega)]
        congr 1
        rw [Cell.blank_width]
        omega
  · have past := Nat.not_lt.mp inside
    have none : extraColumn cells column ≠ true := by
      rw [ne_eq, extraColumn_iff valid, cellAt_past past]
      simp
    rw [rightOf_past valid past, if_neg fun both => none both.2,
      cellAt_past (show cellsWidth cells ≤ column + c by omega)]
    rfl

theorem startsWide_rightOf (more : Nat) :
    startsWide (rightOf cells column) (more + 1) = startsWide cells (column + (more + 1)) := by
  rw [Bool.eq_iff_iff, startsWide_iff (rightOf_valid valid), startsWide_iff valid, cellAt_rightOf valid,
    if_neg (by omega)]

theorem keptMarks_rightOf (x : Nat) : keptMarks x (rightOf cells column) 0 = keptMarks x cells column := by
  have next : cellFrom (rightOf cells column) (0 + 1) = cellFrom cells (column + 1) := by
    refine Option.ext fun cell => ?_
    rw [cellFrom_eq_some (rightOf_valid valid), cellFrom_eq_some valid, cellAt_rightOf valid, if_neg (by omega)]
  unfold keptMarks
  rw [next, cellsWidth_rightOf valid]
  simp only [show 0 + 2 < cellsWidth cells - column ↔ column + 2 < cellsWidth cells by omega]
