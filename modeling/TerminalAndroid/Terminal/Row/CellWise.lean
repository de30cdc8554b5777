import TerminalAndroid.Terminal.Row.WellFormed

open Java Utf16 Exec

def leftOf : List Cell → Nat → List Cell
  | [], _ => []
  | cell :: post, column =>
    if column = 0 then []
    else if column < cell.width then [.blank]
    else cell :: leftOf post (column - cell.width)

def rightOf : List Cell → Nat → List Cell
  | [], _ => []
  | cell :: post, column =>
    if column = 0 then cell :: post
    else if column < cell.width then .blank :: post
    else rightOf post (column - cell.width)

def markAt (x : Nat) : List Cell → Nat → List Cell
  | [], _ => []
  | cell :: post, column =>
    if column < cell.width then cell.addMark x :: post else cell :: markAt x post (column - cell.width)

def putCell (x : Nat) (cells : List Cell) (column : Nat) : List Cell :=
  if WcWidth.width x = 0 then markAt x cells column
  else leftOf cells column ++ .bare x :: rightOf cells (column + WcWidth.width x)

def cellFrom : List Cell → Nat → Option Cell
  | [], _ => none
  | cell :: post, column =>
    if column = 0 then some cell
    else if column < cell.width then none
    else cellFrom post (column - cell.width)

def KeepsMarks (x : Nat) (cells : List Cell) (column : Nat) : Prop :=
  WcWidth.width x = 2 ∧ column + 2 < cellsWidth cells ∧
    ∃ next, cellFrom cells (column + 1) = some next ∧ next.width = 1 ∧ next.marks ≠ []

section

variable {pre : List Cell} (valid : ∀ c ∈ pre, c.Valid) (post : List Cell) (column : Nat)
include valid

theorem leftOf_append : leftOf (pre ++ post) (cellsWidth pre + column) = pre ++ leftOf post column := by
  induction pre with
  | nil => simp
  | cons cell pre ih =>
    rw [List.forall_mem_cons] at valid
    have positive := valid.1.base
    rw [List.cons_append, cellsWidth_cons, leftOf, if_neg (by omega), if_neg (by omega), Nat.add_assoc,
      Nat.add_sub_cancel_left, ih valid.2, List.cons_append]

theorem rightOf_append : rightOf (pre ++ post) (cellsWidth pre + column) = rightOf post column := by
  induction pre with
  | nil => simp
  | cons cell pre ih =>
    rw [List.forall_mem_cons] at valid
    have positive := valid.1.base
    rw [List.cons_append, cellsWidth_cons, rightOf, if_neg (by omega), if_neg (by omega), Nat.add_assoc,
      Nat.add_sub_cancel_left, ih valid.2]

theorem cellFrom_append : cellFrom (pre ++ post) (cellsWidth pre + column) = cellFrom post column := by
  induction pre with
  | nil => simp
  | cons cell pre ih =>
    rw [List.forall_mem_cons] at valid
    have positive := valid.1.base
    rw [List.cons_append, cellsWidth_cons, cellFrom, if_neg (by omega), if_neg (by omega), Nat.add_assoc,
      Nat.add_sub_cancel_left, ih valid.2]

omit valid in
theorem markAt_append (x : Nat) : markAt x (pre ++ post) (cellsWidth pre + column) = pre ++ markAt x post column := by
  induction pre with
  | nil => simp
  | cons cell pre ih =>
    rw [List.cons_append, cellsWidth_cons, markAt, if_neg (by omega), Nat.add_assoc, Nat.add_sub_cancel_left, ih,
      List.cons_append]

end

@[simp] theorem leftOf_zero (cells : List Cell) : leftOf cells 0 = [] := by
  cases cells <;> simp [leftOf]

@[simp] theorem rightOf_zero (cells : List Cell) : rightOf cells 0 = cells := by
  cases cells <;> simp [rightOf]

@[simp] theorem cellFrom_zero (cells : List Cell) : cellFrom cells 0 = cells.head? := by
  cases cells <;> simp [cellFrom]

def keptMarks (x : Nat) (cells : List Cell) (column : Nat) : List Nat :=
  if WcWidth.width x = 2 ∧ column + 2 < cellsWidth cells then
    match cellFrom cells (column + 1) with
    | some next => if next.width = 1 then next.marks else []
    | none => []
  else []

theorem keptMarks_of_ne_two {x : Nat} (narrow : WcWidth.width x ≠ 2) (cells : List Cell) (column : Nat) :
    keptMarks x cells column = [] := by
  rw [keptMarks, if_neg fun wide => narrow wide.1]

theorem keptMarks_append {pre : List Cell} (valid : ∀ c ∈ pre, c.Valid) (post : List Cell) (column x : Nat) :
    keptMarks x (pre ++ post) (cellsWidth pre + column) = keptMarks x post column := by
  unfold keptMarks
  rw [Nat.add_assoc, Nat.add_assoc, cellFrom_append valid, cellsWidth_append]
  simp only [Nat.add_lt_add_iff_left]

theorem keepsMarks_iff (x : Nat) (cells : List Cell) (column : Nat) :
    KeepsMarks x cells column ↔ keptMarks x cells column ≠ [] := by
  unfold KeepsMarks keptMarks
  cases found : cellFrom cells (column + 1) with
  | none => simp
  | some next =>
    by_cases one : next.width = 1
    · simp [one]
    · simp [one]

theorem placeWide_eq {x : Nat} {post : List Cell} (valid : ∀ c ∈ post, c.Valid) (wide : WcWidth.width x = 2)
    (room : 1 ≤ cellsWidth post) {cell : Cell} (narrow : cell.width = 1) :
    placeWide x post = some (⟨x, keptMarks x (cell :: post) 0⟩ :: rightOf post 1) := by
  cases post with
  | nil => cases room
  | cons next post =>
    rw [List.forall_mem_cons] at valid
    rw [placeWide]
    by_cases two : next.width = 2
    · have none : keptMarks x (cell :: next :: post) 0 = [] := by
        simp [keptMarks, cellFrom, narrow, two]
      rw [if_pos two, none]
      simp [rightOf, two, Cell.bare]
    · have one : next.width = 1 := by
        have cases := valid.1.width_cases
        omega
      rw [if_neg two]
      by_cases last : post = []
      · subst last
        simp [rightOf, one, Cell.bare, keptMarks, narrow]
      · have more : 0 < cellsWidth post :=
          Nat.pos_of_ne_zero fun none => last (cellsWidth_eq_zero valid.2 none)
        have kept : keptMarks x (cell :: next :: post) 0 = next.marks := by
          rw [keptMarks, if_pos ⟨wide, by simp only [cellsWidth_cons]; omega⟩]
          simp [cellFrom, narrow, one]
        rw [if_neg last, kept]
        simp [rightOf, one]

theorem setCells_head {x offset : Nat} {cell : Cell} {post : List Cell} (valid : ∀ c ∈ cell :: post, c.Valid)
    (inside : offset < cell.width) (positive : 0 < WcWidth.width x)
    (room : offset + WcWidth.width x ≤ cellsWidth (cell :: post)) :
    setCells x (cell :: post) offset = some (leftOf (cell :: post) offset ++
      ⟨x, keptMarks x (cell :: post) offset⟩ :: rightOf (cell :: post) (offset + WcWidth.width x)) := by
  rw [List.forall_mem_cons] at valid
  rw [cellsWidth_cons] at room
  have cases := valid.1.width_cases
  have most := WcWidth.width_le_two x
  have columns : cell.width = 1 ∧ offset = 0 ∨ cell.width = 2 ∧ offset = 0 ∨ cell.width = 2 ∧ offset = 1 := by omega
  rw [setCells, if_pos inside, if_neg (by omega)]
  rcases (by omega : WcWidth.width x = 1 ∨ WcWidth.width x = 2) with one | two
  · rw [if_pos one, keptMarks_of_ne_two (by omega)]
    rcases columns with ⟨narrow, rfl⟩ | ⟨wide, rfl⟩ | ⟨wide, rfl⟩
    · simp [rightOf, narrow, one, Cell.bare]
    · simp [rightOf, wide, one, Cell.bare]
    · simp [leftOf, rightOf, wide, one, Cell.bare]
  · rw [if_neg (by omega)]
    rcases columns with ⟨narrow, rfl⟩ | ⟨wide, rfl⟩ | ⟨wide, rfl⟩
    · rw [if_pos narrow, placeWide_eq valid.2 two (by omega) narrow]
      simp [rightOf, narrow, two]
    · have none : keptMarks x (cell :: post) 0 = [] := by
        simp [keptMarks, cellFrom, wide]
      rw [if_neg (by omega), if_pos rfl, none]
      simp [rightOf, wide, two, Cell.bare]
    · have kept : keptMarks x (cell :: post) 1 = keptMarks x (.blank :: post) 0 := by
        simp [keptMarks, cellFrom, wide, cellsWidth_cons]
        congr 1
        exact propext (by omega)
      rw [if_neg (by omega), if_neg (by decide), placeWide_eq valid.2 two (by omega) Cell.blank_width, kept]
      simp [leftOf, rightOf, wide, two]

theorem setCells_eq {x column : Nat} {cells : List Cell} (valid : ∀ c ∈ cells, c.Valid) (positive : 0 < WcWidth.width x)
    (room : column + WcWidth.width x ≤ cellsWidth cells) :
    setCells x cells column =
      some (leftOf cells column ++ ⟨x, keptMarks x cells column⟩ :: rightOf cells (column + WcWidth.width x)) := by
  obtain ⟨pre, cell, post, offset, rfl, rfl, within⟩ := split_at_column (show column < cellsWidth cells by omega)
  rw [List.forall_mem_append] at valid
  rw [cellsWidth_append] at room
  rw [setCells_split, setCells_head valid.2 within positive (by omega), Option.map_some, leftOf_append valid.1,
    keptMarks_append valid.1, Nat.add_assoc, rightOf_append valid.1, List.append_assoc]

theorem setCells_mark {x column : Nat} {cells : List Cell} (zero : WcWidth.width x = 0)
    (inside : column < cellsWidth cells) : setCells x cells column = some (markAt x cells column) := by
  obtain ⟨pre, cell, post, offset, rfl, rfl, within⟩ := split_at_column inside
  rw [setCells_split, setCells, if_pos within, if_pos zero, Option.map_some, markAt_append, markAt, if_pos within]

theorem setCells_eq_none_iff {x column : Nat} {cells : List Cell} (valid : ∀ c ∈ cells, c.Valid)
    (inside : column < cellsWidth cells) :
    setCells x cells column = none ↔ WcWidth.width x = 2 ∧ column + 1 = cellsWidth cells := by
  obtain ⟨pre, cell, post, offset, rfl, rfl, within⟩ := split_at_column inside
  simp only [List.forall_mem_append, List.forall_mem_cons] at valid
  have cases := valid.2.1.width_cases
  have most := WcWidth.width_le_two x
  have last : post = [] ↔ cellsWidth post = 0 :=
    ⟨fun empty => by rw [empty, cellsWidth_nil], cellsWidth_eq_zero valid.2.2⟩
  rw [setCells_split, Option.map_eq_none_iff, setCells, if_pos within, cellsWidth_append, cellsWidth_cons]
  split_ifs with zero one narrow first narrow first
  · simp [zero]
  · simp [one]
  · simp [one]
  · simp [one]
  · rw [placeWide_eq_none, last]
    omega
  · simp only [false_iff]
    omega
  · rw [Option.map_eq_none_iff, placeWide_eq_none, last]
    omega

theorem setCells_eq_iff {x column : Nat} {cells cells' : List Cell} (valid : ∀ c ∈ cells, c.Valid)
    (inside : column < cellsWidth cells) (found : setCells x cells column = some cells') :
    cells' = putCell x cells column ↔ ¬ KeepsMarks x cells column := by
  rw [keepsMarks_iff, not_not, putCell]
  by_cases zero : WcWidth.width x = 0
  · rw [setCells_mark zero inside, Option.some.injEq] at found
    rw [if_pos zero, keptMarks_of_ne_two (by omega), found]
    exact ⟨fun _ => rfl, fun _ => rfl⟩
  · have most := WcWidth.width_le_two x
    have fits : ¬ (WcWidth.width x = 2 ∧ column + 1 = cellsWidth cells) := fun last => by
      rw [(setCells_eq_none_iff valid inside).mpr last] at found
      cases found
    rw [setCells_eq valid (by omega) (by omega), Option.some.injEq] at found
    rw [if_neg zero, ← found, List.append_cancel_left_eq, List.cons.injEq, Cell.bare, Cell.mk.injEq]
    exact ⟨fun same => same.1.2, fun none => ⟨⟨rfl, none⟩, rfl⟩⟩

namespace TerminalRow

variable {row row' : TerminalRow} {cells : List Cell} {x column : Nat} {style : Style}

theorem Overfull.not_wellFormed (overfull : row.Overfull) : ¬ row.WellFormed := by
  intro formed
  obtain ⟨cells, spare, stored, valid, width⟩ := overfull
  have text : row.usedText = (cellsPoints cells).flatMap toChars := by
    rw [usedText, stored, withCells, Int.toNat_natCast, List.take_left, cellsText_eq_points]
  have widths := formed.widths
  rw [text, decode_flatMap (cellsPoints_scalars valid), cellsPoints_width valid] at widths
  omega

/-- Exactly the wide character in the last column leaves a row behind that is not well formed. -/
theorem setChar_wellFormed_iff (row : TerminalRow) (formed : row.WellFormed) (columns : 2 ≤ row.mColumns)
    (room : row.mSpaceUsed ≤ 32764) (columnToSet : Int) (x : Nat) (scalar : x.isValidChar) (style : Style) :
    (final ((setChar .java columnToSet x style).run row)).WellFormed ↔
      ¬ (WcWidth.width x = 2 ∧ columnToSet = row.mColumns - 1) := by
  obtain ⟨cells, holds⟩ := formed.holds
  by_cases outside : columnToSet < 0 ∨ (row.mColumns : Int) ≤ columnToSet
  · have elsewhere : ¬ (WcWidth.width x = 2 ∧ columnToSet = row.mColumns - 1) := by omega
    rw [← holds.styles] at outside
    rw [run_setChar_outside outside, final_error]
    exact ⟨fun _ => elsewhere, fun _ => formed⟩
  · obtain ⟨column, rfl⟩ := Int.eq_ofNat_of_zero_le (a := columnToSet) (by omega)
    have inside : column < row.mColumns := by omega
    have length : (cellsText cells).length ≤ 32764 := by
      rw [holds.used] at room
      omega
    have shape := setChar_frame .java column x style row
    have outcome := holds.run_setChar length (fun _ => holds.roomFor columns x) scalar inside true style
    have throws := setCells_eq_none_iff (x := x) holds.valid (holds.width ▸ inside)
    rw [holds.width] at throws
    cases found : setCells x cells column with
    | none =>
      rw [found] at outcome
      obtain ⟨row', thrown, overfull⟩ := outcome
      have last := throws.mp found
      rw [thrown .java RowRules.java_exact rfl, final_error]
      exact ⟨fun formed' => absurd formed' overfull.not_wellFormed, fun other => absurd ⟨last.1, by omega⟩ other⟩
    | some cells' =>
      rw [found] at outcome
      obtain ⟨row', ran, updated⟩ := outcome
      have returned := ran .java RowRules.java_exact rfl
      rw [returned, final_ok] at shape ⊢
      have formed' : row'.WellFormed :=
        updated.holds.wellFormed (by rw [updated.columns]; omega)
          (Nat.le_trans (updated.columns ▸ formed.capacity) shape.capacity)
      refine ⟨fun _ last => ?_, fun _ => formed'⟩
      rw [found] at throws
      exact absurd (throws.mpr ⟨last.1, by omega⟩) (by simp)

theorem setChar_wellFormed_second : (final ((setChar .java 0 0x4E16 7).run (create 2 0))).WellFormed :=
  (setChar_wellFormed_iff (create 2 0) (good_iff.mp (create_good (by decide) (by decide) 0)).1 (by decide) (by decide)
    0 0x4E16 (by decide) 7).mpr fun last => absurd last.2 (by decide)

/-- In the last of two columns the character is stored before the exception is thrown. -/
theorem setChar_wide_last : (create 2 0).WellFormed ∧
    (setChar .java 1 0x4E16 7).run (create 2 0) = .error (.illegalArgument "Cannot put wide character in last column")
      (final ((setChar .java 1 0x4E16 7).run (create 2 0))) ∧
    ¬ (final ((setChar .java 1 0x4E16 7).run (create 2 0))).WellFormed := by
  refine ⟨(good_iff.mp (create_good (by decide) (by decide) 0)).1, by decide +kernel, fun formed => ?_⟩
  have widths := formed.widths
  revert widths
  decide +kernel

theorem Holds.setChar_cramped (holds : row.Holds cells) (inside : column < row.mColumns) (zero : WcWidth.width x = 0)
    (cramped : ¬ row.RoomFor (charCount x)) (ran : (setChar .java column x style).run row = .ok () row') :
    row'.Holds cells ∧ markAt x cells column = cells := by
  have slow : RowRules.java.Slow row x := fun _ _ => .inr (by omega)
  have restyled := holds.restyled (row.mStyle.set column style) List.length_set
  rw [setChar, run_setCharFuel_slow holds inside slow, if_pos (by omega)] at ran
  obtain ⟨pre, cell, post, offset, rfl, rfl, within⟩ := split_at_column (holds.width ▸ inside)
  have two := (holds.valid cell (by simp)).width_cases
  have target : (if decide (offset = 1) then ((cellsWidth pre + offset : Nat) : Int) - 1
      else ((cellsWidth pre + offset : Nat) : Int)) = (cellsWidth pre : Nat) := by
    by_cases second : offset = 1
    · simp [second]
    · simp [show offset = 0 by omega]
  rw [extraColumn_split holds.valid offset within, target] at ran
  by_cases full : maxCombiningCharactersPerColumn ≤ cell.marks.length
  · rw [run_storeFull restyled zero full] at ran
    cases ran
    refine ⟨restyled, ?_⟩
    rw [markAt_append, markAt, if_pos within, Cell.addMark, if_pos full]
  · rw [run_storeMark_cramped restyled cramped zero (by omega)] at ran
    cases ran

/-- `setChar` is the update of the cells it is meant to be, except where a wide character leaves the zero-width
    characters of a cell that it covers. -/
theorem setChar_putCell_iff (row row' : TerminalRow) (formed : row.WellFormed) (room : row.mSpaceUsed ≤ 32764)
    (columnToSet : Int) (x : Nat) (scalar : x.isValidChar) (style : Style)
    (ran : (setChar .java columnToSet x style).run row = .ok () row') :
    row'.cells = putCell x row.cells columnToSet.toNat ↔ ¬ KeepsMarks x row.cells columnToSet.toNat := by
  obtain ⟨cells, holds⟩ := formed.holds
  rw [holds.cells_eq]
  by_cases outside : columnToSet < 0 ∨ (row.mStyle.length : Int) ≤ columnToSet
  · rw [run_setChar_outside outside] at ran
    cases ran
  · rw [holds.styles] at outside
    obtain ⟨column, rfl⟩ := Int.eq_ofNat_of_zero_le (a := columnToSet) (by omega)
    have inside : column < row.mColumns := by omega
    rw [Int.toNat_natCast]
    have length : (cellsText cells).length ≤ 32764 := by
      rw [holds.used] at room
      omega
    by_cases cramped : WcWidth.width x = 0 ∧ ¬ row.RoomFor (charCount x)
    · obtain ⟨zero, cramped⟩ := cramped
      obtain ⟨held, same⟩ := holds.setChar_cramped inside zero cramped ran
      rw [held.cells_eq, putCell, if_pos zero, same]
      exact ⟨fun _ keeps => absurd keeps.1 (by omega), fun _ => rfl⟩
    · have outcome := holds.run_setChar length (fun zero => not_not.mp fun none => cramped ⟨zero, none⟩) scalar inside
        true style
      cases found : setCells x cells column with
      | none =>
        rw [found] at outcome
        obtain ⟨row'', thrown, -⟩ := outcome
        rw [thrown .java RowRules.java_exact rfl] at ran
        cases ran
      | some cells' =>
        rw [found] at outcome
        obtain ⟨row'', returned, updated⟩ := outcome
        rw [returned .java RowRules.java_exact rfl] at ran
        cases ran
        rw [updated.holds.cells_eq]
        exact setCells_eq_iff holds.valid (holds.width ▸ inside) found

def written (columns : Nat) (ops : List RowOp) : TerminalRow :=
  final ((RowOp.runAll .java ops).run (create columns 0))

def accented : TerminalRow := written 4 [.setChar 0 97 0, .setChar 1 98 0, .setChar 1 0x301 0, .setChar 2 99 0]

theorem accented_evaluates :
    (RowOp.runAll .java [.setChar 0 97 0, .setChar 1 98 0, .setChar 1 0x301 0, .setChar 2 99 0]).run (create 4 0) =
      .ok () accented ∧
    accented.cells = [.bare 97, ⟨98, [0x301]⟩, .bare 99, .blank] ∧ accented.mSpaceUsed ≤ 32764 ∧
    (setChar .java 1 0x4E16 0).run accented = .ok () (final ((setChar .java 1 0x4E16 0).run accented)) ∧
    (setChar .java 0 0x4E16 0).run accented = .ok () (final ((setChar .java 0 0x4E16 0).run accented)) ∧
    (final ((setChar .java 0 0x4E16 0).run accented)).cells = [⟨0x4E16, [0x301]⟩, .bare 99, .blank] ∧
    putCell 0x4E16 accented.cells 0 = [.bare 0x4E16, .bare 99, .blank] ∧
    putCell 0x4E16 [.bare 97, ⟨98, [0x301]⟩, .bare 99, .blank] 1 = [.bare 97, .bare 0x4E16, .blank] := by
  decide +kernel

theorem accented_wellFormed : accented.WellFormed := by
  have good := @create_good 4 (by decide) (by decide) 0
  obtain ⟨result, same, kept⟩ := RowOp.runAll_sound [.setChar 0 97 0, .setChar 1 98 0, .setChar 1 0x301 0, .setChar 2 99 0]
    good (by simp [RowOp.Allowed, Nat.isValidChar])
  have ran := same .java RowRules.java_exact rfl
  exact (good_iff.mp (kept () accented (ran.symm.trans accented_evaluates.1)).1).1

theorem setChar_putCell_cut : (final ((setChar .java 1 0x4E16 0).run accented)).cells =
    [.bare 97, .bare 0x4E16, .blank] := by
  obtain ⟨-, cells, room, ran, -, -, -, put⟩ := accented_evaluates
  have update := setChar_putCell_iff accented _ accented_wellFormed room 1 0x4E16 (by decide) 0 ran
  rw [cells] at update
  refine (update.mpr ?_).trans put
  rintro ⟨-, -, next, found, -, marks⟩
  cases found
  exact marks rfl

/-- The accent of the cell that the wide character covers is left on the wide character. -/
theorem setChar_keeps_accent : accented.WellFormed ∧ accented.cells = [.bare 97, ⟨98, [0x301]⟩, .bare 99, .blank] ∧
    (setChar .java 0 0x4E16 0).run accented = .ok () (final ((setChar .java 0 0x4E16 0).run accented)) ∧
    (final ((setChar .java 0 0x4E16 0).run accented)).cells = [⟨0x4E16, [0x301]⟩, .bare 99, .blank] ∧
    putCell 0x4E16 accented.cells 0 = [.bare 0x4E16, .bare 99, .blank] := by
  obtain ⟨-, cells, -, -, ran, left, put, -⟩ := accented_evaluates
  exact ⟨accented_wellFormed, cells, ran, left, put⟩

end TerminalRow
