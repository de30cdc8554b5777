import TerminalAndroid.Terminal.Row.Holds

open Java Utf16

namespace TerminalRow

variable {rules : RowRules} {row : TerminalRow} {pre post : List Cell} {cell : Cell} {x : Nat}

theorem run_storeInColumn (holds : row.Holds (pre ++ cell :: post)) :
    (storeInColumn rules (cellsWidth pre : Nat) x).run row =
      if WcWidth.width x ≤ 0 ∧ maxCombiningCharactersPerColumn ≤ cell.marks.length then .ok () row
      else (do
        replaceChars rules x
          ((cellsText pre).length + (if WcWidth.width x ≤ 0 then (cell.chars.length : Int) else 0))
          ((cellsText pre).length + cell.chars.length)
          ((cellsText pre).length + (charCount x + (if WcWidth.width x ≤ 0 then (cell.chars.length : Int) else 0)))
        adjustWidth rules (cellsWidth pre : Nat) cell.width (WcWidth.width x)
          ((cellsText pre).length +
            (charCount x + (if WcWidth.width x ≤ 0 then (cell.chars.length : Int) else 0))) : RowM Unit).run row := by
  have start := Holds.findStart_inside holds 0 (holds.valid cell (by simp)).base
  have split : row.Holds ((pre ++ [cell]) ++ post) := by simpa using holds
  have stop := Holds.findStart_split split
  have width := holds.width
  have endIndex : (if ((cellsWidth pre : Nat) : Int) + cell.width < row.mColumns then
      row.findStartOfColumn ((cellsWidth pre : Nat) + cell.width) else .ok row.mSpaceUsed) =
        .ok (((cellsText pre).length : Int) + cell.chars.length) := by
    simp only [cellsWidth_append, cellsWidth_cons, cellsWidth_nil, Nat.add_zero, cellsText_append,
      cellsText_cons, cellsText_nil, List.append_nil, List.length_append, Nat.cast_add] at stop
    simp only [cellsWidth_append, cellsWidth_cons] at width
    by_cases more : ((cellsWidth pre : Nat) : Int) + cell.width < row.mColumns
    · rw [if_pos more, stop]
    · have last : post = [] := cellsWidth_eq_zero (fun c member => holds.valid c (by simp [member])) (by omega)
      subst last
      rw [if_neg more, holds.used]
      simp
  have count := Holds.marksCount holds
  have used : ((cellsText pre).length : Int) + cell.chars.length - (cellsText pre).length =
      cell.chars.length := by omega
  unfold storeInColumn
  simp only [Nat.add_zero] at start
  simp only [Nat.cast_add] at count
  simp only [EStateM.run_bind, EStateM.run_get, start, run_liftResult_ok, Holds.run_widthAt holds,
    endIndex, used, count]
  by_cases combining : WcWidth.width x ≤ 0
  · simp only [combining, if_true, true_and, run_liftResult_ok]
    split
    · rfl
    · simp only [EStateM.run_bind]
  · simp only [combining, if_false, false_and, EStateM.run_bind, run_liftResult_ok]

def RoomFor (row : TerminalRow) (count : Nat) : Prop :=
  row.mSpaceUsed + count ≤ row.mText.length + row.mColumns

theorem run_storeMark (holds : row.Holds (pre ++ cell :: post))
    (length : (cellsText (pre ++ cell :: post)).length ≤ 32765) (room : row.RoomFor (charCount x))
    (scalar : x.isValidChar) (zero : WcWidth.width x = 0) (free : cell.marks.length < maxCombiningCharactersPerColumn) :
    ∃ spare, ∀ rules : RowRules, rules.Exact → (storeInColumn rules (cellsWidth pre : Nat) x).run row =
      .ok () (row.withCells (pre ++ { cell with marks := cell.marks ++ [x] } :: post) spare) := by
  obtain ⟨spare, text⟩ := holds.text
  have two := charCount_le_two x
  have text' : row.mText = cellsText (pre ++ [cell]) ++ [] ++ cellsText post ++ spare := by simp [text]
  have used : row.mSpaceUsed = ((cellsText (pre ++ [cell]) ++ [] ++ cellsText post).length : Int) := by
    rw [holds.used]
    simp
  obtain ⟨spare', replaced⟩ := run_replaceChars scalar text' used (by
    simp only [cellsText_append, cellsText_cons, cellsText_nil, List.length_append, toChars_length,
      List.length_nil] at length ⊢
    omega) (by
      rw [RoomFor, holds.used, text, List.length_append] at room
      simp only [List.length_nil]
      omega)
  refine ⟨spare', fun rules exact' => ?_⟩
  have replaced := replaced rules exact'
  have index : ((cellsText (pre ++ [cell])).length : Int) = (cellsText pre).length + cell.chars.length := by simp
  simp only [index, List.length_nil, Nat.cast_zero, Int.add_zero] at replaced
  rw [run_storeInColumn holds, if_neg (fun full => absurd full.2 (by omega))]
  simp only [zero, Nat.le_refl, if_true, EStateM.run_bind]
  rw [show ((cellsText pre).length : Int) + (charCount x + cell.chars.length) =
    (cellsText pre).length + cell.chars.length + charCount x by omega, replaced]
  have chars : ({ cell with marks := cell.marks ++ [x] } : Cell).chars = cell.chars ++ toChars x := by
    simp [Cell.chars_eq]
  simp [adjustWidth, withCells, chars, List.append_assoc]

theorem run_storeMark_cramped (holds : row.Holds (pre ++ cell :: post)) (cramped : ¬ row.RoomFor (charCount x))
    (zero : WcWidth.width x = 0) (free : cell.marks.length < maxCombiningCharactersPerColumn) :
    (storeInColumn rules (cellsWidth pre : Nat) x).run row = .error .indexOutOfBounds row := by
  obtain ⟨spare, text⟩ := holds.text
  have index : ((cellsText (pre ++ [cell])).length : Int) = (cellsText pre).length + cell.chars.length := by simp
  have shifted := run_shiftRight_cramped row (cellsText (pre ++ [cell])) (cellsText post) spare (charCount x)
    (by simp [text]) (by rw [holds.used]; simp) (by
      rw [RoomFor, holds.used, text, List.length_append] at cramped
      omega)
  rw [index] at shifted
  have positive : 0 < charCount x := by
    unfold charCount
    split <;> omega
  rw [run_storeInColumn holds, if_neg (fun full => absurd full.2 (by omega))]
  unfold replaceChars
  simp only [zero, Nat.le_refl, if_true, EStateM.run_bind]
  rw [show ((cellsText pre).length : Int) + (charCount x + cell.chars.length) =
    (cellsText pre).length + cell.chars.length + charCount x by omega, if_pos (by omega), EStateM.run_bind, shifted]

theorem run_storeFull (holds : row.Holds (pre ++ cell :: post)) (zero : WcWidth.width x = 0)
    (full : maxCombiningCharactersPerColumn ≤ cell.marks.length) :
    (storeInColumn rules (cellsWidth pre : Nat) x).run row = .ok () row := by
  rw [run_storeInColumn holds, if_pos ⟨by omega, full⟩]

theorem run_storeBase (holds : row.Holds (pre ++ cell :: post))
    (length : (cellsText (pre ++ cell :: post)).length ≤ 32766) (scalar : x.isValidChar)
    (positive : 0 < WcWidth.width x) :
    ∃ spare, ∀ rules : RowRules, rules.Exact → (storeInColumn rules (cellsWidth pre : Nat) x).run row =
      (adjustWidth rules (cellsWidth pre : Nat) cell.width (WcWidth.width x)
        ((cellsText (pre ++ [Cell.bare x])).length : Nat)).run
          (row.withCells (pre ++ Cell.bare x :: post) spare) := by
  obtain ⟨spare, text⟩ := holds.text
  have two := charCount_le_two x
  have text' : row.mText = cellsText pre ++ cell.chars ++ cellsText post ++ spare := by simp [text]
  have used : row.mSpaceUsed = ((cellsText pre ++ cell.chars ++ cellsText post).length : Int) := by
    rw [holds.used]
    simp
  have some := cell.chars_length_pos
  have columns := holds.columns_pos
  obtain ⟨spare', replaced⟩ := run_replaceChars scalar text' used (by
    simp only [cellsText_append, cellsText_cons, List.length_append, toChars_length] at length ⊢
    omega) (by omega)
  refine ⟨spare', fun rules exact' => ?_⟩
  have replaced := replaced rules exact'
  have notZero : ¬ WcWidth.width x ≤ 0 := by omega
  rw [run_storeInColumn holds, if_neg (fun full => absurd full.1 notZero)]
  simp only [notZero, if_false, Int.add_zero, EStateM.run_bind, replaced]
  simp [withCells, List.append_assoc, toChars_length]

theorem run_adjust_same {columnToSet : Int} {oldWidth newWidth : Nat} {index : Int}
    (same : oldWidth = newWidth) : (adjustWidth rules columnToSet oldWidth newWidth index).run row = .ok () row := by
  unfold adjustWidth
  simp only [EStateM.run_bind, EStateM.run_get]
  rw [if_neg (by omega), if_neg (by omega)]
  rfl

theorem run_adjust_narrow (row : TerminalRow) (kept post : List Cell) (spare : List Nat)
    (columns : 1 ≤ row.mColumns) (short : (cellsText (kept ++ Cell.blank :: post)).length ≤ 32767)
    (columnToSet : Int) :
    ∃ spare', ∀ rules : RowRules, rules.Exact →
      (adjustWidth rules columnToSet 2 1 ((cellsText kept).length : Nat)).run
        (row.withCells (kept ++ post) spare) = .ok () (row.withCells (kept ++ Cell.blank :: post) spare') := by
  obtain ⟨gap, spare', gapLength, shifted⟩ := run_shiftRight (row.withCells (kept ++ post) spare)
    (cellsText kept) (cellsText post) spare 1
    (by simp [withCells]) (by simp [withCells]) (show 1 ≤ _ + row.mColumns by omega)
  have stored := run_storeChars { row.withCells (kept ++ post) spare with
      mText := cellsText kept ++ gap ++ cellsText post ++ spare' }
    (show space.isValidChar by decide) (cellsText kept) gap (cellsText post ++ spare') (by simp) gapLength
  have chars : Cell.blank.chars = toChars space := Cell.bare_chars _
  refine ⟨spare', fun rules exact' => ?_⟩
  have total : rules.short (((cellsText (kept ++ post)).length : Int) + 1) =
      ((cellsText (kept ++ Cell.blank :: post)).length : Int) := by
    have sum : ((cellsText (kept ++ post)).length : Int) + 1 =
        ((cellsText (kept ++ Cell.blank :: post)).length : Int) := by
      simp only [cellsText_append, cellsText_cons, List.length_append, chars, toChars_length,
        show charCount space = 1 from rfl]
      omega
    rw [sum]
    exact exact' _ (by omega) (by omega)
  unfold adjustWidth
  simp only [EStateM.run_bind, EStateM.run_get, and_self, if_true]
  simp only [Nat.cast_one] at shifted
  rw [shifted]
  simp only [stored, addSpaceUsed, EStateM.run_modify]
  simpa [withCells, chars] using total

theorem run_adjust_last {kept : List Cell} {spare : List Nat} (columnToSet : Int)
    (last : columnToSet = row.mColumns - 1) (index : Int) :
    (adjustWidth rules columnToSet 1 2 index).run (row.withCells kept spare) =
      .error (.illegalArgument "Cannot put wide character in last column") (row.withCells kept spare) := by
  unfold adjustWidth
  simp [withCells, last]

theorem run_adjust_truncate (row : TerminalRow) (kept post : List Cell) (spare : List Nat)
    (short : (cellsText kept).length ≤ 32767) (columnToSet : Int) (last : columnToSet = row.mColumns - 2) :
    ∃ spare', ∀ rules : RowRules, rules.Exact →
      (adjustWidth rules columnToSet 1 2 ((cellsText kept).length : Nat)).run
        (row.withCells (kept ++ post) spare) = .ok () (row.withCells kept spare') := by
  refine ⟨cellsText post ++ spare, fun rules exact' => ?_⟩
  have narrowed := exact' ((cellsText kept).length : Int) (by omega) (by omega)
  unfold adjustWidth
  simp [withCells, last, narrowed]

theorem run_adjust_overwrite (row : TerminalRow) (pre : List Cell) (x : Nat) (next : Cell)
    (post : List Cell) (spare : List Nat) (scalar : next.base.isValidChar) (short : (cellsText (pre ++ Cell.bare x :: next :: post)).length ≤ 32767)
    (columnToSet : Int) (notLast : columnToSet < row.mColumns - 2) :
    ∃ spare', ∀ rules : RowRules, rules.Exact →
      (adjustWidth rules columnToSet 1 2 ((cellsText (pre ++ [Cell.bare x])).length : Nat)).run
        (row.withCells (pre ++ Cell.bare x :: next :: post) spare) =
      .ok () (row.withCells (pre ++ ⟨x, next.marks⟩ :: post) spare') := by
  let kept := cellsText (pre ++ [Cell.bare x])
  let tail := next.marks.flatMap toChars ++ cellsText post
  have text : cellsText (pre ++ Cell.bare x :: next :: post) = kept ++ toChars next.base ++ tail := by
    simp [kept, tail, Cell.chars_eq]
  have result : cellsText (pre ++ ⟨x, next.marks⟩ :: post) = kept ++ tail := by
    simp [kept, tail, Cell.chars_eq, Cell.bare]
  have first : ∃ c, (row.withCells (pre ++ Cell.bare x :: next :: post) spare).mText[kept.length]? = some c ∧
      (if isHighSurrogate c then (2 : Int) else 1) = (toChars next.base).length := by
    by_cases supplementary : 0x10000 ≤ next.base
    · refine ⟨highSurrogate next.base, ?_, ?_⟩
      · simp [withCells, text, toChars_supplementary supplementary]
      · rw [isHighSurrogate_highSurrogate scalar supplementary, toChars_supplementary supplementary]
        rfl
    · have bmp : next.base < 0x10000 := by omega
      refine ⟨next.base, ?_, ?_⟩
      · simp [withCells, text, toChars_bmp bmp]
      · rw [isHighSurrogate_bmp scalar bmp, toChars_bmp bmp]
        rfl
  obtain ⟨c, found, size⟩ := first
  obtain ⟨spare', shifted⟩ := run_shiftLeft (row.withCells (pre ++ Cell.bare x :: next :: post) spare)
    kept (toChars next.base) tail spare
    (by simp [withCells, text]) (by simp [withCells, text])
  refine ⟨spare', fun rules exact' => ?_⟩
  have total : rules.short (((kept ++ toChars next.base ++ tail).length : Int) +
      ((kept.length : Int) - (kept.length + (toChars next.base).length))) = ((kept ++ tail).length : Int) := by
    have sum : ((kept ++ toChars next.base ++ tail).length : Int) +
        ((kept.length : Int) - (kept.length + (toChars next.base).length)) = ((kept ++ tail).length : Int) := by
      simp only [List.length_append]
      omega
    rw [text] at short
    rw [sum]
    refine exact' _ (by omega) ?_
    simp only [List.length_append] at short ⊢
    omega
  have columnsSame : (row.withCells (pre ++ Cell.bare x :: next :: post) spare).mColumns = row.mColumns := rfl
  unfold adjustWidth
  simp only [EStateM.run_bind, EStateM.run_get, columnsSame, show ¬ ((1 : Nat) = 2 ∧ (2 : Nat) = 1) by omega,
    and_self, if_true, if_false, show ¬ columnToSet = row.mColumns - 1 by omega,
    show ¬ columnToSet = row.mColumns - 2 by omega]
  rw [run_readArray found]
  simp only [size]
  rw [shifted]
  simp only [addSpaceUsed, EStateM.run_modify]
  simp only [withCells, text, result]
  simp only [kept] at total ⊢
  rw [total]

end TerminalRow
