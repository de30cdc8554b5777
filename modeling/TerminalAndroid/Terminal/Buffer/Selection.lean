import TerminalAndroid.Terminal.Buffer.Touch
import TerminalAndroid.Terminal.Row.Trim

open Java Utf16 Exec

namespace TerminalRow

/-- The search of `getSelectedText` for the last char other than a space before `x2Index`; `text` is the array from
    `i` on. -/
def lastPrintingLoop (x2Index : Int) : List Nat → Nat → Int → Except Throwable Int
  | [], i, last => if i < x2Index then .error .indexOutOfBounds else .ok last
  | c :: text, i, last =>
    if i < x2Index then lastPrintingLoop x2Index text (i + 1) (if c ≠ space then i else last) else .ok last

def appendedChars (line : List Nat) (offset len : Int) : Except Throwable (List Nat) :=
  if offset < 0 ∨ line.length < offset + len then .error .indexOutOfBounds
  else .ok ((line.drop offset.toNat).take len.toNat)

/-- What `getSelectedText` takes of a row of a buffer with the given number of columns from column `x1` up to `x2`, and
    `lineFillsWidth`. -/
def selectedText (line : TerminalRow) (columns x1 x2 : Int) : Except Throwable (List Nat × Bool) := do
  let x1Index ← line.findStartOfColumn x1
  let x2Index ← (if x2 < columns then line.findStartOfColumn x2 else pure line.mSpaceUsed)
  let x2Index ← (if x2Index = x1Index then line.findStartOfColumn (x2 + 1) else pure x2Index)
  let lastPrintingCharIndex ←
    (if line.mLineWrap ∧ x2 = columns then pure (x2Index - 1)
    else lastPrintingLoop x2Index (line.mText.drop x1Index.toNat) x1Index.toNat (-1))
  let len := lastPrintingCharIndex - x1Index + 1
  let text ←
    (if lastPrintingCharIndex ≠ -1 ∧ 0 < len then appendedChars line.mText x1Index len else pure [])
  pure (text, lastPrintingCharIndex = x2Index - 1)

end TerminalRow

namespace TerminalBuffer

def lineObject (row : Int) : BufferM TerminalRow := do
  let ref ← lineAt row
  let buffer ← get
  readArray buffer.rows ref

def selectRows (selX1 selY1 selX2 selY2 : Int) (joinBackLines joinFullLines : Bool) : Nat → Int → BufferM (List Nat)
  | 0, _ => pure []
  | count + 1, row => do
    let buffer ← get
    let x1 := if row = selY1 then selX1 else 0
    let x2 := if row = selY2 then min (selX2 + 1) buffer.mColumns else buffer.mColumns
    let line ← lineObject row
    let (text, lineFillsWidth) ← liftResult (line.selectedText buffer.mColumns x1 x2)
    let newline := if (¬ joinBackLines ∨ ¬ line.mLineWrap) ∧ (¬ joinFullLines ∨ ¬ lineFillsWidth) ∧ row < selY2 ∧
      row < buffer.mScreenRows - 1 then [10] else []
    let rest ← selectRows selX1 selY1 selX2 selY2 joinBackLines joinFullLines count (row + 1)
    pure (text ++ newline ++ rest)

def getSelectedText (selX1 selY1 selX2 selY2 : Int) (joinBackLines joinFullLines : Bool) : BufferM (List Nat) := do
  let buffer ← get
  let selY1 := if selY1 < -buffer.mActiveTranscriptRows then -buffer.mActiveTranscriptRows else selY1
  let selY2 := if buffer.mScreenRows ≤ selY2 then buffer.mScreenRows - 1 else selY2
  selectRows selX1 selY1 selX2 selY2 joinBackLines joinFullLines (selY2 - selY1 + 1).toNat selY1

end TerminalBuffer

def trimSpaces (text : List Nat) : List Nat := text.rdropWhile (· == TerminalRow.space)

theorem trimSpaces_append_space (text : List Nat) : trimSpaces (text ++ [TerminalRow.space]) = trimSpaces text := by
  rw [trimSpaces, List.rdropWhile_concat_pos _ _ _ (by decide)]
  rfl

theorem trimSpaces_append {c : Nat} (other : c ≠ TerminalRow.space) (text : List Nat) :
    trimSpaces (text ++ [c]) = text ++ [c] := by
  rw [trimSpaces, List.rdropWhile_concat_neg]
  simpa using other

theorem trimSpaces_cellsText {cells : List Cell} (valid : ∀ c ∈ cells, c.Valid) :
    trimSpaces (cellsText cells) = cellsText (trimBlanks cells) := by
  obtain ⟨count, split⟩ := exists_trimBlanks cells
  have dropped (text : List Nat) : trimSpaces (text ++ List.replicate count TerminalRow.space) = trimSpaces text := by
    clear split
    induction count with
    | zero => simp
    | succ count ih => rw [List.replicate_succ', ← List.append_assoc, trimSpaces_append_space, ih]
  conv_lhs => rw [split, cellsText_append, cellsText_blanks, dropped]
  rcases trimBlanks_last cells with empty | ⟨front, last, ends, other⟩
  · rw [empty]
    rfl
  · obtain ⟨text, c, chars, printing⟩ := (valid last (by rw [split, ends]; simp)).chars_last other
    rw [ends, cellsText_append, cellsText_cons, cellsText_nil, List.append_nil, chars, ← List.append_assoc,
      trimSpaces_append printing]

theorem trimSpaces_cell {cell : Cell} (valid : cell.Valid) :
    trimSpaces (cellsText [cell]) = if cell = .blank then [] else cell.chars := by
  rw [trimSpaces_cellsText (by simpa using valid), trimBlanks]
  split
  next blank => rw [blank]; rfl
  next other => simp [List.rdropWhile_singleton, other]

namespace TerminalRow

theorem lastPrintingLoop_append {x2Index : Int} (text rest : List Nat) (i : Nat) (last : Int)
    (inside : ((i + text.length : Nat) : Int) ≤ x2Index) :
    lastPrintingLoop x2Index (text ++ rest) i last = lastPrintingLoop x2Index rest (i + text.length)
      (if trimSpaces text = [] then last else ((i + (trimSpaces text).length : Nat) : Int) - 1) := by
  induction text using List.reverseRecOn generalizing rest with
  | nil => simp [trimSpaces]
  | append_singleton text c ih =>
    rw [List.length_append, List.length_singleton] at inside ⊢
    rw [List.append_assoc, ih _ (by omega), List.singleton_append, lastPrintingLoop, if_pos (by omega), Nat.add_assoc]
    by_cases printing : c = space
    · rw [printing, trimSpaces_append_space, if_neg (by simp)]
    · rw [if_pos printing, trimSpaces_append printing, if_neg (by simp), List.length_append, List.length_singleton]
      congr 1
      omega

theorem lastPrintingLoop_done {x2Index : Int} (text : List Nat) {i : Nat} (done : x2Index ≤ i) (last : Int) :
    lastPrintingLoop x2Index text i last = .ok last := by
  cases text <;> rw [lastPrintingLoop, if_neg (by omega)]

variable {row : TerminalRow} {pre mid post : List Cell} {columns : Int}

def keptText (row : TerminalRow) (columns : Int) (cells : List Cell) (x2 : Int) : List Nat :=
  if row.mLineWrap ∧ x2 = columns then cellsText cells else trimSpaces (cellsText cells)

theorem keptText_prefix (row : TerminalRow) (columns : Int) (cells : List Cell) (x2 : Int) :
    row.keptText columns cells x2 <+: cellsText cells := by
  unfold keptText
  split
  · exact List.prefix_rfl
  · exact List.rdropWhile_prefix _ _

theorem cellsText_length_pos {cells : List Cell} (nonempty : cells ≠ []) : 0 < (cellsText cells).length := by
  obtain ⟨cell, cells, rfl⟩ := List.exists_cons_of_ne_nil nonempty
  have := cell.chars_length_pos
  rw [cellsText_cons, List.length_append]
  omega

theorem Holds.selectedText_indices (holds : row.Holds (pre ++ mid ++ post)) (nonempty : mid ≠ []) {x1 x2 x2' : Int}
    (start : row.findStartOfColumn x1 = .ok ((cellsText pre).length : Int))
    (stop : (if x2 < columns then row.findStartOfColumn x2 else .ok row.mSpaceUsed) = .ok x2')
    (stop' : (if x2' = (cellsText pre).length then row.findStartOfColumn (x2 + 1) else .ok x2') =
      .ok ((cellsText (pre ++ mid)).length : Int)) :
    row.selectedText columns x1 x2 =
      .ok (row.keptText columns mid x2, decide (row.keptText columns mid x2 = cellsText mid)) := by
  obtain ⟨spare, text⟩ := holds.text
  have split : row.mText = cellsText pre ++ (cellsText mid ++ (cellsText post ++ spare)) := by
    rw [text]
    simp
  have positive := cellsText_length_pos nonempty
  have behind : row.mText.drop (cellsText pre).length = cellsText mid ++ (cellsText post ++ spare) := by
    rw [split, List.drop_left]
  have whole : (cellsText (pre ++ mid)).length = (cellsText pre).length + (cellsText mid).length := by simp
  -- the index of the last char that is kept
  have last : (if row.mLineWrap ∧ x2 = columns then .ok (((cellsText (pre ++ mid)).length : Int) - 1)
      else lastPrintingLoop (cellsText (pre ++ mid)).length (row.mText.drop (cellsText pre).length) (cellsText pre).length (-1)) =
      (.ok (if row.keptText columns mid x2 = [] then -1
        else (((cellsText pre).length + (row.keptText columns mid x2).length : Nat) : Int) - 1) : Except Throwable Int) := by
    unfold keptText
    by_cases wrapped : row.mLineWrap ∧ x2 = columns
    · rw [if_pos wrapped, if_pos wrapped, if_neg (List.ne_nil_of_length_pos positive), whole]
    · rw [if_neg wrapped, if_neg wrapped, behind, lastPrintingLoop_append _ _ _ _ (by omega),
        lastPrintingLoop_done _ (by omega)]
  obtain ⟨dropped, kept⟩ := row.keptText_prefix columns mid x2
  unfold selectedText
  simp only [bind, Except.bind, pure, Except.pure, start, stop, stop', Int.toNat_natCast, last]
  generalize row.keptText columns mid x2 = chars at kept
  by_cases none : chars = []
  · subst none
    have other : ¬ [] = cellsText mid := fun same => by simp [← same] at positive
    simp only [if_true, ne_eq, not_true_eq_false, false_and, if_false, decide_eq_decide, Except.ok.injEq, Prod.mk.injEq,
      true_and, other, iff_false]
    rw [whole]
    omega
  · have some := List.length_pos_of_ne_nil none
    have taken : appendedChars row.mText (cellsText pre).length chars.length = .ok chars := by
      rw [appendedChars, if_neg, Int.toNat_natCast, Int.toNat_natCast, behind, ← kept, List.append_assoc, List.take_left]
      rw [split, ← kept]
      simp only [List.length_append]
      omega
    have len : (((cellsText pre).length + chars.length : Nat) : Int) - 1 - (cellsText pre).length + 1 = chars.length := by
      omega
    rw [if_neg none, len, if_pos (by omega), taken]
    simp only [Except.ok.injEq, Prod.mk.injEq, true_and, decide_eq_decide, whole]
    rw [← kept, List.length_append]
    constructor
    · intro same
      rw [List.eq_nil_of_length_eq_zero (show dropped.length = 0 by omega), List.append_nil]
    · intro same
      have := congrArg List.length same
      rw [List.length_append] at this
      omega

theorem Holds.selectedText_cells (holds : row.Holds (pre ++ mid ++ post)) (nonempty : mid ≠ [])
    (width : (row.mColumns : Int) = columns) :
    row.selectedText columns (cellsWidth pre : Nat) (cellsWidth (pre ++ mid) : Nat) =
      .ok (row.keptText columns mid (cellsWidth (pre ++ mid) : Nat),
        decide (row.keptText columns mid (cellsWidth (pre ++ mid) : Nat) = cellsText mid)) := by
  have start : row.findStartOfColumn (cellsWidth pre : Nat) = .ok ((cellsText pre).length : Int) := by
    rw [List.append_assoc] at holds
    exact holds.findStart_split
  have total := holds.width
  rw [cellsWidth_append] at total
  have stop : (if ((cellsWidth (pre ++ mid) : Nat) : Int) < columns then row.findStartOfColumn (cellsWidth (pre ++ mid) : Nat)
      else .ok row.mSpaceUsed) = .ok ((cellsText (pre ++ mid)).length : Int) := by
    split
    · exact holds.findStart_split
    next full =>
      have none : post = [] := cellsWidth_eq_zero (fun c member => holds.valid c (by simp [member])) (by omega)
      rw [holds.used, none, List.append_nil]
  have positive := cellsText_length_pos nonempty
  refine holds.selectedText_indices nonempty start stop (if_neg ?_)
  rw [cellsText_append, List.length_append]
  omega

end TerminalRow

namespace TerminalBuffer

variable {b : TerminalBuffer}

theorem Ring.run_lineObject (ring : b.Ring) {r : Int} (lower : -b.mActiveTranscriptRows ≤ r) (upper : r < b.mScreenRows)
    {row : TerminalRow} (found : b.shown r = some row) : (lineObject r).run b = .ok row b := by
  obtain ⟨ref, row', place, live, shown⟩ := ring.shown_isSome lower upper
  obtain rfl : row' = row := Option.some.inj (shown.symm.trans found)
  unfold lineObject lineAt
  simp only [EStateM.run_bind, ring.toSized.run_externalToInternalRow lower (by omega), run_getLine ring.length_pos place,
    deref, EStateM.run_pure, EStateM.run_get]
  exact run_readArray live b

theorem Ring.run_getSelectedText_row (ring : b.Ring) {y : Int} (lower : -b.mActiveTranscriptRows ≤ y)
    (upper : y < b.mScreenRows) {row : TerminalRow} (found : b.shown y = some row) (x1 x2 : Int)
    (joinBackLines joinFullLines : Bool) {text : List Nat} {fills : Bool}
    (selected : row.selectedText b.mColumns x1 (min (x2 + 1) b.mColumns) = .ok (text, fills)) :
    (getSelectedText x1 y x2 y joinBackLines joinFullLines).run b = .ok text b := by
  unfold getSelectedText
  simp only [EStateM.run_bind, EStateM.run_get]
  rw [if_neg (by omega), if_neg (by omega), show (y - y + 1).toNat = 0 + 1 by omega]
  simp only [selectRows, EStateM.run_bind, EStateM.run_get, ring.run_lineObject lower upper found, if_true, selected,
    run_liftResult_ok, EStateM.run_pure, Int.lt_irrefl, false_and, and_false, if_false, List.append_nil]

instance (cell : Cell) : Decidable cell.Valid :=
  decidable_of_iff ((∀ x ∈ cell.codePoints, x.isValidChar) ∧ 0 < cell.width ∧ (∀ x ∈ cell.marks, WcWidth.width x = 0) ∧
    cell.marks.length ≤ TerminalRow.maxCombiningCharactersPerColumn)
    ⟨fun ⟨scalars, base, marks, bound⟩ => ⟨scalars, base, marks, bound⟩,
      fun valid => ⟨valid.scalars, valid.base, valid.marks, valid.bound⟩⟩

def rowOf (cells : List Cell) (wrapped : Bool) : TerminalRow where
  mColumns := cellsWidth cells
  mText := cellsText cells ++ List.replicate (cellsWidth cells) 0
  mSpaceUsed := (cellsText cells).length
  mLineWrap := wrapped
  mStyle := List.replicate (cellsWidth cells) 0
  mHasNonOneWidthOrSurrogateChars := true

theorem rowOf_holds {cells : List Cell} (valid : ∀ c ∈ cells, c.Valid) (wrapped : Bool) :
    (rowOf cells wrapped).Holds cells where
  stored := ⟨List.replicate (cellsWidth cells) 0, by simp [rowOf, TerminalRow.withCells]⟩
  valid := valid
  width := rfl
  styles := by simp [rowOf]
  narrow := by simp [rowOf]

def screenOf (columns : Nat) (lines : List TerminalRow) : TerminalBuffer := canvas [] lines columns lines.length 0 0

theorem screenOf_ring {columns : Nat} {lines : List TerminalRow} (nonempty : lines ≠ [])
    (width : ∀ row ∈ lines, row.mColumns = columns) : (screenOf columns lines).Ring := by
  have positive := List.length_pos_of_ne_nil nonempty
  exact (canvas_sized (by omega) (by omega) (by omega) (by omega) (by omega) (by omega)).canvas_ring
    fun row member => by rw [width row member]

end TerminalBuffer
