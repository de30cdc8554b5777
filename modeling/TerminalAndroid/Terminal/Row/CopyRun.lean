import TerminalAndroid.Terminal.Row.CopyCells

open Java Utf16 Exec

namespace TerminalRow

variable {row row' row'' line : TerminalRow} {cells cells' : List Cell} {styles styles' : List Style} {x column : Nat}

structure Rewritten (row row' : TerminalRow) (cells : List Cell) (styles : List Style) : Prop where
  good : row'.Good
  holds : row'.Holds cells
  styled : row'.mStyle = styles
  shape : SameShape row row'

theorem Rewritten.trans (first : Rewritten row row' cells styles) (second : Rewritten row' row'' cells' styles') :
    Rewritten row row'' cells' styles' :=
  ⟨second.good, second.holds, second.styled, IsTrans.trans _ _ _ first.shape second.shape⟩

theorem Good.run_setChar (good : row.Good) (holds : row.Holds cells) (scalar : x.isValidChar)
    (inside : column < row.mColumns) (found : setCells x cells column = some cells') (style : Style) :
    ∃ row', (setChar .java column x style).run row = .ok () row' ∧
      Rewritten row row' cells' (setStyles x cells column style row.mStyle) := by
  have outcome := holds.run_setChar (Nat.le_trans (holds.length_le good.upper) (by decide))
    (fun _ => holds.roomFor good.lower x) scalar inside true style
  rw [found] at outcome
  obtain ⟨row', ran, updated⟩ := outcome
  have returned := ran .java RowRules.java_exact rfl
  have shape := setChar_frame .java column x style row
  rw [returned] at shape
  exact ⟨row', returned, good.update updated.holds shape, updated.holds, updated.style, shape⟩

theorem Good.run_put (good : row.Good) (holds : row.Holds cells) (scalar : x.isValidChar)
    (positive : 0 < WcWidth.width x) (room : column + WcWidth.width x ≤ row.mColumns) (style : Style) :
    ∃ row', (setChar .java column x style).run row = .ok () row' ∧
      Rewritten row row' (leftOf cells column ++ ⟨x, keptMarks x cells column⟩ :: rightOf cells (column + WcWidth.width x))
        (setStyles x cells column style row.mStyle) :=
  good.run_setChar holds scalar (by omega) (setCells_eq holds.valid positive (by rw [holds.width]; exact room)) style

variable {source : List Cell}

section

variable {pre post : List Cell} {cell : Cell} {same : Bool} {x2 : Int} {s width i : Nat} {style : Style}

theorem run_copyStep {x step d : Nat} {rest : Int → Int → Nat → RowM Unit}
    (step' : (if 0 < WcWidth.width x then width else 0) = step)
    (read : (readStyles same line.mStyle row.mStyle)[s + step]? = some style)
    (ran : (setChar .java ((d + step : Nat) : Int) x style).run row = .ok () row') :
    (copyStep .java line same x s d width rest).run row =
      (rest ((s + step : Nat) : Int) ((d + step : Nat) : Int) (if 0 < WcWidth.width x then WcWidth.width x else width)).run
        row' := by
  have styles : (getStyle (if same then row else line) ((s + step : Nat) : Int)).run row = .ok style row := by
    apply run_readArray
    rw [← read]
    cases same <;> rfl
  rw [Int.natCast_add] at styles ran ⊢
  rw [copyStep, step']
  simp only [EStateM.run_bind, EStateM.run_get, styles, ran, Int.natCast_add]

theorem Good.run_copyMarks (marks : List Nat) (scalars : ∀ x ∈ marks, x.isValidChar)
    (zero : ∀ x ∈ marks, WcWidth.width x = 0) (good : row.Good) (holds : row.Holds (pre ++ cell :: post))
    (read : (readStyles same line.mStyle row.mStyle)[s]? = some style) (own : row.mStyle[cellsWidth pre]? = some style)
    (more : (i : Int) + (marks.flatMap toChars).length ≤ x2) :
    ∃ row', Rewritten row row' (pre ++ cell.withMarks marks :: post) row.mStyle ∧ ∀ rest,
      (copyLoop .java line same x2 (marks.flatMap toChars ++ rest) i false s (cellsWidth pre : Nat) width).run row =
        (copyLoop .java line same x2 rest (i + (marks.flatMap toChars).length) false s (cellsWidth pre : Nat) width).run
          row' := by
  induction marks generalizing row cell i with
  | nil =>
    rw [Cell.withMarks_nil (holds.valid cell (by simp)).bound]
    exact ⟨row, ⟨good, holds, rfl, SameShape.refl row⟩, fun _ => rfl⟩
  | cons x marks ih =>
    rw [List.forall_mem_cons] at scalars zero
    have valid := holds.valid cell (by simp)
    have positive := valid.base
    have columns := holds.width
    rw [cellsWidth_append, cellsWidth_cons] at columns
    rw [List.flatMap_cons, List.length_append, toChars_length] at more ⊢
    have count := charCount_pos x
    have found : setCells x (pre ++ cell :: post) (cellsWidth pre) = some (pre ++ cell.addMark x :: post) := by
      have mark := @markAt_append pre (cell :: post) 0 x
      rw [Nat.add_zero, markAt, if_pos positive] at mark
      rw [setCells_mark zero.1 (by simp; omega), mark]
    have styles : setStyles x (pre ++ cell :: post) (cellsWidth pre) style row.mStyle = row.mStyle := by
      rw [setStyles, if_pos zero.1]
      obtain ⟨bound, rfl⟩ := List.getElem?_eq_some_iff.mp own
      exact List.set_getElem_self bound
    obtain ⟨row1, ran, rewritten⟩ := good.run_setChar holds scalars.1 (by omega) found style
    rw [styles] at rewritten
    obtain ⟨row', final, goes⟩ := @ih row1 (cell.addMark x) (i + charCount x) scalars.2 zero.2 rewritten.good
      rewritten.holds (by rw [rewritten.styled]; exact read) (by rw [rewritten.styled]; exact own) (by omega)
    rw [Cell.addMark_withMarks valid.bound, rewritten.styled] at final
    refine ⟨row', rewritten.trans final, fun rest => ?_⟩
    have stay : (if 0 < WcWidth.width x then width else 0) = 0 := if_neg (by omega)
    rw [List.append_assoc, copyLoop_toChars _ _ _ scalars.1 _ (by omega), if_neg (by decide),
      run_copyStep (d := cellsWidth pre) stay read ran, if_neg (by omega), Nat.add_zero, Nat.add_zero, goes, Nat.add_assoc]

theorem Good.run_copyCell {x y d latest : Nat} {marks : List Nat} {second : Bool} (good : row.Good)
    (holds : row.Holds cells) (scalar : x.isValidChar) (base : (if second then space else x) = y) (head : Cell.Valid ⟨y, marks⟩)
    (room : d + latest + WcWidth.width y ≤ row.mColumns)
    (read : (readStyles same line.mStyle row.mStyle)[s + latest]? = some style)
    (more : (i : Int) + charCount x + (marks.flatMap toChars).length ≤ x2) :
    ∃ row', Rewritten row row' (overlay ⟨y, marks⟩ cells (d + latest))
        (setStyles y cells (d + latest) style row.mStyle) ∧ ∀ rest,
      (copyLoop .java line same x2 (toChars x ++ (marks.flatMap toChars ++ rest)) i second s d latest).run row =
        (copyLoop .java line same x2 rest (i + charCount x + (marks.flatMap toChars).length) false ((s + latest : Nat) : Int)
          ((d + latest : Nat) : Int) (WcWidth.width y)).run row' := by
  have positive : 0 < WcWidth.width y := head.base
  have count := charCount_pos x
  have left : cellsWidth (leftOf cells (d + latest)) = d + latest :=
    cellsWidth_leftOf holds.valid (by rw [holds.width]; omega)
  obtain ⟨row1, ran, put⟩ := good.run_put holds head.base_scalar positive room style
  have styles : ∀ c, row1.mStyle[c]? =
      if Touches cells (d + latest) 0 ⟨y, marks⟩ c then some style else row.mStyle[c]? := by
    rw [put.styled]
    exact setStyles_getElem? positive cells style (by rw [holds.styles]; exact room) marks
  have reread : (readStyles same line.mStyle row1.mStyle)[s + latest]? = some style := by
    cases same with
    | false => exact read
    | true =>
      rw [readStyles, if_pos rfl, styles]
      split
      · rfl
      · exact read
  have rest : ((i + charCount x : Nat) : Int) + (marks.flatMap toChars).length ≤ x2 := by omega
  obtain ⟨row', marked, goes⟩ := put.good.run_copyMarks marks head.mark_scalars head.marks put.holds reread
    (by rw [left, styles, if_pos (.inl rfl)]) rest
  rw [put.styled] at marked
  refine ⟨row', put.trans marked, fun rest => ?_⟩
  have advance : (if 0 < WcWidth.width y then latest else 0) = latest := if_pos positive
  rw [copyLoop_toChars _ _ _ scalar _ (by omega), base, run_copyStep advance read ran, if_pos positive]
  rw [left] at goes
  exact goes rest

theorem exists_read (lineStyles : line.mStyle.length = row.mColumns) (styles : row.mStyle.length = row.mColumns)
    {c : Nat} (inside : c < row.mColumns) : ∃ style, (readStyles same line.mStyle row.mStyle)[c]? = some style := by
  have length : c < (readStyles same line.mStyle row.mStyle).length := by
    cases same
    · exact lineStyles ▸ inside
    · exact styles ▸ inside
  exact ⟨_, List.getElem?_eq_getElem length⟩

structure CellsCopied (same : Bool) (line : TerminalRow) (source : List Cell) (s column : Nat) (row row' : TerminalRow)
    (cells : List Cell) : Prop where
  rewritten : Rewritten row row' (copiedCells source cells column) row'.mStyle
  styles : StylesCopied same line.mStyle source cells s column row.mStyle row'.mStyle
  exact : row'.mStyle = copiedStyles same line.mStyle source cells s column row.mStyle

theorem CellsCopied.cons (holds : row.Holds cells) (head : cell.Valid)
    (sources : ∀ c ∈ source, c.Valid) (room : column + cell.width ≤ row.mColumns)
    (read : (readStyles same line.mStyle row.mStyle)[s]? = some style)
    (put : Rewritten row row' (overlay cell cells column) (setStyles cell.base cells column style row.mStyle))
    (rest : CellsCopied same line source (s + cell.width) (column + cell.width) row' row'' (overlay cell cells column)) :
    CellsCopied same line (cell :: source) s column row row'' cells := by
  have fits : column + cell.width ≤ cellsWidth cells := holds.width ▸ room
  have rewritten := rest.rewritten
  have styles := rest.styles
  rw [copiedCells_overlay holds.valid head fits] at rewritten
  rw [put.styled] at styles
  refine ⟨put.trans rewritten, styles.cons holds.valid head fits sources ?_ read, ?_⟩
  · rw [holds.width, holds.styles]
  · rw [rest.exact, copiedStyles, read, put.styled, Option.getD_some]

theorem Good.run_copyCells (sources : ∀ c ∈ source, c.Valid) (good : row.Good)
    (holds : row.Holds cells) (same : Bool) (i s d latest : Nat) (lineStyles : line.mStyle.length = row.mColumns)
    (room : d + latest + cellsWidth source ≤ row.mColumns) (sourceRoom : s + latest + cellsWidth source ≤ row.mColumns)
    (rest : List Nat) :
    ∃ row', (copyLoop .java line same ((i + (cellsText source).length : Nat) : Int) (cellsText source ++ rest) i false
        s d latest).run row = .ok () row' ∧
      CellsCopied same line source (s + latest) (d + latest) row row' cells := by
  induction source generalizing row cells s d latest i with
  | nil =>
    refine ⟨row, ?_, ⟨?_, StylesCopied.nil .., rfl⟩⟩
    · rw [copyLoop_done _ _ _ _ (by simp)]
      rfl
    · rw [copiedCells, if_pos rfl]
      exact ⟨good, holds, rfl, SameShape.refl row⟩
  | cons cell source ih =>
    rw [List.forall_mem_cons] at sources
    rw [cellsWidth_cons] at room sourceRoom
    have head := sources.1
    have positive := head.base
    obtain ⟨style, read⟩ := @exists_read row line same lineStyles holds.styles (s + latest) (by omega)
    have chars : (cellsText (cell :: source)).length =
        charCount cell.base + (cell.marks.flatMap toChars).length + (cellsText source).length := by
      rw [cellsText_cons, Cell.chars_eq, List.length_append, List.length_append, toChars_length]
    have whole : (if false = true then space else cell.base) = cell.base := rfl
    obtain ⟨row1, put, goes⟩ := good.run_copyCell holds head.base_scalar whole head
      (show d + latest + cell.width ≤ _ by omega) read
      (show (i : Int) + _ + _ ≤ ((i + (cellsText (cell :: source)).length : Nat) : Int) by omega)
    obtain ⟨row', ran, copied⟩ := ih sources.2 put.good put.holds
      (i + charCount cell.base + (cell.marks.flatMap toChars).length) (s + latest) (d + latest) cell.width
      (by rw [put.shape.columns]; exact lineStyles) (by rw [put.shape.columns]; omega)
      (by rw [put.shape.columns]; omega)
    refine ⟨row', ?_, copied.cons holds head sources.2 (by omega) read put⟩
    have text : cellsText (cell :: source) ++ rest =
        toChars cell.base ++ (cell.marks.flatMap toChars ++ (cellsText source ++ rest)) := by
      rw [cellsText_cons, Cell.chars_eq, List.append_assoc, List.append_assoc]
    rw [text, goes, chars, ← Nat.add_assoc, ← Nat.add_assoc]
    exact ran

theorem Holds.findStart_fitting (holds : line.Holds source) {c : Nat} (inside : c ≤ line.mColumns) :
    line.findStartOfColumn c = .ok ((cellsText (fitting source c)).length : Int) := by
  by_cases last : c = line.mColumns
  · have whole := fitting_append source [] 0
    rw [List.append_nil, Nat.add_zero, fitting, List.append_nil, holds.width, ← last] at whole
    rw [whole, ← holds.used, findStartOfColumn, if_pos (by omega)]
  · obtain ⟨pre, cell, post, offset, rfl, rfl, within⟩ := split_at_column
      (show c < cellsWidth source by rw [holds.width]; omega)
    rw [holds.findStart_inside offset within, fitting_append, fitting, if_neg (by omega), List.append_nil]

theorem Holds.flagged (holds : row.Holds cells) (flag : Bool) :
    ({ row with mHasNonOneWidthOrSurrogateChars := row.mHasNonOneWidthOrSurrogateChars || flag } : TerminalRow).Holds
      cells := by
  cases flag with
  | true => simpa [TerminalRow.restyled] using holds.restyled row.mStyle rfl
  | false => simpa using holds

theorem Holds.run_copyInterval_start {offset w dx : Nat} {spare : List Nat} (lineHolds : line.Holds (pre ++ cell :: post))
    (text : line.mText = cellsText (pre ++ cell :: post) ++ spare) (within : offset < cell.width)
    (inside : cellsWidth pre + (offset + w) ≤ line.mColumns) (same : Bool) (row : TerminalRow) :
    (copyInterval .java line same (cellsWidth pre + offset : Nat) (cellsWidth pre + (offset + w) : Nat) dx).run row =
      (copyLoop .java line same
          (((cellsText pre).length + (cellsText (fitting (cell :: post) (offset + w))).length : Nat) : Int)
          (cellsText (cell :: post) ++ spare) (cellsText pre).length (decide (offset = 1)) (cellsWidth pre + offset : Nat)
          dx 0).run
        { row with mHasNonOneWidthOrSurrogateChars :=
            row.mHasNonOneWidthOrSurrogateChars || line.mHasNonOneWidthOrSurrogateChars } := by
  have stop := lineHolds.findStart_fitting inside
  have drop : line.mText.drop (cellsText pre).length = cellsText (cell :: post) ++ spare := by
    rw [text, cellsText_append, List.append_assoc, List.drop_left]
  rw [fitting_append, cellsText_append, List.length_append] at stop
  unfold copyInterval
  rw [lineHolds.findStart_inside offset within, stop, lineHolds.extra, extraColumn_split lineHolds.valid offset within]
  simp only [EStateM.run_bind, EStateM.run_modify, run_liftResult_ok, Int.toNat_natCast, drop]

theorem Good.run_copyInterval {sx w dx : Nat} (good : row.Good) (holds : row.Holds cells)
    (lineHolds : line.Holds source) (width : line.mColumns = row.mColumns) (positive : 0 < w)
    (sourceRoom : sx + w ≤ row.mColumns) (room : dx + w ≤ row.mColumns) (same : Bool) :
    ∃ row', (copyInterval .java line same sx ((sx + w : Nat) : Int) dx).run row = .ok () row' ∧
      CellsCopied same line (sourceCells source sx w) sx dx row row' cells := by
  obtain ⟨pre, cell, post, offset, rfl, rfl, within⟩ := split_at_column
    (show sx < cellsWidth source by rw [lineHolds.width]; omega)
  obtain ⟨spare, text⟩ := lineHolds.text
  have valid := lineHolds.valid
  have head := valid cell (by simp)
  have two := head.width_cases
  rw [List.forall_mem_append, List.forall_mem_cons] at valid
  have start := @Holds.run_copyInterval_start line pre post cell offset w dx spare lineHolds text within (by omega) same row
  have flagged := holds.flagged line.mHasNonOneWidthOrSurrogateChars
  have shape : SameShape row { row with mHasNonOneWidthOrSurrogateChars :=
      row.mHasNonOneWidthOrSurrogateChars || line.mHasNonOneWidthOrSurrogateChars } := ⟨rfl, Nat.le_refl _, rfl, rfl⟩
  have flaggedGood := good.update flagged shape
  have lineStyles : line.mStyle.length = row.mColumns := lineHolds.styles.trans width
  have columns := lineHolds.width
  rw [cellsWidth_append, cellsWidth_cons] at columns
  suffices copied : ∃ row', (copyLoop .java line same
      (((cellsText pre).length + (cellsText (fitting (cell :: post) (offset + w))).length : Nat) : Int)
      (cellsText (cell :: post) ++ spare) (cellsText pre).length (decide (offset = 1)) (cellsWidth pre + offset : Nat)
      dx 0).run _ = .ok () row' ∧ CellsCopied same line (fitting (remnant (cell :: post) offset) w)
        (cellsWidth pre + offset) dx _ row' cells by
    obtain ⟨row', ran, copied⟩ := copied
    rw [Nat.add_assoc, start, sourceCells, remnant_append valid.1]
    have rewritten := copied.rewritten
    exact ⟨row', ran, ⟨rewritten.good, rewritten.holds, rfl, IsTrans.trans _ _ _ shape rewritten.shape⟩, copied.styles,
      copied.exact⟩
  by_cases first : offset = 0
  · subst first
    obtain ⟨behind, split⟩ := exists_fitting (cell :: post) w
    have fits := cellsWidth_fitting (List.forall_mem_cons.mpr valid.2) w (by rw [cellsWidth_cons]; omega)
    obtain ⟨row', ran, copied⟩ := flaggedGood.run_copyCells (fitting_valid (List.forall_mem_cons.mpr valid.2) w) flagged
      same (cellsText pre).length (cellsWidth pre + 0) dx 0 lineStyles (by dsimp only; omega) (by dsimp only; omega)
      (cellsText behind ++ spare)
    refine ⟨row', ?_, copied⟩
    nth_rewrite 2 [split]
    rw [cellsText_append, List.append_assoc, Nat.zero_add]
    exact ran
  · have wide : cell.width = 2 := by omega
    obtain rfl : offset = 1 := by omega
    have emptied := head.emptied
    have narrow : (⟨space, cell.marks⟩ : Cell).width = 1 := Cell.blank_width
    have source : fitting (remnant (cell :: post) 1) w = ⟨space, cell.marks⟩ :: fitting post (w - 1) := by
      rw [remnant, if_neg (by omega), if_pos within, fitting, narrow, if_pos (by omega)]
    have read : fitting (cell :: post) (1 + w) = cell :: fitting post (w - 1) := by
      rw [fitting, if_pos (by omega), show 1 + w - cell.width = w - 1 by omega]
    obtain ⟨behind, split⟩ := exists_fitting post (w - 1)
    have fits := cellsWidth_fitting valid.2.2 (w - 1) (by omega)
    obtain ⟨style, found⟩ := @exists_read row line same lineStyles holds.styles (cellsWidth pre + 1 + 0) (by omega)
    have blank : (if true = true then space else cell.base) = space := rfl
    have chars : (cellsText (cell :: fitting post (w - 1))).length = charCount cell.base +
        (cell.marks.flatMap toChars).length + (cellsText (fitting post (w - 1))).length := by
      rw [cellsText_cons, Cell.chars_eq, List.length_append, List.length_append, toChars_length]
    obtain ⟨row1, put, goes⟩ := flaggedGood.run_copyCell flagged head.base_scalar blank emptied
      (show dx + 0 + (⟨space, cell.marks⟩ : Cell).width ≤ row.mColumns by omega) found
      (show ((cellsText pre).length : Int) + _ + _ ≤
        (((cellsText pre).length + (cellsText (cell :: fitting post (w - 1))).length : Nat) : Int) by omega)
    obtain ⟨row', ran, copied⟩ := put.good.run_copyCells (fitting_valid valid.2.2 (w - 1)) put.holds same
      ((cellsText pre).length + charCount cell.base + (cell.marks.flatMap toChars).length) (cellsWidth pre + 1 + 0) (dx + 0) 1
      (by rw [put.shape.columns]; exact lineStyles) (by rw [put.shape.columns]; dsimp only; omega)
      (by rw [put.shape.columns]; dsimp only; omega) (cellsText behind ++ spare)
    have text : cellsText (cell :: post) ++ spare = toChars cell.base ++
        (cell.marks.flatMap toChars ++ (cellsText (fitting post (w - 1)) ++ (cellsText behind ++ spare))) := by
      nth_rewrite 1 [split]
      rw [cellsText_cons, cellsText_append, Cell.chars_eq]
      simp only [List.append_assoc]
    rw [source]
    refine ⟨row', ?_, copied.cons flagged emptied (fitting_valid valid.2.2 (w - 1)) (by dsimp only; omega) found put⟩
    rw [read, text, decide_eq_true rfl]
    have step := goes (cellsText (fitting post (w - 1)) ++ (cellsText behind ++ spare))
    rw [Nat.add_zero, Nat.add_zero] at step
    rw [step, chars, ← Nat.add_assoc, ← Nat.add_assoc]
    exact ran

end

end TerminalRow
