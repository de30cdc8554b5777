import TerminalAndroid.Terminal.Row.CopyRun

open Java Utf16 Exec

/-- What a column shows: the cell that covers it, the place of the column in it, and the style of the cell, which is
    that of its first column. -/
structure Seen where
  cell : Cell
  offset : Nat
  style : Style
  deriving DecidableEq, Repr

def seenIn (cells : List Cell) (styles : List Style) (column : Nat) : Option Seen :=
  (cellAt cells column).bind fun (cell, offset) => (styles[column - offset]?).map (⟨cell, offset, ·⟩)

def TerminalRow.seen (row : TerminalRow) (column : Nat) : Option Seen := seenIn row.cells row.mStyle column

theorem seenIn_of_cellAt {cells : List Cell} {c offset : Nat} {cell : Cell} (found : cellAt cells c = some (cell, offset))
    (styles : List Style) : seenIn cells styles c = (styles[c - offset]?).map (⟨cell, offset, ·⟩) := by
  rw [seenIn, found]
  rfl

theorem seenIn_eq_iff {cells cells' : List Cell} {styles styles' : List Style} {c c' offset offset' : Nat} {cell cell' : Cell}
    (found : cellAt cells c = some (cell, offset)) (found' : cellAt cells' c' = some (cell', offset'))
    (styled : c - offset < styles.length) :
    seenIn cells' styles' c' = seenIn cells styles c ↔
      cell' = cell ∧ offset' = offset ∧ styles'[c' - offset']? = styles[c - offset]? := by
  rw [seenIn_of_cellAt found, seenIn_of_cellAt found', List.getElem?_eq_getElem styled]
  cases style : styles'[c' - offset']? with
  | none => simp
  | some style => simp

def ShowsBlank (seen : Option Seen) : Prop := ∃ style, seen = some ⟨.blank, 0, style⟩

def CutHalf (cells : List Cell) (sx w j : Nat) : Prop :=
  (j = 0 ∧ extraColumn cells sx = true) ∨ (j + 1 = w ∧ extraColumn cells (sx + w) = true)

instance (cells : List Cell) (sx w j : Nat) : Decidable (CutHalf cells sx w j) := inferInstanceAs (Decidable (_ ∨ _))

def LeftHalf (cells : List Cell) (dx w c : Nat) : Prop :=
  (c + 1 = dx ∧ extraColumn cells dx = true) ∨ (c = dx + w ∧ extraColumn cells (dx + w) = true)

structure TakesInterval (line row row' : TerminalRow) (sx w dx : Nat) : Prop where
  cut : ∀ j < w, CutHalf line.cells sx w j → ShowsBlank (row'.seen (dx + j))
  whole : ∀ j < w, ¬ CutHalf line.cells sx w j → row'.seen (dx + j) = line.seen (sx + j)
  outside : ∀ c < row.mColumns, c < dx ∨ dx + w ≤ c →
    row'.seen c = row.seen c ∨ (LeftHalf row.cells dx w c ∧ ShowsBlank (row'.seen c))

/-- Where the copy of an interval does what it is for: a wide character cut by the left edge has no zero-width
    characters, in place of one cut by the right edge a blank is there already, no wide character takes over
    zero-width characters that change it, and no cell touches the style that a later one with another style reads. -/
structure CopiesWhole (same : Bool) (line row : TerminalRow) (sx w dx : Nat) : Prop where
  left : ∀ cell, cellAt line.cells sx = some (cell, 1) → cell.marks = []
  right : extraColumn line.cells (sx + w) = true →
    cellFrom row.cells (dx + w - 1) = some .blank ∨ (2 ≤ w ∧ extraColumn row.cells (dx + w - 1) = true)
  marks : ∀ k cell, cellFrom (sourceCells line.cells sx w) k = some cell →
    (keptMarks cell.base row.cells (dx + k) ++ cell.marks).take TerminalRow.maxCombiningCharactersPerColumn = cell.marks
  styles : same = true → ∀ j k other cell, j < k → cellFrom (sourceCells line.cells sx w) j = some other →
    cellFrom (sourceCells line.cells sx w) k = some cell → Touches row.cells dx j other (sx + k) →
    line.mStyle[sx + j]? = line.mStyle[sx + k]?

section

variable {cells source target : List Cell} {column sx w j : Nat}

theorem cellAt_fitting (inside : j < cellsWidth (fitting cells column)) :
    cellAt (fitting cells column) j = cellAt cells j := by
  obtain ⟨post, split⟩ := exists_fitting cells column
  nth_rewrite 2 [split]
  rw [cellAt_append_left post inside]

theorem remnant_cases (valid : ∀ c ∈ cells, c.Valid) (sx : Nat) :
    (extraColumn cells sx = false ∧ remnant cells sx = rightOf cells sx) ∨
      ∃ cell post, cellAt cells sx = some (cell, 1) ∧ remnant cells sx = ⟨TerminalRow.space, cell.marks⟩ :: post ∧
        rightOf cells sx = .blank :: post := by
  by_cases inside : sx < cellsWidth cells
  · obtain ⟨pre, cell, post, offset, rfl, rfl, within⟩ := split_at_column inside
    rw [extraColumn_split valid offset within, cellAt_split post within]
    simp only [List.forall_mem_append, List.forall_mem_cons] at valid
    rw [remnant_append valid.1, rightOf_append valid.1]
    have two := valid.2.1.width_cases
    by_cases first : offset = 0
    · refine .inl ⟨by simp [first], ?_⟩
      rw [first, rightOf_zero, remnant, if_pos rfl]
    · obtain rfl : offset = 1 := by omega
      refine .inr ⟨cell, post, rfl, ?_, ?_⟩
      · rw [remnant, if_neg first, if_pos within]
      · rw [rightOf, if_neg first, if_pos within]
  · have past := Nat.not_lt.mp inside
    obtain ⟨more, rfl⟩ := Nat.exists_eq_add_of_le past
    have none : extraColumn cells (cellsWidth cells + more) ≠ true := by
      rw [ne_eq, extraColumn_iff valid, cellAt_past past]
      simp
    have ending := remnant_append valid [] more
    rw [List.append_nil] at ending
    exact .inl ⟨Bool.eq_false_iff.mpr none, by rw [ending, rightOf_past valid past]; rfl⟩

theorem cellAt_remnant (valid : ∀ c ∈ cells, c.Valid) (later : 0 < j ∨ extraColumn cells sx = false) :
    cellAt (remnant cells sx) j = cellAt cells (sx + j) := by
  have right := @cellAt_rightOf cells sx valid j
  rcases remnant_cases valid sx with ⟨whole, same⟩ | ⟨cell, post, cut, here, there⟩
  · rw [same, right, if_neg fun both => by rw [whole] at both; cases both.2]
  · have extra : extraColumn cells sx = true := (extraColumn_iff valid).mpr ⟨cell, cut⟩
    rw [extra] at later
    have positive : 0 < j := later.resolve_right (by decide)
    have narrow : (⟨TerminalRow.space, cell.marks⟩ : Cell).width = Cell.blank.width := rfl
    rw [if_neg (by omega), there, cellAt, Cell.blank_width, if_neg (by omega)] at right
    rw [← right, here, cellAt, narrow, Cell.blank_width, if_neg (by omega)]

theorem cellsWidth_remnant (valid : ∀ c ∈ cells, c.Valid) : cellsWidth (remnant cells sx) = cellsWidth cells - sx := by
  rw [← cellsWidth_rightOf valid]
  rcases remnant_cases valid sx with ⟨-, same⟩ | ⟨cell, post, -, here, there⟩
  · rw [same]
  · rw [here, there, cellsWidth_cons, cellsWidth_cons]
    rfl

theorem extraColumn_remnant (valid : ∀ c ∈ cells, c.Valid) (positive : 0 < w) :
    extraColumn (remnant cells sx) w = extraColumn cells (sx + w) := by
  rw [Bool.eq_iff_iff, extraColumn_iff (remnant_valid valid sx), extraColumn_iff valid,
    cellAt_remnant valid (.inl positive)]

theorem cellsWidth_sourceCells (valid : ∀ c ∈ cells, c.Valid) (positive : 0 < w) (inside : sx + w ≤ cellsWidth cells) :
    cellsWidth (sourceCells cells sx w) + (if extraColumn cells (sx + w) = true then 1 else 0) = w := by
  have fits := cellsWidth_fitting (remnant_valid valid sx) w (by rw [cellsWidth_remnant valid]; omega)
  rw [extraColumn_remnant valid positive] at fits
  exact fits

theorem cellAt_sourceCells (valid : ∀ c ∈ cells, c.Valid) (inside : j < cellsWidth (sourceCells cells sx w))
    (later : 0 < j ∨ extraColumn cells sx = false) : cellAt (sourceCells cells sx w) j = cellAt cells (sx + j) := by
  rw [sourceCells, cellAt_fitting inside, cellAt_remnant valid later]

theorem cellAt_sourceCells_cut {cell : Cell} (valid : ∀ c ∈ cells, c.Valid)
    (inside : 0 < cellsWidth (sourceCells cells sx w)) (cut : cellAt cells sx = some (cell, 1)) :
    cellAt (sourceCells cells sx w) 0 = some (⟨TerminalRow.space, cell.marks⟩, 0) := by
  rw [sourceCells, cellAt_fitting inside]
  rcases remnant_cases valid sx with ⟨whole, -⟩ | ⟨cell', post, cut', here, -⟩
  · rw [(extraColumn_iff valid).mpr ⟨cell, cut⟩] at whole
    cases whole
  · rw [cut] at cut'
    cases cut'
    have narrow : (⟨TerminalRow.space, cell.marks⟩ : Cell).width = 1 := Cell.blank_width
    rw [here, cellAt, if_pos (by omega)]

theorem cellsWidth_adorned (source target : List Cell) (column : Nat) :
    cellsWidth (adorned source target column) = cellsWidth source := by
  induction source generalizing column with
  | nil => rfl
  | cons cell source ih =>
    rw [adorned, cellsWidth_cons, cellsWidth_cons, ih]
    rfl

theorem adorned_append (pre post target : List Cell) (column : Nat) :
    adorned (pre ++ post) target column = adorned pre target column ++ adorned post target (column + cellsWidth pre) := by
  induction pre generalizing column with
  | nil => rfl
  | cons cell pre ih => rw [List.cons_append, adorned, adorned, ih, cellsWidth_cons, List.cons_append, Nat.add_assoc]

theorem cellAt_adorned {cell : Cell} {offset : Nat} (found : cellAt source j = some (cell, offset)) :
    cellAt (adorned source target column) j =
      some (Cell.withMarks ⟨cell.base, keptMarks cell.base target (column + (j - offset))⟩ cell.marks, offset) := by
  obtain ⟨pre, post, rfl, rfl, within⟩ := split_of_cellAt found
  rw [adorned_append, cellAt_behind _ (cellsWidth_adorned pre target column), adorned, Nat.add_sub_cancel]
  exact if_pos within

section

variable (valid : ∀ c ∈ target, c.Valid) (room : column + cellsWidth source ≤ cellsWidth target)
include valid room

theorem cellAt_copied {cell : Cell} {offset : Nat} (found : cellAt source j = some (cell, offset)) :
    cellAt (copiedCells source target column) (column + j) =
      some (Cell.withMarks ⟨cell.base, keptMarks cell.base target (column + (j - offset))⟩ cell.marks, offset) := by
  have nonempty : source ≠ [] := by
    rintro rfl
    cases found
  have inside : j < cellsWidth (adorned source target column) := by
    rw [cellsWidth_adorned]
    by_contra past
    rw [cellAt_past (Nat.not_lt.mp past)] at found
    cases found
  have left := @cellsWidth_leftOf target column valid (by omega)
  rw [copiedCells, if_neg nonempty, List.append_assoc, cellAt_behind _ left, cellAt_append_left _ inside,
    cellAt_adorned found]

theorem cellAt_copied_before (nonempty : source ≠ []) {c : Nat} (before : c < column) :
    cellAt (copiedCells source target column) c =
      if c + 1 = column ∧ startsWide target c = true then some (.blank, 0) else cellAt target c := by
  rw [copiedCells, if_neg nonempty, List.append_assoc,
    cellAt_append_left _ (by rw [cellsWidth_leftOf valid (by omega)]; exact before), cellAt_leftOf valid before (by omega)]

theorem cellAt_copied_behind (nonempty : source ≠ []) (c : Nat) :
    cellAt (copiedCells source target column) (column + cellsWidth source + c) =
      if c = 0 ∧ extraColumn target (column + cellsWidth source) = true then some (.blank, 0)
      else cellAt target (column + cellsWidth source + c) := by
  have width : cellsWidth (leftOf target column ++ adorned source target column) = column + cellsWidth source := by
    rw [cellsWidth_append, cellsWidth_leftOf valid (by omega), cellsWidth_adorned]
  rw [copiedCells, if_neg nonempty, cellAt_behind _ width, cellAt_rightOf valid]

end

end

namespace TerminalRow

structure IntervalCopied (same : Bool) (line row row' : TerminalRow) (source cells : List Cell) (sx w dx : Nat) :
    Prop where
  lineHolds : line.Holds source
  holds : row.Holds cells
  own : same = true → line = row
  width : line.mColumns = row.mColumns
  positive : 0 < w
  sourceRoom : sx + w ≤ row.mColumns
  room : dx + w ≤ row.mColumns
  copied : CellsCopied same line (sourceCells source sx w) sx dx row row' cells

variable {j c : Nat} {cell : Cell}

namespace IntervalCopied

variable {same : Bool} {line row row' : TerminalRow} {source cells : List Cell} {sx w dx : Nat}
  (run : IntervalCopied same line row row' source cells sx w dx)
include run

theorem sources : ∀ c ∈ sourceCells source sx w, c.Valid := sourceCells_valid run.lineHolds.valid sx w

theorem extent : cellsWidth (sourceCells source sx w) + (if extraColumn source (sx + w) = true then 1 else 0) = w := by
  have inside := run.sourceRoom
  rw [← run.width, ← run.lineHolds.width] at inside
  exact cellsWidth_sourceCells run.lineHolds.valid run.positive inside

theorem fits : dx + cellsWidth (sourceCells source sx w) ≤ cellsWidth cells := by
  have extent := run.extent
  have room := run.room
  rw [run.holds.width]
  omega

theorem cells_eq : row'.cells = copiedCells (sourceCells source sx w) cells dx := run.copied.rewritten.holds.cells_eq

theorem cellAt_inside {offset : Nat} (found : cellAt (sourceCells source sx w) j = some (cell, offset)) :
    cellAt row'.cells (dx + j) =
      some (Cell.withMarks ⟨cell.base, keptMarks cell.base cells (dx + (j - offset))⟩ cell.marks, offset) := by
  rw [run.cells_eq]
  exact cellAt_copied run.holds.valid run.fits found

theorem readStyles_eq : readStyles same line.mStyle row.mStyle = line.mStyle := by
  cases same with
  | false => rfl
  | true => rw [run.own rfl]; rfl

theorem cut_first (cut : extraColumn source sx = true) : 0 < cellsWidth (sourceCells source sx w) := by
  have extent := run.extent
  have positive := run.positive
  by_contra none
  split at extent
  next cut' =>
    obtain rfl : w = 1 := by omega
    obtain ⟨cell, found⟩ := (extraColumn_iff run.lineHolds.valid).mp cut
    obtain ⟨cell', found'⟩ := (extraColumn_iff run.lineHolds.valid).mp cut'
    obtain ⟨pre, post, rfl, rfl, within⟩ := split_of_cellAt found
    have two := (run.lineHolds.valid cell (by simp)).width_cases
    rw [Nat.add_assoc, cellAt_append, cellAt, if_neg (by omega), show 1 + 1 - cell.width = 0 by omega] at found'
    cases post with
    | nil => cases found'
    | cons next post =>
      have base := (run.lineHolds.valid next (by simp)).base
      rw [cellAt, if_pos base] at found'
      cases found'
  · omega

theorem exists_whole (inside : j < w) (whole : ¬ CutHalf source sx w j) :
    ∃ cell offset, cellAt source (sx + j) = some (cell, offset) ∧
      cellAt (sourceCells source sx w) j = some (cell, offset) ∧ offset ≤ j := by
  have extent := run.extent
  have within : j < cellsWidth (sourceCells source sx w) := by
    split at extent
    next cut => exact not_le.mp fun last => whole (.inr ⟨by omega, cut⟩)
    · omega
  have later : 0 < j ∨ extraColumn source sx = false := by
    rcases Nat.eq_zero_or_pos j with first | later
    · exact .inr (Bool.eq_false_iff.mpr fun cut => whole (.inl ⟨first, cut⟩))
    · exact .inl later
  obtain ⟨cell, offset, found⟩ := exists_cellAt within
  obtain ⟨pre, post, -, place, -⟩ := split_of_cellAt found
  exact ⟨cell, offset, by rw [← cellAt_sourceCells run.lineHolds.valid within later, found], found, by omega⟩

theorem styles_fresh (clean : same = true → ∀ j k other cell, j < k → cellFrom (sourceCells source sx w) j = some other →
      cellFrom (sourceCells source sx w) k = some cell → Touches cells dx j other (sx + k) →
      line.mStyle[sx + j]? = line.mStyle[sx + k]?) (k : Nat) :
    ∀ cell, cellFrom (sourceCells source sx w) k = some cell → row'.mStyle[dx + k]? = line.mStyle[sx + k]? := by
  induction k using Nat.strong_induction_on with
  | _ k ih =>
    intro cell found
    by_cases touched : same = true ∧ ∃ j other, j < k ∧ cellFrom (sourceCells source sx w) j = some other ∧
        Touches cells dx j other (sx + k)
    · obtain ⟨own, j, other, before, present, touches⟩ := touched
      rw [run.copied.styles.smeared own j k other cell before present found touches, ih j before other present]
      exact clean own j k other cell before present found touches
    · rw [run.copied.styles.fresh k cell found fun own j other before present touches =>
        touched ⟨own, j, other, before, present, touches⟩, run.readStyles_eq]

theorem empty_of_extent (none : cellsWidth (sourceCells source sx w) = 0) : row'.cells = cells := by
  rw [run.cells_eq, copiedCells, if_pos (cellsWidth_eq_zero run.sources none)]

omit run in
theorem nonempty_of_extent (some : 0 < cellsWidth (sourceCells source sx w)) : sourceCells source sx w ≠ [] := by
  intro empty
  rw [empty] at some
  cases some

theorem cellAt_left (cut : cellAt source sx = some (cell, 1)) :
    cellAt row'.cells dx = some (⟨space, cell.marks⟩, 0) := by
  have valid := run.lineHolds.valid
  have bound := (valid cell (mem_of_cellAt cut)).bound
  have first := run.cut_first ((extraColumn_iff valid).mpr ⟨cell, cut⟩)
  have found := run.cellAt_inside (cellAt_sourceCells_cut valid first cut)
  rw [Nat.add_zero, keptMarks_of_ne_two (show WcWidth.width space ≠ 2 by decide), Cell.withMarks, List.nil_append, List.take_of_length_le bound] at found
  exact found

theorem cellAt_right (cut : extraColumn source (sx + w) = true) :
    cellAt row'.cells (dx + w - 1) = some (.blank, 0) ↔
      cellFrom cells (dx + w - 1) = some .blank ∨ (2 ≤ w ∧ extraColumn cells (dx + w - 1) = true) := by
  have extent := run.extent
  have positive := run.positive
  rw [if_pos cut] at extent
  rw [cellFrom_eq_some run.holds.valid]
  rcases Nat.eq_zero_or_pos (cellsWidth (sourceCells source sx w)) with none | some
  · rw [run.empty_of_extent none]
    exact ⟨.inl, fun either => either.resolve_right fun both => by omega⟩
  · have behind := cellAt_copied_behind run.holds.valid run.fits (nonempty_of_extent some) 0
    rw [← run.cells_eq, Nat.add_zero, show dx + cellsWidth (sourceCells source sx w) = dx + w - 1 by omega] at behind
    rw [behind]
    split
    next both => exact ⟨fun _ => .inr ⟨by omega, both.2⟩, fun _ => rfl⟩
    next whole => exact ⟨.inl, fun either => either.resolve_right fun both => whole ⟨rfl, both.2⟩⟩

theorem seen_eq : row.seen c = seenIn cells row.mStyle c := by rw [seen, run.holds.cells_eq]

theorem line_seen_eq : line.seen c = seenIn source line.mStyle c := by rw [seen, run.lineHolds.cells_eq]

theorem styles_length : row'.mStyle.length = row.mColumns :=
  run.copied.rewritten.shape.styles.trans run.holds.styles

theorem showsBlank_iff (inside : c < row.mColumns) :
    ShowsBlank (row'.seen c) ↔ cellAt row'.cells c = some (.blank, 0) := by
  have styled : c < row'.mStyle.length := by
    rw [run.styles_length]
    exact inside
  constructor
  · rintro ⟨style, shown⟩
    obtain ⟨⟨cell, offset⟩, found, shown⟩ := Option.bind_eq_some_iff.mp shown
    obtain ⟨style', -, same⟩ := Option.map_eq_some_iff.mp shown
    cases same
    exact found
  · intro found
    rw [seen, seenIn_of_cellAt found, Nat.sub_zero, List.getElem?_eq_getElem styled]
    exact ⟨_, rfl⟩

theorem styles_outside (outside : c < dx ∨ dx + cellsWidth (sourceCells source sx w) ≤ c)
    (uncut : ¬ (c + 1 = dx ∧ extraColumn cells dx = true)) : row'.mStyle[c]? = row.mStyle[c]? := by
  refine run.copied.styles.frame c fun k cell found touches => ?_
  have start := (cellFrom_eq_some run.sources).mp found
  have positive := (run.sources cell (mem_of_cellAt start)).base
  obtain ⟨pre, post, split, place, -⟩ := split_of_cellAt start
  have extent : cellsWidth (sourceCells source sx w) = cellsWidth pre + (cell.width + cellsWidth post) := by
    rw [split, cellsWidth_append, cellsWidth_cons]
  rcases touches.range positive with ⟨lower, upper⟩ | ⟨-, before⟩
  · omega
  · rcases touches with here | ⟨-, -, extra⟩ | ⟨-, here, -⟩
    · omega
    · exact uncut ⟨before, extra⟩
    · omega

theorem outside (c : Nat) (inside : c < row.mColumns) (out : c < dx ∨ dx + w ≤ c) :
    row'.seen c = row.seen c ∨ (LeftHalf cells dx w c ∧ ShowsBlank (row'.seen c)) := by
  have valid := run.holds.valid
  have extent := run.extent
  obtain ⟨cell, offset, found⟩ := exists_cellAt (show c < cellsWidth cells by rw [run.holds.width]; exact inside)
  obtain ⟨pre, post, split, place, within⟩ := split_of_cellAt found
  have two := (valid cell (mem_of_cellAt found)).width_cases
  have styled : c - offset < row.mStyle.length := by
    rw [run.holds.styles]
    omega
  have unchanged (same : cellAt row'.cells c = some (cell, offset))
      (style : row'.mStyle[c - offset]? = row.mStyle[c - offset]?) : row'.seen c = row.seen c := by
    rw [run.seen_eq]
    exact (seenIn_eq_iff found same styled).mpr ⟨rfl, rfl, style⟩
  rcases Nat.eq_zero_or_pos (cellsWidth (sourceCells source sx w)) with none | some
  · have empty := cellsWidth_eq_zero run.sources none
    refine .inl (unchanged (by rw [run.empty_of_extent none, found]) ?_)
    exact run.copied.styles.frame _ fun k cell found => by rw [empty] at found; cases found
  have nonempty := nonempty_of_extent some
  rcases out with before | behind
  · have shown := cellAt_copied_before valid run.fits nonempty before
    rw [← run.cells_eq] at shown
    have first : extraColumn cells dx = true → startsWide cells (dx - 1) = true := fun extra =>
      (Bool.and_eq_true _ _ ▸ extra : _ ∧ _).2
    split at shown
    next cut =>
      refine .inr ⟨.inl ⟨cut.1, ?_⟩, (run.showsBlank_iff inside).mpr shown⟩
      rw [extraColumn, show dx - 1 = c by omega, cut.2]
      simp
      omega
    next uncut =>
      refine .inl (unchanged (shown.trans found) (run.styles_outside (by omega) fun both => uncut ⟨by omega, ?_⟩))
      have starts := first both.2
      rwa [show dx - 1 = c by omega] at starts
  · obtain ⟨more, rfl⟩ : ∃ more, c = dx + cellsWidth (sourceCells source sx w) + more :=
      ⟨c - (dx + cellsWidth (sourceCells source sx w)), by omega⟩
    have shown := cellAt_copied_behind valid run.fits nonempty more
    rw [← run.cells_eq] at shown
    split at shown
    next cut =>
      have whole : cellsWidth (sourceCells source sx w) = w := by omega
      refine .inr ⟨.inr ⟨by omega, ?_⟩, (run.showsBlank_iff inside).mpr shown⟩
      rw [← whole]
      exact cut.2
    next uncut =>
      refine .inl (unchanged (shown.trans found) (run.styles_outside (.inr ?_) (by omega)))
      by_contra before
      obtain rfl : offset = 1 := by omega
      obtain rfl : more = 0 := by omega
      exact uncut ⟨rfl, (extraColumn_iff valid).mpr ⟨cell, found⟩⟩

theorem seen_whole {offset : Nat} (here : cellAt source (sx + j) = some (cell, offset))
    (found : cellAt (sourceCells source sx w) j = some (cell, offset)) :
    row'.seen (dx + j) = line.seen (sx + j) ↔
      (keptMarks cell.base cells (dx + (j - offset)) ++ cell.marks).take maxCombiningCharactersPerColumn = cell.marks ∧
        row'.mStyle[dx + (j - offset)]? = line.mStyle[sx + (j - offset)]? := by
  obtain ⟨pre, post, -, place, -⟩ := split_of_cellAt found
  obtain ⟨pre', post', split', place', -⟩ := split_of_cellAt here
  have inside : sx + j - offset < line.mStyle.length := by
    have width := run.lineHolds.width
    rw [split', cellsWidth_append, cellsWidth_cons] at width
    have base := (run.lineHolds.valid cell (mem_of_cellAt here)).base
    rw [run.lineHolds.styles]
    omega
  rw [run.line_seen_eq, seen, seenIn_eq_iff here (run.cellAt_inside found) inside, Cell.withMarks]
  rw [show dx + j - offset = dx + (j - offset) by omega, show sx + j - offset = sx + (j - offset) by omega]
  constructor
  · rintro ⟨same, -, style⟩
    exact ⟨congrArg Cell.marks same, style⟩
  · rintro ⟨same, style⟩
    exact ⟨by rw [same], rfl, style⟩

theorem source_cases {k : Nat} (found : cellFrom (sourceCells source sx w) k = some cell) :
    (k < w ∧ ¬ CutHalf source sx w k ∧ cellAt source (sx + k) = some (cell, 0)) ∨
      (k = 0 ∧ ∃ cut, cellAt source sx = some (cut, 1) ∧ cell = ⟨space, cut.marks⟩) := by
  have extent := run.extent
  have start := (cellFrom_eq_some run.sources).mp found
  have within : k < cellsWidth (sourceCells source sx w) := not_le.mp fun past => by
    rw [cellAt_past past] at start
    cases start
  by_cases cut : k = 0 ∧ extraColumn source sx = true
  · obtain ⟨rfl, extra⟩ := cut
    obtain ⟨half, covers⟩ := (extraColumn_iff run.lineHolds.valid).mp extra
    have first := cellAt_sourceCells_cut run.lineHolds.valid within covers
    rw [start] at first
    cases first
    exact .inr ⟨rfl, half, covers, rfl⟩
  · have later : 0 < k ∨ extraColumn source sx = false :=
      (Nat.eq_zero_or_pos k).symm.imp_right fun first => Bool.eq_false_iff.mpr fun extra => cut ⟨first, extra⟩
    refine .inl ⟨by omega, ?_, (cellAt_sourceCells run.lineHolds.valid within later).symm.trans start⟩
    rintro (first | ⟨last, extra⟩)
    · exact cut first
    · rw [if_pos extra] at extent
      omega

theorem copiesWhole_of_takes (cut : ∀ j < w, CutHalf source sx w j → ShowsBlank (row'.seen (dx + j)))
    (whole : ∀ j < w, ¬ CutHalf source sx w j → row'.seen (dx + j) = line.seen (sx + j)) :
    CopiesWhole same line row sx w dx := by
  have room := run.room
  have positive := run.positive
  have valid := run.lineHolds.valid
  have styles : ∀ k cell, cellFrom (sourceCells source sx w) k = some cell →
      row'.mStyle[dx + k]? = line.mStyle[sx + k]? := by
    intro k cell found
    rcases run.source_cases found with ⟨inside, uncut, here⟩ | ⟨rfl, -⟩
    · exact ((run.seen_whole here ((cellFrom_eq_some run.sources).mp found)).mp (whole k inside uncut)).2
    · rw [run.copied.styles.fresh 0 cell found fun _ _ _ before => absurd before (Nat.not_lt_zero _), run.readStyles_eq]
  refine ⟨?_, ?_, ?_, ?_⟩
  · rw [run.lineHolds.cells_eq]
    intro cell found
    have blank := cut 0 positive (.inl ⟨rfl, (extraColumn_iff valid).mpr ⟨cell, found⟩⟩)
    rw [Nat.add_zero, run.showsBlank_iff (by omega), run.cellAt_left found] at blank
    injection blank with same
    injection same with same
    exact congrArg Cell.marks same
  · rw [run.lineHolds.cells_eq, run.holds.cells_eq]
    intro extra
    have blank := cut (w - 1) (by omega) (.inr ⟨by omega, extra⟩)
    rw [run.showsBlank_iff (by omega), show dx + (w - 1) = dx + w - 1 by omega] at blank
    exact (run.cellAt_right extra).mp blank
  · rw [run.lineHolds.cells_eq, run.holds.cells_eq]
    intro k cell found
    rcases run.source_cases found with ⟨inside, uncut, here⟩ | ⟨rfl, half, -, rfl⟩
    · exact ((run.seen_whole here ((cellFrom_eq_some run.sources).mp found)).mp (whole k inside uncut)).1
    · have bound := (run.sources _ (mem_of_cellAt ((cellFrom_eq_some run.sources).mp found))).bound
      rw [keptMarks_of_ne_two (show WcWidth.width space ≠ 2 by decide), List.nil_append, List.take_of_length_le bound]
  · rw [run.lineHolds.cells_eq, run.holds.cells_eq]
    intro own j k other cell before present found touches
    rw [← styles j other present, ← styles k cell found]
    exact (run.copied.styles.smeared own j k other cell before present found touches).symm

theorem takes_of_copiesWhole (clean : CopiesWhole same line row sx w dx) : TakesInterval line row row' sx w dx := by
  have room := run.room
  have valid := run.lineHolds.valid
  obtain ⟨left, right, marks, styles⟩ := clean
  rw [run.lineHolds.cells_eq] at left right marks styles
  rw [run.holds.cells_eq] at right marks styles
  refine ⟨?_, ?_, ?_⟩
  · rw [run.lineHolds.cells_eq]
    rintro j inside (⟨rfl, extra⟩ | ⟨last, extra⟩)
    · obtain ⟨cell, found⟩ := (extraColumn_iff valid).mp extra
      rw [Nat.add_zero, run.showsBlank_iff (by omega), run.cellAt_left found, left cell found]
      rfl
    · rw [run.showsBlank_iff (by omega), show dx + j = dx + w - 1 by omega]
      exact (run.cellAt_right extra).mpr (right extra)
  · rw [run.lineHolds.cells_eq]
    intro j inside uncut
    obtain ⟨cell, offset, here, found, -⟩ := run.exists_whole inside uncut
    have start := (cellFrom_eq_some run.sources).mpr (cellAt_start found)
    exact (run.seen_whole here found).mpr ⟨marks _ cell start, run.styles_fresh styles _ cell start⟩
  · rw [run.holds.cells_eq]
    exact run.outside

end IntervalCopied

end TerminalRow
