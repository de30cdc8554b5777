import TerminalAndroid.Terminal.Row.Store

open Java Utf16

def Cell.addMark (cell : Cell) (x : Nat) : Cell :=
  if TerminalRow.maxCombiningCharactersPerColumn ≤ cell.marks.length then cell
  else { cell with marks := cell.marks ++ [x] }

def placeWide (x : Nat) : List Cell → Option (List Cell)
  | [] => none
  | next :: post =>
    if next.width = 2 then some (.bare x :: .blank :: post)
    else if post = [] then some [.bare x]
    else some (⟨x, next.marks⟩ :: post)

def setCells (x : Nat) : List Cell → Nat → Option (List Cell)
  | [], _ => none
  | cell :: post, column =>
    if column < cell.width then
      if WcWidth.width x = 0 then some (cell.addMark x :: post)
      else if WcWidth.width x = 1 then
        if cell.width = 1 then some (.bare x :: post)
        else if column = 0 then some (.bare x :: .blank :: post)
        else some (.blank :: .bare x :: post)
      else if cell.width = 1 then placeWide x post
      else if column = 0 then some (.bare x :: post)
      else (placeWide x post).map (.blank :: ·)
    else (setCells x post (column - cell.width)).map (cell :: ·)

def extraColumn (cells : List Cell) (column : Nat) : Bool :=
  decide (0 < column) && startsWide cells (column - 1)

def setStyles (x : Nat) (cells : List Cell) (column : Nat) (style : Style) (styles : List Style) : List Style :=
  let styles := styles.set column style
  if WcWidth.width x = 0 then styles
  else
    let styles := if extraColumn cells column then styles.set (column - 1) style else styles
    if WcWidth.width x = 2 ∧ startsWide cells (column + 1) = true then styles.set (column + 1) style else styles

theorem placeWide_eq_none {x : Nat} {post : List Cell} : placeWide x post = none ↔ post = [] := by
  cases post with
  | nil => simp [placeWide]
  | cons next post =>
    simp only [placeWide, reduceCtorEq, iff_false]
    split_ifs <;> simp

theorem setCells_split (x : Nat) (pre post : List Cell) (cell : Cell) (offset : Nat) :
    setCells x (pre ++ cell :: post) (cellsWidth pre + offset) =
      (setCells x (cell :: post) offset).map (pre ++ ·) := by
  induction pre with
  | nil => simp
  | cons first pre ih =>
    simp only [List.cons_append, cellsWidth_cons]
    rw [setCells, if_neg (by omega), show first.width + cellsWidth pre + offset - first.width =
      cellsWidth pre + offset by omega, ih, Option.map_map]
    rfl

theorem extraColumn_split {pre post : List Cell} {cell : Cell} (valid : ∀ c ∈ pre ++ cell :: post, c.Valid)
    (offset : Nat) (inside : offset < cell.width) :
    extraColumn (pre ++ cell :: post) (cellsWidth pre + offset) = decide (offset = 1) := by
  have preValid : ∀ c ∈ pre, c.Valid := fun c member => valid c (by simp [member])
  have two := (valid cell (by simp)).width_cases
  unfold extraColumn
  by_cases first : offset = 0
  · subst first
    by_cases empty : pre = []
    · subst empty
      simp
    · simp [startsWide_before preValid empty]
  · have second : offset = 1 := by omega
    subst second
    rw [Nat.add_sub_cancel, startsWide_split preValid]
    simp [show cell.width = 2 by omega]

def RowRules.Slow (rules : RowRules) (row : TerminalRow) (x : Nat) : Prop :=
  rules.fastPath = true → row.mHasNonOneWidthOrSurrogateChars = false → 0x10000 ≤ x ∨ WcWidth.width x ≠ 1

namespace TerminalRow

variable {rules : RowRules} {row : TerminalRow} {cells pre post : List Cell} {cell : Cell} {x : Nat}

theorem Holds.extra (holds : row.Holds cells) (column : Nat) :
    (if 0 < (column : Int) then row.wideDisplayCharacterStartingAt ((column : Int) - 1) else .ok false) =
      .ok (extraColumn cells column) := by
  unfold extraColumn
  by_cases positive : 0 < column
  · rw [if_pos (by omega), show (column : Int) - 1 = ((column - 1 : Nat) : Int) by omega, holds.wideStart]
    simp [positive]
  · rw [if_neg (by omega)]
    simp [positive]

@[simp] theorem space_width : WcWidth.width space = 1 := WcWidth.width_space

def restyled (row : TerminalRow) (styles : List Style) : TerminalRow :=
  { row with mStyle := styles, mHasNonOneWidthOrSurrogateChars := true }

theorem Holds.restyled (holds : row.Holds cells) (styles : List Style) (length : styles.length = row.mStyle.length) :
    (row.restyled styles).Holds cells where
  stored := by
    obtain ⟨spare, stored⟩ := holds.stored
    refine ⟨spare, ?_⟩
    simp only [TerminalRow.restyled, withCells, mk.injEq, and_true, true_and]
    exact ⟨congrArg mText stored, congrArg mSpaceUsed stored⟩
  valid := holds.valid
  width := holds.width
  styles := length.trans holds.styles
  narrow := by simp [TerminalRow.restyled]

def storeClearingNext (rules : RowRules) (fuel : Nat) (column : Int) (x : Nat) (style : Style) : RowM Unit := do
  let row ← get
  let overwriting ← liftResult
    (if WcWidth.width x = 2 then row.wideDisplayCharacterStartingAt (column + 1) else .ok false)
  if overwriting then setCharFuel rules fuel (column + 1) space style
  storeInColumn rules column x

theorem run_setCharFuel_slow (holds : row.Holds cells) {column : Nat} (inside : column < row.mColumns)
    (slow : rules.Slow row x) (fuel : Nat) (style : Style) :
    (setCharFuel rules (fuel + 1) column x style).run row =
      if WcWidth.width x ≤ 0 then
        (storeInColumn rules (if extraColumn cells column then (column : Int) - 1 else column) x).run
          (row.restyled (row.mStyle.set column style))
      else (do
        if extraColumn cells column then setCharFuel rules fuel ((column : Int) - 1) space style
        storeClearingNext rules fuel column x style : RowM Unit).run
          (row.restyled (row.mStyle.set column style)) := by
  have bound : ¬ ((column : Int) < 0 ∨ (row.mStyle.length : Int) ≤ column) := by
    rw [holds.styles]
    omega
  have notFast : ¬ (rules.fastPath = true ∧ row.mHasNonOneWidthOrSurrogateChars = false ∧
      ¬ (0x10000 ≤ x ∨ WcWidth.width x ≠ 1)) := fun ⟨path, flag, fast⟩ => fast (slow path flag)
  rw [setCharFuel]
  simp only [EStateM.run_bind, EStateM.run_get, bound, if_false, EStateM.run_set, notFast, EStateM.run_modify,
    holds.extra, run_liftResult_ok, Int.toNat_natCast]
  split
  · rfl
  · rfl

theorem cellsText_bare_length (x : Nat) (pre post : List Cell) (cell : Cell) :
    (cellsText (pre ++ Cell.bare x :: post)).length ≤ (cellsText (pre ++ cell :: post)).length + 1 := by
  have two := charCount_le_two x
  have some := cell.chars_length_pos
  simp only [cellsText_append, cellsText_cons, List.length_append, Cell.bare_chars, toChars_length]
  omega

theorem cellsText_blank_length (pre post : List Cell) (cell : Cell) :
    (cellsText (pre ++ cell :: Cell.blank :: post)).length = (cellsText (pre ++ cell :: post)).length + 1 := by
  have one : Cell.blank.chars.length = 1 := rfl
  simp only [cellsText_append, cellsText_cons, List.length_append, one]
  omega

theorem cellsText_cut_length (pre post : List Cell) (cell : Cell) :
    (cellsText (pre ++ Cell.blank :: Cell.blank :: post)).length ≤ (cellsText (pre ++ cell :: post)).length + 1 := by
  have some := cell.chars_length_pos
  have one : Cell.blank.chars.length = 1 := rfl
  simp only [cellsText_append, cellsText_cons, List.length_append, one]
  omega

theorem run_storeSame (holds : row.Holds (pre ++ cell :: post))
    (length : (cellsText (pre ++ cell :: post)).length ≤ 32766) (scalar : x.isValidChar)
    (positive : 0 < WcWidth.width x) (same : cell.width = WcWidth.width x) :
    ∃ spare, ∀ rules : RowRules, rules.Exact → (storeInColumn rules (cellsWidth pre : Nat) x).run row =
      .ok () (row.withCells (pre ++ Cell.bare x :: post) spare) := by
  obtain ⟨spare, stored⟩ := run_storeBase holds length scalar positive
  exact ⟨spare, fun rules exact' => by rw [stored rules exact', run_adjust_same same]⟩

theorem run_storeOverWide (holds : row.Holds (pre ++ cell :: post))
    (length : (cellsText (pre ++ cell :: post)).length ≤ 32765) (scalar : x.isValidChar)
    (narrow : WcWidth.width x = 1) (wide : cell.width = 2) :
    ∃ spare, ∀ rules : RowRules, rules.Exact → (storeInColumn rules (cellsWidth pre : Nat) x).run row =
      .ok () (row.withCells (pre ++ Cell.bare x :: Cell.blank :: post) spare) := by
  obtain ⟨spare, stored⟩ := run_storeBase holds (by omega) scalar (by omega)
  have grown := cellsText_bare_length x pre post cell
  obtain ⟨spare', adjusted⟩ := run_adjust_narrow row (pre ++ [Cell.bare x]) post spare holds.columns_pos
    (by simp only [List.append_assoc, List.singleton_append, cellsText_blank_length]; omega) (cellsWidth pre : Nat)
  refine ⟨spare', fun rules exact' => ?_⟩
  rw [stored rules exact', wide, narrow]
  simpa using adjusted rules exact'

theorem run_cut (holds : row.Holds (pre ++ cell :: post))
    (length : (cellsText (pre ++ cell :: post)).length ≤ 32765) (wide : cell.width = 2)
    (flag : row.mHasNonOneWidthOrSurrogateChars = true) (fuel : Nat) (style : Style) :
    ∃ spare, ∀ rules : RowRules, rules.Exact →
      (setCharFuel rules (fuel + 1) (cellsWidth pre : Nat) space style).run row =
        .ok () ((row.restyled (row.mStyle.set (cellsWidth pre) style)).withCells
          (pre ++ Cell.blank :: Cell.blank :: post) spare) := by
  have width := holds.width
  simp only [cellsWidth_append, cellsWidth_cons] at width
  have start := extraColumn_split holds.valid 0 (by omega)
  obtain ⟨spare, stored⟩ := run_storeOverWide
    (holds.restyled (row.mStyle.set (cellsWidth pre) style) List.length_set) length
    (show space.isValidChar by decide) space_width wide
  refine ⟨spare, fun rules exact' => ?_⟩
  have slow : rules.Slow row space := by simp [RowRules.Slow, flag]
  rw [run_setCharFuel_slow holds (by omega) slow]
  simp only [Nat.add_zero, decide_false, show ¬ (0 : Nat) = 1 by decide] at start
  simp only [start]
  simpa [storeClearingNext, Cell.blank] using stored rules exact'

theorem run_storeWide (holds : row.Holds (pre ++ cell :: post))
    (length : (cellsText (pre ++ cell :: post)).length ≤ 32766) (scalar : x.isValidChar)
    (wide : WcWidth.width x = 2) (narrow : cell.width = 1)
    (next : ∀ c ∈ post.head?, c.width = 1) :
    match placeWide x post with
    | some cells => ∃ spare, ∀ rules : RowRules, rules.Exact →
        (storeInColumn rules (cellsWidth pre : Nat) x).run row = .ok () (row.withCells (pre ++ cells) spare)
    | none => ∃ spare, ∀ rules : RowRules, rules.Exact →
        (storeInColumn rules (cellsWidth pre : Nat) x).run row =
          .error (.illegalArgument "Cannot put wide character in last column")
            (row.withCells (pre ++ [Cell.bare x]) spare) := by
  obtain ⟨spare, stored⟩ := run_storeBase holds length scalar (by omega)
  have grown := cellsText_bare_length x pre post cell
  have valid := holds.valid
  have width := holds.width
  simp only [List.forall_mem_append, List.forall_mem_cons] at valid
  simp only [narrow, wide] at stored
  cases post with
  | nil =>
    simp only [cellsWidth_append, cellsWidth_cons, cellsWidth_nil] at width
    refine ⟨spare, fun rules exact' => ?_⟩
    rw [stored rules exact', run_adjust_last _ (by omega)]
  | cons first post =>
    have firstNarrow := next first (by simp)
    simp only [cellsWidth_append, cellsWidth_cons] at width
    simp only [List.forall_mem_cons] at valid
    simp only [placeWide, firstNarrow, show ¬ (1 : Nat) = 2 by decide, if_false]
    by_cases last : post = []
    · subst last
      simp only [cellsWidth_nil] at width
      obtain ⟨spare', adjusted⟩ := run_adjust_truncate row (pre ++ [Cell.bare x]) [first] spare (by
        simp only [cellsText_append, cellsText_cons, cellsText_nil, List.length_append,
          List.length_nil] at grown length ⊢
        omega) (cellsWidth pre : Nat) (by omega)
      simp only [if_true]
      refine ⟨spare', fun rules exact' => ?_⟩
      rw [stored rules exact']
      simpa using adjusted rules exact'
    · have more : 0 < cellsWidth post := by
        by_contra zero
        exact last (cellsWidth_eq_zero valid.2.2.2 (by omega))
      obtain ⟨spare', adjusted⟩ := run_adjust_overwrite row pre x first post spare valid.2.2.1.base_scalar (by omega)
        (cellsWidth pre : Nat) (by omega)
      simp only [last, if_false]
      refine ⟨spare', fun rules exact' => ?_⟩
      rw [stored rules exact']
      exact adjusted rules exact'

theorem storeClearingNext_skip (holds : row.Holds cells) {column : Nat}
    (skip : WcWidth.width x = 2 → startsWide cells (column + 1) = false) (fuel : Nat) (style : Style) :
    (storeClearingNext rules fuel column x style).run row = (storeInColumn rules column x).run row := by
  have next : (column : Int) + 1 = ((column + 1 : Nat) : Int) := by simp
  have kept : (if WcWidth.width x = 2 then row.wideDisplayCharacterStartingAt ((column : Int) + 1)
      else .ok false) = .ok false := by
    by_cases wide : WcWidth.width x = 2
    · rw [if_pos wide, next, holds.wideStart, skip wide]
    · rw [if_neg wide]
  unfold storeClearingNext
  simp only [EStateM.run_bind, EStateM.run_get, kept, run_liftResult_ok, Bool.false_eq_true, if_false]

theorem run_placeWide (holds : row.Holds (pre ++ cell :: post))
    (length : (cellsText (pre ++ cell :: post)).length ≤ 32765) (scalar : x.isValidChar)
    (wide : WcWidth.width x = 2) (narrow : cell.width = 1)
    (flag : row.mHasNonOneWidthOrSurrogateChars = true) (fuel : Nat) (style : Style) :
    let styles := if startsWide (pre ++ cell :: post) (cellsWidth pre + 1) then
      row.mStyle.set (cellsWidth pre + 1) style else row.mStyle
    match placeWide x post with
    | some cells => ∃ spare, ∀ rules : RowRules, rules.Exact →
        (storeClearingNext rules (fuel + 1) (cellsWidth pre : Nat) x style).run row =
          .ok () ((row.restyled styles).withCells (pre ++ cells) spare)
    | none => ∃ spare, ∀ rules : RowRules, rules.Exact →
        (storeClearingNext rules (fuel + 1) (cellsWidth pre : Nat) x style).run row =
          .error (.illegalArgument "Cannot put wide character in last column")
            (row.withCells (pre ++ [Cell.bare x]) spare) := by
  intro styles
  have valid := holds.valid
  simp only [List.forall_mem_append, List.forall_mem_cons] at valid
  have frontValid : ∀ c ∈ pre ++ [cell], c.Valid := by
    simp only [List.forall_mem_append, List.forall_mem_cons]
    exact ⟨valid.1, valid.2.1, by simp⟩
  have column : cellsWidth (pre ++ [cell]) = cellsWidth pre + 1 := by simp [narrow]
  have starts : startsWide (pre ++ cell :: post) (cellsWidth pre + 1) = true ↔
      ∃ c ∈ post.head?, c.width = 2 := by
    cases post with
    | nil => simp [startsWide_past, narrow]
    | cons first post =>
      have split := startsWide_split frontValid first post
      rw [column] at split
      simp only [List.append_assoc, List.singleton_append] at split
      simp [split]
  have next : ((cellsWidth pre : Nat) : Int) + 1 = ((cellsWidth pre + 1 : Nat) : Int) := by simp
  have same : row.restyled row.mStyle = row := by
    simp only [restyled, ← flag]
  by_cases overwriting : startsWide (pre ++ cell :: post) (cellsWidth pre + 1) = true
  · obtain ⟨first, head, firstWide⟩ := starts.mp overwriting
    cases post with
    | nil => simp at head
    | cons other post =>
      obtain rfl : other = first := by simpa using head
      have holds' : row.Holds ((pre ++ [cell]) ++ other :: post) := by simpa using holds
      obtain ⟨spare, cut⟩ := run_cut holds' (by simpa using length) firstWide flag fuel style
      have cutHolds := (holds'.restyled (row.mStyle.set (cellsWidth pre + 1) style) List.length_set).replace
        (pre ++ cell :: Cell.blank :: Cell.blank :: post) spare (by
          simp only [List.forall_mem_append, List.forall_mem_cons]
          exact ⟨valid.1, valid.2.1, Cell.blank_valid, Cell.blank_valid, (List.forall_mem_cons.mp valid.2.2).2⟩)
        (by simp [firstWide]; omega) rfl
      have cutLength := cellsText_cut_length (pre ++ [cell]) post other
      simp only [List.append_assoc, List.singleton_append] at cutLength
      obtain ⟨spare', stored⟩ : ∃ spare', ∀ rules : RowRules, rules.Exact → _ :=
        run_storeWide cutHolds (by omega) scalar wide narrow (by simp)
      simp only [placeWide, firstWide, if_true, styles, overwriting]
      refine ⟨spare', fun rules exact' => ?_⟩
      have cut := cut rules exact'
      rw [column] at cut
      unfold storeClearingNext
      simp only [EStateM.run_bind, EStateM.run_get, wide, if_true, next, holds.wideStart, overwriting,
        run_liftResult_ok, cut, List.append_assoc, List.singleton_append]
      exact stored rules exact'
  · have stored := run_storeWide holds (by omega) scalar wide narrow (by
      intro c head
      rcases (valid.2.2 c (List.mem_of_mem_head? head)).width_cases with one | two
      · exact one
      · exact absurd (starts.mpr ⟨c, head, two⟩) overwriting)
    have skip : WcWidth.width x = 2 → startsWide (pre ++ cell :: post) (cellsWidth pre + 1) = false :=
      fun _ => by simpa using overwriting
    simp only [styles, overwriting, Bool.false_eq_true, if_false, same,
      storeClearingNext_skip holds skip]
    exact stored

theorem setStyles_zero (zero : WcWidth.width x = 0) (column : Nat) (style : Style) (styles : List Style) :
    setStyles x cells column style styles = styles.set column style := by
  simp [setStyles, zero]

theorem setStyles_one (one : WcWidth.width x = 1) (column : Nat) (style : Style) (styles : List Style) :
    setStyles x cells column style styles =
      if extraColumn cells column then (styles.set column style).set (column - 1) style
      else styles.set column style := by
  simp [setStyles, one]

theorem setStyles_two (two : WcWidth.width x = 2) (column : Nat) (style : Style) (styles : List Style) :
    setStyles x cells column style styles =
      let styles := if extraColumn cells column then (styles.set column style).set (column - 1) style
        else styles.set column style
      if startsWide cells (column + 1) then styles.set (column + 1) style else styles := by
  simp [setStyles, two]

def Overfull (row : TerminalRow) : Prop :=
  ∃ cells spare, row = row.withCells cells spare ∧ (∀ c ∈ cells, c.Valid) ∧ cellsWidth cells = row.mColumns + 1

theorem Holds.overfull (holds : row.Holds (pre ++ cell :: post)) (wide : WcWidth.width x = 2) (narrow : cell.width = 1)
    (scalar : x.isValidChar) (last : post = []) (spare : List Nat) :
    (row.withCells (pre ++ [Cell.bare x]) spare).Overfull := by
  subst last
  have width := holds.width
  have valid := holds.valid
  simp only [cellsWidth_append, cellsWidth_cons, cellsWidth_nil] at width
  simp only [List.forall_mem_append, List.forall_mem_cons] at valid
  refine ⟨pre ++ [Cell.bare x], spare, rfl, ?_, ?_⟩
  · simp only [List.forall_mem_append, List.forall_mem_cons]
    exact ⟨valid.1, Cell.bare_valid scalar (by omega), by simp⟩
  · simp only [cellsWidth_append, cellsWidth_cons, cellsWidth_nil, Cell.bare_width]
    show _ = row.mColumns + 1
    omega

def SlowOutcome (row : TerminalRow) (cells : List Cell) (x column fuel : Nat) (style : Style) : Prop :=
  match setCells x cells column with
  | some cells' => ∃ spare, ∀ rules : RowRules, rules.Exact → rules.Slow row x →
      (setCharFuel rules (fuel + 2) column x style).run row =
        .ok () ((row.restyled (setStyles x cells column style row.mStyle)).withCells cells' spare)
  | none => ∃ row', (∀ rules : RowRules, rules.Exact → rules.Slow row x →
      (setCharFuel rules (fuel + 2) column x style).run row =
        .error (.illegalArgument "Cannot put wide character in last column") row') ∧ row'.Overfull

section

variable (length : (cellsText (pre ++ cell :: post)).length ≤ 32764) (scalar : x.isValidChar) (fuel : Nat)
  (style : Style) {offset : Nat} (inside : offset < cell.width)
include length scalar inside

omit length scalar in
theorem run_firstColumn (holds : row.Holds (pre ++ cell :: post)) (first : offset = 0)
    (positive : 0 < WcWidth.width x) (slow : rules.Slow row x) :
    (setCharFuel rules (fuel + 1) (cellsWidth pre : Nat) x style).run row =
      (storeClearingNext rules fuel (cellsWidth pre : Nat) x style).run
        (row.restyled (row.mStyle.set (cellsWidth pre) style)) := by
  subst first
  have extra := extraColumn_split holds.valid 0 inside
  have width := holds.width
  simp only [cellsWidth_append, cellsWidth_cons] at width
  rw [Nat.add_zero] at extra
  rw [run_setCharFuel_slow holds (by omega) slow, if_neg (by omega), extra]
  rfl

omit scalar in
theorem run_secondHalf (holds : row.Holds (pre ++ cell :: post)) (second : offset = 1)
    (positive : 0 < WcWidth.width x) :
    ∃ row', row'.Holds ((pre ++ [Cell.blank]) ++ Cell.blank :: post) ∧ (∃ spare, row' = (row.restyled
        ((row.mStyle.set (cellsWidth pre + 1) style).set (cellsWidth pre) style)).withCells
          ((pre ++ [Cell.blank]) ++ Cell.blank :: post) spare) ∧
      ∀ rules : RowRules, rules.Exact → rules.Slow row x →
        (setCharFuel rules (fuel + 2) (cellsWidth pre + 1 : Nat) x style).run row =
          (storeClearingNext rules (fuel + 1) (cellsWidth (pre ++ [Cell.blank]) : Nat) x style).run row' := by
  subst second
  have extra := extraColumn_split holds.valid 1 inside
  have width := holds.width
  have valid := holds.valid
  simp only [List.forall_mem_append, List.forall_mem_cons] at valid
  have wide : cell.width = 2 := by
    have := valid.2.1.width_cases
    omega
  have holds' := holds.restyled (row.mStyle.set (cellsWidth pre + 1) style) List.length_set
  obtain ⟨spare, cut⟩ := run_cut holds' (by omega) wide rfl fuel style
  have holds'' := holds'.restyled ((row.mStyle.set (cellsWidth pre + 1) style).set (cellsWidth pre) style)
    (by simp [restyled])
  refine ⟨_, holds''.replace ((pre ++ [Cell.blank]) ++ Cell.blank :: post) spare ?_ (by simp [wide]; omega) rfl,
    ⟨spare, rfl⟩, fun rules exact' slow => ?_⟩
  · simp only [List.forall_mem_append, List.forall_mem_cons]
    exact ⟨⟨valid.1, Cell.blank_valid, by simp⟩, Cell.blank_valid, valid.2.2⟩
  · simp only [cellsWidth_append, cellsWidth_cons] at width
    have before : ((cellsWidth pre + 1 : Nat) : Int) - 1 = (cellsWidth pre : Nat) := by omega
    rw [run_setCharFuel_slow holds (by omega) slow, if_neg (by omega), extra]
    simp only [decide_true, if_true, EStateM.run_bind, before, cut rules exact']
    simp [restyled, withCells]

theorem slowOutcome_mark (holds : row.Holds (pre ++ cell :: post)) (room : row.RoomFor (charCount x)) (zero : WcWidth.width x = 0) :
    SlowOutcome row (pre ++ cell :: post) x (cellsWidth pre + offset) fuel style := by
  have extra := extraColumn_split holds.valid offset inside
  have width := holds.width
  simp only [cellsWidth_append, cellsWidth_cons] at width
  have two := (holds.valid cell (by simp)).width_cases
  have column : cellsWidth pre + offset < row.mColumns := by omega
  have target : (if decide (offset = 1) then ((cellsWidth pre + offset : Nat) : Int) - 1
      else ((cellsWidth pre + offset : Nat) : Int)) = (cellsWidth pre : Nat) := by
    by_cases second : offset = 1
    · simp [second]
    · simp [show offset = 0 by omega]
  have holds' := holds.restyled (row.mStyle.set (cellsWidth pre + offset) style) List.length_set
  unfold SlowOutcome
  simp only [setCells_split, setCells, inside, if_true, zero, Option.map_some, setStyles_zero zero]
  by_cases full : maxCombiningCharactersPerColumn ≤ cell.marks.length
  · obtain ⟨spare, stored⟩ := holds'.stored
    refine ⟨spare, fun rules exact' slow => ?_⟩
    rw [run_setCharFuel_slow holds column slow, if_pos (by omega), extra, target, run_storeFull holds' zero full]
    simp only [Cell.addMark, full, if_true]
    rw [← stored]
  · obtain ⟨spare, stored⟩ := run_storeMark holds' (by omega) room scalar zero (by omega)
    refine ⟨spare, fun rules exact' slow => ?_⟩
    rw [run_setCharFuel_slow holds column slow, if_pos (by omega), extra, target, stored rules exact']
    simp only [Cell.addMark, full, if_false]

theorem slowOutcome_narrow (holds : row.Holds (pre ++ cell :: post)) (one : WcWidth.width x = 1) :
    SlowOutcome row (pre ++ cell :: post) x (cellsWidth pre + offset) fuel style := by
  have extra := extraColumn_split holds.valid offset inside
  have width := holds.width
  simp only [cellsWidth_append, cellsWidth_cons] at width
  have two := (holds.valid cell (by simp)).width_cases
  have column : cellsWidth pre + offset < row.mColumns := by omega
  have holds' := holds.restyled (row.mStyle.set (cellsWidth pre + offset) style) List.length_set
  unfold SlowOutcome
  simp only [setCells_split, setCells, inside, if_true, one, show ¬ (1 : Nat) = 0 by decide, if_false,
    setStyles_one one, extra]
  by_cases same : cell.width = 1
  · have first : offset = 0 := by omega
    subst first
    simp only [Nat.add_zero] at holds' ⊢
    obtain ⟨spare, stored⟩ := run_storeSame holds' (by omega) scalar (by omega) (by omega)
    simp only [same, if_true, Option.map_some]
    refine ⟨spare, fun rules exact' slow => ?_⟩
    rw [run_firstColumn _ _ inside holds rfl (by omega) slow, storeClearingNext_skip holds' (by omega),
      stored rules exact']
    rfl
  · by_cases first : offset = 0
    · subst first
      simp only [Nat.add_zero] at holds' ⊢
      obtain ⟨spare, stored⟩ := run_storeOverWide holds' (by omega) scalar one (by omega)
      simp only [same, if_true, if_false, Option.map_some]
      refine ⟨spare, fun rules exact' slow => ?_⟩
      rw [run_firstColumn _ _ inside holds rfl (by omega) slow, storeClearingNext_skip holds' (by omega),
        stored rules exact']
      rfl
    · have second : offset = 1 := by omega
      subst second
      obtain ⟨row', halves, ⟨spare, rfl⟩, ran⟩ :=
        run_secondHalf length fuel style inside holds rfl (show 0 < WcWidth.width x by omega)
      have cutLength := cellsText_cut_length pre post cell
      rw [← List.singleton_append, ← List.append_assoc] at cutLength
      obtain ⟨spare', stored⟩ := run_storeSame halves (by omega) scalar (by omega) (by simp [one])
      simp only [same, if_false, if_true, decide_true, Nat.add_sub_cancel]
      refine ⟨spare', fun rules exact' slow => ?_⟩
      rw [ran rules exact' slow, storeClearingNext_skip halves (by omega), stored rules exact']
      simp [withCells]

theorem slowOutcome_wide (holds : row.Holds (pre ++ cell :: post)) (two : WcWidth.width x = 2) :
    SlowOutcome row (pre ++ cell :: post) x (cellsWidth pre + offset) fuel style := by
  have extra := extraColumn_split holds.valid offset inside
  have width := holds.width
  have valid := holds.valid
  simp only [List.forall_mem_append, List.forall_mem_cons] at valid
  simp only [cellsWidth_append, cellsWidth_cons] at width
  have cases := (holds.valid cell (by simp)).width_cases
  have column : cellsWidth pre + offset < row.mColumns := by omega
  have holds' := holds.restyled (row.mStyle.set (cellsWidth pre + offset) style) List.length_set
  unfold SlowOutcome
  simp only [setCells_split, setCells, inside, if_true, two, show ¬ (2 : Nat) = 0 by decide,
    show ¬ (2 : Nat) = 1 by decide, if_false, setStyles_two two, extra]
  by_cases narrow : cell.width = 1
  · have first : offset = 0 := by omega
    subst first
    simp only [Nat.add_zero] at holds' ⊢
    have placed := run_placeWide holds' (by omega) scalar two narrow rfl fuel style
    have ran : ∀ rules : RowRules, rules.Slow row x → _ :=
      fun rules slow => run_firstColumn (fuel + 1) style inside holds rfl (by omega) slow
    simp only [narrow, if_true]
    cases found : placeWide x post with
    | none =>
      rw [found] at placed
      obtain ⟨spare, thrown⟩ := placed
      refine ⟨_, fun rules exact' slow => by rw [ran rules slow, thrown rules exact'], ?_⟩
      exact holds'.overfull two narrow scalar (placeWide_eq_none.mp found) spare
    | some cells =>
      rw [found] at placed
      obtain ⟨spare, stored⟩ := placed
      refine ⟨spare, fun rules exact' slow => ?_⟩
      rw [ran rules slow, stored rules exact']
      simp [restyled]
  · by_cases first : offset = 0
    · subst first
      simp only [Nat.add_zero] at holds' ⊢
      obtain ⟨spare, stored⟩ := run_storeSame holds' (by omega) scalar (by omega) (by omega)
      have notNext := startsWide_inside valid.1 post 1 (by omega) (show 1 < cell.width by omega)
      simp only [narrow, if_true, if_false, Option.map_some, notNext]
      refine ⟨spare, fun rules exact' slow => ?_⟩
      rw [run_firstColumn _ _ inside holds rfl (by omega) slow, storeClearingNext_skip holds' (fun _ => notNext),
        stored rules exact']
      rfl
    · have second : offset = 1 := by omega
      subst second
      obtain ⟨row', halves, ⟨spare, rfl⟩, ran⟩ :=
        run_secondHalf length fuel style inside holds rfl (show 0 < WcWidth.width x by omega)
      have cutLength := cellsText_cut_length pre post cell
      rw [← List.singleton_append, ← List.append_assoc] at cutLength
      have placed := run_placeWide halves (by omega) scalar two (by simp) rfl fuel style
      have blankValid : ∀ c ∈ pre ++ [Cell.blank], c.Valid := by
        simp only [List.forall_mem_append, List.forall_mem_cons]
        exact ⟨valid.1, Cell.blank_valid, by simp⟩
      have sameNext : startsWide ((pre ++ [Cell.blank]) ++ Cell.blank :: post)
          (cellsWidth (pre ++ [Cell.blank]) + 1) = startsWide (pre ++ cell :: post) (cellsWidth pre + 1 + 1) := by
        rw [startsWide_append blankValid, Nat.add_assoc, startsWide_append valid.1]
        simp only [startsWide, Cell.blank_width]
        simp [show cell.width = 2 by omega]
      simp only [narrow, if_false, decide_true, if_true, Nat.add_sub_cancel]
      cases found : placeWide x post with
      | none =>
        rw [found] at placed
        obtain ⟨spare', thrown⟩ := placed
        refine ⟨_, fun rules exact' slow => by rw [ran rules exact' slow, thrown rules exact'], ?_⟩
        exact halves.overfull two (by simp) scalar (placeWide_eq_none.mp found) spare'
      | some cells =>
        rw [found, sameNext] at placed
        obtain ⟨spare', stored⟩ := placed
        refine ⟨spare', fun rules exact' slow => ?_⟩
        rw [ran rules exact' slow, stored rules exact']
        simp [restyled, withCells]

end

end TerminalRow
