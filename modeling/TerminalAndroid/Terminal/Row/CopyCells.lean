import TerminalAndroid.Terminal.Row.Columns

open Java Utf16 Exec

namespace Cell

def withMarks (cell : Cell) (marks : List Nat) : Cell :=
  ⟨cell.base, (cell.marks ++ marks).take TerminalRow.maxCombiningCharactersPerColumn⟩

theorem withMarks_nil {cell : Cell} (bound : cell.marks.length ≤ TerminalRow.maxCombiningCharactersPerColumn) :
    cell.withMarks [] = cell := by
  rw [withMarks, List.append_nil, List.take_of_length_le bound]

theorem addMark_withMarks {cell : Cell} (bound : cell.marks.length ≤ TerminalRow.maxCombiningCharactersPerColumn)
    (x : Nat) (marks : List Nat) : (cell.addMark x).withMarks marks = cell.withMarks (x :: marks) := by
  unfold addMark withMarks
  split
  next full =>
    have length : cell.marks.length = TerminalRow.maxCombiningCharactersPerColumn := Nat.le_antisymm bound full
    rw [List.take_append_of_le_length length.ge, List.take_append_of_le_length length.ge]
  · rw [List.append_assoc, List.singleton_append]

@[simp] theorem withMarks_width (cell : Cell) (marks : List Nat) : (cell.withMarks marks).width = cell.width := rfl

theorem Valid.withMarks {cell : Cell} (valid : cell.Valid) {marks : List Nat} (scalars : ∀ x ∈ marks, x.isValidChar)
    (zero : ∀ x ∈ marks, WcWidth.width x = 0) : (cell.withMarks marks).Valid := by
  refine ⟨?_, valid.base, ?_, by simp [Cell.withMarks]⟩
  · intro x member
    rcases List.mem_cons.mp member with rfl | member
    · exact valid.base_scalar
    · rcases List.mem_append.mp (List.mem_of_mem_take member) with own | new
      · exact valid.mark_scalars x own
      · exact scalars x new
  · intro x member
    rcases List.mem_append.mp (List.mem_of_mem_take member) with own | new
    · exact valid.marks x own
    · exact zero x new

end Cell

def overlay (cell : Cell) (target : List Cell) (column : Nat) : List Cell :=
  leftOf target column ++
    Cell.withMarks ⟨cell.base, keptMarks cell.base target column⟩ cell.marks :: rightOf target (column + cell.width)

def adorned : List Cell → List Cell → Nat → List Cell
  | [], _, _ => []
  | cell :: source, target, column =>
    Cell.withMarks ⟨cell.base, keptMarks cell.base target column⟩ cell.marks ::
      adorned source target (column + cell.width)

def copiedCells (source target : List Cell) (column : Nat) : List Cell :=
  if source = [] then target
  else leftOf target column ++ adorned source target column ++ rightOf target (column + cellsWidth source)

section

variable {source target : List Cell} {cell : Cell} {column : Nat} (valid : ∀ c ∈ target, c.Valid)
include valid

theorem overlay_head_valid (head : cell.Valid) :
    (Cell.withMarks ⟨cell.base, keptMarks cell.base target column⟩ cell.marks).Valid := by
  refine Cell.Valid.withMarks ?_ head.mark_scalars head.marks
  unfold keptMarks
  split
  · split
    next next found =>
      split
      · exact (valid next (mem_of_cellAt ((cellFrom_eq_some valid).mp found))).rebase head.base_scalar head.base
      · exact Cell.bare_valid head.base_scalar head.base
    · exact Cell.bare_valid head.base_scalar head.base
  · exact Cell.bare_valid head.base_scalar head.base

section

variable (head : cell.Valid) (room : column + cell.width ≤ cellsWidth target)
include head room

theorem overlay_split : ∃ pre, overlay cell target column = pre ++ rightOf target (column + cell.width) ∧
    cellsWidth pre = column + cell.width ∧ (∀ c ∈ pre, c.Valid) ∧ pre ≠ [] ∧
    pre = leftOf target column ++ [Cell.withMarks ⟨cell.base, keptMarks cell.base target column⟩ cell.marks] := by
  refine ⟨_, ?_, ?_, ?_, ?_, rfl⟩
  · rw [overlay, List.append_assoc, List.singleton_append]
  · rw [cellsWidth_append, cellsWidth_leftOf valid (by omega), cellsWidth_cons, cellsWidth_nil]
    rfl
  · rw [List.forall_mem_append, List.forall_mem_singleton]
    exact ⟨leftOf_valid valid, overlay_head_valid valid head⟩
  · simp

theorem startsWide_overlay (more : Nat) :
    startsWide (overlay cell target column) (column + cell.width + (more + 1)) =
      startsWide target (column + cell.width + (more + 1)) := by
  obtain ⟨pre, split, width, whole, -⟩ := overlay_split valid head room
  rw [split, ← width, startsWide_append whole, width, startsWide_rightOf valid]

theorem extraColumn_overlay : extraColumn (overlay cell target column) (column + cell.width) = false := by
  obtain ⟨pre, split, width, whole, nonempty, -⟩ := overlay_split valid head room
  rw [split, ← width, extraColumn, startsWide_before whole nonempty, Bool.and_false]

theorem keptMarks_overlay (x more : Nat) :
    keptMarks x (overlay cell target column) (column + cell.width + more) =
      keptMarks x target (column + cell.width + more) := by
  obtain ⟨pre, split, width, whole, -⟩ := overlay_split valid head room
  rw [split, ← width, keptMarks_append whole, width, ← keptMarks_rightOf (rightOf_valid valid), rightOf_rightOf valid,
    keptMarks_rightOf valid]

theorem adorned_overlay (more : Nat) :
    adorned source (overlay cell target column) (column + cell.width + more) =
      adorned source target (column + cell.width + more) := by
  induction source generalizing more with
  | nil => rfl
  | cons next source ih =>
    rw [adorned, adorned, keptMarks_overlay valid head room, Nat.add_assoc _ more, ih]

theorem copiedCells_overlay :
    copiedCells source (overlay cell target column) (column + cell.width) =
      copiedCells (cell :: source) target column := by
  obtain ⟨pre, split, width, whole, -, rfl⟩ := overlay_split valid head room
  have adorn := @adorned_overlay source target cell column valid head room 0
  rw [Nat.add_zero] at adorn
  rw [copiedCells, copiedCells, if_neg (List.cons_ne_nil _ _), adorned, cellsWidth_cons, ← Nat.add_assoc]
  by_cases last : source = []
  · rw [if_pos last, last, split, adorned, cellsWidth_nil, Nat.add_zero]
  · rw [if_neg last, adorn, split]
    have left := leftOf_append whole (rightOf target (column + cell.width)) 0
    have right := rightOf_append whole (rightOf target (column + cell.width)) (cellsWidth source)
    rw [Nat.add_zero, leftOf_zero, List.append_nil, width] at left
    rw [width, rightOf_rightOf valid] at right
    rw [left, right]
    simp only [List.append_assoc, List.cons_append, List.nil_append]

end

end

def Touches (target : List Cell) (column k : Nat) (cell : Cell) (c : Nat) : Prop :=
  c = column + k ∨ (k = 0 ∧ c + 1 = column ∧ extraColumn target column = true) ∨
    (cell.width = 2 ∧ c = column + k + 1 ∧ startsWide target c = true)

instance (target : List Cell) (column k : Nat) (cell : Cell) (c : Nat) : Decidable (Touches target column k cell c) :=
  inferInstanceAs (Decidable (_ ∨ _))

theorem getElem?_ite_set {α : Type} {p : Prop} [Decidable p] {l : List α} {i : Nat} (inside : p → i < l.length) (a : α)
    (c : Nat) : (if p then l.set i a else l)[c]? = if p ∧ i = c then some a else l[c]? := by
  by_cases holds : p
  · by_cases here : i = c
    · rw [if_pos holds, if_pos ⟨holds, here⟩, ← here, List.getElem?_set_self (inside holds)]
    · rw [if_pos holds, if_neg fun both => here both.2, List.getElem?_set_ne here]
  · rw [if_neg holds, if_neg fun both => holds both.1]

theorem setStyles_getElem? {x : Nat} (positive : 0 < WcWidth.width x) (target : List Cell) {column : Nat} (style : Style)
    {styles : List Style} (inside : column + WcWidth.width x ≤ styles.length) (marks : List Nat) (c : Nat) :
    (setStyles x target column style styles)[c]? =
      if Touches target column 0 ⟨x, marks⟩ c then some style else styles[c]? := by
  have width : (⟨x, marks⟩ : Cell).width = WcWidth.width x := rfl
  have before : extraColumn target column = true → 0 < column := by
    intro extra
    rw [extraColumn, Bool.and_eq_true, decide_eq_true_eq] at extra
    exact extra.1
  have length : (if extraColumn target column = true then (styles.set column style).set (column - 1) style
      else styles.set column style).length = styles.length := by
    split <;> simp only [List.length_set]
  have set : (styles.set column style)[c]? = if column = c then some style else styles[c]? := by
    have := getElem?_ite_set (p := True) (l := styles) (i := column) (fun _ => by omega) style c
    simpa only [if_true, true_and] using this
  unfold setStyles
  rw [if_neg (show ¬ WcWidth.width x = 0 by omega), getElem?_ite_set fun wide => by rw [length]; omega,
    getElem?_ite_set fun extra => by rw [List.length_set]; omega, set]
  unfold Touches
  simp only [width]
  split_ifs <;> grind

def readStyles (same : Bool) (line styles : List Style) : List Style := if same then styles else line

def copiedStyles (same : Bool) (line : List Style) : List Cell → List Cell → Nat → Nat → List Style → List Style
  | [], _, _, _, styles => styles
  | cell :: source, target, s, column, styles =>
    copiedStyles same line source (overlay cell target column) (s + cell.width) (column + cell.width)
      (setStyles cell.base target column ((readStyles same line styles)[s]?.getD 0) styles)

/-- The styles after a copy. A cell has the style its source column had before unless an earlier cell of the copy
    touched that column; then it has the style of that cell. -/
structure StylesCopied (same : Bool) (line : List Style) (source target : List Cell) (s column : Nat)
    (styles styles' : List Style) : Prop where
  frame : ∀ c, (∀ k cell, cellFrom source k = some cell → ¬ Touches target column k cell c) → styles'[c]? = styles[c]?
  fresh : ∀ k cell, cellFrom source k = some cell →
    (same = true → ∀ j other, j < k → cellFrom source j = some other → ¬ Touches target column j other (s + k)) →
    styles'[column + k]? = (readStyles same line styles)[s + k]?
  smeared : same = true → ∀ j k other cell, j < k → cellFrom source j = some other → cellFrom source k = some cell →
    Touches target column j other (s + k) → styles'[column + k]? = styles'[column + j]?

theorem cellFrom_cons {cell found : Cell} {source : List Cell} (positive : 0 < cell.width) {k : Nat} :
    cellFrom (cell :: source) k = some found ↔
      (k = 0 ∧ found = cell) ∨ ∃ j, k = cell.width + j ∧ cellFrom source j = some found := by
  rw [cellFrom]
  by_cases zero : k = 0
  · rw [if_pos zero]
    constructor
    · intro same
      cases same
      exact .inl ⟨zero, rfl⟩
    · rintro (⟨-, rfl⟩ | ⟨j, rfl, -⟩)
      · rfl
      · omega
  · rw [if_neg zero]
    by_cases inside : k < cell.width
    · rw [if_pos inside]
      constructor
      · intro same
        cases same
      · rintro (⟨first, -⟩ | ⟨j, rfl, -⟩) <;> omega
    · rw [if_neg inside]
      constructor
      · intro same
        exact .inr ⟨k - cell.width, by omega, same⟩
      · rintro (⟨first, -⟩ | ⟨j, rfl, rest⟩)
        · omega
        · rw [Nat.add_sub_cancel_left, rest]

theorem StylesCopied.nil (same : Bool) (line : List Style) (target : List Cell) (s column : Nat) (styles : List Style) :
    StylesCopied same line [] target s column styles styles :=
  ⟨fun _ _ => rfl, nofun, fun _ _ _ _ _ _ found => by cases found⟩

theorem Touches.range {target : List Cell} {column k c : Nat} {cell : Cell} (positive : 0 < cell.width)
    (touches : Touches target column k cell c) :
    (column + k ≤ c ∧ c < column + k + cell.width) ∨ (k = 0 ∧ c + 1 = column) := by
  rcases touches with rfl | ⟨first, left, -⟩ | ⟨wide, rfl, -⟩
  · exact .inl ⟨Nat.le_refl _, by omega⟩
  · exact .inr ⟨first, left⟩
  · exact .inl ⟨by omega, by omega⟩

section

variable {target : List Cell} {cell : Cell} {column : Nat} (valid : ∀ c ∈ target, c.Valid) (head : cell.Valid)
  (room : column + cell.width ≤ cellsWidth target)
include valid head room

theorem touches_overlay (k : Nat) (other : Cell) (c : Nat) :
    Touches (overlay cell target column) (column + cell.width) k other c ↔
      Touches target column (cell.width + k) other c := by
  have positive := head.base
  have next := startsWide_overlay valid head room k
  unfold Touches
  rw [extraColumn_overlay valid head room]
  constructor
  · rintro (rfl | ⟨-, -, extra⟩ | ⟨wide, rfl, starts⟩)
    · exact .inl (by omega)
    · cases extra
    · rw [Nat.add_assoc _ k, next] at starts
      exact .inr (.inr ⟨wide, by omega, starts⟩)
  · rintro (rfl | ⟨first, -, -⟩ | ⟨wide, rfl, starts⟩)
    · exact .inl (by omega)
    · omega
    · refine .inr (.inr ⟨wide, by omega, ?_⟩)
      rw [show column + (cell.width + k) + 1 = column + cell.width + (k + 1) by omega] at starts ⊢
      rw [next]
      exact starts

theorem StylesCopied.cons {same : Bool} {line : List Style} {source : List Cell} {s : Nat} {style : Style}
    {styles styles' : List Style} (sources : ∀ c ∈ source, c.Valid) (length : cellsWidth target ≤ styles.length)
    (read : (readStyles same line styles)[s]? = some style)
    (rest : StylesCopied same line source (overlay cell target column) (s + cell.width) (column + cell.width)
      (setStyles cell.base target column style styles) styles') :
    StylesCopied same line (cell :: source) target s column styles styles' := by
  have positive := head.base
  have put : ∀ c, (setStyles cell.base target column style styles)[c]? =
      if Touches target column 0 cell c then some style else styles[c]? :=
    setStyles_getElem? positive target style (show column + cell.width ≤ _ by omega) cell.marks
  have behind : ∀ k other c, Touches (overlay cell target column) (column + cell.width) k other c →
      0 < other.width → column + cell.width ≤ c := by
    intro k other c touches wide
    rcases ((touches_overlay valid head room k other c).mp touches).range wide with ⟨least, -⟩ | ⟨zero, -⟩
    · omega
    · omega
  have width : ∀ k other, cellFrom source k = some other → 0 < other.width := fun k other found =>
    (sources other (mem_of_cellAt ((cellFrom_eq_some sources).mp found))).base
  have first : styles'[column]? = some style := by
    rw [rest.frame column fun k other found touches => ?_, put, if_pos (.inl rfl)]
    have := behind k other column touches (width k other found)
    omega
  have later : ∀ k found, cellFrom source k = some found →
      (same = true → ∀ j other, j < k → cellFrom source j = some other →
        ¬ Touches target column (cell.width + j) other (s + (cell.width + k))) →
      styles'[column + (cell.width + k)]? =
        (readStyles same line (setStyles cell.base target column style styles))[s + (cell.width + k)]? := by
    intro k found inside untouched
    rw [← Nat.add_assoc, ← Nat.add_assoc]
    refine rest.fresh k found inside fun own j other before present => ?_
    rw [touches_overlay valid head room, Nat.add_assoc]
    exact untouched own j other before present
  refine ⟨?_, ?_, ?_⟩
  · intro c untouched
    rw [rest.frame c fun k other found => ?_, put, if_neg (untouched 0 cell ((cellFrom_cons positive).mpr (.inl ⟨rfl, rfl⟩)))]
    rw [touches_overlay valid head room]
    exact untouched _ other ((cellFrom_cons positive).mpr (.inr ⟨k, rfl, found⟩))
  · intro k found inside untouched
    rcases (cellFrom_cons positive).mp inside with ⟨rfl, rfl⟩ | ⟨j, rfl, present⟩
    · rw [Nat.add_zero, Nat.add_zero, first, read]
    · rw [later j found present fun own i other before there => untouched own _ other (by omega)
        ((cellFrom_cons positive).mpr (.inr ⟨i, rfl, there⟩))]
      cases same with
      | false => rfl
      | true =>
        have start := untouched rfl 0 cell (by omega) ((cellFrom_cons positive).mpr (.inl ⟨rfl, rfl⟩))
        simp only [readStyles, if_true, put, if_neg start]
  · intro own j k other found before inside inside' touches
    rcases (cellFrom_cons positive).mp inside' with ⟨rfl, -⟩ | ⟨k, rfl, present'⟩
    · omega
    rcases (cellFrom_cons positive).mp inside with ⟨rfl, rfl⟩ | ⟨j, rfl, present⟩
    · rw [later k found present' fun _ i third _ there overlaps => ?_, Nat.add_zero, first]
      · simp only [readStyles, own, if_true, put, if_pos touches]
      · rcases touches.range positive with near | near <;>
          rcases overlaps.range (width i third there) with far | far <;> omega
    · have smear := rest.smeared own j k other found (by omega) present present'
      rw [touches_overlay valid head room, Nat.add_assoc, Nat.add_assoc, Nat.add_assoc] at smear
      exact smear touches

end

def fitting : List Cell → Nat → List Cell
  | [], _ => []
  | cell :: post, column => if cell.width ≤ column then cell :: fitting post (column - cell.width) else []

def remnant : List Cell → Nat → List Cell
  | [], _ => []
  | cell :: post, column =>
    if column = 0 then cell :: post
    else if column < cell.width then ⟨TerminalRow.space, cell.marks⟩ :: post
    else remnant post (column - cell.width)

def sourceCells (cells : List Cell) (sx w : Nat) : List Cell := fitting (remnant cells sx) w

theorem fitting_append (pre post : List Cell) (column : Nat) :
    fitting (pre ++ post) (cellsWidth pre + column) = pre ++ fitting post column := by
  induction pre with
  | nil => simp
  | cons cell pre ih =>
    rw [List.cons_append, cellsWidth_cons, fitting, if_pos (by omega), Nat.add_assoc, Nat.add_sub_cancel_left, ih,
      List.cons_append]

theorem exists_fitting (cells : List Cell) (column : Nat) : ∃ post, cells = fitting cells column ++ post := by
  induction cells generalizing column with
  | nil => exact ⟨[], rfl⟩
  | cons cell cells ih =>
    rw [fitting]
    split
    · obtain ⟨post, split⟩ := ih (column - cell.width)
      exact ⟨post, by rw [List.cons_append, ← split]⟩
    · exact ⟨_, rfl⟩

theorem cellsWidth_fitting {cells : List Cell} (valid : ∀ c ∈ cells, c.Valid) (column : Nat)
    (inside : column ≤ cellsWidth cells) :
    cellsWidth (fitting cells column) + (if extraColumn cells column = true then 1 else 0) = column := by
  rcases Nat.lt_or_eq_of_le inside with inside | rfl
  · obtain ⟨pre, cell, post, offset, rfl, rfl, within⟩ := split_at_column inside
    have two := (valid cell (by simp)).width_cases
    rw [fitting_append, fitting, if_neg (by omega), List.append_nil, extraColumn_split valid offset within]
    simp only [decide_eq_true_eq]
    split <;> omega
  · have whole := fitting_append cells [] 0
    rw [List.append_nil, Nat.add_zero, fitting, List.append_nil] at whole
    have none : extraColumn cells (cellsWidth cells) ≠ true := by
      rw [ne_eq, extraColumn_iff valid, cellAt_past (Nat.le_refl _)]
      simp
    rw [whole, if_neg none, Nat.add_zero]

theorem remnant_append {pre : List Cell} (valid : ∀ c ∈ pre, c.Valid) (post : List Cell) (column : Nat) :
    remnant (pre ++ post) (cellsWidth pre + column) = remnant post column := by
  induction pre with
  | nil => simp
  | cons cell pre ih =>
    rw [List.forall_mem_cons] at valid
    have positive := valid.1.base
    rw [List.cons_append, cellsWidth_cons, remnant, if_neg (by omega), if_neg (by omega), Nat.add_assoc,
      Nat.add_sub_cancel_left, ih valid.2]

theorem Cell.Valid.emptied {cell : Cell} (valid : cell.Valid) : (⟨TerminalRow.space, cell.marks⟩ : Cell).Valid :=
  valid.rebase (by decide) (by decide)

theorem fitting_valid {cells : List Cell} (valid : ∀ c ∈ cells, c.Valid) (column : Nat) :
    ∀ c ∈ fitting cells column, c.Valid := by
  obtain ⟨post, split⟩ := exists_fitting cells column
  rw [split, List.forall_mem_append] at valid
  exact valid.1

theorem remnant_valid {cells : List Cell} (valid : ∀ c ∈ cells, c.Valid) (column : Nat) :
    ∀ c ∈ remnant cells column, c.Valid := by
  induction cells generalizing column with
  | nil => exact nofun
  | cons cell cells ih =>
    rw [remnant]
    split
    · exact valid
    · rw [List.forall_mem_cons] at valid
      split
      · exact List.forall_mem_cons.mpr ⟨valid.1.emptied, valid.2⟩
      · exact ih valid.2 _

theorem sourceCells_valid {cells : List Cell} (valid : ∀ c ∈ cells, c.Valid) (sx w : Nat) :
    ∀ c ∈ sourceCells cells sx w, c.Valid :=
  fitting_valid (remnant_valid valid sx) w
