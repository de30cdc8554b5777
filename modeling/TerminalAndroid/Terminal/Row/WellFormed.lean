import TerminalAndroid.Terminal.Row.Copy

open Java Utf16 Exec

theorem Cell.Valid.width_codePoints {cell : Cell} (valid : cell.Valid) :
    (cell.codePoints.map WcWidth.width).sum = cell.width := by
  have marks : (cell.marks.map WcWidth.width).sum = 0 := by
    rw [List.sum_eq_zero]
    intro w member
    obtain ⟨x, inside, rfl⟩ := List.mem_map.mp member
    exact valid.marks x inside
  simp [codePoints, marks, width]

def cellsPoints (cells : List Cell) : List Nat := cells.flatMap Cell.codePoints

theorem cellsText_eq_points (cells : List Cell) : cellsText cells = (cellsPoints cells).flatMap toChars := by
  simp only [cellsText, cellsPoints, List.flatMap_assoc]
  rfl

theorem cellsPoints_scalars {cells : List Cell} (valid : ∀ c ∈ cells, c.Valid) :
    ∀ x ∈ cellsPoints cells, x.isValidChar := by
  intro x member
  obtain ⟨cell, inside, point⟩ := List.mem_flatMap.mp member
  exact (valid cell inside).scalars x point

theorem cellsPoints_width {cells : List Cell} (valid : ∀ c ∈ cells, c.Valid) :
    ((cellsPoints cells).map WcWidth.width).sum = cellsWidth cells := by
  induction cells with
  | nil => rfl
  | cons cell cells ih =>
    simp only [List.forall_mem_cons] at valid
    simp only [cellsPoints] at ih
    simp [cellsPoints, ih valid.2, valid.1.width_codePoints]

theorem cellsPoints_run {cells : List Cell} (valid : ∀ c ∈ cells, c.Valid) {before : List Nat} {base : Nat}
    {run after : List Nat} (split : cellsPoints cells = before ++ base :: (run ++ after))
    (positive : 0 < WcWidth.width base) (zero : ∀ x ∈ run, WcWidth.width x = 0) :
    run.length ≤ TerminalRow.maxCombiningCharactersPerColumn := by
  induction cells generalizing before with
  | nil => simp [cellsPoints] at split
  | cons cell cells ih =>
    simp only [List.forall_mem_cons] at valid
    have points : cellsPoints (cell :: cells) = cell.base :: (cell.marks ++ cellsPoints cells) := by
      simp [cellsPoints, Cell.codePoints]
    rw [points] at split
    cases before with
    | nil =>
      simp only [List.nil_append, List.cons.injEq] at split
      rcases List.append_eq_append_iff.mp split.2 with ⟨rest, same, next⟩ | ⟨rest, same, -⟩
      · cases rest with
        | nil => simpa [same] using valid.1.bound
        | cons x rest =>
          cases cells with
          | nil => simp [cellsPoints] at next
          | cons other cells =>
            have head : x = other.base := by
              simp only [cellsPoints, List.flatMap_cons, Cell.codePoints, List.cons_append, List.cons.injEq] at next
              exact next.1.symm
            have none := zero x (by simp [same])
            rw [head] at none
            exact absurd none (Nat.ne_of_gt (valid.2 other (by simp)).base)
      · have bound := valid.1.bound
        simp only [same, List.length_append] at bound
        omega
    | cons first before =>
      simp only [List.cons_append, List.cons.injEq] at split
      rcases List.append_eq_append_iff.mp split.2 with ⟨rest, same, next⟩ | ⟨rest, same, next⟩
      · exact ih valid.2 next
      · cases rest with
        | nil =>
          have tail : cellsPoints cells = [] ++ base :: (run ++ after) := next.symm
          exact ih valid.2 tail
        | cons x rest =>
          simp only [List.cons_append, List.cons.injEq] at next
          have none := valid.1.marks x (by simp [same])
          rw [← next.1] at none
          omega

def groupCells : List Nat → List Nat × List Cell
  | [] => ([], [])
  | x :: points =>
    let (marks, cells) := groupCells points
    if WcWidth.width x = 0 then (x :: marks, cells) else ([], ⟨x, marks⟩ :: cells)

theorem groupCells_spec (points : List Nat) : points = (groupCells points).1 ++ cellsPoints (groupCells points).2 ∧
    (∀ x ∈ (groupCells points).1, WcWidth.width x = 0) ∧
    ∀ c ∈ (groupCells points).2, 0 < c.width ∧ ∀ x ∈ c.marks, WcWidth.width x = 0 := by
  induction points with
  | nil => exact ⟨rfl, by simp [groupCells], by simp [groupCells]⟩
  | cons x points ih =>
    obtain ⟨split, zero, grouped⟩ := ih
    rw [groupCells]
    by_cases none : WcWidth.width x = 0
    · simp only [none, if_true]
      exact ⟨congrArg (x :: ·) split, List.forall_mem_cons.mpr ⟨none, zero⟩, grouped⟩
    · simp only [none, if_false]
      refine ⟨?_, by simp, List.forall_mem_cons.mpr ⟨⟨Nat.pos_of_ne_zero none, zero⟩, grouped⟩⟩
      conv_lhs => rw [split]
      simp [cellsPoints, Cell.codePoints]

theorem groupCells_marks {marks : List Nat} (zero : ∀ x ∈ marks, WcWidth.width x = 0) (points : List Nat) :
    groupCells (marks ++ points) = (marks ++ (groupCells points).1, (groupCells points).2) := by
  induction marks with
  | nil => rfl
  | cons x marks ih =>
    rw [List.forall_mem_cons] at zero
    rw [List.cons_append, groupCells, ih zero.2]
    simp only [zero.1, if_true, List.cons_append]

theorem groupCells_cellsPoints {cells : List Cell} (valid : ∀ c ∈ cells, c.Valid) :
    groupCells (cellsPoints cells) = ([], cells) := by
  induction cells with
  | nil => rfl
  | cons cell cells ih =>
    rw [List.forall_mem_cons] at valid
    have points : cellsPoints (cell :: cells) = cell.base :: (cell.marks ++ cellsPoints cells) := by
      simp [cellsPoints, Cell.codePoints]
    rw [points, groupCells, groupCells_marks valid.1.marks, ih valid.2, List.append_nil]
    simp only [show WcWidth.width cell.base ≠ 0 from Nat.ne_of_gt valid.1.base, if_false]

namespace TerminalRow

def usedText (row : TerminalRow) : List Nat := row.mText.take row.mSpaceUsed.toNat

def cells (row : TerminalRow) : List Cell := (groupCells (decode row.usedText)).2

/-- What the comments of the class and its tests promise of a row. -/
structure WellFormed (row : TerminalRow) : Prop where
  spaceUsed_nonneg : 0 ≤ row.mSpaceUsed
  spaceUsed_le : row.mSpaceUsed ≤ row.mText.length
  capacity : row.mColumns ≤ row.mText.length
  paired : Paired row.usedText
  first : ∃ x rest, decode row.usedText = x :: rest ∧ 0 < WcWidth.width x
  widths : ((decode row.usedText).map WcWidth.width).sum = row.mColumns
  combining : ∀ before base run after, decode row.usedText = before ++ base :: (run ++ after) →
    0 < WcWidth.width base → (∀ x ∈ run, WcWidth.width x = 0) → run.length ≤ maxCombiningCharactersPerColumn
  narrow : row.mHasNonOneWidthOrSurrogateChars = false →
    (∀ c ∈ row.usedText, isHighSurrogate c = false ∧ isLowSurrogate c = false ∧ WcWidth.width c = 1) ∧
      row.mSpaceUsed = row.mColumns
  styles : row.mStyle.length = row.mColumns

variable {row : TerminalRow} {cells : List Cell}

theorem Holds.usedText (holds : row.Holds cells) : row.usedText = (cellsPoints cells).flatMap toChars := by
  obtain ⟨spare, text⟩ := holds.text
  rw [TerminalRow.usedText, holds.used, text, Int.toNat_natCast, List.take_left, cellsText_eq_points]

theorem Holds.cells_eq (holds : row.Holds cells) : row.cells = cells := by
  rw [TerminalRow.cells, holds.usedText, decode_flatMap (cellsPoints_scalars holds.valid),
    groupCells_cellsPoints holds.valid]

theorem Holds.wellFormed (holds : row.Holds cells) (positive : 0 < row.mColumns)
    (capacity : row.mColumns ≤ row.mText.length) : row.WellFormed := by
  have scalars := cellsPoints_scalars holds.valid
  have decoded : decode row.usedText = cellsPoints cells := by
    rw [holds.usedText, decode_flatMap scalars]
  obtain ⟨spare, text⟩ := holds.text
  have width := holds.width
  refine ⟨?_, ?_, capacity, ?_, ?_, ?_, ?_, ?_, holds.styles⟩
  · rw [holds.used]
    omega
  · rw [holds.used, text, List.length_append]
    omega
  · rw [holds.usedText]
    exact paired_flatMap scalars
  · cases cells with
    | nil =>
      rw [cellsWidth_nil] at width
      omega
    | cons cell cells =>
      exact ⟨cell.base, cell.marks ++ cellsPoints cells, by rw [decoded]; simp [cellsPoints, Cell.codePoints],
        (holds.valid cell (by simp)).base⟩
  · rw [decoded, cellsPoints_width holds.valid, width]
  · intro before base run after split
    exact cellsPoints_run holds.valid (decoded.symm.trans split)
  · intro flag
    have plain : ∀ c ∈ cells, c.Plain := holds.narrow flag
    refine ⟨fun c member => ?_, ?_⟩
    · rw [holds.usedText, ← cellsText_eq_points, cellsText_plain plain] at member
      obtain ⟨cell, inside, rfl⟩ := List.mem_map.mp member
      have scalar := (holds.valid cell inside).base_scalar
      obtain ⟨-, bmp, one⟩ := plain cell inside
      exact ⟨isHighSurrogate_bmp scalar bmp, isLowSurrogate_bmp scalar bmp, one⟩
    · rw [holds.used, cellsText_plain plain, List.length_map, ← width, cellsWidth_plain plain]

theorem WellFormed.holds (formed : row.WellFormed) : ∃ cells, row.Holds cells := by
  obtain ⟨scalars, encoded⟩ := paired_encoded formed.paired
  obtain ⟨points, zero, grouped⟩ := groupCells_spec (decode row.usedText)
  generalize (groupCells (decode row.usedText)).1 = marks at points zero
  generalize (groupCells (decode row.usedText)).2 = cells at points grouped
  obtain ⟨x, rest, first, positive⟩ := formed.first
  have noMarks : marks = [] := by
    cases marks with
    | nil => rfl
    | cons y marks =>
      rw [first] at points
      simp only [List.cons_append, List.cons.injEq] at points
      have none := zero y (by simp)
      rw [← points.1] at none
      omega
  subst noMarks
  rw [List.nil_append] at points
  have valid : ∀ c ∈ cells, c.Valid := by
    intro c member
    obtain ⟨pre, post, rfl⟩ := List.append_of_mem member
    refine ⟨fun x point => ?_, (grouped c member).1, (grouped c member).2, ?_⟩
    · exact scalars x (by rw [points]; exact List.mem_flatMap.mpr ⟨c, member, point⟩)
    · exact formed.combining (cellsPoints pre) c.base c.marks (cellsPoints post)
        (by rw [points]; simp [cellsPoints, Cell.codePoints]) (grouped c member).1 (grouped c member).2
  have used : row.usedText = cellsText cells := by
    rw [cellsText_eq_points, ← points, encoded]
  have lower := formed.spaceUsed_nonneg
  have upper := formed.spaceUsed_le
  have length : row.mSpaceUsed = ((cellsText cells).length : Int) := by
    rw [← used, usedText, List.length_take]
    omega
  refine ⟨cells, ⟨row.mText.drop row.mSpaceUsed.toNat, ?_⟩, valid, ?_, formed.styles, ?_⟩
  · have text : row.mText = cellsText cells ++ row.mText.drop row.mSpaceUsed.toNat := by
      rw [← used, usedText, List.take_append_drop]
    simp only [withCells, ← text, ← length]
  · rw [← cellsPoints_width valid, ← points, formed.widths]
  · intro flag c member
    have single : ∀ x ∈ c.codePoints, x < 0x10000 ∧ WcWidth.width x = 1 := by
      intro x point
      have inside : ∀ char ∈ toChars x, char ∈ row.usedText := by
        intro char charIn
        rw [used, cellsText]
        exact List.mem_flatMap.mpr ⟨c, member, List.mem_flatMap.mpr ⟨x, point, charIn⟩⟩
      have scalar := (valid c member).scalars x point
      by_cases supplementary : 0x10000 ≤ x
      · have high := inside (highSurrogate x) (by simp [toChars_supplementary supplementary])
        have not := ((formed.narrow flag).1 _ high).1
        rw [isHighSurrogate_highSurrogate scalar supplementary] at not
        cases not
      · have here := inside x (by simp [toChars_bmp (show x < 0x10000 by omega)])
        exact ⟨by omega, ((formed.narrow flag).1 x here).2.2⟩
    have base := single c.base (by simp [Cell.codePoints])
    refine ⟨List.eq_nil_iff_forall_not_mem.mpr fun x mark => ?_, base.1, base.2⟩
    have one := (single x (List.mem_cons_of_mem _ mark)).2
    have none := (valid c member).marks x mark
    omega

theorem le_spareCapacity {columns : Nat} (upper : columns ≤ 32768) : columns ≤ spareCapacity columns := by
  rw [spareCapacity, roundFloat_small (show columns < 0x1000000 by omega), roundFloat_small (by omega)]
  omega

theorem create_holds {columns : Nat} (upper : columns ≤ 1023) (style : Style) :
    (create columns style).Holds (List.replicate columns Cell.blank) :=
  cleared_holds {
      mColumns := columns
      mText := List.replicate (spareCapacity columns) 0
      mSpaceUsed := 0
      mLineWrap := false
      mStyle := List.replicate columns 0
      mHasNonOneWidthOrSurrogateChars := false } RowRules.java_exact upper
    (by simpa using le_spareCapacity (show columns ≤ 32768 by omega)) (by simp) style

theorem create_good {columns : Nat} (lower : 2 ≤ columns) (upper : columns ≤ 1023) (style : Style) :
    (create columns style).Good := by
  refine ⟨⟨_, create_holds upper style⟩, lower, upper, ?_⟩
  simpa only [create, cleared, List.length_replicate] using le_spareCapacity (show columns ≤ 32768 by omega)

theorem good_iff : row.Good ↔ row.WellFormed ∧ 2 ≤ row.mColumns ∧ row.mColumns ≤ 1023 := by
  constructor
  · intro good
    obtain ⟨cells, holds⟩ := good.stored
    have lower := good.lower
    exact ⟨holds.wellFormed (by omega) good.capacity, lower, good.upper⟩
  · intro ⟨formed, lower, upper⟩
    exact ⟨formed.holds, lower, upper, formed.capacity⟩

end TerminalRow

/-- The operations of the class on one row. A copy takes its characters from another row or,
    with `none`, from the row itself. -/
inductive RowOp
  | clear (style : Style)
  | setChar (columnToSet : Int) (codePoint : Nat) (style : Style)
  | copyInterval (line : Option TerminalRow) (sourceX1 sourceX2 destinationX : Int)

namespace RowOp

def run (rules : RowRules) : RowOp → RowM Unit
  | clear style => modify (TerminalRow.cleared rules style)
  | setChar columnToSet codePoint style => TerminalRow.setChar rules columnToSet codePoint style
  | copyInterval line sourceX1 sourceX2 destinationX => do
    let row ← get
    TerminalRow.copyInterval rules (line.getD row) line.isNone sourceX1 sourceX2 destinationX

/-- Scalar values, and intervals that lie inside the source row, which is well formed itself, and
    inside this row of the given width. -/
def Allowed (columns : Nat) : RowOp → Prop
  | clear _ => True
  | setChar _ codePoint _ => codePoint.isValidChar
  | copyInterval line sourceX1 sourceX2 destinationX =>
    (∀ row ∈ line, row.WellFormed) ∧ 0 ≤ sourceX1 ∧ sourceX1 ≤ sourceX2 ∧
      sourceX2 ≤ (line.map TerminalRow.mColumns).getD columns ∧
      0 ≤ destinationX ∧ destinationX + (sourceX2 - sourceX1) ≤ columns

def runAll (rules : RowRules) : List RowOp → RowM Unit
  | [] => pure ()
  | op :: ops => do
    op.run rules
    runAll rules ops

theorem run_sound (op : RowOp) {row : TerminalRow} (good : row.Good) (allowed : op.Allowed row.mColumns) :
    ∃ result, (∀ rules : RowRules, rules.Exact → rules.fastPath = true → (op.run rules).run row = result) ∧
      ∀ a row', result = .ok a row' → row'.Good ∧ row'.mColumns = row.mColumns := by
  cases op with
  | clear style =>
    obtain ⟨cells, holds⟩ := good.stored
    have cleared := TerminalRow.cleared_holds row RowRules.java_exact good.upper good.capacity holds.styles style
    refine ⟨.ok () (row.cleared .java style), fun rules exact' _ => ?_, fun _ row' returned => ?_⟩
    · have upper := good.upper
      have same : rules.short row.mColumns = RowRules.java.short row.mColumns := by
        rw [exact' _ (by omega) (by omega), RowRules.java_exact _ (by omega) (by omega)]
      simp only [run, EStateM.run_modify, TerminalRow.cleared, same]
    · cases returned
      exact ⟨good.update cleared (TerminalRow.cleared_shape _ _ _), rfl⟩
  | setChar columnToSet codePoint style =>
    exact TerminalRow.setChar_sound true columnToSet allowed style row good
  | copyInterval line sourceX1 sourceX2 destinationX =>
    obtain ⟨formed, lower, ordered, upper, -, -⟩ := allowed
    obtain ⟨cells, holds⟩ : ∃ cells, (line.getD row).Holds cells := by
      cases line with
      | none => exact good.stored
      | some other => exact (formed other rfl).holds
    have width : (line.map TerminalRow.mColumns).getD row.mColumns = (line.getD row).mColumns := by
      cases line <;> rfl
    rw [width] at upper
    exact TerminalRow.copyInterval_sound true holds line.isNone ⟨lower, by omega⟩ ⟨by omega, upper⟩ destinationX row good

theorem runAll_sound (ops : List RowOp) {row : TerminalRow} (good : row.Good)
    (allowed : ∀ op ∈ ops, op.Allowed row.mColumns) :
    ∃ result, (∀ rules : RowRules, rules.Exact → rules.fastPath = true → (runAll rules ops).run row = result) ∧
      ∀ a row', result = .ok a row' → row'.Good ∧ row'.mColumns = row.mColumns := by
  induction ops generalizing row with
  | nil =>
    refine ⟨.ok () row, fun _ _ _ => rfl, fun _ row' returned => ?_⟩
    cases returned
    exact ⟨good, rfl⟩
  | cons op ops ih =>
    simp only [List.forall_mem_cons] at allowed
    obtain ⟨result, same, kept⟩ := run_sound op good allowed.1
    simp only [runAll, EStateM.run_bind]
    cases result with
    | error e row' =>
      exact ⟨.error e row', fun rules exact' path => by rw [same rules exact' path], fun _ _ returned => by cases returned⟩
    | ok a row' =>
      obtain ⟨good', columns⟩ := kept a row' rfl
      obtain ⟨result', same', kept'⟩ := ih good' (columns ▸ allowed.2)
      refine ⟨result', fun rules exact' path => ?_, fun b row'' returned => ?_⟩
      · rw [same rules exact' path]
        exact same' rules exact' path
      · obtain ⟨good'', columns'⟩ := kept' b row'' returned
        exact ⟨good'', columns'.trans columns⟩

end RowOp

/-- Every row of 2 to 1023 columns stays well formed through any run of the operations that
    throws nothing, and the run is the one of a row whose counter is not a `short`. -/
theorem row_stays_wellFormed (columns : Nat) (lower : 2 ≤ columns) (upper : columns ≤ 1023) (style : Style)
    (ops : List RowOp) (allowed : ∀ op ∈ ops, op.Allowed columns) (row : TerminalRow)
    (start : row = TerminalRow.create columns style ∨ row.WellFormed ∧ row.mColumns = columns) (row' : TerminalRow)
    (ran : (RowOp.runAll .java ops).run row = .ok () row') :
    row'.WellFormed ∧ row'.mColumns = columns ∧ row'.mSpaceUsed ≤ 32767 ∧
      (RowOp.runAll ⟨id, true⟩ ops).run row = .ok () row' := by
  have good : row.Good ∧ row.mColumns = columns := by
    rcases start with rfl | ⟨formed, width⟩
    · exact ⟨TerminalRow.create_good lower upper style, rfl⟩
    · exact ⟨TerminalRow.good_iff.mpr ⟨formed, by omega, by omega⟩, width⟩
  obtain ⟨good, rfl⟩ := good
  obtain ⟨result, same, kept⟩ := RowOp.runAll_sound ops good allowed
  have java := same .java RowRules.java_exact rfl
  rw [ran] at java
  obtain ⟨good', width⟩ := kept () row' java.symm
  obtain ⟨cells, holds⟩ := good'.stored
  refine ⟨(TerminalRow.good_iff.mp good').1, width, ?_, ?_⟩
  · have length := holds.length_le good'.upper
    rw [holds.used]
    omega
  · rw [same ⟨id, true⟩ (fun _ _ _ => rfl) rfl, java]

theorem row_stays_wellFormed_wide :
    (⟨3, [0x6797, 0x301, 0x20, 0x20], 3, false, [7, 7, 7], true⟩ : TerminalRow).WellFormed :=
  (row_stays_wellFormed 3 (by decide) (by decide) 0
    [.setChar 1 0x6797 7, .setChar 2 0x301 7, .copyInterval none 1 3 0] (by simp [RowOp.Allowed, Nat.isValidChar])
    (TerminalRow.create 3 0) (.inl rfl) _ (by decide +kernel)).1
