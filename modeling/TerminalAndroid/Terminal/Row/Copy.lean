import TerminalAndroid.Terminal.Row.Shape
import TerminalAndroid.Terminal.Row.Update

open Java Utf16 Exec

namespace TerminalRow

structure Good (row : TerminalRow) : Prop where
  stored : ∃ cells, row.Holds cells
  lower : 2 ≤ row.mColumns
  upper : row.mColumns ≤ 1023
  capacity : row.mColumns ≤ row.mText.length

variable {row : TerminalRow} {cells : List Cell}

theorem Good.update {row' : TerminalRow} (good : row.Good) (holds : row'.Holds cells)
    (shape : SameShape row row') : row'.Good where
  stored := ⟨cells, holds⟩
  lower := shape.columns ▸ good.lower
  upper := shape.columns ▸ good.upper
  capacity := shape.columns ▸ Nat.le_trans good.capacity shape.capacity

def Sound {α : Type} (fast : Bool) (m : RowRules → RowM α) : Prop :=
  ∀ row, row.Good → ∃ result, (∀ rules : RowRules, rules.Exact → rules.fastPath = fast →
    (m rules).run row = result) ∧ ∀ a row', result = .ok a row' → row'.Good ∧ row'.mColumns = row.mColumns

namespace Sound

variable {α β : Type} {fast : Bool}

theorem pure (a : α) : Sound fast fun _ => (Pure.pure a : RowM α) := by
  refine fun row good => ⟨.ok a row, fun _ _ _ => rfl, fun b row' same => ?_⟩
  cases same
  exact ⟨good, rfl⟩

theorem throw (e : Throwable) : Sound fast fun _ => (MonadExcept.throw e : RowM α) :=
  fun row _ => ⟨.error e row, fun _ _ _ => rfl, fun _ _ same => by cases same⟩

theorem bind {m : RowRules → RowM α} {f : RowRules → α → RowM β} (first : Sound fast m)
    (rest : ∀ a, Sound fast fun rules => f rules a) : Sound fast fun rules => m rules >>= f rules := by
  intro row good
  obtain ⟨result, same, kept⟩ := first row good
  cases result with
  | error e row' =>
    refine ⟨.error e row', fun rules exact' path => ?_, fun _ _ same => by cases same⟩
    rw [EStateM.run_bind, same rules exact' path]
  | ok a row' =>
    obtain ⟨good', columns⟩ := kept a row' rfl
    obtain ⟨result', same', kept'⟩ := rest a row' good'
    refine ⟨result', fun rules exact' path => ?_, fun b row'' returned => ?_⟩
    · rw [EStateM.run_bind, same rules exact' path]
      exact same' rules exact' path
    · obtain ⟨good'', columns'⟩ := kept' b row'' returned
      exact ⟨good'', columns'.trans columns⟩

theorem get : Sound fast fun _ => (MonadState.get : RowM TerminalRow) := by
  refine fun row good => ⟨.ok row row, fun _ _ _ => rfl, fun b row' same => ?_⟩
  cases same
  exact ⟨good, rfl⟩

theorem readArray (array : List α) (index : Int) : Sound fast fun _ => (Java.readArray array index : RowM α) := by
  unfold Java.readArray
  split
  · split
    · exact Sound.pure _
    · exact Sound.throw _
  · exact Sound.throw _

end Sound

theorem run_setChar_outside {columnToSet : Int}
    (outside : columnToSet < 0 ∨ (row.mStyle.length : Int) ≤ columnToSet) (rules : RowRules) (x : Nat) (style : Style) :
    (setChar rules columnToSet x style).run row =
      .error (.illegalArgument ("TerminalRow.setChar(): columnToSet=" ++ toString columnToSet ++
        ", codePoint=" ++ toString x ++ ", style=" ++ toString style.toInt)) row := by
  simp only [setChar, setCharFuel, EStateM.run_bind, EStateM.run_get, outside, if_true, EStateM.run_throw]

theorem setChar_sound (fast : Bool) (columnToSet : Int) {x : Nat} (scalar : x.isValidChar) (style : Style) :
    Sound fast fun rules => setChar rules columnToSet x style := by
  intro row good
  obtain ⟨cells, holds⟩ := good.stored
  by_cases outside : columnToSet < 0 ∨ (row.mColumns : Int) ≤ columnToSet
  · rw [← holds.styles] at outside
    exact ⟨_, fun rules _ _ => run_setChar_outside outside rules x style, fun _ _ same => by cases same⟩
  · obtain ⟨column, rfl⟩ := Int.eq_ofNat_of_zero_le (a := columnToSet) (by omega)
    have outcome := holds.run_setChar (Nat.le_trans (holds.length_le good.upper) (by decide))
      (fun _ => holds.roomFor good.lower x) scalar (show column < row.mColumns by omega) fast style
    cases found : setCells x cells column with
    | none =>
      rw [found] at outcome
      obtain ⟨row', thrown, -⟩ := outcome
      exact ⟨_, thrown, fun _ _ same => by cases same⟩
    | some cells' =>
      rw [found] at outcome
      obtain ⟨row', ran, updated⟩ := outcome
      refine ⟨.ok () row', ran, fun _ row'' same => ?_⟩
      cases same
      refine ⟨good.update updated.holds ?_, updated.columns⟩
      have frame := setChar_frame ⟨id, fast⟩ column x style row
      rw [ran ⟨id, fast⟩ (fun _ _ _ => rfl) rfl] at frame
      exact frame

def copyStep (rules : RowRules) (line : TerminalRow) (same : Bool) (codePoint : Nat) (sourceX1 destinationX : Int)
    (latestNonCombiningWidth : Nat) (rest : Int → Int → Nat → RowM Unit) : RowM Unit := do
  let w := WcWidth.width codePoint
  let step : Nat := if 0 < w then latestNonCombiningWidth else 0
  let row ← get
  let style ← getStyle (if same then row else line) (sourceX1 + step)
  setChar rules (destinationX + step) codePoint style
  rest (sourceX1 + step) (destinationX + step) (if 0 < w then w else latestNonCombiningWidth)

theorem copyLoop_toChars (rules : RowRules) (line : TerminalRow) (same : Bool) {x2 : Int} {x : Nat}
    (scalar : x.isValidChar) (text : List Nat) {i : Nat} (more : (i : Int) < x2) (second : Bool)
    (sourceX1 destinationX : Int) (width : Nat) :
    copyLoop rules line same x2 (toChars x ++ text) i second sourceX1 destinationX width =
      copyStep rules line same (if second then space else x) sourceX1 destinationX width
        (copyLoop rules line same x2 text (i + charCount x) false) := by
  by_cases supplementary : 0x10000 ≤ x
  · rw [toChars_supplementary supplementary]
    simp only [List.cons_append, List.nil_append, copyLoop, more, if_true,
      isHighSurrogate_highSurrogate scalar supplementary, toCodePoint_surrogates scalar supplementary,
      charCount, supplementary]
    rfl
  · have bmp : x < 0x10000 := by omega
    rw [toChars_bmp bmp, List.singleton_append]
    have high := isHighSurrogate_bmp scalar bmp
    cases text <;>
      simp only [copyLoop, more, if_true, high, Bool.false_eq_true, if_false, charCount, supplementary] <;> rfl

theorem copyLoop_done (rules : RowRules) (line : TerminalRow) (same : Bool) {x2 : Int} (text : List Nat) {i : Nat}
    (done : x2 ≤ i) (second : Bool) (sourceX1 destinationX : Int) (width : Nat) :
    copyLoop rules line same x2 text i second sourceX1 destinationX width = pure () := by
  have stop : ¬ (i : Int) < x2 := by omega
  rcases text with _ | ⟨c, _ | ⟨d, text⟩⟩ <;> simp only [copyLoop, stop, if_false]

theorem copyLoop_sound (fast : Bool) (line : TerminalRow) (same : Bool) (points : List Nat)
    (scalars : ∀ x ∈ points, x.isValidChar) (spare : List Nat) (i : Nat) (second : Bool)
    (sourceX1 destinationX : Int) (width : Nat) :
    Sound fast fun rules => copyLoop rules line same ((i + (points.flatMap toChars).length : Nat) : Int)
      (points.flatMap toChars ++ spare) i second sourceX1 destinationX width := by
  induction points generalizing i second sourceX1 destinationX width with
  | nil =>
    simp only [copyLoop_done _ _ _ _ (show ((i + (List.flatMap toChars []).length : Nat) : Int) ≤ i by simp)]
    exact Sound.pure ()
  | cons x points ih =>
    simp only [List.forall_mem_cons] at scalars
    have count := charCount_pos x
    simp only [List.flatMap_cons, List.append_assoc, List.length_append, toChars_length, ← Nat.add_assoc]
    have more : (i : Int) < ((i + charCount x + (points.flatMap toChars).length : Nat) : Int) := by omega
    have scalar : (if second then space else x).isValidChar := by
      split
      · decide
      · exact scalars.1
    simp only [copyLoop_toChars _ _ _ scalars.1 _ more, copyStep]
    refine Sound.bind Sound.get fun row => Sound.bind (Sound.readArray _ _) fun style => ?_
    exact Sound.bind (setChar_sound fast _ scalar style) fun _ => ih scalars.2 _ _ _ _ _

theorem Holds.findStart (holds : row.Holds cells) {column : Nat}
    (inside : column ≤ row.mColumns) :
    ∃ pre post, cells = pre ++ post ∧ row.findStartOfColumn column = .ok ((cellsText pre).length : Int) := by
  by_cases last : column = row.mColumns
  · refine ⟨cells, [], by simp, ?_⟩
    rw [← holds.used, findStartOfColumn, if_pos (by omega)]
  · obtain ⟨pre, cell, post, offset, rfl, rfl, within⟩ := split_at_column
      (show column < cellsWidth cells by rw [holds.width]; omega)
    exact ⟨pre, cell :: post, rfl, holds.findStart_inside offset within⟩

theorem copyInterval_sound (fast : Bool) {line : TerminalRow} (holds : line.Holds cells)
    (same : Bool) {sourceX1 sourceX2 : Int} (range1 : 0 ≤ sourceX1 ∧ sourceX1 ≤ line.mColumns)
    (range2 : 0 ≤ sourceX2 ∧ sourceX2 ≤ line.mColumns) (destinationX : Int) :
    Sound fast fun rules => copyInterval rules line same sourceX1 sourceX2 destinationX := by
  obtain ⟨column1, rfl⟩ := Int.eq_ofNat_of_zero_le range1.1
  obtain ⟨column2, rfl⟩ := Int.eq_ofNat_of_zero_le range2.1
  obtain ⟨pre1, post1, split1, start1⟩ := holds.findStart (show column1 ≤ line.mColumns by omega)
  obtain ⟨pre2, post2, split2, start2⟩ := holds.findStart (show column2 ≤ line.mColumns by omega)
  obtain ⟨spare, text⟩ := holds.text
  have flagged : Sound fast fun _ => (modify fun row => { row with
      mHasNonOneWidthOrSurrogateChars :=
        row.mHasNonOneWidthOrSurrogateChars || line.mHasNonOneWidthOrSurrogateChars } : RowM Unit) := by
    refine fun row good => ⟨_, fun _ _ _ => rfl, fun _ row' returned => ?_⟩
    cases returned
    obtain ⟨cells, holds⟩ := good.stored
    suffices kept : TerminalRow.Holds _ cells from ⟨good.update kept ⟨rfl, Nat.le_refl _, rfl, rfl⟩, rfl⟩
    by_cases flag : line.mHasNonOneWidthOrSurrogateChars = true
    · simpa [flag, TerminalRow.restyled] using holds.restyled row.mStyle rfl
    · simpa [flag] using holds
  unfold copyInterval
  simp only [start1, start2, holds.extra]
  refine Sound.bind flagged fun _ => ?_
  show Sound fast fun rules => copyLoop rules line same ((cellsText pre2).length : Int)
    (line.mText.drop (cellsText pre1).length) (cellsText pre1).length (extraColumn cells column1) column1 destinationX 0
  rcases List.append_eq_append_iff.mp (split1.symm.trans split2) with ⟨middle, rfl, rfl⟩ | ⟨middle, rfl, rfl⟩
  · have chars : cellsText middle = (middle.flatMap Cell.codePoints).flatMap toChars := by
      simp only [cellsText, List.flatMap_assoc]
      rfl
    have rest : line.mText.drop (cellsText pre1).length = cellsText middle ++ (cellsText post2 ++ spare) := by
      rw [text, split1]
      simp
    rw [rest, cellsText_append, List.length_append, chars]
    refine copyLoop_sound fast line same _ (fun x member => ?_) _ _ _ _ _ _
    obtain ⟨cell, inside, point⟩ := List.mem_flatMap.mp member
    exact (holds.valid cell (by simp [split2, inside])).scalars x point
  · simp only [copyLoop_done _ _ _ _ (show ((cellsText pre2).length : Int) ≤ (cellsText (pre2 ++ middle)).length by
      simp)]
    exact Sound.pure ()

theorem cleared_holds (row : TerminalRow) {rules : RowRules} (exact' : rules.Exact) (upper : row.mColumns ≤ 1023)
    (capacity : row.mColumns ≤ row.mText.length) (styles : row.mStyle.length = row.mColumns) (style : Style) :
    (row.cleared rules style).Holds (List.replicate row.mColumns Cell.blank) := by
  have plain : ∀ c ∈ List.replicate row.mColumns Cell.blank, c.Plain := by
    intro c member
    rw [List.eq_of_mem_replicate member]
    exact ⟨rfl, by decide, Cell.blank_width⟩
  refine ⟨⟨List.replicate (row.mText.length - row.mColumns) space, ?_⟩, ?_, ?_, ?_, fun _ => plain⟩
  · have counted := exact' row.mColumns (by omega) (by omega)
    have text : List.replicate row.mText.length space =
        List.replicate row.mColumns space ++ List.replicate (row.mText.length - row.mColumns) space := by
      rw [← List.replicate_add, Nat.add_sub_cancel' capacity]
    simp only [cleared, withCells, cellsText_plain plain, List.map_replicate, List.length_replicate, counted, text]
    rfl
  · intro c member
    rw [List.eq_of_mem_replicate member]
    exact Cell.blank_valid
  · rw [cellsWidth_plain plain, List.length_replicate]
    rfl
  · simp [cleared, styles]

end TerminalRow
