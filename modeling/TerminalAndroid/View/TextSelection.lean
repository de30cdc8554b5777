import TerminalAndroid.Exec.Returns
import TerminalAndroid.Terminal.Buffer.Selection

open Java Utf16 Exec TerminalBuffer

namespace TextSelection

structure Selection where
  mSelX1 : Int
  mSelY1 : Int
  mSelX2 : Int
  mSelY2 : Int
  deriving DecidableEq, Repr

def expandLeft (row : Int) : Nat → BufferM Int
  | 0 => pure 0
  | x + 1 => do
    let text ← getSelectedText x row x row true false
    if text ≠ [] then expandLeft row x else pure (x + 1 : Nat)

def expandRight (row : Int) : Nat → Int → BufferM Int
  | 0, x => pure x
  | count + 1, x => do
    let text ← getSelectedText (x + 1) row (x + 1) row true false
    if text ≠ [] then expandRight row count (x + 1) else pure x

def setInitialTextSelectionPosition (columns column row : Int) : BufferM Selection := do
  let text ← getSelectedText column row column row true false
  if text ≠ [TerminalRow.space] then
    let x1 ← expandLeft row column.toNat
    let x2 ← expandRight row (columns - 1 - column).toNat column
    pure ⟨x1, row, x2, row⟩
  else pure ⟨column, row, column, row⟩

section Press

variable {b : TerminalBuffer} {y : Int} {row : TerminalRow} {cells : List Cell}

structure Narrow (b : TerminalBuffer) (y : Int) (row : TerminalRow) (cells : List Cell) : Prop where
  ring : b.Ring
  lower : -b.mActiveTranscriptRows ≤ y
  upper : y < b.mScreenRows
  shown : b.shown y = some row
  holds : row.Holds cells
  narrow : ∀ cell ∈ cells, cell.width = 1

def Blank (cells : List Cell) (x : Nat) : Prop := cells[x]? = some Cell.blank

instance (cells : List Cell) (x : Nat) : Decidable (Blank cells x) := inferInstanceAs (Decidable (_ = _))

def Counts (row : TerminalRow) (cells : List Cell) (x : Nat) : Prop :=
  ¬ Blank cells x ∨ (row.mLineWrap = true ∧ x + 1 = cells.length)

theorem cellsWidth_of_narrow {cells : List Cell} (narrow : ∀ cell ∈ cells, cell.width = 1) :
    cellsWidth cells = cells.length := by
  induction cells with
  | nil => rfl
  | cons cell cells ih =>
    rw [List.forall_mem_cons] at narrow
    rw [cellsWidth_cons, narrow.1, ih narrow.2, List.length_cons, Nat.add_comm]

theorem Narrow.length (narrow : Narrow b y row cells) : (cells.length : Int) = b.mColumns := by
  have width := narrow.holds.width
  have same := narrow.ring.shown_width narrow.shown
  rw [cellsWidth_of_narrow narrow.narrow] at width
  omega

theorem Narrow.run_cell (narrow : Narrow b y row cells) {x : Nat} (inside : x < cells.length) :
    ∃ text, (getSelectedText x y x y true false).run b = .ok text b ∧ (text ≠ [] ↔ Counts row cells x) ∧
      (text = [TerminalRow.space] ↔ Blank cells x ∧ row.mLineWrap = true ∧ x + 1 = cells.length) := by
  have columns := narrow.length
  have same := narrow.ring.shown_width narrow.shown
  have split : cells.take x ++ [cells[x]] ++ cells.drop (x + 1) = cells := by
    rw [List.append_assoc, List.singleton_append, List.cons_getElem_drop_succ, List.take_append_drop]
  have before : cellsWidth (cells.take x) = x := by
    rw [cellsWidth_of_narrow fun cell member => narrow.narrow cell (List.mem_of_mem_take member), List.length_take]
    omega
  have after : cellsWidth (cells.take x ++ [cells[x]]) = x + 1 := by
    rw [cellsWidth_append, before, cellsWidth_cons, cellsWidth_nil, narrow.narrow _ (List.getElem_mem inside)]
  have holds := narrow.holds
  rw [← split] at holds
  have selected := holds.selectedText_cells (List.cons_ne_nil _ _) same
  rw [before, after] at selected
  have most : min ((x : Int) + 1) b.mColumns = ((x + 1 : Nat) : Int) := by omega
  have valid := narrow.holds.valid _ (List.getElem_mem inside)
  have blank : Blank cells x ↔ cells[x] = .blank := by
    rw [Blank, List.getElem?_eq_getElem inside, Option.some.injEq]
  have kept : row.keptText b.mColumns [cells[x]] (x + 1 : Nat) =
      if cells[x] = .blank then (if row.mLineWrap = true ∧ x + 1 = cells.length then [TerminalRow.space] else [])
      else cells[x].chars := by
    have last : ((x + 1 : Nat) : Int) = b.mColumns ↔ x + 1 = cells.length := by omega
    simp only [TerminalRow.keptText, last, trimSpaces_cell valid]
    by_cases here : cells[x] = .blank
    · rw [here]
      simp only [if_true]
      rfl
    · simp [here]
  have chars := List.ne_nil_of_length_pos cells[x].chars_length_pos
  have run := narrow.ring.run_getSelectedText_row narrow.lower narrow.upper narrow.shown x x true false (by
    rw [most]
    exact selected)
  rw [kept] at run
  refine ⟨_, run, ?_, ?_⟩
  · rw [Counts, blank]
    by_cases here : cells[x] = .blank
    · by_cases wrapped : row.mLineWrap = true ∧ x + 1 = cells.length <;> simp [here, wrapped]
    · simp [here, chars]
  · rw [blank]
    by_cases here : cells[x] = .blank
    · by_cases wrapped : row.mLineWrap = true ∧ x + 1 = cells.length <;> simp [here, wrapped]
    · obtain ⟨front, c, ends, printing⟩ := valid.chars_last here
      have other : cells[x].chars ≠ [TerminalRow.space] := fun same => by
        rw [ends] at same
        exact printing (List.append_eq_singleton_iff.mp same |>.elim (fun both => by simpa using both.2) fun both => by
          simp at both)
      simp [here, other]

theorem Narrow.run_expandLeft (narrow : Narrow b y row cells) {x : Nat} (inside : x < cells.length) :
    ∃ first, first ≤ x ∧ (expandLeft y x).run b = .ok (first : Nat) b ∧
      (∀ i, first ≤ i → i < x → Counts row cells i) ∧ (first = 0 ∨ ¬ Counts row cells (first - 1)) := by
  induction x with
  | zero => exact ⟨0, Nat.le_refl 0, rfl, fun i _ less => by omega, Or.inl rfl⟩
  | succ x ih =>
    obtain ⟨text, ran, counts, -⟩ := narrow.run_cell (show x < cells.length by omega)
    by_cases empty : text = []
    · refine ⟨x + 1, Nat.le_refl _, ?_, fun i least less => by omega, Or.inr ?_⟩
      · rw [expandLeft, EStateM.run_bind, ran]
        simp [empty]
      · rw [Nat.add_sub_cancel, ← counts]
        simpa using empty
    · obtain ⟨first, most, rest, between, stop⟩ := ih (by omega)
      refine ⟨first, by omega, ?_, fun i least less => ?_, stop⟩
      · rw [expandLeft, EStateM.run_bind, ran]
        simpa [empty] using rest
      · rcases Nat.lt_or_eq_of_le (Nat.lt_succ_iff.mp less) with less | rfl
        · exact between i least less
        · exact counts.mp empty

theorem Narrow.run_expandRight (narrow : Narrow b y row cells) {x count : Nat} (inside : x + 1 + count = cells.length) :
    ∃ last : Nat, x ≤ last ∧ last < cells.length ∧ (expandRight y count x).run b = .ok (last : Nat) b ∧
      (∀ i, x < i → i ≤ last → Counts row cells i) ∧ (last + 1 = cells.length ∨ ¬ Counts row cells (last + 1)) := by
  induction count generalizing x with
  | zero => exact ⟨x, Nat.le_refl x, by omega, rfl, fun i _ less => by omega, Or.inl (by omega)⟩
  | succ count ih =>
    obtain ⟨text, ran, counts, -⟩ := narrow.run_cell (show x + 1 < cells.length by omega)
    rw [Int.natCast_add, Int.natCast_one] at ran
    by_cases empty : text = []
    · refine ⟨x, Nat.le_refl _, by omega, ?_, fun i least less => by omega, Or.inr ?_⟩
      · rw [expandRight, EStateM.run_bind, ran]
        simp [empty]
      · rw [← counts]
        simpa using empty
    · obtain ⟨last, least, most, rest, between, stop⟩ := ih (show x + 1 + 1 + count = cells.length by omega)
      rw [Int.natCast_add, Int.natCast_one] at rest
      refine ⟨last, by omega, most, ?_, fun i above below => ?_, stop⟩
      · rw [expandRight, EStateM.run_bind, ran]
        simpa [empty] using rest
      · by_cases next : i = x + 1
        · exact next ▸ counts.mp empty
        · exact between i (by omega) below

/-- The selection that a press should make: the maximal run of cells that are not blank around the pressed one, or the
    pressed cell alone if it is blank. -/
structure SelectsWord (cells : List Cell) (x first last : Nat) : Prop where
  lower : first ≤ x
  upper : x ≤ last
  inside : last < cells.length
  blank : Blank cells x → first = x ∧ last = x
  word : ¬ Blank cells x → (∀ i, first ≤ i → i ≤ last → ¬ Blank cells i) ∧ (first = 0 ∨ Blank cells (first - 1)) ∧
    (last + 1 = cells.length ∨ Blank cells (last + 1))

/-- The condition under which the press selects the word: the last cell of a wrapped row is not a blank that ends the
    word, and a blank cell has no neighbour that counts. -/
structure Pressable (row : TerminalRow) (cells : List Cell) (x : Nat) : Prop where
  word : ¬ Blank cells x → row.mLineWrap = true → Blank cells (cells.length - 1) → ∃ i, x < i ∧ i + 1 < cells.length ∧ Blank cells i
  blank : Blank cells x → (row.mLineWrap = true ∧ x + 1 = cells.length) ∨
    ((x = 0 ∨ Blank cells (x - 1)) ∧ (x + 1 = cells.length ∨ (Blank cells (x + 1) ∧ ¬ (row.mLineWrap = true ∧ x + 2 = cells.length))))

theorem not_counts {x : Nat} : ¬ Counts row cells x ↔ Blank cells x ∧ ¬ (row.mLineWrap = true ∧ x + 1 = cells.length) := by
  rw [Counts, not_or, not_not]

theorem counts_iff {x : Nat} (before : x + 1 < cells.length) : Counts row cells x ↔ ¬ Blank cells x := by
  refine ⟨fun counts => counts.elim id fun last => by omega, Or.inl⟩

theorem selectsWord_iff {x first last : Nat} (lower : first ≤ x) (upper : x ≤ last) (inside : last < cells.length)
    (left : ∀ i, first ≤ i → i < x → Counts row cells i) (leftEnd : first = 0 ∨ ¬ Counts row cells (first - 1))
    (right : ∀ i, x < i → i ≤ last → Counts row cells i) (rightEnd : last + 1 = cells.length ∨ ¬ Counts row cells (last + 1))
    (expands : ¬ (Blank cells x ∧ row.mLineWrap = true ∧ x + 1 = cells.length)) :
    SelectsWord cells x first last ↔ Pressable row cells x := by
  constructor
  · intro selects
    refine ⟨fun printing wrapped blank => ?_, fun blank => Or.inr ?_⟩
    · obtain ⟨all, -, stop⟩ := selects.word printing
      have before : last + 1 ≠ cells.length := fun full => all last (by omega) (Nat.le_refl _) (by
        rwa [show last = cells.length - 1 by omega])
      obtain ⟨next, notLast⟩ := not_counts.mp (rightEnd.resolve_left before)
      have more : last + 1 + 1 ≠ cells.length := fun full => notLast ⟨wrapped, full⟩
      exact ⟨last + 1, by omega, by omega, next⟩
    · obtain ⟨rfl, rfl⟩ := selects.blank blank
      exact ⟨leftEnd.imp_right fun stop => (not_counts.mp stop).1, rightEnd.imp_right not_counts.mp⟩
  · intro pressable
    refine ⟨lower, upper, inside, fun blank => ?_, fun printing => ⟨fun i least most => ?_, ?_, ?_⟩⟩
    · obtain ⟨before, after⟩ := (pressable.blank blank).resolve_left fun both => expands ⟨blank, both⟩
      constructor
      · by_contra other
        have counts := (counts_iff (by omega)).mp (left (x - 1) (by omega) (by omega))
        exact before.elim (by omega) counts
      · by_contra other
        have counts := right (x + 1) (by omega) (by omega)
        exact after.elim (by omega) fun both => not_counts.mpr both counts
    · rcases Nat.lt_trichotomy i x with less | rfl | more
      · exact (counts_iff (by omega)).mp (left i least less)
      · exact printing
      · rcases right i more most with other | ⟨wrapped, full⟩
        · exact other
        · intro blank
          obtain ⟨j, above, below, gap⟩ := pressable.word printing wrapped (by rwa [show cells.length - 1 = i by omega])
          exact (counts_iff below).mp (right j above (by omega)) gap
    · exact leftEnd.imp_right fun stop => (not_counts.mp stop).1
    · exact rightEnd.imp_right fun stop => (not_counts.mp stop).1

/-- A press selects the word under it, or the blank under it alone, exactly when the row is `Pressable` there. -/
theorem press_selects_word_iff (b : TerminalBuffer) (y : Int) (row : TerminalRow) (cells : List Cell)
    (narrow : Narrow b y row cells) (x : Nat) (inside : x < cells.length) :
    (∃ first last : Nat, (setInitialTextSelectionPosition b.mColumns x y).run b = .ok ⟨first, y, last, y⟩ b ∧
      SelectsWord cells x first last) ↔ Pressable row cells x := by
  have columns := narrow.length
  obtain ⟨text, ran, -, space⟩ := narrow.run_cell inside
  by_cases alone : text = [TerminalRow.space]
  · have pressed := space.mp alone
    refine iff_of_true ⟨x, x, ?_, Nat.le_refl x, Nat.le_refl x, inside, fun _ => ⟨rfl, rfl⟩, fun other => (other pressed.1).elim⟩
      ⟨fun other => (other pressed.1).elim, fun _ => Or.inl pressed.2⟩
    rw [setInitialTextSelectionPosition, EStateM.run_bind, ran]
    simp [alone]
  · obtain ⟨first, lower, toLeft, left, leftEnd⟩ := narrow.run_expandLeft inside
    obtain ⟨last, upper, most, toRight, right, rightEnd⟩ := narrow.run_expandRight
      (show x + 1 + (cells.length - 1 - x) = cells.length by omega)
    have pressed : (setInitialTextSelectionPosition b.mColumns x y).run b = .ok ⟨first, y, last, y⟩ b := by
      rw [setInitialTextSelectionPosition, EStateM.run_bind, ran]
      simp only [alone, ne_eq, not_false_eq_true, if_true]
      rw [Int.toNat_natCast, run_bind_of toLeft, show (b.mColumns - 1 - (x : Int)).toNat = cells.length - 1 - x by omega,
        run_bind_of toRight, EStateM.run_pure]
    rw [pressed, ← selectsWord_iff lower upper most left leftEnd right rightEnd fun both => alone (space.mpr both)]
    constructor
    · rintro ⟨first', last', same, selects⟩
      simp only [EStateM.Result.ok.injEq, Selection.mk.injEq, Int.natCast_inj, true_and, and_true] at same
      obtain ⟨rfl, rfl⟩ := same
      exact selects
    · exact fun selects => ⟨first, last, rfl, selects⟩

def textRow (text : List Nat) (wrapped : Bool) : TerminalRow := rowOf (text.map Cell.bare) wrapped

theorem textRow_narrow {text : List Nat} (wrapped : Bool)
    (ascii : ∀ c ∈ text, c.isValidChar ∧ WcWidth.width c = 1) :
    Narrow (screenOf text.length [textRow text wrapped]) 0 (textRow text wrapped) (text.map Cell.bare) := by
  have narrow : ∀ cell ∈ text.map Cell.bare, cell.width = 1 := by
    intro cell member
    obtain ⟨c, found, rfl⟩ := List.mem_map.mp member
    exact (ascii c found).2
  have width : (textRow text wrapped).mColumns = text.length := by
    show cellsWidth (text.map Cell.bare) = text.length
    rw [cellsWidth_of_narrow narrow, List.length_map]
  refine ⟨screenOf_ring (List.cons_ne_nil _ _) (by simpa using width), ?_, ?_, ?_, ?_, narrow⟩
  · exact Int.le_refl 0
  · exact Int.zero_lt_one
  · exact canvas_shown (by simp) 0
  · refine rowOf_holds (fun cell member => ?_) wrapped
    obtain ⟨c, found, rfl⟩ := List.mem_map.mp member
    exact Cell.bare_valid (ascii c found).1 (by rw [(ascii c found).2]; decide)

theorem press_selects_word_iff_ab : ∃ first last : Nat,
    (setInitialTextSelectionPosition 5 1 0).run (screenOf 5 [textRow [97, 98, 32, 99, 100] true]) =
      .ok ⟨first, 0, last, 0⟩ (screenOf 5 [textRow [97, 98, 32, 99, 100] true]) ∧
    SelectsWord ([97, 98, 32, 99, 100].map Cell.bare) 1 first last :=
  (press_selects_word_iff (screenOf 5 [textRow [97, 98, 32, 99, 100] true]) 0 _ _
    (textRow_narrow true (by decide)) 1 (by decide)).mpr
      ⟨fun _ _ blank => absurd blank (by decide), fun blank => absurd blank (by decide)⟩

/-- A press on the blank between two words selects both, and a press on a word before a blank at the end of a wrapped
    row selects the blank as well. -/
theorem press_selects_more :
    (Narrow (screenOf 5 [textRow [97, 98, 32, 99, 100] false]) 0 (textRow [97, 98, 32, 99, 100] false)
        ([97, 98, 32, 99, 100].map Cell.bare) ∧ Blank ([97, 98, 32, 99, 100].map Cell.bare) 2 ∧
      (setInitialTextSelectionPosition 5 2 0).run (screenOf 5 [textRow [97, 98, 32, 99, 100] false]) =
        .ok ⟨0, 0, 4, 0⟩ (screenOf 5 [textRow [97, 98, 32, 99, 100] false])) ∧
    (Narrow (screenOf 3 [textRow [97, 98, 32] true]) 0 (textRow [97, 98, 32] true) ([97, 98, 32].map Cell.bare) ∧
      (setInitialTextSelectionPosition 3 0 0).run (screenOf 3 [textRow [97, 98, 32] true]) =
        .ok ⟨0, 0, 2, 0⟩ (screenOf 3 [textRow [97, 98, 32] true])) :=
  ⟨⟨textRow_narrow false (by decide), by decide, by decide⟩, textRow_narrow true (by decide), by decide⟩

end Press

end TextSelection
