import TerminalAndroid.Terminal.Buffer.Blocks
import TerminalAndroid.Terminal.Row.Narrow

open Java Exec Circular

theorem CopiesWhole.of_narrow {line : TerminalRow} (formed : line.WellFormed) (narrow : line.Narrow) (row : TerminalRow)
    (sx w dx : Nat) : CopiesWhole false line row sx w dx := by
  obtain ⟨source, holds⟩ := formed.holds
  rw [TerminalRow.Narrow, holds.cells_eq] at narrow
  refine ⟨?_, ?_, ?_, fun same => by cases same⟩
  · rw [holds.cells_eq]
    intro cell found
    obtain ⟨pre, post, -, -, within⟩ := split_of_cellAt found
    have one := narrow cell (mem_of_cellAt found)
    omega
  · rw [holds.cells_eq, extraColumn_narrow holds.valid narrow]
    intro extra
    cases extra
  · rw [holds.cells_eq]
    intro k cell found
    have member := mem_of_cellAt ((cellFrom_eq_some (sourceCells_valid holds.valid sx w)).mp found)
    have one : WcWidth.width cell.base = 1 := sourceCells_narrow narrow sx w cell member
    rw [keptMarks_of_ne_two (by omega), List.nil_append,
      List.take_of_length_le (sourceCells_valid holds.valid sx w cell member).bound]

namespace TerminalBuffer

variable {b b' : TerminalBuffer}

def seen (b : TerminalBuffer) (r : Int) (c : Nat) : Option Seen := (b.shown r).bind (·.seen c)

def cellsOf (b : TerminalBuffer) (r : Int) : List Cell := ((b.shown r).map TerminalRow.cells).getD []

theorem seen_of_shown {r : Int} {row : TerminalRow} (found : b.shown r = some row) (c : Nat) : b.seen r c = row.seen c := by
  rw [seen, found, Option.bind_some]

theorem cellsOf_of_shown {r : Int} {row : TerminalRow} (found : b.shown r = some row) : b.cellsOf r = row.cells := by
  rw [cellsOf, found]
  rfl

/-- What `blockCopy` is for: the cells of the target block show what those of the source block did, of a wide
    character cut by an edge of either block a blank is left, and nothing else changes. -/
structure CopiesBlock (b b' : TerminalBuffer) (sx sy w h dx dy : Nat) : Prop where
  cut : ∀ i j : Nat, i < h → j < w → CutHalf (b.cellsOf (sy + i)) sx w j → ShowsBlank (b'.seen (dy + i) (dx + j))
  whole : ∀ i j : Nat, i < h → j < w → ¬ CutHalf (b.cellsOf (sy + i)) sx w j →
    b'.seen (dy + i) (dx + j) = b.seen (sy + i) (sx + j)
  outside : ∀ (r : Int) (c : Nat), -b.mActiveTranscriptRows ≤ r → r < b.mScreenRows → c < b.mColumns →
    ¬ ((dy ≤ r ∧ r < dy + h) ∧ dx ≤ c ∧ c < dx + w) →
    b'.seen r c = b.seen r c ∨ ((dy ≤ r ∧ r < dy + h) ∧ LeftHalf (b.cellsOf r) dx w c ∧ ShowsBlank (b'.seen r c))

theorem CopiesBlock.empty (b : TerminalBuffer) (sx sy h dx dy : Nat) : CopiesBlock b b sx sy 0 h dx dy :=
  ⟨fun _ _ _ none => absurd none (Nat.not_lt_zero _), fun _ _ _ none => absurd none (Nat.not_lt_zero _),
    fun _ _ _ _ _ _ => .inl rfl⟩

section

variable {sx sy w h dx dy : Nat} (formed : b.Formed)
  (painted : Repainted (BlockCopied b sx sy w dx dy fun i => 0 ≤ i ∧ i < h) b b')
include formed painted

theorem Formed.copied_row (bottom : (dy + h : Int) ≤ b.mScreenRows) {i : Nat} (inside : i < h) :
    ∃ line row row' source cells, b.shown (sy + i) = some line ∧ b.shown (dy + i) = some row ∧
      b'.shown (dy + i) = some row' ∧
      TerminalRow.IntervalCopied (decide ((dy : Int) = sy)) line row row' source cells sx w dx := by
  obtain ⟨row, found⟩ := formed.exists_shown (show 0 ≤ (dy + i : Int) by omega) (by omega)
  obtain ⟨row', found', copied, -⟩ := painted.screen _ row (by omega) (by omega) found
  obtain ⟨line, source, cells, foundLine, interval⟩ := copied (by omega)
  rw [add_sub_cancel_left] at foundLine
  exact ⟨line, row, row', source, cells, foundLine, found, found', interval⟩

theorem Formed.kept_row {r : Int} (lower : -b.mActiveTranscriptRows ≤ r) (upper : r < b.mScreenRows)
    (outside : ¬ ((dy : Int) ≤ r ∧ r < dy + h)) : b'.shown r = b.shown r := by
  rcases Int.lt_or_le r 0 with negative | nonneg
  · have most := formed.active_le
    exact painted.transcript r (by omega) negative
  · obtain ⟨row, found⟩ := formed.exists_shown nonneg upper
    obtain ⟨row', found', -, kept⟩ := painted.screen r row nonneg upper found
    rw [found', found, kept (by omega)]

theorem Formed.copiesBlock (bottom : (dy + h : Int) ≤ b.mScreenRows)
    (clean : ∀ (i : Nat) line row, i < h → b.shown (sy + i) = some line → b.shown (dy + i) = some row →
      CopiesWhole (decide ((dy : Int) = sy)) line row sx w dx) : CopiesBlock b b' sx sy w h dx dy := by
  have takes : ∀ (i : Nat), i < h → ∃ line row row', b.shown (sy + i) = some line ∧ b.shown (dy + i) = some row ∧
      b'.shown (dy + i) = some row' ∧ TakesInterval line row row' sx w dx := by
    intro i inside
    obtain ⟨line, row, row', source, cells, foundLine, found, found', interval⟩ := formed.copied_row painted bottom inside
    exact ⟨line, row, row', foundLine, found, found',
      interval.takes_of_copiesWhole (clean i line row inside foundLine found)⟩
  refine ⟨fun i j inside less half => ?_, fun i j inside less half => ?_, fun r c lower upper column out => ?_⟩
  · obtain ⟨line, row, row', foundLine, -, found', taken⟩ := takes i inside
    rw [cellsOf_of_shown foundLine] at half
    rw [seen_of_shown found']
    exact taken.cut j less half
  · obtain ⟨line, row, row', foundLine, -, found', taken⟩ := takes i inside
    rw [cellsOf_of_shown foundLine] at half
    rw [seen_of_shown found', seen_of_shown foundLine]
    exact taken.whole j less half
  · by_cases inside : (dy : Int) ≤ r ∧ r < dy + h
    · obtain ⟨i, rfl⟩ : ∃ i : Nat, r = dy + i := ⟨(r - dy).toNat, by omega⟩
      obtain ⟨line, row, row', -, found, found', taken⟩ := takes i (by omega)
      have width := formed.shown_width found
      rw [seen_of_shown found', seen_of_shown found, cellsOf_of_shown found]
      exact (taken.outside c (by omega) (by omega)).imp_right fun half => ⟨inside, half⟩
    · rw [seen, seen, formed.kept_row painted lower upper inside]
      exact .inl rfl

end

/-- `blockCopy` does what it is for exactly where the copies of its rows do. -/
theorem blockCopy_iff (b : TerminalBuffer) (formed : b.Formed) (sx sy w h dx dy : Nat) (right : (sx + w : Int) ≤ b.mColumns)
    (bottom : (sy + h : Int) ≤ b.mScreenRows) (right' : (dx + w : Int) ≤ b.mColumns)
    (bottom' : (dy + h : Int) ≤ b.mScreenRows) :
    ∃ b', (blockCopy sx sy w h dx dy).run b = .ok () b' ∧
      (CopiesBlock b b' sx sy w h dx dy ↔ (0 < w → ∀ (i : Nat) line row, i < h → b.shown (sy + i) = some line →
        b.shown (dy + i) = some row → CopiesWhole (decide ((dy : Int) = sy)) line row sx w dx)) := by
  rcases Nat.eq_zero_or_pos w with rfl | positive
  · exact ⟨b, rfl, ⟨fun _ none => absurd none (Nat.lt_irrefl 0), fun _ => CopiesBlock.empty b sx sy h dx dy⟩⟩
  obtain ⟨⟨⟩, b', ran, painted⟩ := formed.run_blockCopy positive right bottom right' bottom'
  refine ⟨b', ran, ?_, fun clean => formed.copiesBlock painted bottom' (clean positive)⟩
  rintro ⟨cut, whole, -⟩ - i line row inside foundLine foundRow
  obtain ⟨line1, row1, row', source, cells, found1, found2, found', interval⟩ := formed.copied_row painted bottom' inside
  obtain rfl := Option.some.inj (found1.symm.trans foundLine)
  obtain rfl := Option.some.inj (found2.symm.trans foundRow)
  refine interval.copiesWhole_of_takes (fun j less half => ?_) fun j less half => ?_
  · have blank := cut i j inside less (by rw [cellsOf_of_shown foundLine, interval.lineHolds.cells_eq]; exact half)
    rwa [seen_of_shown found'] at blank
  · have same := whole i j inside less (by rw [cellsOf_of_shown foundLine, interval.lineHolds.cells_eq]; exact half)
    rwa [seen_of_shown found', seen_of_shown foundLine] at same

theorem freshLines_formed (b : TerminalBuffer) {newColumns newRows newTotalRows : Int} (lower : 2 ≤ newColumns)
    (upper : newColumns ≤ 1023) (positive : 1 ≤ newRows) (most : newRows ≤ newTotalRows) (style : Style) :
    (b.freshLines newColumns newRows newTotalRows style).Formed := by
  refine (freshLines_ring b (by omega) positive most style).formed lower upper 0 fun r row _ _ found => ?_
  rw [freshLines, canvas_shown (by simp; omega)] at found
  have member := List.mem_of_getElem? found
  rw [List.eq_of_mem_replicate member]
  exact TerminalRow.create_good (by omega) (by omega) style

theorem Formed.setChar_keeps (formed : b.Formed) {column : Nat} {s : Int} {x : Nat} {style : Style}
    (inside : (column : Int) < b.mColumns) (lower : 0 ≤ s) (upper : s < b.mScreenRows) (scalar : x.isValidChar)
    (narrow : WcWidth.width x ≠ 2) (ran : (setChar column s x style).run b = .ok () b') : b'.Formed := by
  obtain ⟨row, found⟩ := formed.exists_shown lower upper
  have width := formed.shown_width found
  obtain ⟨row', put, good, -⟩ := (formed.good found).exists_set scalar narrow (show column < row.mColumns by omega) style
  obtain ⟨b1, result, painted⟩ := formed.run_setChar inside lower upper found put good
  rw [ran] at result
  cases result
  exact painted.formed

def lettered : TerminalBuffer :=
  final ((do setChar 0 0 97 1; setChar 1 0 98 2).run ((allocated 4 2 2).freshLines 4 2 2 7))

theorem lettered_formed : lettered.Formed := by
  have formed := freshLines_formed (allocated 4 2 2) (show (2 : Int) ≤ 4 by decide) (by decide) (show (1 : Int) ≤ 2 by decide)
    (Int.le_refl 2) 7
  have first : (setChar 0 0 97 1).run ((allocated 4 2 2).freshLines 4 2 2 7) =
      .ok () (final ((setChar 0 0 97 1).run ((allocated 4 2 2).freshLines 4 2 2 7))) := by decide
  have second : (setChar 1 0 98 2).run (final ((setChar 0 0 97 1).run ((allocated 4 2 2).freshLines 4 2 2 7))) =
      .ok () lettered := by decide
  have formed' := formed.setChar_keeps (show ((0 : Nat) : Int) < 4 by decide) (Int.le_refl 0) (by decide) (by decide)
    (by decide) first
  exact formed'.setChar_keeps (show ((1 : Nat) : Int) < _ by decide) (Int.le_refl 0) (by decide) (by decide)
    (by decide) second

theorem blockCopy_iff_below : ∃ b', (blockCopy 0 0 2 1 1 1).run lettered = .ok () b' ∧
    CopiesBlock lettered b' 0 0 2 1 1 1 := by
  obtain ⟨b', ran, iff⟩ := blockCopy_iff lettered lettered_formed 0 0 2 1 1 1 (by decide) (by decide)
    (by decide) (by decide)
  refine ⟨b', ran, iff.mpr fun _ i line row inside found _ => ?_⟩
  obtain rfl : i = 0 := by omega
  have narrow : ∀ cell ∈ lettered.cellsOf (((0 : Nat) : Int) + ((0 : Nat) : Int)), cell.width = 1 := by decide
  rw [cellsOf_of_shown found] at narrow
  exact CopiesWhole.of_narrow (lettered_formed.wellFormed _ line found) narrow row 0 2 1

/-- Copied one column to the right in its own row, `b` gets the style of `a`. -/
theorem blockCopy_smears : lettered.Formed ∧ lettered.seen 0 1 = some ⟨.bare 98, 0, 2⟩ ∧
    ∃ b', (blockCopy 0 0 2 1 1 0).run lettered = .ok () b' ∧ b'.seen 0 2 = some ⟨.bare 98, 0, 1⟩ ∧
      ¬ CopiesBlock lettered b' 0 0 2 1 1 0 := by
  have before : lettered.seen 0 1 = some ⟨.bare 98, 0, 2⟩ := by decide
  have after : (final ((blockCopy 0 0 2 1 1 0).run lettered)).seen 0 2 = some ⟨.bare 98, 0, 1⟩ := by decide
  refine ⟨lettered_formed, before, _, by decide, after, fun copies => ?_⟩
  have same := copies.whole 0 1 (by decide) (by decide) (by decide)
  rw [show ((0 : Nat) : Int) + ((0 : Nat) : Int) = 0 from rfl, before] at same
  exact absurd (after.symm.trans same) (by decide)

end TerminalBuffer
