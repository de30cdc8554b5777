import TerminalAndroid.Terminal.Row.WellFormed
import TerminalAndroid.Terminal.TerminalBuffer

open Java Utf16

def trimBlanks (cells : List Cell) : List Cell := cells.rdropWhile (· == Cell.blank)

theorem exists_trimBlanks (cells : List Cell) : ∃ count, cells = trimBlanks cells ++ List.replicate count Cell.blank := by
  refine ⟨(cells.rtakeWhile (· == Cell.blank)).length, ?_⟩
  have blanks : cells.rtakeWhile (· == Cell.blank) =
      List.replicate (cells.rtakeWhile (· == Cell.blank)).length Cell.blank := by
    rw [List.eq_replicate_iff]
    refine ⟨rfl, fun cell member => ?_⟩
    have blank := List.mem_rtakeWhile_imp member
    exact eq_of_beq blank
  rw [← blanks, trimBlanks, List.rdropWhile_append_rtakeWhile]

theorem trimBlanks_last (cells : List Cell) : trimBlanks cells = [] ∨
    ∃ front last, trimBlanks cells = front ++ [last] ∧ last ≠ Cell.blank := by
  by_cases empty : trimBlanks cells = []
  · exact .inl empty
  · have last := List.rdropWhile_last_not (fun cell => cell == Cell.blank) cells empty
    exact .inr ⟨_, _, (List.dropLast_append_getLast empty).symm, fun blank => last (beq_iff_eq.mpr blank)⟩

theorem toChars_last {x : Nat} (other : x ≠ TerminalRow.space) :
    ∃ front c, toChars x = front ++ [c] ∧ c ≠ TerminalRow.space := by
  by_cases supplementary : 0x10000 ≤ x
  · refine ⟨[highSurrogate x], lowSurrogate x, toChars_supplementary supplementary, ?_⟩
    simp only [lowSurrogate, TerminalRow.space]
    omega
  · exact ⟨[], x, toChars_bmp (by omega), other⟩

theorem Cell.Valid.chars_last {cell : Cell} (valid : cell.Valid) (other : cell ≠ .blank) :
    ∃ front c, cell.chars = front ++ [c] ∧ c ≠ TerminalRow.space := by
  rcases List.eq_nil_or_concat cell.marks with none | ⟨marks, mark, ends⟩
  · have base : cell.base ≠ TerminalRow.space := fun space => other (by cases cell; simp_all [blank, bare])
    obtain ⟨front, c, split, last⟩ := toChars_last base
    exact ⟨front, c, by rw [chars_eq, none, split]; simp, last⟩
  · have zero := valid.marks mark (by simp [ends])
    have wide : mark ≠ TerminalRow.space := by
      rintro rfl
      exact absurd (WcWidth.width_space.symm.trans zero) (by decide)
    obtain ⟨front, c, split, last⟩ := toChars_last wide
    refine ⟨toChars cell.base ++ marks.flatMap toChars ++ front, c, ?_, last⟩
    rw [chars_eq, ends]
    simp [split]

namespace TerminalBuffer

variable {spaceUsed : Int}

end TerminalBuffer

theorem cellsText_blanks (count : Nat) : cellsText (List.replicate count Cell.blank) =
    List.replicate count TerminalRow.space := by
  induction count with
  | zero => rfl
  | succ count ih =>
    rw [List.replicate_succ, cellsText_cons, ih, List.replicate_succ]
    rfl
