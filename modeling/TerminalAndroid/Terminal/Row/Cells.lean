import TerminalAndroid.Terminal.TerminalRow

open Java Utf16

structure Cell where
  base : Nat
  marks : List Nat
  deriving DecidableEq, Repr

namespace Cell

def codePoints (cell : Cell) : List Nat := cell.base :: cell.marks

def chars (cell : Cell) : List Nat := cell.codePoints.flatMap toChars

def width (cell : Cell) : Nat := WcWidth.width cell.base

structure Valid (cell : Cell) : Prop where
  scalars : ∀ x ∈ cell.codePoints, x.isValidChar
  base : 0 < cell.width
  marks : ∀ x ∈ cell.marks, WcWidth.width x = 0
  bound : cell.marks.length ≤ TerminalRow.maxCombiningCharactersPerColumn

def bare (x : Nat) : Cell := ⟨x, []⟩

def blank : Cell := bare TerminalRow.space

theorem chars_eq (cell : Cell) : cell.chars = toChars cell.base ++ cell.marks.flatMap toChars := by
  simp [chars, codePoints]

theorem Valid.width_cases {cell : Cell} (valid : cell.Valid) : cell.width = 1 ∨ cell.width = 2 := by
  have lower := valid.base
  have upper : cell.width ≤ 2 := WcWidth.width_le_two cell.base
  omega

theorem Valid.base_scalar {cell : Cell} (valid : cell.Valid) : cell.base.isValidChar :=
  valid.scalars _ (by simp [codePoints])

theorem Valid.mark_scalars {cell : Cell} (valid : cell.Valid) : ∀ x ∈ cell.marks, x.isValidChar :=
  fun x member => valid.scalars x (List.mem_cons_of_mem _ member)

theorem bare_valid {x : Nat} (scalar : x.isValidChar) (positive : 0 < WcWidth.width x) : (bare x).Valid where
  scalars := by
    intro y member
    simp only [codePoints, bare, List.mem_singleton] at member
    exact member ▸ scalar
  base := positive
  marks := by simp [bare]
  bound := by simp [bare]

theorem blank_valid : blank.Valid := bare_valid (by decide) (by decide)

@[simp] theorem blank_width : blank.width = 1 := WcWidth.width_space

@[simp] theorem bare_width (x : Nat) : (bare x).width = WcWidth.width x := rfl

@[simp] theorem bare_chars (x : Nat) : (bare x).chars = toChars x := by simp [chars_eq, bare]

theorem chars_length_pos (cell : Cell) : 0 < cell.chars.length := by
  rw [chars_eq, List.length_append, toChars_length]
  have := charCount_pos cell.base
  omega

theorem flatMap_toChars_length_le (codePoints : List Nat) :
    (codePoints.flatMap toChars).length ≤ 2 * codePoints.length := by
  induction codePoints with
  | nil => simp
  | cons x codePoints ih =>
    simp only [List.flatMap_cons, List.length_append, List.length_cons, toChars_length]
    have := charCount_le_two x
    omega

theorem Valid.chars_length_le {cell : Cell} (valid : cell.Valid) : cell.chars.length ≤ 32 := by
  have bound := flatMap_toChars_length_le cell.codePoints
  have marks := valid.bound
  simp only [codePoints, List.length_cons, TerminalRow.maxCombiningCharactersPerColumn] at bound marks
  unfold chars codePoints
  omega

end Cell

def cellsText (cells : List Cell) : List Nat := cells.flatMap Cell.chars

def cellsWidth (cells : List Cell) : Nat := (cells.map Cell.width).sum

@[simp] theorem cellsText_nil : cellsText [] = [] := rfl

@[simp] theorem cellsText_cons (cell : Cell) (cells : List Cell) :
    cellsText (cell :: cells) = cell.chars ++ cellsText cells := by simp [cellsText]

@[simp] theorem cellsText_append (left right : List Cell) :
    cellsText (left ++ right) = cellsText left ++ cellsText right := by simp [cellsText]

@[simp] theorem cellsWidth_nil : cellsWidth [] = 0 := rfl

@[simp] theorem cellsWidth_cons (cell : Cell) (cells : List Cell) :
    cellsWidth (cell :: cells) = cell.width + cellsWidth cells := by simp [cellsWidth]

@[simp] theorem cellsWidth_append (left right : List Cell) :
    cellsWidth (left ++ right) = cellsWidth left + cellsWidth right := by simp [cellsWidth]

theorem cellsText_length_le {cells : List Cell} (valid : ∀ c ∈ cells, c.Valid) :
    (cellsText cells).length ≤ 32 * cellsWidth cells := by
  induction cells with
  | nil => simp
  | cons cell cells ih =>
    have head := valid cell (by simp)
    have tail := ih (fun c member => valid c (List.mem_cons_of_mem _ member))
    have := head.chars_length_le
    have := head.base
    simp only [cellsText_cons, List.length_append, cellsWidth_cons]
    omega

theorem cellsWidth_eq_zero {cells : List Cell} (valid : ∀ c ∈ cells, c.Valid) (zero : cellsWidth cells = 0) :
    cells = [] := by
  cases cells with
  | nil => rfl
  | cons cell cells =>
    have := (valid cell (by simp)).base
    simp only [cellsWidth_cons] at zero
    omega

namespace TerminalRow

section Scan

variable {used column : Int} {x : Nat} (scalar : x.isValidChar)

include scalar

theorem skipCombining_toChars (rest : List Nat) (index : Nat) :
    skipCombining used (toChars x ++ rest) index =
      if index < used then
        if WcWidth.width x ≤ 0 then skipCombining used rest (index + charCount x) else .ok index
      else .ok index := by
  by_cases supplementary : 0x10000 ≤ x
  · rw [toChars_supplementary supplementary]
    simp [skipCombining, isHighSurrogate_highSurrogate scalar supplementary,
      toCodePoint_surrogates scalar supplementary, charCount, supplementary]
  · have bmp : x < 0x10000 := by omega
    rw [toChars_bmp bmp]
    cases rest <;> simp [skipCombining, isHighSurrogate_bmp scalar bmp, charCount, supplementary]

theorem findStartLoop_toChars (rest : List Nat) (currentColumn : Int) (index : Nat) :
    findStartLoop used column (toChars x ++ rest) currentColumn index =
      if 0 < WcWidth.width x then
        if currentColumn + WcWidth.width x = column then skipCombining used rest (index + charCount x)
        else if column < currentColumn + WcWidth.width x then .ok index
        else findStartLoop used column rest (currentColumn + WcWidth.width x) (index + charCount x)
      else findStartLoop used column rest currentColumn (index + charCount x) := by
  by_cases supplementary : 0x10000 ≤ x
  · rw [toChars_supplementary supplementary]
    simp [findStartLoop, isHighSurrogate_highSurrogate scalar supplementary,
      toCodePoint_surrogates scalar supplementary, charCount, supplementary]
  · have bmp : x < 0x10000 := by omega
    rw [toChars_bmp bmp]
    cases rest <;> simp [findStartLoop, isHighSurrogate_bmp scalar bmp, charCount, supplementary]

theorem wideStartLoop_toChars (rest : List Nat) (index : Nat) (currentColumn : Int) :
    wideStartLoop used column (toChars x ++ rest) index currentColumn =
      if index < used then
        if 0 < WcWidth.width x then
          if currentColumn = column ∧ WcWidth.width x = 2 then .ok true
          else if column < currentColumn + WcWidth.width x then .ok false
          else wideStartLoop used column rest (index + charCount x) (currentColumn + WcWidth.width x)
        else wideStartLoop used column rest (index + charCount x) currentColumn
      else .ok false := by
  by_cases supplementary : 0x10000 ≤ x
  · rw [toChars_supplementary supplementary]
    simp [wideStartLoop, isHighSurrogate_highSurrogate scalar supplementary,
      toCodePoint_surrogates scalar supplementary, charCount, supplementary]
  · have bmp : x < 0x10000 := by omega
    rw [toChars_bmp bmp]
    cases rest <;> simp [wideStartLoop, isHighSurrogate_bmp scalar bmp, charCount, supplementary]

theorem zeroWidthLoop_toChars (rest : List Nat) (index count : Nat) :
    zeroWidthLoop used (toChars x ++ rest) index count =
      if index < used then
        zeroWidthLoop used rest (index + charCount x) (if WcWidth.width x ≤ 0 then count + 1 else count)
      else .ok count := by
  by_cases supplementary : 0x10000 ≤ x
  · rw [toChars_supplementary supplementary]
    simp [zeroWidthLoop, isHighSurrogate_highSurrogate scalar supplementary,
      toCodePoint_surrogates scalar supplementary, charCount, supplementary]
  · have bmp : x < 0x10000 := by omega
    rw [toChars_bmp bmp]
    cases rest <;> simp [zeroWidthLoop, isHighSurrogate_bmp scalar bmp, charCount, supplementary]

end Scan

end TerminalRow
