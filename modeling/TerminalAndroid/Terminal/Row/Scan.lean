import TerminalAndroid.Terminal.Row.Cells

open Java Utf16

def startsWide : List Cell → Nat → Bool
  | [], _ => false
  | cell :: cells, column =>
    if column = 0 then cell.width == 2
    else if column < cell.width then false
    else startsWide cells (column - cell.width)

namespace TerminalRow

theorem skipCombining_end {used : Int} {index : Nat} (stop : used ≤ index) (text : List Nat) :
    skipCombining used text index = .ok index := by
  have past : ¬ (index : Int) < used := by omega
  rcases text with _ | ⟨c, _ | ⟨d, text⟩⟩ <;> simp [skipCombining, past]

theorem wideStartLoop_end {used column currentColumn : Int} {index : Nat} (stop : used ≤ index)
    (text : List Nat) : wideStartLoop used column text index currentColumn = .ok false := by
  have past : ¬ (index : Int) < used := by omega
  rcases text with _ | ⟨c, _ | ⟨d, text⟩⟩ <;> simp [wideStartLoop, past]

theorem zeroWidthLoop_end {stop : Int} {index : Nat} (past : stop ≤ index) (text : List Nat) (count : Nat) :
    zeroWidthLoop stop text index count = .ok count := by
  have past : ¬ (index : Int) < stop := by omega
  rcases text with _ | ⟨c, _ | ⟨d, text⟩⟩ <;> simp [zeroWidthLoop, past]

section Marks

variable {used column : Int} {marks : List Nat} (scalars : ∀ x ∈ marks, x.isValidChar)
  (zero : ∀ x ∈ marks, WcWidth.width x = 0)

include scalars zero

theorem skipCombining_marks (rest : List Nat) (index : Nat)
    (inside : index + (marks.flatMap toChars).length ≤ used) :
    skipCombining used (marks.flatMap toChars ++ rest) index =
      skipCombining used rest (index + (marks.flatMap toChars).length) := by
  induction marks generalizing index with
  | nil => rfl
  | cons x marks ih =>
    have positive := charCount_pos x
    simp only [List.flatMap_cons, List.length_append, toChars_length] at inside
    rw [List.flatMap_cons, List.append_assoc, skipCombining_toChars (scalars x (by simp)),
      if_pos (by omega), if_pos (by rw [zero x (by simp)]),
      ih (fun y member => scalars y (List.mem_cons_of_mem _ member))
        (fun y member => zero y (List.mem_cons_of_mem _ member)) _ (by omega),
      List.length_append, toChars_length, Nat.add_assoc]

theorem findStartLoop_marks (rest : List Nat) (currentColumn : Int) (index : Nat) :
    findStartLoop used column (marks.flatMap toChars ++ rest) currentColumn index =
      findStartLoop used column rest currentColumn (index + (marks.flatMap toChars).length) := by
  induction marks generalizing index with
  | nil => rfl
  | cons x marks ih =>
    rw [List.flatMap_cons, List.append_assoc, findStartLoop_toChars (scalars x (by simp)),
      if_neg (by rw [zero x (by simp)]; omega),
      ih (fun y member => scalars y (List.mem_cons_of_mem _ member))
        (fun y member => zero y (List.mem_cons_of_mem _ member)),
      List.length_append, toChars_length, Nat.add_assoc]

theorem wideStartLoop_marks (rest : List Nat) (index : Nat) (currentColumn : Int)
    (inside : index + (marks.flatMap toChars).length ≤ used) :
    wideStartLoop used column (marks.flatMap toChars ++ rest) index currentColumn =
      wideStartLoop used column rest (index + (marks.flatMap toChars).length) currentColumn := by
  induction marks generalizing index with
  | nil => rfl
  | cons x marks ih =>
    have positive := charCount_pos x
    simp only [List.flatMap_cons, List.length_append, toChars_length] at inside
    rw [List.flatMap_cons, List.append_assoc, wideStartLoop_toChars (scalars x (by simp)),
      if_pos (by omega), if_neg (by rw [zero x (by simp)]; omega),
      ih (fun y member => scalars y (List.mem_cons_of_mem _ member))
        (fun y member => zero y (List.mem_cons_of_mem _ member)) _ (by omega),
      List.length_append, toChars_length, Nat.add_assoc]

theorem zeroWidthLoop_marks (rest : List Nat) (index count : Nat)
    (inside : index + (marks.flatMap toChars).length ≤ used) :
    zeroWidthLoop used (marks.flatMap toChars ++ rest) index count =
      zeroWidthLoop used rest (index + (marks.flatMap toChars).length) (count + marks.length) := by
  induction marks generalizing index count with
  | nil => rfl
  | cons x marks ih =>
    have positive := charCount_pos x
    simp only [List.flatMap_cons, List.length_append, toChars_length] at inside
    rw [List.flatMap_cons, List.append_assoc, zeroWidthLoop_toChars (scalars x (by simp)),
      if_pos (by omega), if_pos (by rw [zero x (by simp)]),
      ih (fun y member => scalars y (List.mem_cons_of_mem _ member))
        (fun y member => zero y (List.mem_cons_of_mem _ member)) _ _ (by omega),
      List.length_append, toChars_length, List.length_cons, Nat.add_assoc, Nat.add_right_comm count]
    rfl

end Marks

theorem skipCombining_cells {used : Int} {cells : List Cell} (valid : ∀ c ∈ cells, c.Valid)
    (spare : List Nat) (index : Nat) (stop : used = index + (cellsText cells).length) :
    skipCombining used (cellsText cells ++ spare) index = .ok index := by
  cases cells with
  | nil =>
    exact skipCombining_end (by rw [stop]; simp) _
  | cons cell cells =>
    have head := valid cell (by simp)
    have positive := cell.chars_length_pos
    have base := head.base
    simp only [cellsText_cons, List.length_append] at stop
    simp only [cellsText_cons, Cell.chars_eq, List.append_assoc]
    unfold Cell.width at base
    rw [skipCombining_toChars head.base_scalar, if_pos (by omega), if_neg (by omega)]

theorem findStartLoop_cells {used column : Int} {pre : List Cell} {cell : Cell} {post : List Cell}
    (valid : ∀ c ∈ pre ++ cell :: post, c.Valid) (spare : List Nat) {offset : Nat}
    (inside : offset < cell.width) (currentColumn : Int) (index : Nat)
    (stop : used = index + (cellsText (pre ++ cell :: post)).length)
    (target : column = currentColumn + (cellsWidth pre + offset : Nat)) :
    findStartLoop used column (cellsText (pre ++ cell :: post) ++ spare) currentColumn index =
      .ok (index + (cellsText pre).length) := by
  induction pre generalizing currentColumn index with
  | nil =>
    have head := valid cell (by simp)
    have base := head.base
    unfold Cell.width at base inside
    simp only [cellsWidth_nil, Nat.zero_add] at target
    simp only [List.nil_append, cellsText_cons, Cell.chars_eq, List.append_assoc]
    rw [findStartLoop_toChars head.base_scalar, if_pos base, if_neg (by omega), if_pos (by omega)]
    simp
  | cons first pre ih =>
    have head := valid first (by simp)
    have tail : ∀ c ∈ pre ++ cell :: post, c.Valid := fun c member =>
      valid c (List.mem_cons_of_mem _ member)
    have base := head.base
    unfold Cell.width at base
    simp only [List.cons_append, cellsText_cons, List.length_append, Cell.chars_eq, toChars_length] at stop
    simp only [cellsWidth_cons, Cell.width] at target
    simp only [List.cons_append, cellsText_cons, Cell.chars_eq, List.append_assoc, List.length_append,
      toChars_length]
    rw [findStartLoop_toChars head.base_scalar, if_pos base]
    by_cases reached : currentColumn + WcWidth.width first.base = column
    · -- The target is the end of `first`, so it starts at the next base character.
      have zero : cellsWidth pre = 0 := by omega
      have empty := cellsWidth_eq_zero (fun c member => tail c (List.mem_append_left _ member)) zero
      subst empty
      rw [if_pos reached, skipCombining_marks head.mark_scalars head.marks _ _ (by omega),
        skipCombining_cells tail spare _ (by simp only [Nat.cast_add]; omega)]
      simp [Nat.add_assoc]
    · rw [if_neg reached, if_neg (by omega), findStartLoop_marks head.mark_scalars head.marks,
        ih tail _ _ (by omega) (by omega)]
      congr 1
      omega

theorem wideStartLoop_cells {used column : Int} {cells : List Cell} (valid : ∀ c ∈ cells, c.Valid)
    (spare : List Nat) (offset index : Nat) (currentColumn : Int)
    (stop : used = index + (cellsText cells).length) (target : column = currentColumn + offset) :
    wideStartLoop used column (cellsText cells ++ spare) index currentColumn =
      .ok (startsWide cells offset) := by
  induction cells generalizing offset index currentColumn with
  | nil =>
    exact wideStartLoop_end (by rw [stop]; simp) _
  | cons cell cells ih =>
    have head := valid cell (by simp)
    have tail : ∀ c ∈ cells, c.Valid := fun c member => valid c (List.mem_cons_of_mem _ member)
    have base := head.base
    have positive := charCount_pos cell.base
    unfold Cell.width at base
    simp only [cellsText_cons, List.length_append, Cell.chars_eq, toChars_length] at stop
    simp only [cellsText_cons, Cell.chars_eq, List.append_assoc]
    rw [wideStartLoop_toChars head.base_scalar, if_pos (by omega), if_pos base]
    by_cases here : offset = 0
    · subst here
      by_cases wide : WcWidth.width cell.base = 2
      · rw [if_pos ⟨by omega, wide⟩]
        simp [startsWide, Cell.width, wide]
      · rw [if_neg (fun both => wide both.2), if_pos (by omega)]
        simp [startsWide, Cell.width, wide]
    · rw [if_neg (fun both => here (by omega))]
      by_cases second : offset < WcWidth.width cell.base
      · rw [if_pos (by omega)]
        simp [startsWide, Cell.width, second, here]
      · rw [if_neg (by omega), wideStartLoop_marks head.mark_scalars head.marks _ _ _ (by omega),
          ih tail (offset - WcWidth.width cell.base) _ _ (by omega) (by omega)]
        simp [startsWide, Cell.width, here, second]

end TerminalRow
