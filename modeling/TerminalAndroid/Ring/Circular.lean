import Mathlib

namespace Circular

variable {α : Type} {n origin i j : Int}

def slot (n origin i : Int) : Int := (origin + i) % n

theorem slot_nonneg (positive : 0 < n) (origin i : Int) : 0 ≤ slot n origin i :=
  Int.emod_nonneg _ (by omega)

theorem slot_lt (positive : 0 < n) (origin i : Int) : slot n origin i < n := Int.emod_lt_of_pos _ positive

@[simp] theorem slot_slot (n origin k i : Int) : slot n (slot n origin k) i = slot n origin (k + i) := by
  simp only [slot, Int.emod_add_emod, Int.add_assoc]

@[simp] theorem slot_add_self (n origin i : Int) : slot n origin (i + n) = slot n origin i := by
  simp only [slot, ← Int.add_assoc, Int.add_emod_right]

theorem slot_sub_self (n origin i : Int) : slot n origin (i - n) = slot n origin i := by
  rw [← slot_add_self, Int.sub_add_cancel]

theorem slot_of_range (lower : 0 ≤ origin + i) (upper : origin + i < n) : slot n origin i = origin + i :=
  Int.emod_eq_of_lt lower upper

theorem slot_inj (after : -n < i - j) (before : i - j < n) (same : slot n origin i = slot n origin j) : i = j := by
  have divides : n ∣ i - j := by
    have zero := Int.emod_eq_emod_iff_emod_sub_eq_zero.mp same
    rw [show origin + i - (origin + j) = i - j by omega] at zero
    exact Int.dvd_of_emod_eq_zero zero
  have zero : i - j = 0 := Int.eq_zero_of_abs_lt_dvd divides (by rw [abs_lt]; omega)
  omega

theorem exists_slot (positive : 0 < n) (origin start k : Int) (lower : 0 ≤ k) (upper : k < n) :
    ∃ i, start ≤ i ∧ i < start + n ∧ slot n origin i = k := by
  refine ⟨start + (k - origin - start) % n, ?_, ?_, ?_⟩
  · have := Int.emod_nonneg (k - origin - start) (show n ≠ 0 by omega)
    omega
  · have := Int.emod_lt_of_pos (k - origin - start) positive
    omega
  · rw [slot, ← Int.add_assoc, Int.add_emod_emod, show origin + start + (k - origin - start) = k by omega]
    exact Int.emod_eq_of_lt lower upper

def look (lines : List α) (origin i : Int) : Option α := lines[(slot lines.length origin i).toNat]?

@[simp] theorem look_slot (lines : List α) (origin k i : Int) :
    look lines (slot lines.length origin k) i = look lines origin (k + i) := by
  simp [look]

theorem look_add_length (lines : List α) (origin i : Int) :
    look lines origin (i + lines.length) = look lines origin i := by
  simp [look]

theorem exists_look {lines : List α} (positive : 0 < lines.length) (origin i : Int) :
    ∃ a, look lines origin i = some a := by
  have lower := slot_nonneg (Int.natCast_pos.mpr positive) origin i
  have upper := slot_lt (Int.natCast_pos.mpr positive) origin i
  exact ⟨_, List.getElem?_eq_getElem (by omega)⟩

theorem look_set (lines : List α) (positive : 0 < lines.length) (origin : Int) (a : α)
    (after : -(lines.length : Int) < i - j) (before : i - j < lines.length) :
    look (lines.set (slot lines.length origin j).toNat a) origin i =
      if i = j then some a else look lines origin i := by
  have positive : (0 : Int) < lines.length := Int.natCast_pos.mpr positive
  have upper := slot_lt positive origin j
  have lower := slot_nonneg positive origin j
  have lower' := slot_nonneg positive origin i
  unfold look
  rw [List.length_set, List.getElem?_set]
  by_cases same : i = j
  · subst same
    rw [if_pos rfl, if_pos (by omega), if_pos rfl]
  · have different : slot lines.length origin j ≠ slot lines.length origin i := fun equal =>
      same (slot_inj after before equal.symm)
    rw [if_neg (by omega), if_neg same]

/-- The entries of `count` places from `start` on, moved one place down from the last to the
    first; the entry behind them is overwritten. -/
def movedDown (lines : List α) (origin start : Int) : Nat → List α
  | 0 => lines
  | count + 1 =>
    match look lines origin (start + count) with
    | none => lines
    | some a => movedDown (lines.set (slot lines.length origin (start + count + 1)).toNat a) origin start count

@[simp] theorem movedDown_length (lines : List α) (origin start : Int) (count : Nat) :
    (movedDown lines origin start count).length = lines.length := by
  induction count generalizing lines with
  | zero => rfl
  | succ count ih =>
    rw [movedDown]
    split
    · rfl
    · rw [ih, List.length_set]

theorem look_movedDown {lines : List α} {start : Int} {count : Nat} (room : count < lines.length) (origin : Int)
    (lower : start ≤ i) (upper : i < start + lines.length) :
    look (movedDown lines origin start count) origin i =
      if start < i ∧ i ≤ start + count then look lines origin (i - 1) else look lines origin i := by
  induction count generalizing lines with
  | zero =>
    rw [movedDown, if_neg (by omega)]
  | succ count ih =>
    have positive : 0 < lines.length := by omega
    obtain ⟨a, found⟩ := exists_look positive origin (start + count)
    simp only [movedDown, found]
    have step : ∀ k, start ≤ k → k < start + lines.length →
        look (lines.set (slot lines.length origin (start + count + 1)).toNat a) origin k =
          if k = start + count + 1 then some a else look lines origin k :=
      fun k first last => look_set lines positive origin a (by omega) (by omega)
    rw [ih (by simp only [List.length_set]; omega) (by simp only [List.length_set]; omega)]
    by_cases moved : start < i ∧ i ≤ start + (count : Int)
    · rw [if_pos moved, if_pos (by omega), step _ (by omega) (by omega), if_neg (by omega)]
    · rw [if_neg moved, step i lower upper]
      by_cases last : i = start + count + 1
      · rw [if_pos last, if_pos (by omega), ← found]
        congr 1
        omega
      · rw [if_neg last, if_neg (by omega)]

def rotatedDown (lines : List α) (origin start : Int) (count : Nat) : List α :=
  match look lines origin (start + count) with
  | none => lines
  | some a => (movedDown lines origin start count).set (slot lines.length origin start).toNat a

@[simp] theorem rotatedDown_length (lines : List α) (origin start : Int) (count : Nat) :
    (rotatedDown lines origin start count).length = lines.length := by
  unfold rotatedDown
  split <;> simp

theorem rotatedDown_zero {lines : List α} (positive : 0 < lines.length) (origin start : Int) :
    rotatedDown lines origin start 0 = lines := by
  obtain ⟨a, found⟩ := exists_look positive origin (start + (0 : Nat))
  simp only [rotatedDown, found, movedDown]
  rw [Int.natCast_zero, Int.add_zero, look] at found
  obtain ⟨bound, rfl⟩ := List.getElem?_eq_some_iff.mp found
  exact List.set_getElem_self bound

theorem look_rotatedDown {lines : List α} {start : Int} {count : Nat} (room : count < lines.length) (origin : Int)
    (lower : start ≤ i) (upper : i < start + lines.length) :
    look (rotatedDown lines origin start count) origin i =
      if i = start then look lines origin (start + count)
      else if i ≤ start + count then look lines origin (i - 1)
      else look lines origin i := by
  have positive : 0 < lines.length := by omega
  obtain ⟨a, found⟩ := exists_look positive origin (start + count)
  simp only [rotatedDown, found]
  have length := movedDown_length lines origin start count
  have step : look ((movedDown lines origin start count).set
      (slot (movedDown lines origin start count).length origin start).toNat a) origin i = _ :=
    look_set _ (by omega) origin a (by omega) (by omega)
  rw [length] at step
  rw [step]
  by_cases first : i = start
  · rw [if_pos first, if_pos first]
  · rw [if_neg first, if_neg first, look_movedDown room origin lower upper]
    by_cases moved : i ≤ start + count
    · rw [if_pos (by omega), if_pos moved]
    · rw [if_neg (by omega), if_neg moved]

end Circular
