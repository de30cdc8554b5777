import Mathlib.Data.List.Basic

namespace Logger

def newline : Nat := 10

def digits (n : Nat) : List Nat := (Nat.toDigits 10 n).map Char.toNat

def entry (level : Nat) (fullTag text : List Nat) : List Nat := level :: 47 :: fullTag ++ 58 :: 32 :: text

/-- A long message is cut behind the last newline among its first `size + 1` characters, or behind `size` characters. -/
def Cut (size : Nat) (message : List Nat) (cut : Nat) : Prop :=
  size < message.length ∧
    ((∃ i, cut = i + 1 ∧ i < size + 1 ∧ message[i]? = some newline ∧
        ∀ j, i < j → j < size + 1 → message[j]? ≠ some newline) ∨
      cut = size ∧ ∀ j < size + 1, message[j]? ≠ some newline)

variable {size fuel count : Nat} {message fullTag : List Nat} {parts : List (List Nat)}

theorem Cut.bounds {cut : Nat} (cuts : Cut size message cut) (positive : 0 < size) :
    0 < cut ∧ cut ≤ size + 1 ∧ cut ≤ message.length ∧ (cut = size + 1 ↔ message[size]? = some newline) := by
  obtain ⟨long, ⟨i, rfl, upto, found, free⟩ | ⟨rfl, free⟩⟩ := cuts
  · refine ⟨by omega, by omega, by omega, fun full => ?_, fun full => ?_⟩
    · rw [← found, Nat.succ.inj full]
    · by_contra other
      exact free size (by omega) (Nat.lt_succ_self _) full
  · exact ⟨positive, by omega, by omega, fun full => by omega, fun full => absurd full (free _ (Nat.lt_succ_self _))⟩

end Logger
