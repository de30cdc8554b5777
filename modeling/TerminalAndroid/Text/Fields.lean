import Mathlib.Data.Nat.Digits.Defs

namespace Text

section Split

variable {α : Type} {p : α → Bool} {text more : List α} {init : List (List α)} {last : List α}

theorem splitOnP_append (fields : text.splitOnP p = init ++ [last]) (none : ∀ x ∈ more, p x = false) :
    (text ++ more).splitOnP p = init ++ [last ++ more] := by
  induction text generalizing init last with
  | nil =>
    rw [List.splitOnP_nil, List.singleton_eq_append_iff] at fields
    rcases fields with ⟨rfl, same⟩ | ⟨rfl, same⟩
    · cases same
      exact List.splitOnP_eq_singleton none
    · cases same
  | cons x text ih =>
    rw [List.splitOnP_cons_eq_if_modifyHead] at fields
    rw [List.cons_append, List.splitOnP_cons_eq_if_modifyHead]
    by_cases separator : p x = true
    · rw [if_pos separator] at fields ⊢
      cases init with
      | nil => exact absurd (List.cons.inj fields).2 (List.splitOnP_ne_nil p text)
      | cons field init =>
        obtain ⟨rfl, rest⟩ := List.cons.inj fields
        rw [ih rest, List.cons_append]
    · rw [if_neg separator] at fields ⊢
      obtain ⟨field, rest, found⟩ := List.exists_cons_of_ne_nil (List.splitOnP_ne_nil p text)
      rw [found, List.modifyHead_cons] at fields
      -- the character belongs to the first field, which may be the last one as well
      cases init with
      | nil =>
        obtain ⟨rfl, rfl⟩ := List.cons.inj fields
        rw [@ih [] field found]
        rfl
      | cons first init =>
        obtain ⟨rfl, rfl⟩ := List.cons.inj fields
        rw [@ih (field :: init) last found]
        rfl

theorem exists_splitOnP (p : α → Bool) (text : List α) : ∃ init last, text.splitOnP p = init ++ [last] :=
  ⟨_, _, (List.dropLast_concat_getLast (List.splitOnP_ne_nil p text)).symm⟩

theorem length_splitOnP (p : α → Bool) (text : List α) : (text.splitOnP p).length = (text.filter p).length + 1 := by
  induction text with
  | nil => rfl
  | cons x text ih =>
    rw [List.splitOnP_cons_eq_if_modifyHead, List.filter_cons]
    split
    · rw [List.length_cons, ih, List.length_cons]
    · rw [List.length_modifyHead, ih]

end Split

def decimal (digits : List Nat) : Nat := Nat.ofDigits 10 (digits.map (· - '0'.toNat)).reverse

theorem decimal_append (digits more : List Nat) :
    decimal (digits ++ more) = decimal digits * 10 ^ more.length + decimal more := by
  unfold decimal
  rw [List.map_append, List.reverse_append, Nat.ofDigits_append, List.length_reverse, List.length_map]
  ring

theorem decimal_snoc (digits : List Nat) (x : Nat) : decimal (digits ++ [x]) = decimal digits * 10 + (x - '0'.toNat) := by
  rw [decimal_append]
  simp [decimal]

end Text
