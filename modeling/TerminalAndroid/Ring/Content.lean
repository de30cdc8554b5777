import Mathlib

namespace Circular

variable {α : Type} {buffer data : List α} {head count k : Nat}

def overwrite (buffer : List α) (offset : Nat) (data : List α) : List α :=
  buffer.take offset ++ data ++ buffer.drop (offset + data.length)

theorem overwrite_nil (buffer : List α) (offset : Nat) : overwrite buffer offset [] = buffer := by
  rw [overwrite, List.append_nil, List.length_nil, Nat.add_zero, List.take_append_drop]

theorem overwrite_length {offset : Nat} (room : offset + data.length ≤ buffer.length) :
    (overwrite buffer offset data).length = buffer.length := by
  simp only [overwrite, List.length_append, List.length_take, List.length_drop]
  omega

theorem overwrite_overwrite {offset : Nat} {more : List α} (room : offset + data.length ≤ buffer.length) :
    overwrite (overwrite buffer offset data) (offset + data.length) more = overwrite buffer offset (data ++ more) := by
  have front : (buffer.take offset ++ data).length = offset + data.length := by
    rw [List.length_append, List.length_take, Nat.min_eq_left (by omega)]
  have rest : ((buffer.take offset ++ data) ++ buffer.drop (offset + data.length)).drop
      (offset + data.length + more.length) = buffer.drop (offset + data.length + more.length) := by
    rw [← List.drop_drop, List.drop_left' front, List.drop_drop]
  rw [overwrite, overwrite, overwrite, List.take_left' front, rest, List.length_append, Nat.add_assoc,
    ← List.append_assoc (buffer.take offset) data more]

def content (buffer : List α) (head count : Nat) : List α := (buffer.rotate head).take count

theorem content_length (most : count ≤ buffer.length) : (content buffer head count).length = count := by
  rw [content, List.length_take, List.length_rotate, Nat.min_eq_left most]

theorem content_zero (buffer : List α) (head : Nat) : content buffer head 0 = [] := List.take_zero

theorem take_drop_eq (inside : head + k ≤ buffer.length) (stored : k ≤ count) :
    (buffer.drop head).take k = (content buffer head count).take k := by
  rw [content, List.take_take, Nat.min_eq_left stored, List.rotate_eq_drop_append_take (by omega),
    List.take_append_of_le_length (by rw [List.length_drop]; omega)]

theorem content_drop (inside : head + k ≤ buffer.length) (stored : k ≤ count) (most : count ≤ buffer.length) :
    content buffer (head + k) (count - k) = (content buffer head count).drop k := by
  rw [content, content, ← List.rotate_rotate, List.rotate_eq_drop_append_take (n := k) (by rw [List.length_rotate]; omega),
    List.take_append_of_le_length (by rw [List.length_drop, List.length_rotate]; omega), List.drop_take]

theorem content_length_eq_zero (buffer : List α) (count : Nat) : content buffer buffer.length count = content buffer 0 count := by
  rw [content, content, List.rotate_length, List.rotate_zero]

theorem content_put_end (room : head + count + data.length ≤ buffer.length) :
    content (overwrite buffer (head + count) data) head (count + data.length) = content buffer head count ++ data := by
  have first : (buffer.take head).length = head := by rw [List.length_take]; omega
  have middle : ((buffer.drop head).take count).length = count := by rw [List.length_take, List.length_drop]; omega
  have split : buffer.take (head + count) = buffer.take head ++ (buffer.drop head).take count := List.take_add
  have rotated := List.rotate_append_length_eq (buffer.take head)
    ((buffer.drop head).take count ++ data ++ buffer.drop (head + count + data.length))
  rw [first] at rotated
  have stored : content buffer head count = (buffer.drop head).take count := by
    rw [content, List.rotate_eq_drop_append_take (by omega),
      List.take_append_of_le_length (by rw [List.length_drop]; omega)]
  rw [stored, content, overwrite, split, List.append_assoc, List.append_assoc, ← List.append_assoc _ data, rotated,
    List.append_assoc, List.take_left' (by rw [List.length_append, middle])]

theorem content_put_start (inside : head ≤ buffer.length) (wrapped : buffer.length ≤ head + count)
    (room : head + count - buffer.length + data.length ≤ head) :
    content (overwrite buffer (head + count - buffer.length) data) head (count + data.length) =
      content buffer head count ++ data := by
  obtain ⟨tail, tail_eq⟩ : ∃ tail, tail = head + count - buffer.length := ⟨_, rfl⟩
  rw [← tail_eq] at room ⊢
  have first : (buffer.take tail).length = tail := by rw [List.length_take]; omega
  have split : buffer.drop (tail + data.length) =
      (buffer.take head).drop (tail + data.length) ++ buffer.drop head := by
    conv_lhs => rw [← List.take_append_drop head buffer]
    rw [List.drop_append_of_le_length (by rw [List.length_take]; omega)]
  have front : (buffer.take tail ++ data ++ (buffer.take head).drop (tail + data.length)).length = head := by
    simp only [List.length_append, List.length_drop, List.length_take]
    omega
  have rotated := List.rotate_append_length_eq
    (buffer.take tail ++ data ++ (buffer.take head).drop (tail + data.length)) (buffer.drop head)
  rw [front] at rotated
  have stored : content buffer head count = buffer.drop head ++ buffer.take tail := by
    rw [content, List.rotate_eq_drop_append_take inside, List.take_append, List.length_drop,
      List.take_of_length_le (by rw [List.length_drop]; omega), List.take_take]
    congr 2
    omega
  rw [stored, content, overwrite, split, ← List.append_assoc, rotated, ← List.append_assoc, ← List.append_assoc,
    List.take_left' (by simp only [List.length_append, List.length_drop, first]; omega)]

end Circular
