import Mathlib.Algebra.Group.Nat.Defs
import Mathlib.Data.List.Basic
import Mathlib.Data.Nat.Init

namespace Framing

section Numbers

def numberBytes : Nat → Nat → List UInt8
  | 0, _ => []
  | width + 1, n => UInt8.ofNat n :: numberBytes width (n / 256)

def byteNumber : List UInt8 → Nat
  | [] => 0
  | byte :: bytes => byte.toNat + 256 * byteNumber bytes

@[simp]
theorem length_numberBytes (width n : Nat) : (numberBytes width n).length = width := by
  induction width generalizing n with
  | zero => rfl
  | succ width ih => rw [numberBytes, List.length_cons, ih]

theorem byteNumber_numberBytes (width n : Nat) : byteNumber (numberBytes width n) = n % 256 ^ width := by
  induction width generalizing n with
  | zero => rw [Nat.pow_zero, Nat.mod_one]; rfl
  | succ width ih =>
    rw [numberBytes, byteNumber, ih, UInt8.toNat_ofNat']
    have digits := @Nat.mod_mul 256 (256 ^ width) n
    rw [← Nat.pow_succ'] at digits
    exact digits.symm

end Numbers

section Frames

variable {α : Type}

structure Frame (α : Type) where
  head : List α
  body : List α
deriving DecidableEq, Repr

def Frame.text (frame : Frame α) : List α := frame.head ++ frame.body

def flat (frames : List (Frame α)) : List α := frames.flatMap Frame.text

structure Format (α : Type) where
  size : Nat
  positive : 0 < size
  bodyLength : List α → Nat

def Format.Framed (format : Format α) (frame : Frame α) : Prop :=
  frame.head.length = format.size ∧ frame.body.length = format.bodyLength frame.head

instance (format : Format α) (frame : Frame α) : Decidable (format.Framed frame) := by
  unfold Format.Framed
  infer_instance

def Format.Awaiting (format : Format α) (held : List α) : Prop :=
  held = [] ∨ held.length = format.size ∧ 0 < format.bodyLength held

variable {format : Format α} {frame other : Frame α} {frames others : List (Frame α)} {held rest more : List α}

@[simp] theorem flat_nil : flat ([] : List (Frame α)) = [] := rfl

@[simp] theorem flat_cons : flat (frame :: frames) = frame.head ++ (frame.body ++ flat frames) := by
  rw [flat, List.flatMap_cons, Frame.text, List.append_assoc]
  rfl

@[simp] theorem flat_append : flat (frames ++ others) = flat frames ++ flat others := List.flatMap_append

theorem Format.Framed.size_le (framed : format.Framed frame) (rest : List α) :
    format.size ≤ (frame.head ++ (frame.body ++ rest)).length := by
  rw [List.length_append, framed.1]
  exact Nat.le_add_right ..

theorem Format.Framed.head_eq (framed : format.Framed frame) (otherFramed : format.Framed other)
    (same : frame.head ++ (frame.body ++ rest) = other.head ++ (other.body ++ more)) :
    frame = other ∧ rest = more := by
  have heads := List.append_inj same (framed.1.trans otherFramed.1.symm)
  have lengths : frame.body.length = other.body.length := by
    rw [framed.2, otherFramed.2, heads.1]
  have bodies := List.append_inj heads.2 lengths
  cases frame
  cases other
  cases heads.1
  cases bodies.1
  exact ⟨rfl, bodies.2⟩

theorem flat_unique (framed : ∀ frame ∈ frames, format.Framed frame) (othersFramed : ∀ frame ∈ others, format.Framed frame)
    (awaiting : format.Awaiting held) (same : flat frames ++ held = flat others) : frames = others ∧ held = [] := by
  have positive := format.positive
  induction frames generalizing others with
  | nil =>
    cases others with
    | nil => exact ⟨rfl, same⟩
    | cons other others =>
      have first := othersFramed other List.mem_cons_self
      rw [flat_nil, List.nil_append, flat_cons] at same
      have long := first.size_le (flat others)
      rw [← same] at long
      rcases awaiting with rfl | ⟨length, body⟩
      · rw [List.length_nil] at long
        omega
      · have parts := congrArg List.length same
        rw [List.length_append, List.length_append, length, first.1] at parts
        have noBody : other.body = [] := List.length_eq_zero_iff.mp (by omega)
        have nothing : flat others = [] := List.length_eq_zero_iff.mp (by omega)
        rw [noBody, nothing, List.append_nil, List.append_nil] at same
        rw [same, ← first.2, noBody] at body
        exact absurd body (Nat.lt_irrefl 0)
  | cons frame frames ih =>
    have first := framed frame List.mem_cons_self
    rw [flat_cons, List.append_assoc, List.append_assoc] at same
    cases others with
    | nil =>
      have long := first.size_le (flat frames ++ held)
      rw [same, flat_nil, List.length_nil] at long
      omega
    | cons other others =>
      rw [flat_cons] at same
      obtain ⟨rfl, rest⟩ := first.head_eq (othersFramed other List.mem_cons_self) same
      obtain ⟨rfl, nothing⟩ := ih (fun frame mem => framed frame (List.mem_cons_of_mem _ mem))
        (fun frame mem => othersFramed frame (List.mem_cons_of_mem _ mem)) rest
      exact ⟨rfl, nothing⟩

theorem length_flat_filter_le (kept : Frame α → Bool) (frames : List (Frame α)) :
    (flat (frames.filter kept)).length ≤ (flat frames).length := by
  induction frames with
  | nil => exact Nat.le_refl _
  | cons frame frames ih =>
    rw [List.filter_cons]
    split
    · rw [flat_cons, flat_cons]
      simp only [List.length_append]
      omega
    · rw [flat_cons]
      simp only [List.length_append]
      omega

theorem filter_eq_of_length_flat (kept : Frame α → Bool) (framed : ∀ frame ∈ frames, format.Framed frame)
    (long : (flat frames).length ≤ (flat (frames.filter kept)).length) : frames.filter kept = frames := by
  have positive := format.positive
  induction frames with
  | nil => rfl
  | cons frame frames ih =>
    have first := framed frame List.mem_cons_self
    have shorter := length_flat_filter_le kept frames
    have tail := fun long => ih (fun frame mem => framed frame (List.mem_cons_of_mem _ mem)) long
    have heads := first.1
    by_cases keep : kept frame = true
    · rw [List.filter_cons_of_pos keep] at long ⊢
      rw [flat_cons, flat_cons] at long
      simp only [List.length_append] at long
      rw [tail (by omega)]
    · rw [List.filter_cons_of_neg keep, flat_cons] at long
      simp only [List.length_append] at long
      omega

end Frames

section Powers

variable {α : Type} {first : α} {others : List α} {text rest more : List α}

def Repeats (word text : List α) : Prop := text = (List.replicate (text.length / word.length) word).flatten

instance [DecidableEq α] (word text : List α) : Decidable (Repeats word text) := by
  unfold Repeats
  infer_instance

theorem repeats_flatten (word : List α) (nonempty : word ≠ []) (count : Nat) :
    Repeats word (List.replicate count word).flatten := by
  have positive : 0 < word.length := List.length_pos_iff.mpr nonempty
  rw [Repeats, List.length_flatten, List.map_replicate, List.sum_replicate_nat, Nat.mul_div_cancel _ positive]

theorem Repeats.exists_flatten {word : List α} (repeats : Repeats word text) :
    ∃ count, text = (List.replicate count word).flatten := ⟨_, repeats⟩

theorem flatten_replicate_comm (word : List α) (count : Nat) :
    word ++ (List.replicate count word).flatten = (List.replicate count word).flatten ++ word := by
  rw [← List.flatten_cons, ← List.replicate_succ, List.replicate_succ', List.flatten_append, List.flatten_singleton]

theorem Repeats.comm {word : List α} (repeats : Repeats word text) (count : Nat) :
    (List.replicate count word).flatten ++ text = text ++ (List.replicate count word).flatten := by
  obtain ⟨times, rfl⟩ := repeats.exists_flatten
  induction count with
  | zero => exact (List.append_nil _).symm
  | succ count ih =>
    rw [List.replicate_succ, List.flatten_cons, List.append_assoc, ih, ← List.append_assoc, flatten_replicate_comm,
      List.append_assoc]

theorem repeats_of_moved (once : first ∉ others) (count : Nat)
    (same : (first :: others) ++ ((List.replicate count (first :: others)).flatten ++ (text ++ rest)) =
      text ++ ((first :: others) ++ more)) : Repeats (first :: others) text := by
  -- the induction takes one copy of the word off the text
  suffices powers : ∃ times, text = (List.replicate times (first :: others)).flatten by
    obtain ⟨times, rfl⟩ := powers
    exact repeats_flatten _ (List.cons_ne_nil _ _) times
  induction size : text.length using Nat.strongRecOn generalizing text with
  | _ n ih =>
    by_cases empty : text = []
    · exact ⟨0, by rw [empty]; rfl⟩
    by_cases long : (first :: others).length ≤ text.length
    · obtain ⟨tail, rfl⟩ : first :: others <+: text :=
        List.prefix_of_prefix_length_le (List.prefix_append _ _) (same.symm ▸ List.prefix_append _ _) long
      rw [List.append_assoc, List.append_assoc, List.append_cancel_left_eq, ← List.append_assoc,
        ← flatten_replicate_comm, List.append_assoc] at same
      have shorter : tail.length < n := by
        rw [← size, List.length_append, List.length_cons]
        omega
      obtain ⟨times, rfl⟩ := ih _ shorter same rfl
      exact ⟨times + 1, by rw [List.replicate_succ, List.flatten_cons]⟩
    · -- the letter after a shorter text is one of the others on one side and the first one on the other
      exfalso
      apply once
      have inside : text.length - 1 < others.length := by
        rw [List.length_cons] at long
        have := List.length_pos_iff.mpr empty
        omega
      have position := List.length_pos_iff.mpr empty
      have letters := congrArg (fun letters => letters[text.length]?) same
      rw [List.getElem?_append_left (by rw [List.length_cons]; omega), List.getElem?_append_right (Nat.le_refl _), Nat.sub_self,
        List.cons_append, List.getElem?_cons_zero, List.getElem?_cons, if_neg (by omega)] at letters
      exact List.mem_of_getElem? letters

end Powers

end Framing
