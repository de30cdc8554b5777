import Mathlib

namespace Utf16

def isHighSurrogate (c : Nat) : Bool := 0xD800 ≤ c && c ≤ 0xDBFF

def isLowSurrogate (c : Nat) : Bool := 0xDC00 ≤ c && c ≤ 0xDFFF

/-- For a high surrogate the sum `(high << 10) + low + 0x10000 - (0xD800 << 10) - 0xDC00`:
    `0xD800` is a multiple of `0x400`, and `0x2400` is `0x10000 - 0xDC00`. -/
def toCodePoint (high low : Nat) : Nat := high % 0x400 * 0x400 + low + 0x2400

def charCount (codePoint : Nat) : Nat := if 0x10000 ≤ codePoint then 2 else 1

def highSurrogate (codePoint : Nat) : Nat := codePoint / 0x400 + 0xD7C0

def lowSurrogate (codePoint : Nat) : Nat := codePoint % 0x400 + 0xDC00

def toChars (codePoint : Nat) : List Nat :=
  if 0x10000 ≤ codePoint then [highSurrogate codePoint, lowSurrogate codePoint] else [codePoint]

/-- The code points of a text, an unpaired surrogate standing for itself. A high surrogate takes
    the next unit whatever it is, as a scan that does not check for the low half does. -/
def decode : List Nat → List Nat
  | [] => []
  | [c] => [c]
  | c :: d :: rest =>
    if isHighSurrogate c then toCodePoint c d :: decode rest else c :: decode (d :: rest)

/-- Every unit is a 16-bit value, every high surrogate is followed by a low one and no low
    surrogate stands alone. -/
def Paired : List Nat → Prop
  | [] => True
  | [c] => c < 0x10000 ∧ isHighSurrogate c = false ∧ isLowSurrogate c = false
  | c :: d :: rest =>
    if isHighSurrogate c then isLowSurrogate d = true ∧ Paired rest
    else c < 0x10000 ∧ isLowSurrogate c = false ∧ Paired (d :: rest)

instance decidablePaired : (text : List Nat) → Decidable (Paired text)
  | [] => isTrue trivial
  | [c] => inferInstanceAs (Decidable (c < 0x10000 ∧ isHighSurrogate c = false ∧ isLowSurrogate c = false))
  | c :: d :: rest =>
    have := decidablePaired rest
    have := decidablePaired (d :: rest)
    inferInstanceAs (Decidable (if isHighSurrogate c then isLowSurrogate d = true ∧ Paired rest
      else c < 0x10000 ∧ isLowSurrogate c = false ∧ Paired (d :: rest)))

variable {codePoint : Nat}

theorem toChars_bmp (bmp : codePoint < 0x10000) : toChars codePoint = [codePoint] := by
  simp [toChars, Nat.not_le.mpr bmp]

theorem toChars_supplementary (supplementary : 0x10000 ≤ codePoint) :
    toChars codePoint = [highSurrogate codePoint, lowSurrogate codePoint] := by
  simp [toChars, supplementary]

theorem toChars_length (codePoint : Nat) : (toChars codePoint).length = charCount codePoint := by
  unfold toChars charCount
  split <;> rfl

theorem charCount_pos (codePoint : Nat) : 0 < charCount codePoint := by
  unfold charCount
  split <;> omega

theorem charCount_le_two (codePoint : Nat) : charCount codePoint ≤ 2 := by
  unfold charCount
  split <;> omega

theorem isHighSurrogate_iff (c : Nat) : isHighSurrogate c = true ↔ 0xD800 ≤ c ∧ c ≤ 0xDBFF := by
  simp [isHighSurrogate]

theorem isLowSurrogate_iff (c : Nat) : isLowSurrogate c = true ↔ 0xDC00 ≤ c ∧ c ≤ 0xDFFF := by
  simp [isLowSurrogate]

theorem isHighSurrogate_bmp (scalar : codePoint.isValidChar)
    (bmp : codePoint < 0x10000) : isHighSurrogate codePoint = false := by
  rw [← Bool.not_eq_true, isHighSurrogate_iff]
  simp only [Nat.isValidChar] at scalar
  omega

theorem isLowSurrogate_bmp (scalar : codePoint.isValidChar)
    (bmp : codePoint < 0x10000) : isLowSurrogate codePoint = false := by
  rw [← Bool.not_eq_true, isLowSurrogate_iff]
  simp only [Nat.isValidChar] at scalar
  omega

theorem isHighSurrogate_highSurrogate (scalar : codePoint.isValidChar)
    (supplementary : 0x10000 ≤ codePoint) : isHighSurrogate (highSurrogate codePoint) = true := by
  rw [isHighSurrogate_iff]
  simp only [Nat.isValidChar] at scalar
  unfold highSurrogate
  omega

theorem isLowSurrogate_lowSurrogate (codePoint : Nat) :
    isLowSurrogate (lowSurrogate codePoint) = true := by
  rw [isLowSurrogate_iff]
  unfold lowSurrogate
  omega

theorem toCodePoint_surrogates (scalar : codePoint.isValidChar)
    (supplementary : 0x10000 ≤ codePoint) :
    toCodePoint (highSurrogate codePoint) (lowSurrogate codePoint) = codePoint := by
  simp only [Nat.isValidChar] at scalar
  unfold toCodePoint highSurrogate lowSurrogate
  omega

theorem toCodePoint_valid {high low : Nat} (h : isHighSurrogate high = true)
    (l : isLowSurrogate low = true) :
    (toCodePoint high low).isValidChar ∧ 0x10000 ≤ toCodePoint high low ∧
      toChars (toCodePoint high low) = [high, low] := by
  rw [isHighSurrogate_iff] at h
  rw [isLowSurrogate_iff] at l
  have supplementary : 0x10000 ≤ toCodePoint high low := by
    unfold toCodePoint
    omega
  have upper : toCodePoint high low < 0x110000 := by
    unfold toCodePoint
    omega
  have first : highSurrogate (toCodePoint high low) = high := by
    unfold toCodePoint highSurrogate
    omega
  have second : lowSurrogate (toCodePoint high low) = low := by
    unfold toCodePoint lowSurrogate
    omega
  refine ⟨?_, supplementary, ?_⟩
  · simp only [Nat.isValidChar]
    omega
  · rw [toChars_supplementary supplementary, first, second]

theorem decode_append (scalar : codePoint.isValidChar) (rest : List Nat) :
    decode (toChars codePoint ++ rest) = codePoint :: decode rest := by
  by_cases supplementary : 0x10000 ≤ codePoint
  · rw [toChars_supplementary supplementary]
    simp only [List.cons_append, List.nil_append, decode,
      isHighSurrogate_highSurrogate scalar supplementary, if_true,
      toCodePoint_surrogates scalar supplementary]
  · have bmp : codePoint < 0x10000 := by omega
    rw [toChars_bmp bmp]
    cases rest with
    | nil => rfl
    | cons d rest => simp [decode, isHighSurrogate_bmp scalar bmp]

theorem decode_flatMap {codePoints : List Nat} (scalars : ∀ c ∈ codePoints, c.isValidChar) :
    decode (codePoints.flatMap toChars) = codePoints := by
  induction codePoints with
  | nil => rfl
  | cons c codePoints ih =>
    rw [List.flatMap_cons, decode_append (scalars c (by simp)),
      ih (fun d member => scalars d (List.mem_cons_of_mem _ member))]

theorem paired_append (scalar : codePoint.isValidChar) (rest : List Nat) :
    Paired (toChars codePoint ++ rest) ↔ Paired rest := by
  by_cases supplementary : 0x10000 ≤ codePoint
  · rw [toChars_supplementary supplementary]
    simp [Paired, isHighSurrogate_highSurrogate scalar supplementary, isLowSurrogate_lowSurrogate]
  · have bmp : codePoint < 0x10000 := by omega
    rw [toChars_bmp bmp]
    cases rest <;> simp [Paired, isHighSurrogate_bmp scalar bmp, isLowSurrogate_bmp scalar bmp, bmp]

theorem paired_flatMap {codePoints : List Nat} (scalars : ∀ c ∈ codePoints, c.isValidChar) :
    Paired (codePoints.flatMap toChars) := by
  induction codePoints with
  | nil => trivial
  | cons c codePoints ih =>
    rw [List.flatMap_cons, paired_append (scalars c (by simp))]
    exact ih (fun d member => scalars d (List.mem_cons_of_mem _ member))

theorem paired_encoded {text : List Nat} (paired : Paired text) :
    (∀ c ∈ decode text, c.isValidChar) ∧ (decode text).flatMap toChars = text := by
  induction text using decode.induct with
  | case1 => simp [decode]
  | case2 c =>
    obtain ⟨bound, high, low⟩ := paired
    rw [← Bool.not_eq_true, isHighSurrogate_iff] at high
    rw [← Bool.not_eq_true, isLowSurrogate_iff] at low
    simp only [decode, List.mem_singleton, forall_eq, List.flatMap_singleton, toChars_bmp bound,
      Nat.isValidChar, and_true]
    omega
  | case3 c d rest high ih =>
    simp only [Paired, high, if_true] at paired
    obtain ⟨scalars, encoded⟩ := ih paired.2
    have pair := toCodePoint_valid high paired.1
    simp only [decode, high, if_true]
    refine ⟨?_, ?_⟩
    · intro x member
      rcases List.mem_cons.mp member with rfl | member
      · exact pair.1
      · exact scalars x member
    · simp only [List.flatMap_cons, encoded, pair.2.2, List.cons_append, List.nil_append]
  | case4 c d rest high ih =>
    simp only [Bool.not_eq_true] at high
    simp only [Paired, high, Bool.false_eq_true, if_false] at paired
    obtain ⟨bound, low, tail⟩ := paired
    obtain ⟨scalars, encoded⟩ := ih tail
    simp only [decode, high, Bool.false_eq_true, if_false]
    refine ⟨?_, ?_⟩
    · intro x member
      rcases List.mem_cons.mp member with rfl | member
      · rw [← Bool.not_eq_true, isHighSurrogate_iff] at high
        rw [← Bool.not_eq_true, isLowSurrogate_iff] at low
        simp only [Nat.isValidChar]
        omega
      · exact scalars x member
    · rw [List.flatMap_cons, encoded, toChars_bmp bound]
      rfl

end Utf16
