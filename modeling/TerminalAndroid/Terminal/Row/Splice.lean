import TerminalAndroid.Terminal.Row.Scan

open Java Utf16

def RowRules.Exact (rules : RowRules) : Prop := ∀ x : Int, 0 ≤ x → x ≤ 32767 → rules.short x = x

theorem RowRules.java_exact : RowRules.java.Exact := fun _ lower upper => toShort_small lower upper

namespace TerminalRow

theorem run_shiftRight (row : TerminalRow) (kept tail spare : List Nat) (count : Nat)
    (text : row.mText = kept ++ tail ++ spare) (used : row.mSpaceUsed = (kept ++ tail).length)
    (room : count ≤ spare.length + row.mColumns) :
    ∃ gap spare', gap.length = count ∧
      (shiftRight kept.length (kept.length + count)).run row =
        .ok () { row with mText := kept ++ gap ++ tail ++ spare' } := by
  have after : row.mSpaceUsed - kept.length = (tail.length : Int) := by simp [used]
  have target : (kept.length : Int) + count = ((kept.length + count : Nat) : Int) := by simp
  have needed : row.mSpaceUsed + (((kept.length + count : Nat) : Int) - kept.length) =
      ((kept.length + count + tail.length : Nat) : Int) := by simp [used]; omega
  have read : (row.mText.drop kept.length).take tail.length = tail := by
    rw [text, List.append_assoc, List.drop_left, List.take_left]
  have length : row.mText.length = kept.length + tail.length + spare.length := by simp [text, Nat.add_assoc]
  unfold shiftRight
  simp only [EStateM.run_bind, EStateM.run_get, after, target, needed]
  by_cases grow : (row.mText.length : Int) < ((kept.length + count + tail.length : Nat) : Int)
  · have front : row.mText.take kept.length = kept := by
      rw [text, List.append_assoc, List.take_left]
    let fresh := List.replicate (row.mText.length + row.mColumns - kept.length) 0
    have first := run_arraycopy row.mText 0 (List.replicate (row.mText.length + row.mColumns) 0) 0 kept.length
      (by omega) (by simp; omega) row
    simp only [Nat.zero_add, List.drop_zero, front, List.take_zero, List.nil_append,
      List.drop_replicate] at first
    have second := run_arraycopy row.mText kept.length (kept ++ fresh) (kept.length + count) tail.length
      (by omega) (by simp [fresh]; omega) row
    rw [read, List.take_length_add_append] at second
    refine ⟨fresh.take count, (kept ++ fresh).drop (kept.length + count + tail.length),
      by simp [fresh]; omega, ?_⟩
    simp only [Nat.cast_zero] at first
    simp only [grow, if_true, EStateM.run_bind, first]
    rw [second]
    rfl
  · have copy := run_arraycopy row.mText kept.length row.mText (kept.length + count) tail.length
      (by omega) (by omega) row
    have front : row.mText.take (kept.length + count) = kept ++ (tail ++ spare).take count := by
      rw [text, List.append_assoc, List.take_length_add_append]
    rw [read, front] at copy
    refine ⟨(tail ++ spare).take count, row.mText.drop (kept.length + count + tail.length), ?_, ?_⟩
    · simp
      omega
    · simp only [grow, if_false, EStateM.run_bind]
      rw [copy]
      rfl

theorem run_shiftRight_cramped (row : TerminalRow) (kept tail spare : List Nat) (count : Nat)
    (text : row.mText = kept ++ tail ++ spare) (used : row.mSpaceUsed = (kept ++ tail).length)
    (cramped : spare.length + row.mColumns < count) :
    (shiftRight kept.length (kept.length + count)).run row = .error .indexOutOfBounds row := by
  have length : row.mText.length = kept.length + tail.length + spare.length := by simp [text, Nat.add_assoc]
  have grow : (row.mText.length : Int) < row.mSpaceUsed + ((kept.length : Int) + count - kept.length) := by
    rw [used, List.length_append]
    omega
  have first := run_arraycopy row.mText 0 (List.replicate (row.mText.length + row.mColumns) 0) 0 kept.length
    (by omega) (by simp; omega) row
  rw [Nat.cast_zero] at first
  unfold shiftRight
  simp only [EStateM.run_bind, EStateM.run_get, grow, if_true, first]
  rw [arraycopy, if_pos]
  · rfl
  · rw [used, List.length_append]
    simp only [List.length_append, List.length_drop, List.length_take, List.length_replicate, List.take_zero,
      List.length_nil]
    omega

theorem run_shiftLeft (row : TerminalRow) (kept removed tail spare : List Nat)
    (text : row.mText = kept ++ removed ++ tail ++ spare)
    (used : row.mSpaceUsed = (kept ++ removed ++ tail).length) :
    ∃ spare', (shiftLeft (kept.length + removed.length) kept.length).run row =
      .ok () { row with mText := kept ++ tail ++ spare' } := by
  have after : row.mSpaceUsed - ((kept.length + removed.length : Nat) : Int) = (tail.length : Int) := by
    simp [used]
  have source : (kept.length : Int) + removed.length = ((kept.length + removed.length : Nat) : Int) := by simp
  have length : row.mText.length = kept.length + removed.length + tail.length + spare.length := by
    simp [text, Nat.add_assoc]
  have read : (row.mText.drop (kept.length + removed.length)).take tail.length = tail := by
    rw [text, ← List.length_append, List.append_assoc (kept ++ removed), List.drop_left, List.take_left]
  have front : row.mText.take kept.length = kept := by
    rw [text, List.append_assoc, List.append_assoc, List.take_left]
  have copy := run_arraycopy row.mText (kept.length + removed.length) row.mText kept.length tail.length
    (by omega) (by omega) row
  rw [read, front] at copy
  refine ⟨row.mText.drop (kept.length + tail.length), ?_⟩
  unfold shiftLeft
  simp only [EStateM.run_bind, EStateM.run_get, after, source, copy, EStateM.run_set]

theorem run_storeChars (row : TerminalRow) {codePoint : Nat} (scalar : codePoint.isValidChar)
    (kept gap tail : List Nat) (text : row.mText = kept ++ gap ++ tail)
    (length : gap.length = charCount codePoint) :
    (storeChars codePoint kept.length).run row =
      .ok () { row with mText := kept ++ toChars codePoint ++ tail } := by
  have limit : codePoint ≤ 0x10FFFF := by
    simp only [Nat.isValidChar] at scalar
    omega
  unfold storeChars
  by_cases supplementary : 0x10000 ≤ codePoint
  · obtain ⟨a, b, rfl⟩ : ∃ a b, gap = [a, b] :=
      List.length_eq_two.mp (by rw [length]; simp [charCount, supplementary])
    have next : (kept.length : Int) + 1 = ((kept.length + 1 : Nat) : Int) := by simp
    have low := run_writeArray row.mText (kept.length + 1) (lowSurrogate codePoint)
      (by simp [text]) row
    have high := run_writeArray (row.mText.set (kept.length + 1) (lowSurrogate codePoint)) kept.length
      (highSurrogate codePoint) (by simp [text]) row
    simp only [EStateM.run_bind, EStateM.run_get, Nat.not_lt.mpr supplementary, if_false, limit, if_true,
      next, low, high, EStateM.run_set, toChars_supplementary supplementary]
    simp [text]
  · obtain ⟨a, rfl⟩ : ∃ a, gap = [a] :=
      List.length_eq_one_iff.mp (by rw [length]; simp [charCount, supplementary])
    have bmp : codePoint < 0x10000 := by omega
    have store := run_writeArray row.mText kept.length codePoint (by simp [text]) row
    simp only [EStateM.run_bind, EStateM.run_get, bmp, if_true, store, EStateM.run_set, toChars_bmp bmp]
    simp [text]

theorem run_replaceChars {row : TerminalRow} {codePoint : Nat} (scalar : codePoint.isValidChar) {kept removed tail spare : List Nat}
    (text : row.mText = kept ++ removed ++ tail ++ spare)
    (used : row.mSpaceUsed = (kept ++ removed ++ tail).length) (short : (kept ++ toChars codePoint ++ tail).length ≤ 32767)
    (room : charCount codePoint ≤ removed.length + spare.length + row.mColumns) :
    ∃ spare', ∀ rules : RowRules, rules.Exact →
      (replaceChars rules codePoint kept.length (kept.length + removed.length)
        (kept.length + charCount codePoint)).run row =
      .ok () { row with
        mText := kept ++ toChars codePoint ++ tail ++ spare'
        mSpaceUsed := ((kept ++ toChars codePoint ++ tail).length : Int) } := by
  have two := charCount_le_two codePoint
  have total : ∀ rules : RowRules, rules.Exact → rules.short (row.mSpaceUsed +
      ((kept.length : Int) + charCount codePoint - (kept.length + removed.length))) =
      ((kept ++ toChars codePoint ++ tail).length : Int) := by
    intro rules exact'
    have sum : row.mSpaceUsed + ((kept.length : Int) + charCount codePoint - (kept.length + removed.length)) =
        ((kept ++ toChars codePoint ++ tail).length : Int) := by
      simp only [used, List.length_append, toChars_length, Nat.cast_add]
      omega
    rw [sum]
    exact exact' _ (by omega) (by omega)
  rcases Nat.lt_trichotomy removed.length (charCount codePoint) with more | same | less
  · obtain ⟨gap, spare', gapLength, shifted⟩ := run_shiftRight row (kept ++ removed) tail spare
      (charCount codePoint - removed.length) text used (by omega)
    have source : ((kept ++ removed).length : Int) = kept.length + removed.length := by simp
    have target : ((kept ++ removed).length : Int) + ((charCount codePoint - removed.length : Nat) : Int) =
        kept.length + charCount codePoint := by
      simp only [List.length_append]
      omega
    rw [target, source] at shifted
    have stored := run_storeChars { row with
        mText := kept ++ removed ++ gap ++ tail ++ spare'
        mSpaceUsed := ((kept ++ toChars codePoint ++ tail).length : Int) }
      scalar kept (removed ++ gap) (tail ++ spare')
      (by simp) (by rw [List.length_append, gapLength]; omega)
    refine ⟨spare', fun rules exact' => ?_⟩
    have positive : 0 < (kept.length : Int) + charCount codePoint - (kept.length + removed.length) := by omega
    unfold replaceChars
    simp only [EStateM.run_bind, positive, if_true, shifted, addSpaceUsed, EStateM.run_modify, total rules exact']
    rw [stored]
    simp
  · have stored := run_storeChars { row with
        mSpaceUsed := ((kept ++ toChars codePoint ++ tail).length : Int) }
      scalar kept removed (tail ++ spare) (by simp [text]) same
    refine ⟨spare, fun rules exact' => ?_⟩
    have zero : (kept.length : Int) + charCount codePoint - (kept.length + removed.length) = 0 := by omega
    have total := total rules exact'
    rw [zero] at total
    unfold replaceChars
    simp only [EStateM.run_bind, zero, Int.lt_irrefl, if_false, addSpaceUsed, EStateM.run_modify, total]
    rw [stored]
    simp
  · obtain ⟨spare', shifted⟩ := run_shiftLeft row (kept ++ removed.take (charCount codePoint))
      (removed.drop (charCount codePoint)) tail spare (by simp [text]) (by simp [used])
    have source : ((kept ++ removed.take (charCount codePoint)).length : Int) +
        (removed.drop (charCount codePoint)).length = kept.length + removed.length := by
      simp only [List.length_append, List.length_take, List.length_drop]
      omega
    have target : ((kept ++ removed.take (charCount codePoint)).length : Int) =
        kept.length + charCount codePoint := by
      simp only [List.length_append, List.length_take]
      omega
    rw [source, target] at shifted
    have stored := run_storeChars { row with
        mText := kept ++ removed.take (charCount codePoint) ++ tail ++ spare'
        mSpaceUsed := ((kept ++ toChars codePoint ++ tail).length : Int) }
      scalar kept (removed.take (charCount codePoint)) (tail ++ spare')
      (by simp) (by simp; omega)
    refine ⟨spare', fun rules exact' => ?_⟩
    have negative : (kept.length : Int) + charCount codePoint - (kept.length + removed.length) < 0 := by omega
    have notPositive : ¬ 0 < (kept.length : Int) + charCount codePoint - (kept.length + removed.length) := by omega
    unfold replaceChars
    simp only [EStateM.run_bind, negative, notPositive, if_true, if_false, shifted, addSpaceUsed,
      EStateM.run_modify, total rules exact']
    rw [stored]
    simp

end TerminalRow
