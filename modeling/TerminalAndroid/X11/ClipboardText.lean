import Mathlib.Data.List.TakeWhile
import TerminalAndroid.Text.Utf8Masks

open Utf8

namespace Lorie.Clipboard

variable {utf : Nat → UInt8} {size ix n count max dst inLen : Nat} {b c : UInt8} {s rest conts : List UInt8}

def first (b : UInt8) : UInt8 := 0xc2 + if b > 0xbf then 1 else 0

def second (b : UInt8) : UInt8 := (b &&& 0x3f) + 0x80

section Check

def codeLength (utf : Nat → UInt8) (ix : Nat) : Option Nat :=
  if utf ix &&& 0x80 = 0 then some 1
  else if utf (ix + 1) &&& 0xc0 ≠ 0x80 then none
  else if utf ix &&& 0xe0 = 0xe0 then
    if utf (ix + 2) &&& 0xc0 ≠ 0x80 then none
    else if utf ix &&& 0xf0 = 0xf0 then
      if utf ix &&& 0xf8 ≠ 0xf0 ∨ utf (ix + 3) &&& 0xc0 ≠ 0x80 then none else some 4
    else some 3
  else some 2

theorem codeLength_pos (found : codeLength utf ix = some n) : 0 < n := by
  unfold codeLength at found
  grind

/-- `lorieCheckUTF8` from `ix` on; `utf` is the memory, which goes on after the `size` bytes. -/
def checkUTF8 (utf : Nat → UInt8) (size ix : Nat) : Bool :=
  if utf ix ≠ 0 ∧ ix < size then
    match _found : codeLength utf ix with
    | none => false
    | some n => checkUTF8 utf size (ix + n)
  else true
termination_by size - ix
decreasing_by
  have := codeLength_pos _found
  omega

def Announces (c : UInt8) (n : Nat) : Prop :=
  n = 1 ∧ c.toNat < 128 ∨ n = 2 ∧ 192 ≤ c.toNat ∧ c.toNat < 224 ∨ n = 3 ∧ 224 ≤ c.toNat ∧ c.toNat < 240 ∨
    n = 4 ∧ 240 ≤ c.toNat ∧ c.toNat < 248

def Continues (c : UInt8) : Prop := 128 ≤ c.toNat ∧ c.toNat < 192

def Followed (utf : Nat → UInt8) (ix n : Nat) : Prop := ∀ k ∈ [1, 2, 3], k < n → Continues (utf (ix + k))

/-- The bytes up to the first NUL or to `size` are codes; the flag says that each of them has a first byte and lies in
these bytes. -/
inductive Codes (utf : Nat → UInt8) (size : Nat) : Nat → Bool → Prop
  | stop {ix : Nat} (done : ¬ (utf ix ≠ 0 ∧ ix < size)) : Codes utf size ix true
  | code {ix n : Nat} {right : Bool} (more : utf ix ≠ 0 ∧ ix < size) (announced : Announces (utf ix) n)
      (followed : Followed utf ix n) (inside : ix + n ≤ size) (later : Codes utf size (ix + n) right) : Codes utf size ix right
  | stray {ix : Nat} {right : Bool} (more : utf ix ≠ 0 ∧ ix < size) (stray : Continues (utf ix))
      (followed : Followed utf ix 2) (later : Codes utf size (ix + 2) right) : Codes utf size ix false
  | outside {ix n : Nat} (more : utf ix ≠ 0 ∧ ix < size) (announced : Announces (utf ix) n)
      (followed : Followed utf ix n) (outside : size < ix + n) : Codes utf size ix false

theorem codeLength_iff : codeLength utf ix = some n ↔
    (Announces (utf ix) n ∨ n = 2 ∧ Continues (utf ix)) ∧ Followed utf ix n := by
  have top := (utf ix).toNat_lt
  simp only [codeLength, single_iff, ne_eq, continues_iff, three_bits_iff, four_bits_iff, starts_four_iff, Announces, Followed,
    Continues, List.forall_mem_cons, List.not_mem_nil, false_imp_iff, implies_true, and_true]
  grind

theorem Announces.unique {m : Nat} (one : Announces c n) (other : Announces c m) : n = m := by
  unfold Announces at one other
  omega

theorem Announces.not_continues (announced : Announces c n) : ¬ Continues c := by
  unfold Announces at announced
  unfold Continues
  omega

theorem Codes.not_both (right : Codes utf size ix true) : ¬ Codes utf size ix false := by
  intro wrong
  generalize flag : true = f at right
  induction right with
  | stop done =>
    cases wrong with
    | code more => exact done more
    | stray more => exact done more
    | outside more => exact done more
  | code more announced followed inside later ih =>
    cases wrong with
    | code _ announced' _ _ later' =>
      cases announced.unique announced'
      exact ih later' flag
    | stray _ stray => exact announced.not_continues stray
    | outside _ announced' _ outside =>
      cases announced.unique announced'
      exact absurd inside (Nat.not_le.mpr outside)
  | stray => cases flag
  | outside => cases flag

theorem checkUTF8_next (more : utf ix ≠ 0 ∧ ix < size) (found : codeLength utf ix = some n) :
    checkUTF8 utf size ix = checkUTF8 utf size (ix + n) := by
  rw [checkUTF8, if_pos more]
  split
  · next none => cases none.symm.trans found
  · next some =>
    cases some.symm.trans found
    rfl

theorem checkUTF8_of_codes {right : Bool} (codes : Codes utf size ix right) : checkUTF8 utf size ix = true := by
  induction codes with
  | stop done => rw [checkUTF8, if_neg done]
  | code more announced followed _ _ ih => rwa [checkUTF8_next more (codeLength_iff.mpr ⟨.inl announced, followed⟩)]
  | stray more stray followed _ ih => rwa [checkUTF8_next more (codeLength_iff.mpr ⟨.inr ⟨rfl, stray⟩, followed⟩)]
  | outside more announced followed outside =>
    rw [checkUTF8_next more (codeLength_iff.mpr ⟨.inl announced, followed⟩), checkUTF8, if_neg (by omega)]

theorem codes_of_checkUTF8 (passed : checkUTF8 utf size ix = true) : ∃ right, Codes utf size ix right := by
  induction ix using checkUTF8.induct utf size with
  | case1 ix more none =>
    rw [checkUTF8, if_pos more] at passed
    split at passed
    · cases passed
    · next some => cases none.symm.trans some
  | case2 ix more n found ih =>
    rw [checkUTF8_next more found] at passed
    rcases ih passed with ⟨right, codes⟩
    rcases codeLength_iff.mp found with ⟨announced | ⟨rfl, stray⟩, followed⟩
    · by_cases inside : ix + n ≤ size
      · exact ⟨right, .code more announced followed inside codes⟩
      · exact ⟨false, .outside more announced followed (Nat.not_le.mp inside)⟩
    · exact ⟨false, .stray more stray followed codes⟩
  | case3 ix done => exact ⟨true, .stop done⟩

/-- The check accepts just the well-formed texts unless the bytes are codes of which one begins with a continuation byte
or the last one is completed by what stands behind them. -/
theorem checkUTF8_iff (utf : Nat → UInt8) (size : Nat) :
    (checkUTF8 utf size 0 = true ↔ Codes utf size 0 true) ↔ ¬ Codes utf size 0 false := by
  constructor
  · intro same wrong
    exact (same.mp (checkUTF8_of_codes wrong)).not_both wrong
  · intro right
    apply Iff.intro _ checkUTF8_of_codes
    intro passed
    rcases codes_of_checkUTF8 passed with ⟨_ | _, codes⟩
    · exact absurd codes right
    · exact codes

theorem checkUTF8_passes_strays :
    let utf := fun i => if i < 2 then (0x80 : UInt8) else 0
    checkUTF8 utf 2 0 = true ∧ ¬ Codes utf 2 0 true := by
  have codes : Codes (fun i => if i < 2 then (0x80 : UInt8) else 0) 2 0 false :=
    .stray (by decide) (by unfold Continues; decide) (by unfold Followed Continues; decide) (.stop (by decide))
  exact ⟨checkUTF8_of_codes codes, fun right => right.not_both codes⟩

end Check

section Latin1

def lead (b : UInt8) : Option (Nat × Nat) :=
  if b &&& 0x80 = 0 then some (b.toNat, 0)
  else if b &&& 0xe0 = 0xc0 then some ((b &&& 0x1f).toNat, 1)
  else if b &&& 0xf0 = 0xe0 then some ((b &&& 0x0f).toNat, 2)
  else if b &&& 0xf8 = 0xf0 then some ((b &&& 0x07).toNat, 3)
  else none

/-- The loop over the announced bytes: the code point and how many bytes it consumes. A broken code consumes the byte
that breaks it, which may be the NUL. -/
def follow : Nat → Nat → Nat → List UInt8 → Nat × Nat
  | 0, _, dst, _ => (if 0xd800 ≤ dst ∧ dst < 0xe000 then 0xfffd else dst, 0)
  | _ + 1, _, _, [] => (0xfffd, 1)
  | count + 1, max, dst, b :: rest =>
    if max = 0 ∨ b &&& 0xc0 ≠ 0x80 then (0xfffd, 1)
    else
      let (ucs, consumed) := follow count (max - 1) (dst * 64 + (b &&& 0x3f).toNat) rest
      (ucs, consumed + 1)

def strays : Nat → List UInt8 → Nat
  | 0, _ => 0
  | _, [] => 0
  | max + 1, b :: rest => if b &&& 0xc0 = 0x80 then strays max rest + 1 else 0

/-- `lorieUtf8ToUCS4` where at least one byte may be read: the code point and how many bytes after `b` are consumed. -/
def utf8ToUCS4 (b : UInt8) (rest : List UInt8) (max : Nat) : Nat × Nat :=
  match lead b with
  | none => (0xfffd, strays (max - 1) rest)
  | some (dst, count) => follow count (max - 1) dst rest

def sizeModulus : Nat := 18446744073709551616

/-- A loop of `lorieUtf8ToLatin1` over the bytes before the NUL; there is no result once it has stepped over the NUL. -/
def convert (inLen : Nat) : List UInt8 → Option (List UInt8)
  | [] => some []
  | b :: rest =>
    if inLen = 0 then some []
    else
      let (ucs, consumed) := utf8ToUCS4 b rest inLen
      if rest.length < consumed then none
      else (convert ((inLen + sizeModulus - (consumed + 1)) % sizeModulus) (rest.drop consumed)).map
        ((if ucs > 0xff then 63 else .ofNat ucs) :: ·)
termination_by s => s.length
decreasing_by
  rw [List.length_drop, List.length_cons]
  omega

/-- `lorieUtf8ToLatin1`: the first loop counts, the second one writes, and `strdup` copies up to a 0. -/
def utf8ToLatin1 (src : List UInt8) : Option (List UInt8) :=
  (convert (sizeModulus - 1) src).bind fun _ => (convert 4294967295 src).map (·.takeWhile (· ≠ 0))

theorem lead_ascii (ascii : b < 128) : lead b = some (b.toNat, 0) :=
  if_pos ((single_iff b).mpr (UInt8.lt_iff_toNat_lt.mp ascii))

theorem convert_cons (more : inLen ≠ 0) {ucs consumed : Nat} (read : utf8ToUCS4 b rest inLen = (ucs, consumed))
    (inside : consumed ≤ rest.length) : convert inLen (b :: rest) =
      (convert ((inLen + sizeModulus - (consumed + 1)) % sizeModulus) (rest.drop consumed)).map
        ((if ucs > 0xff then 63 else .ofNat ucs) :: ·) := by
  rw [convert, if_neg more, read]
  exact if_neg (Nat.not_lt.mpr inside)

theorem remaining (small : inLen < sizeModulus) (enough : n ≤ inLen) : (inLen + sizeModulus - n) % sizeModulus = inLen - n := by
  unfold sizeModulus at *
  omega

section RoundTrip

def Holds (utf : Nat → UInt8) (ix : Nat) (text : List UInt8) : Prop := ∀ i b, text[i]? = some b → utf (ix + i) = b

theorem Holds.cons (holds : Holds utf ix (b :: s)) : utf ix = b ∧ Holds utf (ix + 1) s := by
  apply And.intro (holds 0 b rfl)
  intro i b' found
  have there := holds (i + 1) b' found
  rwa [← Nat.add_assoc, Nat.add_right_comm] at there

end RoundTrip

section Ascii

def ascii (s : List UInt8) : List UInt8 := s.filter (· < 128)

def payload (dst : Nat) (conts : List UInt8) : Nat := conts.foldl (fun value c => value * 64 + (c &&& 0x3f).toNat) dst

/-- No code encodes the NUL, and a code that is cut short is followed neither by an ASCII byte nor by the end. -/
inductive Readable : List UInt8 → Prop
  | nil : Readable []
  | stray {b : UInt8} {rest : List UInt8} (stray : lead b = none) (later : Readable rest) : Readable (b :: rest)
  | complete {b : UInt8} {dst : Nat} {conts rest : List UInt8} (announced : lead b = some (dst, conts.length))
      (continued : ∀ c ∈ conts, c &&& 0xc0 = 0x80) (nonzero : payload dst conts ≠ 0) (later : Readable rest) :
      Readable (b :: (conts ++ rest))
  | broken {b c : UInt8} {dst count : Nat} {conts rest : List UInt8} (announced : lead b = some (dst, count))
      (short : conts.length < count) (continued : ∀ c ∈ conts, c &&& 0xc0 = 0x80) (breaks : 192 ≤ c.toNat)
      (later : Readable rest) : Readable (b :: (conts ++ c :: rest))

theorem follow_complete (continued : ∀ c ∈ conts, c &&& 0xc0 = 0x80) (enough : conts.length ≤ max) :
    follow conts.length max dst (conts ++ rest) =
      (if 0xd800 ≤ payload dst conts ∧ payload dst conts < 0xe000 then 0xfffd else payload dst conts, conts.length) := by
  induction conts generalizing max dst with
  | nil => rfl
  | cons c conts ih =>
    rw [List.forall_mem_cons] at continued
    rw [List.length_cons] at enough
    rw [List.length_cons, List.cons_append, follow, if_neg (by simp [continued.1]; omega), ih continued.2 (by omega)]
    rfl

theorem follow_broken (max dst : Nat) (short : conts.length < count) (continued : ∀ c ∈ conts, c &&& 0xc0 = 0x80) (breaks : 192 ≤ c.toNat) :
    follow count max dst (conts ++ c :: rest) = (0xfffd, conts.length + 1) ∨ max ≤ conts.length := by
  induction conts generalizing max dst count with
  | nil =>
    rcases count with _ | count
    · cases short
    · left
      rw [List.nil_append, follow, if_pos (.inr (by rw [ne_eq, continues_iff]; omega))]
      rfl
  | cons d conts ih =>
    rw [List.forall_mem_cons] at continued
    rw [List.length_cons] at short ⊢
    rcases count with _ | count
    · cases short
    by_cases done : max = 0
    · omega
    rw [List.cons_append, follow, if_neg (by simp [continued.1, done])]
    rcases ih (max - 1) _ (Nat.lt_of_succ_lt_succ short) continued.2 with broken | enough
    · rw [broken]
      exact .inl rfl
    · omega

theorem lead_continues (continues : b &&& 0xc0 = 0x80) : lead b = none := by
  rw [continues_iff] at continues
  simp only [lead, single_iff, starts_two_iff, starts_three_iff, starts_four_iff]
  rw [if_neg (by omega), if_neg (by omega), if_neg (by omega), if_neg (by omega)]

theorem ascii_of_high (high : ∀ c ∈ s, 128 ≤ c.toNat) : ascii s = [] := by
  apply List.filter_eq_nil_iff.mpr
  intro c mem
  simpa [UInt8.lt_iff_toNat_lt] using high c mem

theorem Readable.drop_strays (max : Nat) (readable : Readable rest) : Readable (rest.drop (strays max rest)) ∧
    strays max rest ≤ rest.length ∧ ∀ c ∈ rest.take (strays max rest), 128 ≤ c.toNat := by
  fun_induction strays max rest with
  | case1 => simpa
  | case2 => simpa
  | case3 max b rest continues ih =>
    have later : Readable rest := by
      cases readable with
      | stray _ later => exact later
      | complete announced => cases announced.symm.trans (lead_continues continues)
      | broken announced => cases announced.symm.trans (lead_continues continues)
    rcases ih later with ⟨dropped, inside, high⟩
    refine ⟨dropped, Nat.succ_le_succ inside, List.forall_mem_cons.mpr ⟨?_, high⟩⟩
    exact ((continues_iff b).mp continues).1
  | case4 => simpa

theorem Readable.utf8ToUCS4 (readable : Readable (b :: rest)) (enough : rest.length < max) :
    ∃ ucs consumed, utf8ToUCS4 b rest max = (ucs, consumed) ∧ consumed ≤ rest.length ∧ Readable (rest.drop consumed) ∧
      ucs ≠ 0 ∧ (∀ c ∈ rest.take consumed, 128 ≤ c.toNat) ∧ (b < 128 → ucs = b.toNat) := by
  unfold Clipboard.utf8ToUCS4
  have high : ∀ {conts : List UInt8}, (∀ c ∈ conts, c &&& 0xc0 = 0x80) → ∀ c ∈ conts, 128 ≤ c.toNat :=
    fun continued c mem => ((continues_iff c).mp (continued c mem)).1
  cases readable with
  | stray stray later =>
    rw [stray]
    rcases later.drop_strays (max - 1) with ⟨dropped, inside, high⟩
    exact ⟨_, _, rfl, inside, dropped, by decide, high, fun low => by cases stray.symm.trans (lead_ascii low)⟩
  | @complete _ dst conts rest announced continued nonzero later =>
    rw [List.length_append] at enough
    simp only [announced, follow_complete continued (by omega : conts.length ≤ max - 1)]
    refine ⟨_, _, rfl, by simp, by simpa, by split <;> omega, by simpa using high continued, fun low => ?_⟩
    have zero : dst = b.toNat ∧ conts.length = 0 := by simpa [announced] using lead_ascii low
    have small : b.toNat < 128 := UInt8.lt_iff_toNat_lt.mp low
    rw [List.eq_nil_of_length_eq_zero zero.2, payload, List.foldl_nil, zero.1, if_neg (by omega)]
  | @broken _ c dst count conts rest announced short continued breaks later =>
    rw [List.length_append, List.length_cons] at enough
    simp only [announced]
    rcases follow_broken (max - 1) dst short continued breaks with broken | done
    · rw [broken]
      have length : conts.length + 1 = (conts ++ [c]).length := by simp
      rw [List.append_cons, length]
      refine ⟨_, _, rfl, by simp, by rwa [List.drop_left], by decide, ?_, fun low => ?_⟩
      · rw [List.take_left, List.forall_mem_append]
        exact ⟨high continued, by simp; omega⟩
      · have zero : dst = b.toNat ∧ count = 0 := by simpa [announced] using lead_ascii low
        omega
    · omega

theorem Readable.convert (readable : Readable s) (small : inLen < sizeModulus) (enough : s.length ≤ inLen) :
    ∃ out, convert inLen s = some out ∧ 0 ∉ out ∧ (ascii s).Sublist out := by
  induction length : s.length using Nat.strongRecOn generalizing s inLen with
  | ind _ ih =>
    subst length
    rcases s with _ | ⟨b, rest⟩
    · exact ⟨[], by rw [Clipboard.convert], List.not_mem_nil, List.Sublist.refl _⟩
    rw [List.length_cons] at enough
    obtain ⟨ucs, consumed, read, inside, later, nonzero, high, same⟩ := readable.utf8ToUCS4 enough
    obtain ⟨out, converted, nul, sub⟩ := ih _ (by rw [List.length_drop, List.length_cons]; omega) later
      (Nat.lt_of_le_of_lt (Nat.sub_le inLen (consumed + 1)) small) (by rw [List.length_drop]; omega) rfl
    rw [convert_cons (by omega) read inside, remaining small (by omega), converted]
    refine ⟨_, rfl, fun mem => ?_, ?_⟩
    · rcases List.mem_cons.mp mem with zero | mem
      · split at zero
        · cases zero
        · have value := congrArg UInt8.toNat zero
          simp at value
          omega
      · exact nul mem
    · have split : ascii rest = ascii (rest.take consumed) ++ ascii (rest.drop consumed) := by
        rw [ascii, ascii, ascii, ← List.filter_append, List.take_append_drop]
      rw [ascii_of_high high, List.nil_append] at split
      by_cases low : b < 128
      · have value : b.toNat < 128 := UInt8.lt_iff_toNat_lt.mp low
        rw [same low, if_neg (by omega), UInt8.ofNat_toNat, ascii, List.filter_cons_of_pos (by simpa), ← ascii, split]
        exact sub.cons_cons b
      · rw [ascii, List.filter_cons_of_neg (by simpa using low), ← ascii, split]
        exact sub.cons _

/-- A readable text of at most 4294967295 bytes is read up to its NUL, and none of its ASCII bytes is lost. -/
theorem utf8ToLatin1_keeps_ascii (readable : Readable s) (short : s.length ≤ 4294967295) :
    ∃ out, utf8ToLatin1 s = some out ∧ (ascii s).Sublist out := by
  rcases readable.convert (by decide : sizeModulus - 1 < sizeModulus) (by unfold sizeModulus; omega) with ⟨_, counted, -⟩
  rcases readable.convert (by decide : 4294967295 < sizeModulus) short with ⟨out, converted, nul, sub⟩
  refine ⟨out, ?_, sub⟩
  have whole : out.takeWhile (· ≠ 0) = out :=
    List.takeWhile_eq_self_iff.mpr fun c mem => decide_eq_true fun zero => nul (zero ▸ mem)
  rw [utf8ToLatin1, counted, converted, Option.bind_some, Option.map_some, whole]

theorem utf8ToLatin1_keeps_ascii_text : ∃ out, utf8ToLatin1 [195, 169, 66] = some out ∧ [66].Sublist out :=
  utf8ToLatin1_keeps_ascii (@Readable.complete 195 3 [169] [66] (by decide) (List.forall_mem_singleton.mpr (by decide)) (by decide)
    (@Readable.complete 66 66 [] [] (by decide) (List.forall_mem_nil _) (by decide) .nil)) (by decide)

/-- A code that is cut short swallows the `A` after it, or the NUL. -/
theorem utf8ToLatin1_loses : utf8ToLatin1 [195, 65] = some [63] ∧ utf8ToLatin1 [195] = none := by
  have announced : lead 195 = some (3, 1) := by decide
  have breaks : ¬ (65 : UInt8) &&& 0xc0 = 0x80 := by decide
  simp [utf8ToLatin1, convert, utf8ToUCS4, announced, follow, breaks, sizeModulus]

end Ascii

end Latin1

end Lorie.Clipboard
