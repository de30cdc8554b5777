import TerminalAndroid.Emulator.Runs

open Java

def IsHex (x : Nat) : Prop :=
  ('0'.toNat ≤ x ∧ x ≤ '9'.toNat) ∨ ('a'.toNat ≤ x ∧ x ≤ 'f'.toNat) ∨ ('A'.toNat ≤ x ∧ x ≤ 'F'.toNat)

instance : DecidablePred IsHex := fun _ => inferInstanceAs (Decidable (_ ∨ _))

def Host.ReadsHex (host : Host) : Prop := ∀ x, IsHex x → ∃ digit < 16, host.digit x 16 = some digit

namespace Host

variable {host : Host}

theorem parseDigits_hex (reads : host.ReadsHex) {text : List Nat} (hex : ∀ x ∈ text, IsHex x) (value : Nat) :
    ∃ result, host.parseDigits 16 text value = some result ∧ result < (value + 1) * 16 ^ text.length := by
  induction text generalizing value with
  | nil => exact ⟨value, rfl, by simp⟩
  | cons x text ih =>
    rw [List.forall_mem_cons] at hex
    obtain ⟨digit, small, read⟩ := reads x hex.1
    obtain ⟨result, parsed, bound⟩ := ih hex.2 (value * 16 + digit)
    refine ⟨result, ?_, Nat.lt_of_lt_of_le bound ?_⟩
    · rw [parseDigits, read]
      exact parsed
    · rw [List.length_cons, Nat.pow_succ', ← Nat.mul_assoc]
      exact Nat.mul_le_mul_right _ (by omega)

theorem parseInt_hex (reads : host.ReadsHex) {text : List Nat} (some : text ≠ []) (short : text.length ≤ 4)
    (hex : ∀ x ∈ text, IsHex x) : (host.parseInt 16 text).isSome = true := by
  obtain ⟨result, parsed, bound⟩ := parseDigits_hex reads hex 0
  have small : result < 16 ^ 4 := by
    rw [Nat.zero_add, Nat.one_mul] at bound
    exact Nat.lt_of_lt_of_le bound (Nat.pow_le_pow_right (by decide) short)
  cases text with
  | nil => exact absurd rfl some
  | cons c rest =>
    have digit : IsHex c := hex c (List.mem_cons_self ..)
    have unsigned : ¬ (c = '-'.toNat ∨ c = '+'.toNat) := by
      rintro (rfl | rfl) <;> exact absurd digit (by decide)
    have minus : c ≠ '-'.toNat := fun minus => unsigned (Or.inl minus)
    unfold parseInt
    dsimp only
    rw [if_neg unsigned, if_neg (List.cons_ne_nil c rest), parsed, Option.bind_some, if_neg minus, if_pos (by omega)]
    rfl

end Host

namespace TerminalColors

variable {host : Host} {k : Nat} {separators r g b c : List Nat}

/-- Three groups of one length, with the characters that stand between them. -/
inductive Groups (k : Nat) (r g b : List Nat) : List Nat → List Nat → Prop
  | sharp : r.length = k → g.length = k → b.length = k → Groups k r g b [] ('#'.toNat :: (r ++ (g ++ b)))
  | rgb (first second : Nat) : r.length = k → g.length = k → b.length = k →
    Groups k r g b [first, second] (TerminalEmulator.chars "rgb:" ++ (r ++ first :: (g ++ second :: b)))

/-- The specifications that the comments of `parse` give. -/
def ColorSpec (c : List Nat) : Prop :=
  ∃ k separators r g b, Groups k r g b separators c ∧ (1 ≤ k ∧ k ≤ 4) ∧ (∀ x ∈ separators, x = '/'.toNat) ∧
    ∀ x ∈ r ++ g ++ b, IsHex x

/-- `Integer.parseInt` reads the three groups. -/
def Readable (host : Host) (r g b : List Nat) : Prop :=
  (host.parseInt 16 r).isSome = true ∧ (host.parseInt 16 g).isSome = true ∧ (host.parseInt 16 b).isSome = true

theorem component_isSome (host : Host) (length : Int) (text : List Nat) :
    (component host length text).isSome = (host.parseInt 16 text).isSome := by
  unfold component
  rw [Option.isSome_map]
  cases host.parseInt 16 text <;> rfl

def color (r g b : Int) : BitVec 32 :=
  (0xFF : BitVec 32) <<< 24 ||| BitVec.ofInt 32 r <<< 16 ||| BitVec.ofInt 32 g <<< 8 ||| BitVec.ofInt 32 b

theorem color_top (r g b : Int) : color r g b >>> 24 = 0xFF := by
  have filled : ∀ v : BitVec 32, ((0xFF : BitVec 32) <<< 24 ||| v) >>> 24 = 0xFF := by
    intro v
    apply BitVec.eq_of_getLsbD_eq
    intro i inside
    rw [BitVec.getLsbD_ushiftRight, BitVec.getLsbD_or]
    by_cases low : i < 8
    · have set : ((0xFF : BitVec 32) <<< 24).getLsbD (24 + i) = true := by
        interval_cases i <;> rfl
      have set' : (0xFF : BitVec 32).getLsbD i = true := by
        interval_cases i <;> rfl
      rw [set, set', Bool.true_or]
    · have clear : (0xFF : BitVec 32).getLsbD i = false := by
        interval_cases i <;> rfl
      rw [BitVec.getLsbD_of_ge _ _ (by omega), BitVec.getLsbD_of_ge _ _ (by omega), clear]
      rfl
  unfold color
  rw [BitVec.or_assoc, BitVec.or_assoc]
  exact filled _

theorem color_ne_zero (r g b : Int) : color r g b ≠ 0 := by
  intro zero
  have top := color_top r g b
  rw [zero] at top
  exact absurd top (by decide)

def parseGroups (host : Host) (c : List Nat) (skipInitial skipBetween : Int) : Option (BitVec 32) :=
  let charsForColors := c.length - skipInitial - 2 * skipBetween
  if charsForColors.tmod 3 ≠ 0 then some 0
  else
    let componentLength := charsForColors.tdiv 3
    let position1 := skipInitial + componentLength + skipBetween
    let position2 := position1 + componentLength + skipBetween
    (substring c skipInitial (skipInitial + componentLength)).toOption.bind fun rString =>
    (substring c position1 (position1 + componentLength)).toOption.bind fun gString =>
    (substring c position2 (position2 + componentLength)).toOption.bind fun bString =>
    (component host componentLength rString).bind fun red =>
    (component host componentLength gString).bind fun green =>
    (component host componentLength bString).bind fun blue => some (color red green blue)

theorem parseColor_sharp (host : Host) (rest : List Nat) :
    parseColor host ('#'.toNat :: rest) = parseGroups host ('#'.toNat :: rest) 1 0 := rfl

theorem parseColor_rgb (host : Host) (rest : List Nat) : parseColor host (TerminalEmulator.chars "rgb:" ++ rest) =
    parseGroups host (TerminalEmulator.chars "rgb:" ++ rest) 4 1 := by
  unfold parseColor
  rfl

theorem parseColor_other (host : Host) {c : List Nat} (sharp : c.head? ≠ some '#'.toNat)
    (rgb : ¬ TerminalEmulator.chars "rgb:" <+: c) : parse host c = 0 := by
  unfold parse parseColor
  cases c with
  | nil => rfl
  | cons x rest =>
    have first : x ≠ '#'.toNat := fun same => sharp (by rw [same]; rfl)
    have second : ¬ (TerminalEmulator.chars "rgb:").isPrefixOf (x :: rest) = true := by
      rw [List.isPrefixOf_iff_prefix]
      exact rgb
    simp only [List.head?_cons, Option.bind_eq_bind, Option.bind_some, if_neg first, if_neg second]
    rfl

theorem parseGroups_eq {before between after : List Nat} {skipInitial skipBetween : Int} (host : Host)
    (whole : c = before ++ (r ++ (between ++ (g ++ (after ++ b))))) (initial : skipInitial = before.length)
    (one : skipBetween = between.length) (two : skipBetween = after.length) (first : r.length = k) (second : g.length = k)
    (third : b.length = k) :
    parseGroups host c skipInitial skipBetween = (component host k r).bind fun red =>
      (component host k g).bind fun green => (component host k b).bind fun blue => some (color red green blue) := by
  have length : (c.length : Int) - skipInitial - 2 * skipBetween = 3 * k := by
    rw [whole]
    simp only [List.length_append]
    omega
  have red : substring c skipInitial (skipInitial + k) = .ok r := by
    rw [whole]
    exact substring_middle initial (by omega)
  have green : substring c (skipInitial + k + skipBetween) (skipInitial + k + skipBetween + k) = .ok g := by
    have split : c = before ++ r ++ between ++ (g ++ (after ++ b)) := by simp [whole]
    rw [split]
    exact substring_middle (by simp only [List.length_append]; omega) (by simp only [List.length_append]; omega)
  have blue : substring c (skipInitial + k + skipBetween + k + skipBetween)
      (skipInitial + k + skipBetween + k + skipBetween + k) = .ok b := by
    have split : c = before ++ r ++ between ++ g ++ after ++ (b ++ []) := by simp [whole]
    rw [split]
    exact substring_middle (by simp only [List.length_append]; omega) (by simp only [List.length_append]; omega)
  have none : (3 * (k : Int)).tmod 3 = 0 := Int.mul_tmod_right 3 k
  have each : (3 * (k : Int)).tdiv 3 = k := Int.mul_tdiv_cancel_left _ (by decide)
  unfold parseGroups
  rw [length]
  dsimp only
  rw [if_neg (by rw [none]; decide), each, red, green, blue]
  rfl

theorem Groups.lengths (groups : Groups k r g b separators c) : r.length = k ∧ g.length = k ∧ b.length = k := by
  cases groups with
  | sharp first second third => exact ⟨first, second, third⟩
  | rgb _ _ first second third => exact ⟨first, second, third⟩

theorem Groups.unique {k' : Nat} {separators' r' g' b' : List Nat} (groups : Groups k r g b separators c)
    (groups' : Groups k' r' g' b' separators' c) :
    k = k' ∧ separators = separators' ∧ r = r' ∧ g = g' ∧ b = b' := by
  obtain ⟨first, second, third⟩ := groups.lengths
  obtain ⟨first', second', third'⟩ := groups'.lengths
  cases groups with
  | sharp =>
    generalize whole : '#'.toNat :: (r ++ (g ++ b)) = c at groups'
    cases groups' with
    | sharp =>
      have same := List.tail_eq_of_cons_eq whole
      have length := congrArg List.length same
      simp only [List.length_append] at length
      have size : k = k' := by omega
      obtain ⟨rfl, rest⟩ := List.append_inj same (by rw [first, first', size])
      obtain ⟨rfl, rfl⟩ := List.append_inj rest (by rw [second, second', size])
      exact ⟨size, rfl, rfl, rfl, rfl⟩
    | rgb => exact absurd (List.head_eq_of_cons_eq whole) (by decide)
  | rgb s₁ s₂ =>
    generalize whole : TerminalEmulator.chars "rgb:" ++ (r ++ s₁ :: (g ++ s₂ :: b)) = c at groups'
    cases groups' with
    | sharp => exact absurd (List.head_eq_of_cons_eq whole) (by decide)
    | rgb s₁' s₂' =>
      have same := List.append_cancel_left whole
      have length := congrArg List.length same
      simp only [List.length_append, List.length_cons] at length
      have size : k = k' := by omega
      obtain ⟨rfl, rest⟩ := List.append_inj same (by rw [first, first', size])
      obtain ⟨rfl, behind⟩ := List.cons_eq_cons.mp rest
      obtain ⟨rfl, last⟩ := List.append_inj behind (by rw [second, second', size])
      obtain ⟨rfl, rfl⟩ := List.cons_eq_cons.mp last
      exact ⟨size, rfl, rfl, rfl, rfl⟩

theorem Groups.parseColor_eq (groups : Groups k r g b separators c) (host : Host) :
    parseColor host c = (component host k r).bind fun red => (component host k g).bind fun green =>
      (component host k b).bind fun blue => some (color red green blue) := by
  cases groups with
  | sharp first second third =>
    rw [parseColor_sharp]
    exact @parseGroups_eq k r g b _ ['#'.toNat] [] [] 1 0 host rfl rfl rfl rfl first second third
  | rgb s₁ s₂ first second third =>
    rw [parseColor_rgb]
    exact @parseGroups_eq k r g b _ (TerminalEmulator.chars "rgb:") [s₁] [s₂] 4 1 host rfl rfl rfl rfl first second third

theorem exists_thirds {rest : List Nat} (size : rest.length = 3 * k) :
    ∃ r g b, rest = r ++ (g ++ b) ∧ r.length = k ∧ g.length = k ∧ b.length = k := by
  refine ⟨rest.take k, (rest.drop k).take k, (rest.drop k).drop k, ?_, ?_, ?_, ?_⟩
  · rw [List.take_append_drop, List.take_append_drop]
  all_goals
    simp only [List.length_take, List.length_drop]
    omega

theorem exists_separated {rest : List Nat} (size : rest.length = 3 * k + 2) :
    ∃ r g b s₁ s₂, rest = r ++ s₁ :: (g ++ s₂ :: b) ∧ r.length = k ∧ g.length = k ∧ b.length = k := by
  obtain ⟨s₁, tail, first⟩ := List.exists_cons_of_length_pos (l := rest.drop k) (by rw [List.length_drop]; omega)
  have tailSize : tail.length = 2 * k + 1 := by
    have := congrArg List.length first
    simp only [List.length_drop, List.length_cons] at this
    omega
  obtain ⟨s₂, last, second⟩ := List.exists_cons_of_length_pos (l := tail.drop k) (by rw [List.length_drop]; omega)
  have lastSize : last.length = k := by
    have := congrArg List.length second
    simp only [List.length_drop, List.length_cons] at this
    omega
  refine ⟨rest.take k, tail.take k, last, s₁, s₂, ?_, ?_, ?_, lastSize⟩
  · rw [← second, List.take_append_drop, ← first, List.take_append_drop]
  all_goals
    rw [List.length_take]
    omega

theorem length_of_parseGroups {skipInitial skipBetween : Int} (accepted : (parseGroups host c skipInitial skipBetween).getD 0 ≠ 0) :
    3 ∣ (c.length : Int) - skipInitial - 2 * skipBetween := by
  apply Int.dvd_of_tmod_eq_zero
  by_contra uneven
  unfold parseGroups at accepted
  dsimp only at accepted
  rw [if_pos uneven] at accepted
  exact accepted rfl

theorem exists_groups (accepted : parse host c ≠ 0) : ∃ k separators r g b, Groups k r g b separators c := by
  unfold parse at accepted
  by_cases sharp : c.head? = some '#'.toNat
  · obtain ⟨rest, rfl⟩ : ∃ rest, c = '#'.toNat :: rest := List.head?_eq_some_iff.mp sharp
    have even := length_of_parseGroups accepted
    rw [List.length_cons] at even
    obtain ⟨k, size⟩ : ∃ k, rest.length = 3 * k := ⟨rest.length / 3, by omega⟩
    obtain ⟨r, g, b, rfl, first, second, third⟩ := exists_thirds size
    exact ⟨k, [], r, g, b, .sharp first second third⟩
  · by_cases rgb : TerminalEmulator.chars "rgb:" <+: c
    · obtain ⟨rest, rfl⟩ := rgb
      rw [parseColor_rgb] at accepted
      have even := length_of_parseGroups accepted
      rw [List.length_append] at even
      have four : (TerminalEmulator.chars "rgb:").length = 4 := rfl
      obtain ⟨k, size⟩ : ∃ k, rest.length = 3 * k + 2 := ⟨(rest.length - 2) / 3, by omega⟩
      obtain ⟨r, g, b, s₁, s₂, rfl, first, second, third⟩ := exists_separated size
      exact ⟨k, [s₁, s₂], r, g, b, .rgb s₁ s₂ first second third⟩
    · exact absurd (parseColor_other host sharp rgb) accepted

theorem Groups.accepted_iff (groups : Groups k r g b separators c) (host : Host) :
    parse host c ≠ 0 ↔ Readable host r g b := by
  unfold parse Readable
  rw [groups.parseColor_eq, ← component_isSome host k r, ← component_isSome host k g, ← component_isSome host k b]
  cases component host k r with
  | none => simp
  | some red =>
    cases component host k g with
    | none => simp
    | some green =>
      cases component host k b with
      | none => simp
      | some blue => simpa using color_ne_zero red green blue

theorem top_of_accepted (accepted : parse host c ≠ 0) : parse host c >>> 24 = 0xFF := by
  obtain ⟨k, separators, r, g, b, groups⟩ := exists_groups accepted
  unfold parse at *
  rw [groups.parseColor_eq] at *
  revert accepted
  cases component host k r with
  | none => exact absurd rfl
  | some red =>
    cases component host k g with
    | none => exact absurd rfl
    | some green =>
      cases component host k b with
      | none => exact absurd rfl
      | some blue => exact fun _ => color_top red green blue

theorem ColorSpec.accepted (reads : host.ReadsHex) (spec : ColorSpec c) : parse host c ≠ 0 := by
  obtain ⟨k, separators, r, g, b, groups, ⟨lower, upper⟩, -, hex⟩ := spec
  obtain ⟨first, second, third⟩ := groups.lengths
  have some : ∀ {text : List Nat}, text.length = k → text ≠ [] := fun length => List.ne_nil_of_length_pos (by omega)
  simp only [List.mem_append] at hex
  refine (groups.accepted_iff host).mpr ⟨?_, ?_, ?_⟩
  · exact host.parseInt_hex reads (some first) (by omega) fun x inside => hex x (.inl (.inl inside))
  · exact host.parseInt_hex reads (some second) (by omega) fun x inside => hex x (.inl (.inr inside))
  · exact host.parseInt_hex reads (some third) (by omega) fun x inside => hex x (.inr inside)

/-- A text is treated as the comments say unless its three groups can be read by `Integer.parseInt` although they are too
long, hold a sign or another digit than those of ASCII, or have something else than a slash between them. -/
theorem parse_accepts_iff (host : Host) (reads : host.ReadsHex) (c : List Nat) :
    ((parse host c ≠ 0 ↔ ColorSpec c) ∧ (parse host c ≠ 0 → parse host c >>> 24 = 0xFF)) ↔
      ∀ k separators r g b, Groups k r g b separators c → Readable host r g b →
        k ≤ 4 ∧ (∀ x ∈ separators, x = '/'.toNat) ∧ ∀ x ∈ r ++ g ++ b, IsHex x := by
  constructor
  · rintro ⟨accepts, -⟩ k separators r g b groups readable
    obtain ⟨k', separators', r', g', b', groups', ⟨-, short⟩, slashes, hex⟩ :=
      accepts.mp ((groups.accepted_iff host).mpr readable)
    obtain ⟨rfl, rfl, rfl, rfl, rfl⟩ := groups.unique groups'
    exact ⟨short, slashes, hex⟩
  · intro plain
    refine ⟨⟨fun accepted => ?_, ColorSpec.accepted reads⟩, top_of_accepted⟩
    obtain ⟨k, separators, r, g, b, groups⟩ := exists_groups accepted
    have readable := (groups.accepted_iff host).mp accepted
    obtain ⟨short, slashes, hex⟩ := plain k separators r g b groups readable
    have some : r ≠ [] := by
      rintro rfl
      exact Bool.false_ne_true readable.1
    have length := groups.lengths.1
    have positive := List.length_pos_iff.mpr some
    exact ⟨k, separators, r, g, b, groups, ⟨by omega, short⟩, slashes, hex⟩

def asciiHost : Host :=
  { TerminalEmulator.plainHost with
    digit := fun x radix =>
      let value := if '0'.toNat ≤ x ∧ x ≤ '9'.toNat then some (x - '0'.toNat)
        else if 'a'.toNat ≤ x ∧ x ≤ 'z'.toNat then some (x - 'a'.toNat + 10)
        else if 'A'.toNat ≤ x ∧ x ≤ 'Z'.toNat then some (x - 'A'.toNat + 10)
        else none
      value.filter fun digit => digit < radix
    digit_separator := fun _ => rfl }

theorem asciiHost_readsHex : asciiHost.ReadsHex := by
  have all : ∀ x < 128, IsHex x → ∃ digit < 16, asciiHost.digit x 16 = some digit := by decide
  intro x hex
  refine all x ?_ hex
  simp only [IsHex, Char.reduceToNat] at hex
  omega

theorem parse_accepts_iff_red : parse asciiHost (TerminalEmulator.chars "#f00") ≠ 0 :=
  ((parse_accepts_iff asciiHost asciiHost_readsHex (TerminalEmulator.chars "#f00")).mpr (by
    intro k separators r g b groups _
    obtain ⟨rfl, rfl, rfl, rfl, rfl⟩ := groups.unique
      (@Groups.sharp 1 [102] [48] [48] rfl rfl rfl)
    decide)).1.mpr ⟨1, [], [102], [48], [48], .sharp rfl rfl rfl, by decide, by decide, by decide⟩

/-- Signs, five digits for a component and any character for the slash are accepted. -/
theorem parse_accepts_more : asciiHost.ReadsHex ∧
    ∀ c ∈ [TerminalEmulator.chars "#+1+1+1", TerminalEmulator.chars "#000000000000001", TerminalEmulator.chars "rgb:f?0?f"],
      parse asciiHost c ≠ 0 ∧ ¬ ColorSpec c := by
  refine ⟨asciiHost_readsHex, ?_⟩
  simp only [List.forall_mem_cons, List.not_mem_nil, false_imp_iff, implies_true, and_true]
  refine ⟨⟨by decide +kernel, ?_⟩, ⟨by decide +kernel, ?_⟩, by decide +kernel, ?_⟩
  · rintro ⟨k, separators, r, g, b, groups, -, -, hex⟩
    obtain ⟨rfl, rfl, rfl, rfl, rfl⟩ := groups.unique (@Groups.sharp 2 [43, 49] [43, 49] [43, 49] rfl rfl rfl)
    exact absurd hex (by decide)
  · rintro ⟨k, separators, r, g, b, groups, ⟨-, short⟩, -⟩
    obtain ⟨rfl, -⟩ := groups.unique
      (@Groups.sharp 5 [48, 48, 48, 48, 48] [48, 48, 48, 48, 48] [48, 48, 48, 48, 49] rfl rfl rfl)
    exact absurd short (by decide)
  · rintro ⟨k, separators, r, g, b, groups, -, slashes, -⟩
    obtain ⟨rfl, rfl, -⟩ := groups.unique (@Groups.rgb 1 [102] [48] [102] 63 63 rfl rfl rfl)
    exact absurd slashes (by decide)

end TerminalColors
