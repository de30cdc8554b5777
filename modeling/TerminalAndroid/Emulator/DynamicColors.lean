import TerminalAndroid.Emulator.OscNumbers

open Java Exec

namespace TerminalEmulator

variable {host : Host} {e : TerminalEmulator} {value index : Int} {terminator text spec current rest field : List Nat}

section Loop

def colorReport (value : Int) (terminator : List Nat) (rgb : BitVec 32) : List Nat :=
  chars ("\x1b]" ++ toString value ++ ";rgb:") ++ hexChars 4 (65535 * ((rgb &&& 0x00FF0000) >>> 16).toNat / 255) ++
    chars "/" ++ hexChars 4 (65535 * ((rgb &&& 0x0000FF00) >>> 8).toNat / 255) ++ chars "/" ++
    hexChars 4 (65535 * (rgb &&& 0x000000FF).toNat / 255) ++ terminator

def specApplied (host : Host) (value : Int) (terminator : List Nat) (index : Int) (spec : List Nat) (e : TerminalEmulator) :
    TerminalEmulator :=
  if spec = chars "?" then e.write (colorReport value terminator (e.mColors.toList.getD index.toNat 0))
  else (e.recolored host index spec).raise .onColorsChanged

def specsApplied (host : Host) (value : Int) (terminator : List Nat) : Int → List (List Nat) → TerminalEmulator → TerminalEmulator
  | _, [], e => e
  | index, spec :: specs, e =>
    if 258 < index then e
    else specsApplied host value terminator (index + 1) specs (specApplied host value terminator index spec e)

theorem run_spec (inside : 0 ≤ index ∧ index < TextStyle.numIndexedColors) (e : TerminalEmulator) :
    (if spec = chars "?" then reportColor value index terminator
      else do
        tryParseColor host index spec
        modify fun e => e.raise .onColorsChanged : EmulatorM Unit).run e =
      .ok () (specApplied host value terminator index spec e) := by
  unfold specApplied
  by_cases question : spec = chars "?"
  · have bound : index.toNat < e.mColors.toList.length := by
      rw [Vector.length_toList]
      omega
    have read : (readArray e.mColors.toList index : EmulatorM _).run e =
        .ok (e.mColors.toList.getD index.toNat 0) e := by
      have found : e.mColors.toList[index.toNat]? = some (e.mColors.toList.getD index.toNat 0) := by
        rw [List.getD_eq_getElem _ _ bound]
        exact List.getElem?_eq_getElem bound
      have := run_readArray found e
      rwa [Int.toNat_of_nonneg inside.1] at this
    rw [if_pos question, if_pos question]
    unfold reportColor
    rw [EStateM.run_bind, EStateM.run_get]
    dsimp only
    rw [EStateM.run_bind, read]
    rfl
  · rw [if_neg question, if_neg question, EStateM.run_bind, run_tryParseColor inside]
    rfl

/-- The parts that the loop sees: the first character behind a separator is not looked at. -/
def tokensFrom : List Nat → List Nat → List (List Nat)
  | current, [] => [current]
  | current, [b] => if b = ';'.toNat then [current] else [current ++ [b]]
  | current, b :: c :: rest =>
    if b = ';'.toNat then current :: tokensFrom [c] rest else tokensFrom (current ++ [b]) (c :: rest)

theorem tokensFrom_other {b : Nat} (other : b ≠ ';'.toNat) (current rest : List Nat) :
    tokensFrom current (b :: rest) = tokensFrom (current ++ [b]) rest := by
  cases rest with
  | nil => exact if_neg other
  | cons c rest => rw [tokensFrom, if_neg other]

theorem tokensFrom_next (current rest : List Nat) (c : Nat) :
    tokensFrom current (';'.toNat :: c :: rest) = current :: tokensFrom [c] rest := by
  rw [tokensFrom, if_pos rfl]

variable {fuel first : Nat}

theorem run_part_end (here : text.drop first = current ++ rest) (inside : first ≤ text.length) :
    (if ((first + current.length : Nat) : Int) = text.length then pure true
      else do pure (decide ((← charAt text (first + current.length : Nat)) = ';'.toNat)) : EmulatorM Bool).run e =
      .ok (decide (rest = [] ∨ rest.head? = some ';'.toNat)) e := by
  have length : text.length = first + current.length + rest.length := by
    have := congrArg List.length here
    rw [List.length_drop, List.length_append] at this
    omega
  cases rest with
  | nil =>
    rw [if_pos (by rw [length]; rfl)]
    rfl
  | cons c rest =>
    rw [List.length_cons] at length
    have found : text[first + current.length]? = some c := by
      rw [← List.head?_drop, ← List.drop_drop, here, List.drop_left]
      rfl
    rw [if_neg (by omega)]
    refine (run_bind_of (run_readArray found e)).trans ?_
    simp

theorem run_dynamic_step (here : text.drop first = current ++ rest) (inside : first ≤ text.length)
    (colors : 0 ≤ index ∧ index < TextStyle.numIndexedColors) :
    (oscDynamicColors host value text terminator (fuel + 1) (first + current.length : Nat) first index).run e =
      if rest = [] ∨ rest.head? = some ';'.toNat then
        if rest.length ≤ 1 ∨ 258 ≤ index then .ok () (specApplied host value terminator index current e)
        else (oscDynamicColors host value text terminator fuel (first + current.length + 1 + 1 : Nat)
          (first + current.length + 1 : Nat) (index + 1)).run (specApplied host value terminator index current e)
      else (oscDynamicColors host value text terminator fuel (first + (current.length + 1) : Nat) first index).run e := by
  have length : text.length = first + current.length + rest.length := by
    have := congrArg List.length here
    rw [List.length_drop, List.length_append] at this
    omega
  have cut : TerminalColors.substring text first (first + current.length : Nat) = .ok current :=
    TerminalColors.substring_drop here inside (by omega)
  have cursor : TextStyle.colorIndexCursor.toInt = 258 := by decide
  have last : (((first + current.length : Nat) : Int) = text.length ∨ TextStyle.colorIndexCursor.toInt < index + 1 ∨
      (text.length : Int) ≤ (first + current.length : Nat) + 1) ↔ (rest.length ≤ 1 ∨ 258 ≤ index) := by
    rw [cursor]
    omega
  rw [oscDynamicColors]
  refine (run_bind_of (run_part_end here inside)).trans ?_
  simp only [decide_eq_true_eq]
  by_cases done : rest = [] ∨ rest.head? = some ';'.toNat
  · rw [if_pos done, if_pos done, cut]
    refine (run_bind_of rfl).trans ?_
    refine (run_bind_of (run_spec colors e)).trans ?_
    simp only [last]
    by_cases over' : rest.length ≤ 1 ∨ 258 ≤ index
    · rw [if_pos over', if_pos over']
      rfl
    · rw [if_neg over', if_neg over']
      rfl
  · rw [if_neg done, if_neg done]
    rfl

theorem run_oscDynamicColors (here : text.drop first = current ++ rest) (inside : first ≤ text.length)
    (enough : rest.length < fuel) (lower : 0 ≤ index) (upper : index ≤ 258) :
    (oscDynamicColors host value text terminator fuel (first + current.length : Nat) first index).run e =
      .ok () (specsApplied host value terminator index (tokensFrom current rest) e) := by
  have size : (TextStyle.numIndexedColors : Int) = 259 := rfl
  induction fuel generalizing first current rest index e with
  | zero => omega
  | succ fuel ih =>
    have below : ¬ 258 < index := by omega
    rw [run_dynamic_step here inside ⟨lower, by omega⟩]
    cases rest with
    | nil =>
      rw [if_pos (Or.inl rfl), if_pos (Or.inl (by simp)), tokensFrom, specsApplied, if_neg below]
      rfl
    | cons b rest =>
      rw [List.length_cons] at enough
      by_cases separator : b = ';'.toNat
      · subst separator
        rw [if_pos (Or.inr List.head?_cons)]
        cases rest with
        | nil =>
          rw [if_pos (Or.inl (by simp)), tokensFrom, if_pos rfl, specsApplied, if_neg below]
          rfl
        | cons c rest =>
          rw [List.length_cons] at enough
          rw [tokensFrom_next, specsApplied, if_neg below]
          by_cases last : index = 258
          · rw [if_pos (Or.inr (by omega))]
            cases tokensFrom [c] rest with
            | nil => rfl
            | cons token tokens => rw [specsApplied, if_pos (by omega)]
          · have more : ¬ ((';'.toNat :: c :: rest).length ≤ 1 ∨ 258 ≤ index) := by
              simp only [List.length_cons]
              omega
            have behind : text.drop (first + current.length + 1) = [c] ++ rest := by
              rw [Nat.add_assoc, ← List.drop_drop, here, ← List.drop_drop, List.drop_left]
              rfl
            have start : first + current.length + 1 ≤ text.length := by
              by_contra past
              rw [List.drop_eq_nil_of_le (by omega)] at behind
              cases behind
            rw [if_neg more]
            exact ih behind start (by omega) (by omega) (by omega)
      · have other : ¬ (b :: rest = [] ∨ (b :: rest).head? = some ';'.toNat) := by simpa using separator
        have here' : text.drop first = current ++ [b] ++ rest := by
          rw [here, List.append_assoc]
          rfl
        have shifted := @ih e index (current ++ [b]) rest first here' inside (by omega) lower upper
        rw [List.length_append, List.length_singleton] at shifted
        rw [if_neg other, tokensFrom_other separator]
        exact shifted

end Loop

section Observed

abbrev Observed := Vector (BitVec 32) TextStyle.numIndexedColors × List (List Nat)

def observed (e : TerminalEmulator) : Observed :=
  (e.mColors, e.events.filterMap fun event =>
    match event with
    | .write data => some data
    | _ => none)

def recolor (host : Host) (index : Int) (spec : List Nat) (colors : Vector (BitVec 32) TextStyle.numIndexedColors) :
    Vector (BitVec 32) TextStyle.numIndexedColors :=
  if TerminalColors.parse host spec = 0 then colors else colors.setIfInBounds index.toNat (TerminalColors.parse host spec)

def specObserved (host : Host) (value : Int) (terminator : List Nat) (index : Int) (spec : List Nat) (o : Observed) :
    Observed :=
  if spec = chars "?" then (o.1, o.2 ++ [colorReport value terminator (o.1.toList.getD index.toNat 0)])
  else (recolor host index spec o.1, o.2)

def specsObserved (host : Host) (value : Int) (terminator : List Nat) : Int → List (List Nat) → Observed → Observed
  | _, [], o => o
  | index, spec :: specs, o =>
    if 258 < index then o
    else specsObserved host value terminator (index + 1) specs (specObserved host value terminator index spec o)

theorem observed_specApplied (index : Int) (spec : List Nat) (e : TerminalEmulator) :
    (specApplied host value terminator index spec e).observed =
      specObserved host value terminator index spec e.observed := by
  unfold specApplied specObserved observed
  split
  · simp only [write, raise, List.filterMap_append, List.filterMap_cons, List.filterMap_nil]
  · simp only [raise, recolored, recolor, List.filterMap_append, List.filterMap_cons, List.filterMap_nil, List.append_nil]

theorem observed_specsApplied (specs : List (List Nat)) (index : Int) (e : TerminalEmulator) :
    (specsApplied host value terminator index specs e).observed =
      specsObserved host value terminator index specs e.observed := by
  induction specs generalizing index e with
  | nil => rfl
  | cons spec specs ih =>
    rw [specsApplied, specsObserved]
    split
    · rfl
    · rw [ih, observed_specApplied]

variable {o : Observed} {g tail : List Nat}

theorem specObserved_invalid (question : spec ≠ chars "?") (invalid : TerminalColors.parse host spec = 0) :
    specObserved host value terminator index spec o = o := by
  rw [specObserved, if_neg question, recolor, if_pos invalid]

theorem specObserved_nil : specObserved host value terminator index [] o = o := specObserved_invalid (by decide) rfl

theorem specObserved_separator (more : List Nat) :
    specObserved host value terminator index (';'.toNat :: more) o = o := by
  apply specObserved_invalid
  · intro same
    exact absurd (List.head_eq_of_cons_eq same) (by decide)
  · unfold TerminalColors.parse TerminalColors.parseColor
    rfl

def laterTokens : List Nat → List (List Nat)
  | _ :: c :: rest => tokensFrom [c] rest
  | _ => []

def laterFields : List Nat → List (List Nat)
  | [] => []
  | _ :: rest => rest.splitOn ';'.toNat

theorem tokensFrom_field (none : ';'.toNat ∉ g) (done : tail = [] ∨ tail.head? = some ';'.toNat) (current : List Nat) :
    tokensFrom current (g ++ tail) = (current ++ g) :: laterTokens tail := by
  induction g generalizing current with
  | nil =>
    rw [List.nil_append, List.append_nil]
    rcases done with rfl | separator
    · rfl
    · obtain ⟨rest, rfl⟩ := List.head?_eq_some_iff.mp separator
      cases rest with
      | nil => exact if_pos rfl
      | cons c rest => exact tokensFrom_next current rest c
  | cons b g ih =>
    rw [List.mem_cons, not_or] at none
    rw [List.cons_append, tokensFrom_other (Ne.symm none.1), ih none.2, List.append_assoc, List.singleton_append]

theorem splitOn_field (none : ';'.toNat ∉ g) (done : tail = [] ∨ tail.head? = some ';'.toNat) :
    (g ++ tail).splitOn ';'.toNat = g :: laterFields tail := by
  rcases done with rfl | separator
  · rw [List.append_nil, List.splitOn_eq_singleton none]
    rfl
  · obtain ⟨rest, rfl⟩ := List.head?_eq_some_iff.mp separator
    exact splitOn_separator none

theorem laterTokens_field (none : ';'.toNat ∉ g) (done : tail = [] ∨ tail.head? = some ';'.toNat) (some : g ≠ []) :
    laterTokens (';'.toNat :: (g ++ tail)) = g :: laterTokens tail := by
  obtain ⟨b, g, rfl⟩ := List.exists_cons_of_ne_nil some
  rw [List.mem_cons, not_or] at none
  exact tokensFrom_field none.2 done [b]

theorem laterTokens_empty (none : ';'.toNat ∉ g) (done : tail = [] ∨ tail.head? = some ';'.toNat) :
    laterTokens (';'.toNat :: ';'.toNat :: (g ++ tail)) = (';'.toNat :: g) :: laterTokens tail :=
  tokensFrom_field none done [';'.toNat]

theorem specsObserved_last (specs : List (List Nat)) :
    specsObserved host value terminator 258 (spec :: specs) o = specObserved host value terminator 258 spec o := by
  rw [specsObserved, if_neg (by decide)]
  cases specs with
  | nil => rfl
  | cons spec specs => exact if_pos (by decide)

theorem specsObserved_next (before : index ≤ 258) (specs : List (List Nat)) :
    specsObserved host value terminator index (spec :: specs) o =
      specsObserved host value terminator (index + 1) specs (specObserved host value terminator index spec o) := by
  rw [specsObserved, if_neg (by omega)]

theorem specsObserved_head (specs : List (List Nat)) :
    specsObserved host value terminator 258 specs o = specObserved host value terminator 258 (specs.headD []) o := by
  cases specs with
  | nil => exact specObserved_nil.symm
  | cons spec specs => exact specsObserved_last specs

theorem observed_last (done : tail = [] ∨ tail.head? = some ';'.toNat) :
    specsObserved host value terminator 258 (laterTokens tail) o =
      specObserved host value terminator 258 ((laterFields tail).headD []) o := by
  rcases done with rfl | separator
  · exact specObserved_nil.symm
  · obtain ⟨rest, rfl⟩ := List.head?_eq_some_iff.mp separator
    obtain ⟨g, tail, none, rfl, done⟩ := exists_field rest
    have fields : laterFields (';'.toNat :: (g ++ tail)) = g :: laterFields tail := splitOn_field none done
    rw [fields, List.headD_cons]
    by_cases empty : g = []
    · subst empty
      rw [specObserved_nil, List.nil_append]
      rcases done with rfl | separator
      · rfl
      · obtain ⟨rest, rfl⟩ := List.head?_eq_some_iff.mp separator
        obtain ⟨g, tail, none, rfl, done⟩ := exists_field rest
        rw [laterTokens_empty none done, specsObserved_last, specObserved_separator]
    · rw [laterTokens_field none done empty, specsObserved_last]

theorem observed_second (done : tail = [] ∨ tail.head? = some ';'.toNat) :
    specsObserved host value terminator 257 (laterTokens tail) o =
        specsObserved host value terminator 257 (laterFields tail) o ↔
      ∀ third more, laterFields tail = [] :: third :: more →
        specObserved host value terminator 258 (more.headD []) o = specObserved host value terminator 258 third o := by
  rcases done with rfl | separator
  · exact iff_of_true rfl nofun
  · obtain ⟨rest, rfl⟩ := List.head?_eq_some_iff.mp separator
    obtain ⟨g, tail, none, rfl, done⟩ := exists_field rest
    have fields : laterFields (';'.toNat :: (g ++ tail)) = g :: laterFields tail := splitOn_field none done
    have expected : specsObserved host value terminator 257 (g :: laterFields tail) o =
        specObserved host value terminator 258 ((laterFields tail).headD []) (specObserved host value terminator 257 g o) :=
      (specsObserved_next (by decide) _).trans (specsObserved_head _)
    rw [fields, expected]
    by_cases empty : g = []
    · subst empty
      rw [specObserved_nil, List.nil_append]
      rcases done with rfl | separator
      · exact iff_of_true specObserved_nil.symm nofun
      · obtain ⟨rest, rfl⟩ := List.head?_eq_some_iff.mp separator
        obtain ⟨g, tail, none, rfl, done⟩ := exists_field rest
        have fields : laterFields (';'.toNat :: (g ++ tail)) = g :: laterFields tail := splitOn_field none done
        rw [laterTokens_empty none done, specsObserved_next (by decide), specObserved_separator, fields]
        show specsObserved host value terminator 258 (laterTokens tail) o = _ ↔ _
        rw [observed_last done, List.headD_cons]
        constructor
        · rintro same _ _ ⟨⟩
          exact same
        · intro same
          exact same g (laterFields tail) rfl
    · rw [laterTokens_field none done empty, specsObserved_next (by decide)]
      refine iff_of_true (observed_last done) fun third more same => ?_
      exact absurd (List.head_eq_of_cons_eq same) empty

def cursorColor (host : Host) (spec : List Nat) (colors : Vector (BitVec 32) TextStyle.numIndexedColors) : BitVec 32 :=
  if TerminalColors.parse host spec = 0 then colors.get ⟨258, by decide⟩ else TerminalColors.parse host spec

def SameEffect (host : Host) (colors : Vector (BitVec 32) TextStyle.numIndexedColors) (a b : List Nat) : Prop :=
  (a = chars "?" ↔ b = chars "?") ∧ (a ≠ chars "?" → cursorColor host a colors = cursorColor host b colors)

theorem get_recolor (spec : List Nat) (colors : Vector (BitVec 32) TextStyle.numIndexedColors)
    (i : Fin TextStyle.numIndexedColors) :
    (recolor host 258 spec colors).get i = if i.val = 258 then cursorColor host spec colors else colors.get i := by
  unfold recolor cursorColor
  by_cases invalid : TerminalColors.parse host spec = 0
  · rw [if_pos invalid, if_pos invalid]
    split
    next same =>
      congr 1
      exact Fin.ext same
    · rfl
  · rw [if_neg invalid, if_neg invalid]
    show (colors.setIfInBounds 258 _)[i.val] = if _ then _ else colors[i.val]
    rw [Vector.getElem_setIfInBounds i.isLt]
    simp only [eq_comm]

theorem recolor_eq_iff (a b : List Nat) (colors : Vector (BitVec 32) TextStyle.numIndexedColors) :
    recolor host 258 a colors = recolor host 258 b colors ↔ cursorColor host a colors = cursorColor host b colors := by
  constructor
  · intro same
    have last := congrArg (fun v : Vector (BitVec 32) TextStyle.numIndexedColors => v.get ⟨258, by decide⟩) same
    rw [get_recolor, get_recolor, if_pos rfl, if_pos rfl] at last
    exact last
  · intro same
    apply Vector.ext
    intro i inside
    have first := @get_recolor host a colors ⟨i, inside⟩
    have second := @get_recolor host b colors ⟨i, inside⟩
    rw [same, ← second] at first
    exact first

theorem specObserved_eq_iff (a b : List Nat) : specObserved host value terminator 258 a o =
    specObserved host value terminator 258 b o ↔ SameEffect host o.1 a b := by
  unfold specObserved SameEffect
  by_cases first : a = chars "?"
  · by_cases second : b = chars "?"
    · rw [if_pos first, if_pos second]
      exact iff_of_true rfl ⟨iff_of_true first second, fun other => absurd first other⟩
    · rw [if_pos first, if_neg second]
      refine iff_of_false (fun same => ?_) fun same => second (same.1.mp first)
      have answers := congrArg (fun o : Observed => o.2.length) same
      simp at answers
  · by_cases second : b = chars "?"
    · rw [if_neg first, if_pos second]
      refine iff_of_false (fun same => ?_) fun same => first (same.1.mpr second)
      have answers := congrArg (fun o : Observed => o.2.length) same
      simp at answers
    · rw [if_neg first, if_neg second, Prod.mk.injEq, recolor_eq_iff]
      simp only [first, second, and_true, ne_eq, not_false_eq_true, true_imp_iff, true_and]

end Observed

section Command

theorem run_dynamicColors (command : oscValue e.mOSCOrDeviceControlArgs (-1) = some (value, text))
    (dynamic : value = 10 ∨ value = 11 ∨ value = 12) : (doOscSetTextParameters host terminator).run e =
      .ok () (specsApplied host value terminator (256 + (value - 10)) (tokensFrom [] text) e).finishSequence := by
  have loop := @run_oscDynamicColors host e value (256 + (value - 10)) terminator text [] text (text.length + 1) 0 rfl
    (Nat.zero_le _) (Nat.lt_succ_self _) (by omega) (by omega)
  rw [run_osc_command command]
  have branch : oscCommand host value text terminator = (oscDynamicColors host value text terminator (text.length + 1) 0 0
      (256 + (value - 10)) >>= fun _ => pure true) := by
    unfold oscCommand
    rw [if_neg (by omega), if_neg (by omega), if_pos dynamic]
    rfl
  rw [branch, closing, bind_assoc]
  exact run_bind_of loop

theorem get_specObserved {o : Observed} (spec : List Nat) :
    (specObserved host value terminator 256 spec o).1.get ⟨258, by decide⟩ = o.1.get ⟨258, by decide⟩ := by
  unfold specObserved recolor
  split_ifs
  · rfl
  · rfl
  · show (o.1.setIfInBounds 256 _)[258] = o.1[258]
    rw [Vector.getElem_setIfInBounds (by decide), if_neg (by decide)]

/-- OSC 10, 11 and 12 apply every specification to its own colour, except that with OSC 10 and an empty second one the
cursor gets the fourth specification in place of the third. -/
theorem dynamic_colors_applied_iff (host : Host) (e : TerminalEmulator) (value : Int) (text terminator : List Nat)
    (command : oscValue e.mOSCOrDeviceControlArgs (-1) = some (value, text)) (dynamic : value = 10 ∨ value = 11 ∨ value = 12) :
    ∃ e', (doOscSetTextParameters host terminator).run e = .ok () e' ∧
      (e'.observed = specsObserved host value terminator (256 + (value - 10)) (text.splitOn ';'.toNat) e.observed ↔
        (value = 10 → ∀ first third more, text.splitOn ';'.toNat = first :: [] :: third :: more →
          SameEffect host e.mColors (more.headD []) third)) := by
  refine ⟨_, run_dynamicColors command dynamic, ?_⟩
  obtain ⟨first, tail, none, rfl, done⟩ := exists_field text
  have fields : (first ++ tail).splitOn ';'.toNat = first :: laterFields tail := splitOn_field none done
  have tokens : tokensFrom [] (first ++ tail) = first :: laterTokens tail := tokensFrom_field none done []
  have seen : (specsApplied host value terminator (256 + (value - 10)) (first :: laterTokens tail) e).finishSequence.observed =
      specsObserved host value terminator (256 + (value - 10)) (first :: laterTokens tail) e.observed :=
    observed_specsApplied _ _ e
  rw [tokens, fields, seen]
  rcases dynamic with rfl | rfl | rfl
  · have second := @observed_second host 10 terminator (specObserved host 10 terminator 256 first e.observed) tail done
    rw [specsObserved_next (by decide), specsObserved_next (by decide)]
    refine second.trans ?_
    simp only [specObserved_eq_iff, true_imp_iff]
    have same : ∀ spec, cursorColor host spec (specObserved host 10 terminator 256 first e.observed).1 =
        cursorColor host spec e.mColors := by
      intro spec
      unfold cursorColor
      rw [get_specObserved]
      rfl
    unfold SameEffect
    simp only [same]
    constructor
    · intro effects _ third more same
      exact effects third more (List.tail_eq_of_cons_eq same)
    · intro effects third more same
      exact effects first third more (congrArg (first :: ·) same)
  · refine iff_of_true ?_ fun other => absurd other (by decide)
    rw [specsObserved_next (by decide), specsObserved_next (by decide)]
    exact (observed_last done).trans (specsObserved_head _).symm
  · refine iff_of_true ?_ fun other => absurd other (by decide)
    exact (specsObserved_last _).trans (specsObserved_last _).symm

theorem dynamic_colors_applied_iff_question : ∃ e',
    (doOscSetTextParameters plainHost [7]).run
      { filledWith 4 2 120 with mOSCOrDeviceControlArgs := chars "10;#000;?;#111" } = .ok () e' ∧
    e'.observed = specsObserved plainHost 10 [7] 256 [chars "#000", chars "?", chars "#111"] (filledWith 4 2 120).observed := by
  obtain ⟨e', ran, iff⟩ := dynamic_colors_applied_iff plainHost
    { filledWith 4 2 120 with mOSCOrDeviceControlArgs := chars "10;#000;?;#111" } 10 (chars "#000;?;#111") [7]
    (by decide) (by decide)
  have fields : (chars "#000;?;#111").splitOn ';'.toNat = [chars "#000", chars "?", chars "#111"] := by decide +kernel
  rw [fields] at iff
  refine ⟨e', ran, iff.mpr ?_⟩
  intro _ first third more same
  exact absurd (List.head_eq_of_cons_eq (List.tail_eq_of_cons_eq same)) (by decide)

def cursorAfter (payload : List Nat) : Option (BitVec 32) :=
  match (doOscSetTextParameters plainHost [7]).run { filledWith 4 2 120 with mOSCOrDeviceControlArgs := payload } with
  | .ok _ e => some (e.mColors.get ⟨258, by decide⟩)
  | .error _ _ => none

/-- An empty second specification hides the third one. -/
theorem dynamic_colors_skipped : cursorAfter (chars "10;#000;;#111") = some 0 ∧
    cursorAfter (chars "10;#000;x;#111") = some 0xFF111111 := by
  decide +kernel

end Command

end TerminalEmulator
