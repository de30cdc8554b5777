import TerminalAndroid.Emulator.Osc
import TerminalAndroid.Emulator.Parameters

open Java Exec

namespace TerminalEmulator

variable {host : Host} {e : TerminalEmulator} {digits spec text before rest : List Nat}

section Numbers

instance : DecidablePred IsDigit := fun _ => inferInstanceAs (Decidable (_ ∧ _))

def exactNumber (digits : List Nat) : Int := if digits = [] then -1 else Text.decimal digits

theorem toInt_of_lt {x : Int} (lower : 0 ≤ x) (upper : x < 2 ^ 31) : toInt x = x :=
  Int.bmod_eq_of_le (by omega) (by omega)

theorem toInt_lt (x : Int) : toInt x < 2 ^ 31 := by
  have upper := @Int.bmod_lt x 0x100000000 (by decide)
  unfold toInt
  omega

theorem digitsNumber_exact {value : Int} (all : ∀ b ∈ digits, IsDigit b) (lower : 0 ≤ value)
    (fits : value * 10 ^ digits.length + Text.decimal digits < 2 ^ 31) :
    digitsNumber digits value = value * 10 ^ digits.length + Text.decimal digits := by
  induction digits generalizing value with
  | nil => simp [digitsNumber, Text.decimal]
  | cons b digits ih =>
    rw [List.forall_mem_cons] at all
    have split : (Text.decimal (b :: digits) : Int) = (b - '0'.toNat : Nat) * 10 ^ digits.length + Text.decimal digits := by
      rw [← List.singleton_append, Text.decimal_append]
      simp [Text.decimal]
    have whole : value * 10 ^ (b :: digits).length + Text.decimal (b :: digits) =
        (value * 10 + (b - '0'.toNat : Nat)) * 10 ^ digits.length + Text.decimal digits := by
      rw [split, List.length_cons, pow_succ]
      ring
    rw [whole] at fits ⊢
    have positive : (1 : Int) ≤ 10 ^ digits.length := one_le_pow₀ (by decide)
    have small : value * 10 + (b - '0'.toNat : Nat) < 2 ^ 31 := by
      have grows : (value * 10 + (b - '0'.toNat : Nat)) * 1 ≤ (value * 10 + (b - '0'.toNat : Nat)) * 10 ^ digits.length :=
        Int.mul_le_mul_of_nonneg_left positive (by omega)
      omega
    have step : digitsNumber (b :: digits) value = digitsNumber digits (value * 10 + (b - '0'.toNat : Nat)) := by
      show digitsNumber digits (toInt ((if value < 0 then 0 else value * 10) + (b - '0'.toNat : Nat))) = _
      rw [if_neg (by omega), toInt_of_lt (by omega) small]
    rw [step]
    exact ih all.2 (by omega) fits

theorem digitsNumber_lt (digits : List Nat) {value : Int} (upper : value < 2 ^ 31) : digitsNumber digits value < 2 ^ 31 := by
  induction digits generalizing value with
  | nil => exact upper
  | cons b digits ih => exact ih (toInt_lt _)

theorem digitsNumber_cons (b : Nat) (digits : List Nat) :
    digitsNumber (b :: digits) (-1) = digitsNumber (b :: digits) 0 := rfl

theorem digitsNumber_eq_iff (all : ∀ b ∈ digits, IsDigit b) :
    digitsNumber digits (-1) = exactNumber digits ↔ exactNumber digits < 2 ^ 31 := by
  cases digits with
  | nil => exact iff_of_true rfl (by decide)
  | cons b digits =>
    have exact' : exactNumber (b :: digits) = Text.decimal (b :: digits) := if_neg (List.cons_ne_nil b digits)
    rw [exact', digitsNumber_cons]
    constructor
    · intro same
      rw [← same]
      exact digitsNumber_lt _ (by decide)
    · intro fits
      have := @digitsNumber_exact (b :: digits) 0 all (Int.le_refl 0) (by simpa using fits)
      simpa using this

end Numbers

section Actions

inductive OscAction
  | title (text : List Nat)
  | color (digits spec : List Nat) (index : Int)
  | dynamicColors (value : Int) (text : List Nat)
  | clipboard (text : List Nat)
  | resetColors (text : List Nat)
  | resetDynamicColor (value : Int)
  deriving DecidableEq, Repr

def OscAction.run (host : Host) (bellOrStringTerminator : List Nat) : OscAction → EmulatorM Unit
  | .title text => modify fun e => e.setTitle (some text)
  | .color _ spec index => do
    tryParseColor host index spec
    modify fun e => e.raise .onColorsChanged
  | .dynamicColors value text =>
    oscDynamicColors host value text bellOrStringTerminator (text.length + 1) 0 0
      (TextStyle.colorIndexForeground.toInt + (value - 10))
  | .clipboard text => modify fun e =>
    match host.base64Decode (selectionData text) with
    | some utf8 => e.raise (.onCopyTextToClipboard utf8)
    | none => e
  | .resetColors text =>
    if text = [] then modify fun e => { e with mColors := host.defaultColors }.raise .onColorsChanged
    else oscResetColors host text (text.length + 2) 0 0
  | .resetDynamicColor value => do
    resetColor host (TextStyle.colorIndexForeground.toInt + (value - 110))
    modify fun e => e.raise .onColorsChanged

/-- The pairs that are reached: they end at the first number that is none or is too large. -/
def colorActions : List (List Nat) → List OscAction
  | digits :: spec :: fields =>
    let index := digitsNumber digits (-1)
    if (∀ b ∈ digits, IsDigit b) ∧ 0 ≤ index ∧ index ≤ 255 then .color digits spec index :: colorActions fields else []
  | _ => []

def oscActions (value : Int) (text : List Nat) : List OscAction :=
  if value = 0 ∨ value = 1 ∨ value = 2 then [.title text]
  else if value = 4 then colorActions (text.splitOn ';'.toNat)
  else if value = 10 ∨ value = 11 ∨ value = 12 then [.dynamicColors value text]
  else if value = 52 then [.clipboard text]
  else if value = 104 then [.resetColors text]
  else if value = 110 ∨ value = 111 ∨ value = 112 then [.resetDynamicColor value]
  else []

def perform (host : Host) (bellOrStringTerminator : List Nat) (actions : List OscAction) : EmulatorM Unit := do
  forM actions (OscAction.run host bellOrStringTerminator)
  modify finishSequence

end Actions

section Pairs

variable {fuel i : Nat} {value start : Int} {b : Nat} {fields : List (List Nat)}

def giveUp : EmulatorM Bool := do
  modify unknownSequence
  pure false

theorem getD_of_drop (here : text.drop i = b :: rest) : text.getD i 0 = b := by
  rw [List.getD_eq_getElem?_getD, ← List.head?_drop, here]
  rfl

theorem lt_of_drop (here : text.drop i = b :: rest) : i < text.length := by
  rw [← List.drop_eq_nil_iff.not.trans Nat.not_le, here]
  exact List.cons_ne_nil b rest

theorem drop_next (here : text.drop i = b :: rest) : text.drop (i + 1) = rest := by
  rw [← List.tail_drop, here]
  rfl

theorem oscColors_other (here : text.drop i = b :: rest) (other : b ≠ ';'.toNat) :
    oscColors host text (fuel + 1) i value start =
      if 0 ≤ start then oscColors host text fuel (i + 1) value start
      else if '0'.toNat ≤ b ∧ b ≤ '9'.toNat then
        oscColors host text fuel (i + 1) (toInt ((if value < 0 then 0 else value * 10) + (b - '0'.toNat : Nat))) start
      else giveUp := by
  have inside := lt_of_drop here
  rw [oscColors]
  simp only [Nat.ne_of_lt inside, if_false, getD_of_drop here, other]
  rfl

theorem oscColors_digits (here : text.drop i = digits ++ rest) (all : ∀ b ∈ digits, IsDigit b) :
    oscColors host text (fuel + digits.length) i value (-1) =
      oscColors host text fuel (i + digits.length) (digitsNumber digits value) (-1) := by
  induction digits generalizing i value with
  | nil => rfl
  | cons b digits ih =>
    rw [List.forall_mem_cons] at all
    have range : '0'.toNat ≤ b ∧ b ≤ '9'.toNat := all.1
    have other : b ≠ ';'.toNat := by
      rintro rfl
      exact absurd range.2 (by decide)
    rw [List.length_cons, ← Nat.add_assoc, oscColors_other here other, if_neg (by decide), if_pos range,
      ih (drop_next here) all.2, Nat.add_assoc, Nat.add_comm 1]
    rfl

theorem oscColors_spec (here : text.drop i = spec ++ rest) (none : ';'.toNat ∉ spec) (started : 0 ≤ start) :
    oscColors host text (fuel + spec.length) i value start = oscColors host text fuel (i + spec.length) value start := by
  induction spec generalizing i with
  | nil => rfl
  | cons b spec ih =>
    rw [List.mem_cons, not_or] at none
    rw [List.length_cons, ← Nat.add_assoc, oscColors_other here (Ne.symm none.1), if_pos started,
      ih (drop_next here) none.2, Nat.add_assoc, Nat.add_comm 1]

theorem oscColors_bad (here : text.drop i = digits ++ rest) (none : ';'.toNat ∉ digits) (bad : ¬ ∀ b ∈ digits, IsDigit b)
    (enough : digits.length ≤ fuel) : oscColors host text fuel i value (-1) = giveUp := by
  induction digits generalizing i value fuel with
  | nil => exact absurd nofun bad
  | cons b digits ih =>
    rw [List.mem_cons, not_or] at none
    obtain ⟨fuel, rfl⟩ : ∃ more, fuel = more + 1 := ⟨fuel - 1, by rw [List.length_cons] at enough; omega⟩
    rw [oscColors_other here (Ne.symm none.1), if_neg (by decide)]
    split
    next digit =>
      refine ih (drop_next here) none.2 (fun all => bad ?_) (by rw [List.length_cons] at enough; omega)
      exact List.forall_mem_cons.mpr ⟨digit, all⟩
    · rfl

theorem oscColors_start (here : text.drop i = ';'.toNat :: rest) :
    oscColors host text (fuel + 1) i value (-1) = oscColors host text fuel (i + 1) value (i + 1 : Nat) := by
  have inside := lt_of_drop here
  rw [oscColors]
  simp only [Nat.ne_of_lt inside, if_false, getD_of_drop here, if_true]
  rfl

theorem oscColors_end (here : text.drop i = []) (inside : i ≤ text.length) :
    oscColors host text (fuel + 1) i value (-1) = pure true := by
  have last : i = text.length := Nat.le_antisymm inside (List.drop_eq_nil_iff.mp here)
  rw [oscColors]
  simp only [last, if_true]
  rfl

theorem oscColors_pair {first : Nat} (host : Host) (value : Int) (digits terminator : List Nat)
    (here : text.drop first = spec ++ rest) (inside : first ≤ text.length) (place : i = first + spec.length)
    (done : rest = [] ∨ rest.head? = some ';'.toNat) :
    oscColors host text (fuel + 1) i value first =
      if value < 0 ∨ 255 < value then giveUp
      else OscAction.run host terminator (.color digits spec value) >>= fun _ =>
        if rest = [] then pure true else oscColors host text fuel (i + 1) (-1) (-1) := by
  have length : text.length = first + spec.length + rest.length := by
    have := congrArg List.length here
    rw [List.length_drop, List.length_append] at this
    omega
  have last : i = text.length ↔ rest = [] := by
    rw [← List.length_eq_zero_iff]
    omega
  have tail : text.drop i = rest := by
    rw [place, ← List.drop_drop, here, List.drop_left]
  have separator : (if i = text.length then ';'.toNat else text.getD i 0) = ';'.toNat := by
    by_cases empty : rest = []
    · rw [if_pos (last.mpr empty)]
    · rw [if_neg fun is => empty (last.mp is)]
      obtain ⟨more, cons⟩ := List.head?_eq_some_iff.mp (done.resolve_left empty)
      exact getD_of_drop (tail.trans cons)
  have cut : TerminalColors.substring text first i = .ok spec :=
    TerminalColors.substring_drop here (by omega) (by omega)
  rw [oscColors]
  dsimp only
  rw [if_pos separator, if_neg (show ¬ (first : Int) < 0 by omega), cut]
  simp only [last]
  by_cases outside : value < 0 ∨ 255 < value
  · rw [if_pos outside, if_pos outside]
    rfl
  · rw [if_neg outside, if_neg outside]
    unfold OscAction.run
    rw [bind_assoc]
    rfl

theorem run_closing_giveUp (terminator : List Nat) :
    (closing giveUp).run e = (perform host terminator []).run e := rfl

theorem run_closing_true (terminator : List Nat) :
    (closing (pure true)).run e = (perform host terminator []).run e := rfl

theorem run_perform_cons (terminator : List Nat) (action : OscAction) (actions : List OscAction) {m : EmulatorM Bool}
    (same : ∀ e, (closing m).run e = (perform host terminator actions).run e) :
    (closing (action.run host terminator >>= fun _ => m)).run e = (perform host terminator (action :: actions)).run e := by
  unfold closing perform at *
  rw [List.forM_cons, bind_assoc, bind_assoc]
  exact run_bind_congr fun _ t _ => same t

theorem exists_field (rest : List Nat) : ∃ field tail, ';'.toNat ∉ field ∧ rest = field ++ tail ∧
    (tail = [] ∨ tail.head? = some ';'.toNat) := by
  induction rest with
  | nil => exact ⟨[], [], List.not_mem_nil, rfl, .inl rfl⟩
  | cons b rest ih =>
    by_cases separator : b = ';'.toNat
    · exact ⟨[], b :: rest, List.not_mem_nil, rfl, .inr (by rw [separator]; rfl)⟩
    · obtain ⟨field, tail, none, rfl, done⟩ := ih
      refine ⟨b :: field, tail, ?_, rfl, done⟩
      rw [List.mem_cons, not_or]
      exact ⟨Ne.symm separator, none⟩

theorem colorActions_cons (digits : List Nat) (none : ';'.toNat ∉ spec) (done : rest = [] ∨ rest.head? = some ';'.toNat) :
    colorActions (digits :: (spec ++ rest).splitOn ';'.toNat) =
      if (∀ b ∈ digits, IsDigit b) ∧ 0 ≤ digitsNumber digits (-1) ∧ digitsNumber digits (-1) ≤ 255 then
        .color digits spec (digitsNumber digits (-1)) ::
          if rest = [] then [] else colorActions (rest.tail.splitOn ';'.toNat)
      else [] := by
  rcases done with rfl | separator
  · rw [List.append_nil, List.splitOn_eq_singleton none, if_pos rfl]
    rfl
  · obtain ⟨tail, rfl⟩ := List.head?_eq_some_iff.mp separator
    rw [splitOn_separator none, if_neg (List.cons_ne_nil _ _)]
    rfl

theorem colorActions_bad (none : ';'.toNat ∉ digits) (bad : ¬ ∀ b ∈ digits, IsDigit b)
    (done : rest = [] ∨ rest.head? = some ';'.toNat) : colorActions ((digits ++ rest).splitOn ';'.toNat) = [] := by
  rcases done with rfl | separator
  · rw [List.append_nil, List.splitOn_eq_singleton none]
    rfl
  · obtain ⟨tail, rfl⟩ := List.head?_eq_some_iff.mp separator
    rw [splitOn_separator none]
    obtain ⟨spec, fields, found⟩ := List.exists_cons_of_ne_nil (List.splitOn_ne_nil ';'.toNat tail)
    rw [found, colorActions]
    exact if_neg fun good => bad good.1

theorem run_oscColors (terminator : List Nat) (here : text.drop i = rest) (inside : i ≤ text.length)
    (enough : rest.length < fuel) :
    (closing (oscColors host text fuel i (-1) (-1))).run e =
      (perform host terminator (colorActions (rest.splitOn ';'.toNat))).run e := by
  induction size : rest.length using Nat.strong_induction_on generalizing i rest fuel e with
  | _ n ih =>
    obtain ⟨digits, tail, none, rfl, done⟩ := exists_field rest
    rw [List.length_append] at enough size
    have length : text.length = i + digits.length + tail.length := by
      have := congrArg List.length here
      rw [List.length_drop, List.length_append] at this
      omega
    by_cases all : ∀ b ∈ digits, IsDigit b
    · obtain ⟨more, rfl⟩ : ∃ more, fuel = more + 1 + digits.length := ⟨fuel - 1 - digits.length, by omega⟩
      rw [oscColors_digits here all]
      have behind : text.drop (i + digits.length) = tail := by
        rw [← List.drop_drop, here, List.drop_left]
      rcases done with rfl | separator
      · rw [oscColors_end behind (by omega), List.append_nil, List.splitOn_eq_singleton none]
        exact run_closing_true terminator
      · obtain ⟨tail, rfl⟩ := List.head?_eq_some_iff.mp separator
        rw [oscColors_start behind, splitOn_separator none]
        have after := drop_next behind
        obtain ⟨spec, rest, clean, rfl, done⟩ := exists_field tail
        simp only [List.length_append, List.length_cons] at enough size length
        obtain ⟨more, rfl⟩ : ∃ less, more = less + 1 + spec.length := ⟨more - 1 - spec.length, by omega⟩
        rw [oscColors_spec after clean (by omega), oscColors_pair host _ digits terminator after (by omega) rfl done,
          colorActions_cons digits clean done]
        by_cases outside : digitsNumber digits (-1) < 0 ∨ 255 < digitsNumber digits (-1)
        · rw [if_pos outside, if_neg fun reached => by omega]
          exact run_closing_giveUp terminator
        · have reached : (∀ b ∈ digits, IsDigit b) ∧ 0 ≤ digitsNumber digits (-1) ∧ digitsNumber digits (-1) ≤ 255 :=
            ⟨all, by omega, by omega⟩
          rw [if_neg outside, if_pos reached]
          refine run_perform_cons terminator _ _ fun t => ?_
          by_cases empty : rest = []
          · rw [if_pos empty, if_pos empty]
            exact run_closing_true terminator
          · rw [if_neg empty, if_neg empty]
            obtain ⟨tail, rfl⟩ := List.head?_eq_some_iff.mp (done.resolve_left empty)
            rw [List.length_cons] at enough size length
            rw [List.tail_cons]
            refine ih tail.length (by omega) ?_ (by omega) (by omega) rfl
            refine drop_next (b := ';'.toNat) ?_
            rw [← List.drop_drop, after, List.drop_left]
    · rw [oscColors_bad here none all (by omega), colorActions_bad none all done]
      exact run_closing_giveUp terminator

end Pairs

section Payload

variable {payload : List Nat}

/-- The digits before the first separator and the text after it; the digits may be other characters as well. -/
def oscParts (payload : List Nat) : List Nat × List Nat :=
  (payload.takeWhile (· ≠ ';'.toNat), (payload.dropWhile (· ≠ ';'.toNat)).tail)

theorem oscValue_eq (payload : List Nat) (value : Int) :
    oscValue payload value = if ∀ b ∈ (oscParts payload).1, IsDigit b then
      some (digitsNumber (oscParts payload).1 value, (oscParts payload).2) else none := by
  induction payload generalizing value with
  | nil => rfl
  | cons b payload ih =>
    rw [oscValue]
    by_cases separator : b = ';'.toNat
    · subst separator
      rfl
    · have parts : oscParts (b :: payload) = (b :: (oscParts payload).1, (oscParts payload).2) := by
        unfold oscParts
        rw [List.takeWhile_cons_of_pos (by simpa using separator), List.dropWhile_cons_of_pos (by simpa using separator)]
      rw [if_neg separator, parts]
      by_cases digit : '0'.toNat ≤ b ∧ b ≤ '9'.toNat
      · rw [if_pos digit, ih]
        simp only [List.forall_mem_cons, show IsDigit b from digit, true_and]
        rfl
      · rw [if_neg digit, if_neg fun all => digit (all b List.mem_cons_self)]

def payloadActions (payload : List Nat) : List OscAction :=
  if ∀ b ∈ (oscParts payload).1, IsDigit b then
    oscActions (digitsNumber (oscParts payload).1 (-1)) (oscParts payload).2 else []

theorem run_single (terminator : List Nat) (action : OscAction) :
    (closing (action.run host terminator >>= fun _ => pure true)).run e = (perform host terminator [action]).run e :=
  run_perform_cons terminator action [] fun _ => rfl

theorem run_oscCommand (terminator : List Nat) (value : Int) (text : List Nat) :
    (closing (oscCommand host value text terminator)).run e = (perform host terminator (oscActions value text)).run e := by
  unfold oscCommand oscActions
  by_cases title : value = 0 ∨ value = 1 ∨ value = 2
  · rw [if_pos title, if_pos title]
    exact run_single terminator (.title text)
  rw [if_neg title, if_neg title]
  by_cases colors : value = 4
  · rw [if_pos colors, if_pos colors]
    exact run_oscColors terminator rfl (Nat.zero_le _) (Nat.lt_succ_self _)
  rw [if_neg colors, if_neg colors]
  by_cases dynamic : value = 10 ∨ value = 11 ∨ value = 12
  · rw [if_pos dynamic, if_pos dynamic]
    exact run_single terminator (.dynamicColors value text)
  rw [if_neg dynamic, if_neg dynamic]
  by_cases clipboard : value = 52
  · rw [if_pos clipboard, if_pos clipboard]
    exact run_single terminator (.clipboard text)
  rw [if_neg clipboard, if_neg clipboard]
  by_cases reset : value = 104
  · rw [if_pos reset, if_pos reset]
    exact run_single terminator (.resetColors text)
  rw [if_neg reset, if_neg reset]
  by_cases dynamic' : value = 110 ∨ value = 111 ∨ value = 112
  · rw [if_pos dynamic', if_pos dynamic', ← bind_assoc]
    exact run_single terminator (.resetDynamicColor value)
  rw [if_neg dynamic', if_neg dynamic']
  split <;> rfl

theorem run_doOscSetTextParameters (terminator : List Nat) : (doOscSetTextParameters host terminator).run e =
    (perform host terminator (payloadActions e.mOSCOrDeviceControlArgs)).run e := by
  rw [payloadActions]
  by_cases all : ∀ b ∈ (oscParts e.mOSCOrDeviceControlArgs).1, IsDigit b
  · rw [if_pos all, run_osc_command ((oscValue_eq _ _).trans (if_pos all))]
    exact run_oscCommand terminator _ _
  · rw [if_neg all, run_osc_none ((oscValue_eq _ _).trans (if_neg all))]
    rfl

end Payload

section Exact

variable {payload : List Nat} {index : Int}

structure ExactPayload (host : Host) (payload : List Nat) : Prop where
  performed : ∀ (terminator : List Nat) (e : TerminalEmulator), e.mOSCOrDeviceControlArgs = payload →
    (doOscSetTextParameters host terminator).run e = (perform host terminator (payloadActions payload)).run e
  command : (∀ b ∈ (oscParts payload).1, IsDigit b) →
    payloadActions payload = oscActions (exactNumber (oscParts payload).1) (oscParts payload).2
  pairs : ∀ (digits spec : List Nat) (index : Int), .color digits spec index ∈ payloadActions payload →
    ∀ (terminator : List Nat) (e e' : TerminalEmulator),
      ((OscAction.color digits spec index).run host terminator).run e = .ok () e' →
        ∀ i : Fin TextStyle.numIndexedColors, e'.mColors.get i ≠ e.mColors.get i → (i.val : Int) = exactNumber digits

theorem mem_colorActions {fields : List (List Nat)} (inside : .color digits spec index ∈ colorActions fields) :
    (∀ b ∈ digits, IsDigit b) ∧ index = digitsNumber digits (-1) ∧ 0 ≤ index ∧ index ≤ 255 := by
  induction fields using colorActions.induct with
  | case1 first second fields number reached ih =>
    rw [colorActions, if_pos reached] at inside
    rcases List.mem_cons.mp inside with same | later
    · cases same
      exact ⟨reached.1, rfl, reached.2⟩
    · exact ih later
  | case2 first second fields number missed =>
    rw [colorActions, if_neg missed] at inside
    cases inside
  | case3 fields short =>
    rw [colorActions] at inside
    · cases inside
    · exact short

theorem mem_oscActions {value : Int} (inside : .color digits spec index ∈ oscActions value text) :
    (∀ b ∈ digits, IsDigit b) ∧ index = digitsNumber digits (-1) ∧ 0 ≤ index ∧ index ≤ 255 := by
  unfold oscActions at inside
  split_ifs at inside
  all_goals first
    | exact mem_colorActions inside
    | simp at inside

theorem oscActions_large {value : Int} (large : 2 ^ 31 ≤ value) (text : List Nat) : oscActions value text = [] := by
  unfold oscActions
  repeat rw [if_neg (by omega)]

def recolored (host : Host) (index : Int) (spec : List Nat) (e : TerminalEmulator) : TerminalEmulator :=
  { e with
    mColors := if TerminalColors.parse host spec = 0 then e.mColors
      else e.mColors.setIfInBounds index.toNat (TerminalColors.parse host spec) }

theorem run_tryParseColor (inside : 0 ≤ index ∧ index < TextStyle.numIndexedColors) (e : TerminalEmulator) :
    (tryParseColor host index spec).run e = .ok () (e.recolored host index spec) := by
  unfold tryParseColor setCurrentColor recolored
  dsimp only
  by_cases invalid : TerminalColors.parse host spec = 0
  · rw [if_neg (not_not.mpr invalid), if_pos invalid]
    rfl
  · have bound : index.toNat < TextStyle.numIndexedColors := by omega
    have same : ∀ color, e.mColors.setIfInBounds index.toNat color = e.mColors.set index.toNat color bound := by
      intro color
      simp only [Vector.set, Vector.setIfInBounds, Array.setIfInBounds, Vector.size_toArray, dif_pos bound]
    rw [if_pos invalid, if_neg invalid, dif_pos inside, same]
    rfl

theorem get_recolored (lower : 0 ≤ index) (i : Fin TextStyle.numIndexedColors) :
    (e.recolored host index spec).mColors.get i =
      if TerminalColors.parse host spec ≠ 0 ∧ (i.val : Int) = index then TerminalColors.parse host spec
      else e.mColors.get i := by
  have same : index.toNat = i.val ↔ (i.val : Int) = index := by omega
  unfold recolored
  dsimp only
  by_cases invalid : TerminalColors.parse host spec = 0
  · rw [if_pos invalid, if_neg fun both => both.1 invalid]
  · rw [if_neg invalid]
    show (e.mColors.setIfInBounds _ _)[i.val] = if _ then _ else e.mColors[i.val]
    rw [Vector.getElem_setIfInBounds i.isLt]
    simp only [same, invalid, ne_eq, not_false_eq_true, true_and]

theorem run_color (terminator : List Nat) (lower : 0 ≤ index) (upper : index ≤ 255) (e : TerminalEmulator) :
    ((OscAction.color digits spec index).run host terminator).run e =
      .ok () ((e.recolored host index spec).raise .onColorsChanged) := by
  have size : (TextStyle.numIndexedColors : Int) = 259 := rfl
  unfold OscAction.run
  dsimp only
  rw [EStateM.run_bind, run_tryParseColor ⟨lower, by omega⟩]
  rfl

theorem ne_not (color : BitVec 32) : color ≠ ~~~ color := by
  intro same
  have bit := congrArg (fun v : BitVec 32 => v.getLsbD 0) same
  simp at bit

/-- A payload is carried out with the numbers that its digits show if and only if the number of the command is an `int`, or
becomes one for which nothing is done, and so is the number of every colour that is reached with a valid specification. -/
theorem osc_numbers_exact_iff (host : Host) (payload : List Nat) : ExactPayload host payload ↔
    ((∀ b ∈ (oscParts payload).1, IsDigit b) →
      (exactNumber (oscParts payload).1 < 2 ^ 31 ∨
        oscActions (digitsNumber (oscParts payload).1 (-1)) (oscParts payload).2 = []) ∧
      ∀ digits spec index, .color digits spec index ∈
          oscActions (digitsNumber (oscParts payload).1 (-1)) (oscParts payload).2 →
        TerminalColors.parse host spec ≠ 0 → exactNumber digits < 2 ^ 31) := by
  constructor
  · rintro ⟨-, command, pairs⟩ all
    have actions : payloadActions payload = oscActions (digitsNumber (oscParts payload).1 (-1)) (oscParts payload).2 :=
      if_pos all
    rw [actions] at command pairs
    refine ⟨?_, fun digits spec index inside valid => ?_⟩
    · rcases lt_or_ge (exactNumber (oscParts payload).1) (2 ^ 31) with fits | large
      · exact Or.inl fits
      · exact Or.inr ((command all).trans (oscActions_large large _))
    · obtain ⟨-, -, lower, upper⟩ := mem_oscActions inside
      -- every colour is another one before
      let e : TerminalEmulator :=
        { filledWith 4 2 120 with mColors := Vector.replicate TextStyle.numIndexedColors (~~~ TerminalColors.parse host spec) }
      have ran := @run_color host digits spec index [] lower upper e
      have small : index.toNat < TextStyle.numIndexedColors := by
        have : TextStyle.numIndexedColors = 259 := rfl
        omega
      have place : ((⟨index.toNat, small⟩ : Fin TextStyle.numIndexedColors).val : Int) = index := Int.toNat_of_nonneg lower
      have changed := pairs digits spec index inside [] e _ ran ⟨index.toNat, small⟩ (by
        refine ((get_recolored lower _).trans (if_pos ⟨valid, place⟩)).trans_ne ?_
        show _ ≠ (Vector.replicate TextStyle.numIndexedColors (~~~ TerminalColors.parse host spec))[index.toNat]
        rw [Vector.getElem_replicate]
        exact ne_not _)
      omega
  · intro exact'
    have both : ∀ all : ∀ b ∈ (oscParts payload).1, IsDigit b,
        payloadActions payload = oscActions (digitsNumber (oscParts payload).1 (-1)) (oscParts payload).2 := fun all => if_pos all
    refine ⟨fun terminator e same => ?_, fun all => ?_, fun digits spec index inside terminator e e' ran i changed => ?_⟩
    · rw [run_doOscSetTextParameters, same]
    · rw [both all]
      rcases lt_or_ge (exactNumber (oscParts payload).1) (2 ^ 31) with fits | large
      · rw [(digitsNumber_eq_iff all).mpr fits]
      · rw [(exact' all).1.resolve_left (by omega), oscActions_large large]
    · by_cases all : ∀ b ∈ (oscParts payload).1, IsDigit b
      · rw [both all] at inside
        obtain ⟨good, number, lower, upper⟩ := mem_oscActions inside
        have same : e' = (e.recolored host index spec).raise .onColorsChanged := by
          injection ran.symm.trans (run_color terminator lower upper e)
        rw [same] at changed
        replace changed : (e.recolored host index spec).mColors.get i ≠ e.mColors.get i := changed
        rw [get_recolored lower] at changed
        have hit : TerminalColors.parse host spec ≠ 0 ∧ (i.val : Int) = index := by
          by_contra other
          rw [if_neg other] at changed
          exact changed rfl
        rw [hit.2, number]
        exact (digitsNumber_eq_iff good).mpr ((exact' all).2 digits spec index inside hit.1)
      · rw [payloadActions, if_neg all] at inside
        cases inside

def titleAndColor (payload : List Nat) : Option (Option (List Nat) × BitVec 32) :=
  match (doOscSetTextParameters plainHost [7]).run { filledWith 4 2 120 with mOSCOrDeviceControlArgs := payload } with
  | .ok _ e => some (e.mTitle, e.mColors.get ⟨5, by decide⟩)
  | .error _ _ => none

/-- The number of the command and that of a colour wrap around. -/
theorem osc_number_wraps :
    titleAndColor (chars "4294967296;x") = some (some (chars "x"), 0) ∧
    titleAndColor (chars "4;4294967301;#000") = some (none, 0xFF000000) ∧
    exactNumber (chars "4294967296") = 4294967296 ∧ exactNumber (chars "4294967301") = 4294967301 := by
  decide +kernel

end Exact

end TerminalEmulator
