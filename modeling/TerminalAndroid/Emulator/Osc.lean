import TerminalAndroid.Exec.Ends
import TerminalAndroid.Emulator.Runs

open Java Exec

namespace Host

variable {host : Host}

theorem parseDigits_separator {radix : Nat} {text : List Nat} (inside : ';'.toNat ∈ text) (value : Nat) :
    host.parseDigits radix text value = none := by
  induction text generalizing value with
  | nil => cases inside
  | cons c text ih =>
    rw [parseDigits]
    rcases List.mem_cons.mp inside with same | inside
    · rw [← same, host.digit_separator]
      rfl
    · cases host.digit c radix with
      | none => rfl
      | some digit => exact ih inside _

theorem parseInt_separator {radix : Nat} {text : List Nat} (inside : ';'.toNat ∈ text) :
    host.parseInt radix text = none := by
  cases text with
  | nil => cases inside
  | cons c rest =>
    have digits : ';'.toNat ∈ if c = '-'.toNat ∨ c = '+'.toNat then rest else c :: rest := by
      split
      next sign =>
        rcases List.mem_cons.mp inside with same | inside
        · exact absurd sign (by rw [← same]; decide)
        · exact inside
      · exact inside
    unfold parseInt
    dsimp only
    rw [parseDigits_separator digits, Option.bind_none, ite_self]

end Host

namespace TerminalEmulator

variable {host : Host} {e : TerminalEmulator}

variable {index value : Int} {terminator text textParameter : List Nat}

section Loops

theorem setCurrentColor_completes {color : BitVec 32} :
    Completes (setCurrentColor index color) e ↔ 0 ≤ index ∧ index < TextStyle.numIndexedColors := by
  unfold setCurrentColor
  split
  next inside => exact iff_of_true (Completes.modify _) inside
  next outside => exact iff_of_false (not_completes_throw _) outside

theorem tryParseColor_completes (inside : 0 ≤ index ∧ index < TextStyle.numIndexedColors) (text : List Nat) :
    Completes (tryParseColor host index text) e :=
  Completes.ite (fun _ => setCurrentColor_completes.mpr inside) fun _ => Completes.pure ()

theorem readArray_completes {α : Type} {array : List α} :
    Completes (readArray array index : EmulatorM α) e ↔ 0 ≤ index ∧ index < array.length := by
  unfold readArray
  by_cases lower : 0 ≤ index
  · rw [if_pos lower]
    by_cases upper : index.toNat < array.length
    · rw [List.getElem?_eq_getElem upper]
      exact iff_of_true (Completes.pure _) ⟨lower, by omega⟩
    · rw [List.getElem?_eq_none (by omega)]
      exact iff_of_false (not_completes_throw _) (by omega)
  · rw [if_neg lower]
    exact iff_of_false (not_completes_throw _) fun inside => lower inside.1

theorem resetColor_completes :
    Completes (resetColor host index) e ↔ 0 ≤ index ∧ index < TextStyle.numIndexedColors := by
  have length : host.defaultColors.toList.length = TextStyle.numIndexedColors := Vector.length_toList
  constructor
  · intro completes
    obtain ⟨color, t, read, -⟩ := completes_bind_iff.mp completes
    rw [← length]
    exact readArray_completes.mp ⟨color, t, read⟩
  · intro inside
    refine Completes.bind (readArray_completes.mpr ?_) fun _ _ _ => setCurrentColor_completes.mpr inside
    rw [length]
    exact inside

theorem reportColor_completes {specialIndex : Int}
    (inside : 0 ≤ specialIndex ∧ specialIndex < TextStyle.numIndexedColors) :
    Completes (reportColor value specialIndex terminator) e := by
  refine Completes.get_bind (Completes.bind (readArray_completes.mpr ?_) fun _ _ _ => Completes.modify _)
  rw [Vector.length_toList]
  exact inside

theorem substring_completes {start stop : Int} (lower : 0 ≤ start) (ordered : start ≤ stop)
    (upper : stop ≤ text.length) : Completes (liftResult (TerminalColors.substring text start stop) : EmulatorM _) e := by
  unfold TerminalColors.substring
  rw [if_neg (by omega)]
  exact Completes.pure _

theorem oscColors_completes {fuel i : Nat} {colorIndex parsingPairStart : Int}
    (inside : i ≤ textParameter.length) (enough : textParameter.length < i + fuel) (started : parsingPairStart ≤ i) :
    Completes (oscColors host textParameter fuel i colorIndex parsingPairStart) e := by
  induction fuel generalizing i colorIndex parsingPairStart e with
  | zero => omega
  | succ fuel ih =>
    have next : ∀ {e : TerminalEmulator} {colorIndex parsingPairStart : Int}, parsingPairStart ≤ i + 1 →
        Completes (if i = textParameter.length then pure true
          else oscColors host textParameter fuel (i + 1) colorIndex parsingPairStart) e := fun started =>
      Completes.ite (fun _ => Completes.pure _) fun more => ih (by omega) (by omega) (by push_cast; exact started)
    unfold oscColors
    refine Completes.ite (fun _ => Completes.ite (fun _ => next (by omega)) fun pair => Completes.ite (fun _ => ?_)
      fun index => ?_) fun _ => Completes.ite (fun _ => next (by omega)) fun _ => Completes.ite (fun _ => next (by omega))
      fun _ => ?_
    · exact Completes.bind (Completes.modify _) fun _ _ _ => Completes.pure _
    · refine Completes.bind ?_ fun spec _ _ => Completes.bind (tryParseColor_completes ?_ _) fun _ _ _ =>
        Completes.bind (Completes.modify _) fun _ _ _ => next (by omega)
      · exact substring_completes (by omega) started (by omega)
      · have : (TextStyle.numIndexedColors : Int) = 259 := rfl
        omega
    · exact Completes.bind (Completes.modify _) fun _ _ _ => Completes.pure _

theorem oscDynamicColors_completes {bellOrStringTerminator : List Nat} {fuel : Nat}
    {charIndex lastSemiIndex specialIndex : Int} (lower : 0 ≤ lastSemiIndex) (ordered : lastSemiIndex ≤ charIndex)
    (inside : charIndex ≤ textParameter.length) (enough : textParameter.length < charIndex + fuel)
    (special : 256 ≤ specialIndex ∧ specialIndex ≤ 258) :
    Completes (oscDynamicColors host value textParameter bellOrStringTerminator fuel charIndex lastSemiIndex specialIndex)
      e := by
  have size : (TextStyle.numIndexedColors : Int) = 259 := rfl
  induction fuel generalizing charIndex lastSemiIndex specialIndex e with
  | zero => omega
  | succ fuel ih =>
    unfold oscDynamicColors
    refine Completes.bind ?_ fun separator t read => Completes.ite (fun _ => ?_) fun between => ?_
    · refine Completes.ite (fun _ => Completes.pure _) fun more => Completes.bind ?_ fun _ _ _ => Completes.pure _
      exact readArray_completes.mpr ⟨by omega, by omega⟩
    · refine Completes.bind (substring_completes lower ordered inside) fun spec _ _ => Completes.bind ?_ fun _ _ _ =>
        Completes.ite (fun _ => Completes.pure _) fun more => ?_
      · refine Completes.ite (fun _ => reportColor_completes (by omega)) fun _ => ?_
        exact Completes.bind (tryParseColor_completes (by omega) _) fun _ _ _ => Completes.modify _
      · have : TextStyle.colorIndexCursor.toInt = 258 := by decide
        exact ih (by omega) (by omega) (by omega) (by omega) (by omega)
    · refine ih lower (by omega) ?_ (by omega) special
      by_contra last
      rw [if_pos (by omega)] at read
      cases read
      exact between rfl

section Reset

def Resettable (host : Host) (token : List Nat) : Prop :=
  ∃ colorToReset, host.parseInt 10 token = some colorToReset ∧ 0 ≤ colorToReset ∧ colorToReset < TextStyle.numIndexedColors

def resetting (host : Host) (fuel : Nat) (before current rest : List Nat) : EmulatorM Unit :=
  oscResetColors host (before ++ current ++ rest) fuel (before.length + current.length : Nat) before.length

variable {fuel : Nat} {before current rest : List Nat}

theorem not_completes_past_end {charIndex lastIndex : Int}
    (past : textParameter.length < charIndex) : ¬ Completes (oscResetColors host textParameter fuel charIndex lastIndex) e := by
  cases fuel with
  | zero => exact not_completes_throw _
  | succ fuel =>
    intro completes
    unfold oscResetColors at completes
    obtain ⟨separator, t, read, -⟩ := completes_bind_iff.mp completes
    rw [if_neg (by omega)] at read
    obtain ⟨c, t, read, -⟩ := bind_inv read
    have := (readArray_completes.mp ⟨c, t, read⟩).2
    omega

theorem run_separator : (if ((before.length + current.length : Nat) : Int) = (before ++ current ++ rest).length then pure true
      else do pure (decide ((← charAt (before ++ current ++ rest) (before.length + current.length : Nat)) = ';'.toNat)) :
        EmulatorM Bool).run e = .ok (decide (rest = [] ∨ rest.head? = some ';'.toNat)) e := by
  have length : (before ++ current ++ rest).length = before.length + current.length + rest.length := by
    simp only [List.length_append]
  cases rest with
  | nil =>
    rw [if_pos (by rw [length]; rfl)]
    rfl
  | cons c rest =>
    rw [List.length_cons] at length
    have found : (before ++ current ++ c :: rest)[before.length + current.length]? = some c := by
      rw [← List.length_append, List.getElem?_append_right (Nat.le_refl _), Nat.sub_self]
      rfl
    rw [if_neg (by omega)]
    refine (run_bind_of (run_readArray found e)).trans ?_
    simp

theorem run_resetting : (resetting host (fuel + 1) before current rest).run e =
    (if rest = [] ∨ rest.head? = some ';'.toNat then
      match host.parseInt 10 current with
      | none => oscResetColors host (before ++ current ++ rest) fuel ((before.length + current.length : Nat) + 1) before.length
      | some colorToReset => do
        resetColor host colorToReset
        modify fun e : TerminalEmulator => e.raise .onColorsChanged
        if rest = [] then pure ()
        else
          oscResetColors host (before ++ current ++ rest) fuel ((before.length + current.length : Nat) + 2)
            ((before.length + current.length : Nat) + 1)
    else oscResetColors host (before ++ current ++ rest) fuel ((before.length + current.length : Nat) + 1) before.length :
      EmulatorM Unit).run e := by
  have last : ((before.length + current.length : Nat) : Int) = (before ++ current ++ rest).length ↔ rest = [] := by
    rw [← List.length_eq_zero_iff, List.length_append, List.length_append]
    omega
  unfold resetting
  rw [oscResetColors]
  refine (run_bind_of run_separator).trans ?_
  simp only [decide_eq_true_eq]
  split
  · rw [List.append_assoc, TerminalColors.substring_middle rfl (by omega), ← List.append_assoc]
    refine (run_bind_of rfl).trans ?_
    cases host.parseInt 10 current <;> simp only [last]
  · rfl

theorem resetting_shift {c : Nat} :
    oscResetColors host (before ++ current ++ c :: rest) fuel ((before.length + current.length : Nat) + 1) before.length =
      resetting host fuel before (current ++ [c]) rest := by
  have text : before ++ current ++ c :: rest = before ++ (current ++ [c]) ++ rest := by simp
  have index : ((before.length + current.length : Nat) : Int) + 1 = (before.length + (current ++ [c]).length : Nat) := by
    rw [List.length_append, List.length_singleton]
    omega
  rw [text, index, resetting]

theorem resetting_next {c : Nat} :
    oscResetColors host (before ++ current ++ ';'.toNat :: c :: rest) fuel ((before.length + current.length : Nat) + 2)
        ((before.length + current.length : Nat) + 1) =
      resetting host fuel (before ++ current ++ [';'.toNat]) [c] rest := by
  have text : before ++ current ++ ';'.toNat :: c :: rest = before ++ current ++ [';'.toNat] ++ [c] ++ rest := by simp
  have length : (before ++ current ++ [';'.toNat]).length = before.length + current.length + 1 := by
    simp only [List.length_append, List.length_singleton]
  rw [text, resetting, length, List.length_singleton]
  rfl

theorem not_completes_separator (inside : ';'.toNat ∈ current) :
    ¬ Completes (resetting host fuel before current rest) e := by
  induction fuel generalizing current rest e with
  | zero => exact not_completes_throw _
  | succ fuel ih =>
    unfold Completes
    rw [run_resetting, Host.parseInt_separator inside]
    dsimp only
    rw [ite_self]
    cases rest with
    | nil =>
      refine not_completes_past_end ?_
      rw [List.append_nil, List.length_append]
      omega
    | cons c rest =>
      rw [resetting_shift]
      exact ih (List.mem_append_left _ inside)

theorem splitOn_separator (clean : ';'.toNat ∉ current) :
    (current ++ ';'.toNat :: rest).splitOn ';'.toNat = current :: rest.splitOn ';'.toNat := by
  have other : ∀ c ∈ current, (c == ';'.toNat) = false := by
    intro c inside
    exact beq_false_of_ne fun same => clean (same ▸ inside)
  exact List.splitOnP_append_cons_of_forall_mem other _ (beq_self_eq_true ';'.toNat) rest

theorem resettable_iff {token : List Nat} {colorToReset : Int} (parsed : host.parseInt 10 token = some colorToReset) :
    Resettable host token ↔ 0 ≤ colorToReset ∧ colorToReset < TextStyle.numIndexedColors := by
  unfold Resettable
  rw [parsed]
  simp

theorem not_resettable_of_none {token : List Nat} (parsed : host.parseInt 10 token = none) : ¬ Resettable host token := by
  rintro ⟨_, found, -⟩
  rw [parsed] at found
  cases found

theorem not_resettable_nil : ¬ Resettable host [] := not_resettable_of_none rfl

theorem reset_completes {colorToReset : Int} {next : EmulatorM Unit} {p : Prop} (same : ∀ t, Completes next t ↔ p) :
    Completes (do
        resetColor host colorToReset
        modify fun e : TerminalEmulator => e.raise .onColorsChanged
        next) e ↔
      (0 ≤ colorToReset ∧ colorToReset < TextStyle.numIndexedColors) ∧ p := by
  constructor
  · intro completes
    obtain ⟨_, t, reset, rest⟩ := completes_bind_iff.mp completes
    obtain ⟨_, t', -, rest⟩ := completes_bind_iff.mp rest
    exact ⟨resetColor_completes.mp ⟨_, t, reset⟩, (same t').mp rest⟩
  · rintro ⟨inside, holds⟩
    refine Completes.bind (resetColor_completes.mpr inside) fun _ _ _ => ?_
    exact Completes.bind (Completes.modify _) fun _ t _ => (same t).mpr holds

theorem resetting_completes (clean : ';'.toNat ∉ current) (enough : rest.length + 2 ≤ fuel) :
    Completes (resetting host fuel before current rest) e ↔
      ∀ token ∈ (current ++ rest).splitOn ';'.toNat, Resettable host token := by
  induction fuel generalizing before current rest e with
  | zero => omega
  | succ fuel ih =>
    unfold Completes
    rw [run_resetting]
    cases rest with
    | nil =>
      have single : (current ++ []).splitOn ';'.toNat = [current] := by
        rw [List.append_nil, List.splitOn_eq_singleton clean]
      rw [if_pos (Or.inl rfl), single, List.forall_mem_singleton]
      cases parsed : host.parseInt 10 current with
      | none =>
        refine iff_of_false (not_completes_past_end ?_) (not_resettable_of_none parsed)
        rw [List.append_nil, List.length_append]
        omega
      | some colorToReset =>
        rw [resettable_iff parsed, if_pos rfl]
        exact (reset_completes fun _ => iff_true_intro (Completes.pure ())).trans (Iff.of_eq (and_true _))
    | cons c rest =>
      rw [List.length_cons] at enough
      by_cases separator : c = ';'.toNat
      · rw [separator, splitOn_separator clean, List.forall_mem_cons, if_pos (Or.inr List.head?_cons)]
        cases parsed : host.parseInt 10 current with
        | none =>
          dsimp only
          rw [resetting_shift]
          refine iff_of_false (not_completes_separator (List.mem_append_right _ List.mem_cons_self)) fun all => ?_
          exact not_resettable_of_none parsed all.1
        | some colorToReset =>
          rw [resettable_iff parsed, if_neg (List.cons_ne_nil _ _)]
          refine reset_completes fun t => ?_
          cases rest with
          | nil =>
            refine iff_of_false (not_completes_past_end ?_) fun all => ?_
            · simp only [List.length_append, List.length_singleton]
              omega
            · exact not_resettable_nil (all [] List.mem_cons_self)
          | cons x rest =>
            rw [resetting_next]
            by_cases empty : x = ';'.toNat
            · rw [empty]
              refine iff_of_false (not_completes_separator List.mem_cons_self) fun all => ?_
              have first : (';'.toNat :: rest).splitOn ';'.toNat = [] :: rest.splitOn ';'.toNat :=
                splitOn_separator List.not_mem_nil
              rw [first] at all
              exact not_resettable_nil (all [] List.mem_cons_self)
            · rw [List.length_cons] at enough
              exact ih (by simpa using Ne.symm empty) (by omega)
      · have other : ¬ (c :: rest = [] ∨ (c :: rest).head? = some ';'.toNat) := by simpa using separator
        rw [if_neg other, resetting_shift]
        have clean' : ';'.toNat ∉ current ++ [c] := by
          rw [List.mem_append, List.mem_singleton]
          exact not_or.mpr ⟨clean, Ne.symm separator⟩
        have shifted := @ih e before (current ++ [c]) rest clean' (by omega)
        rw [List.append_assoc] at shifted
        exact shifted

end Reset

end Loops

section Payload

def IsDigit (b : Nat) : Prop := '0'.toNat ≤ b ∧ b ≤ '9'.toNat

def digitsNumber (digits : List Nat) (value : Int) : Int :=
  digits.foldl (fun value b => toInt ((if value < 0 then 0 else value * 10) + (b - '0'.toNat : Nat))) value

theorem oscValue_digits {digits : List Nat} (all : ∀ b ∈ digits, IsDigit b) (value : Int) :
    oscValue (digits ++ ';'.toNat :: text) value = some (digitsNumber digits value, text) := by
  induction digits generalizing value with
  | nil => rfl
  | cons b digits ih =>
    obtain ⟨digit, all⟩ := List.forall_mem_cons.mp all
    have range : '0'.toNat ≤ b ∧ b ≤ '9'.toNat := digit
    have other : b ≠ ';'.toNat := by
      rintro rfl
      exact absurd range.2 (by decide)
    rw [List.cons_append, oscValue, if_neg other, if_pos range, ih all]
    rfl

theorem digits_of_oscValue {args : List Nat} {number : Int} (found : oscValue args value = some (number, text))
    (more : text ≠ []) :
    ∃ digits, args = digits ++ ';'.toNat :: text ∧ (∀ b ∈ digits, IsDigit b) ∧ digitsNumber digits value = number := by
  induction args generalizing value with
  | nil =>
    cases found
    exact absurd rfl more
  | cons b args ih =>
    rw [oscValue] at found
    split at found
    next separator =>
      cases found
      exact ⟨[], by rw [separator]; rfl, nofun, rfl⟩
    · split at found
      next digit =>
        obtain ⟨digits, rfl, all, rfl⟩ := ih found
        exact ⟨b :: digits, rfl, List.forall_mem_cons.mpr ⟨digit, all⟩, rfl⟩
      · cases found

def ResetsColors (host : Host) (payload : List Nat) : Prop :=
  ∀ digits text, payload = digits ++ ';'.toNat :: text → (∀ b ∈ digits, IsDigit b) → digitsNumber digits (-1) = 104 →
    text ≠ [] → ∀ token ∈ text.splitOn ';'.toNat, Resettable host token

theorem oscResetColors_completes :
    Completes (oscResetColors host text (text.length + 2) 0 0) e ↔ ∀ token ∈ text.splitOn ';'.toNat, Resettable host token := by
  have loop : Completes (resetting host (text.length + 2) [] [] text) e ↔ _ :=
    resetting_completes List.not_mem_nil (Nat.le_refl _)
  exact loop

theorem oscCommand_completes :
    Completes (oscCommand host value text terminator) e ↔
      (value = 104 → text ≠ [] → ∀ token ∈ text.splitOn ';'.toNat, Resettable host token) := by
  have andTrue : ∀ {m : EmulatorM Unit}, Completes m e → Completes (do m; pure true) e := fun first =>
    Completes.bind first fun _ _ _ => Completes.pure true
  have size : (TextStyle.numIndexedColors : Int) = 259 := rfl
  have foreground : TextStyle.colorIndexForeground.toInt = 256 := by decide
  unfold oscCommand
  by_cases reset : value = 104
  · subst reset
    rw [if_neg (by decide), if_neg (by decide), if_neg (by decide), if_neg (by decide), if_pos rfl]
    by_cases empty : text = []
    · rw [if_pos empty]
      exact iff_of_true (andTrue (Completes.modify _)) fun _ more => absurd empty more
    · rw [if_neg empty]
      constructor
      · intro completes _ _
        obtain ⟨_, t, ran, -⟩ := completes_bind_iff.mp completes
        exact oscResetColors_completes.mp ⟨_, t, ran⟩
      · intro all
        exact andTrue (oscResetColors_completes.mpr (all rfl empty))
  · refine iff_of_true ?_ fun is => absurd is reset
    refine Completes.ite (fun _ => andTrue (Completes.modify _)) fun _ => Completes.ite (fun _ => ?_) fun _ =>
      Completes.ite (fun dynamic => andTrue ?_) fun _ => Completes.ite (fun _ => andTrue (Completes.modify _)) fun _ =>
      Completes.ite (fun is => absurd is reset) fun _ => Completes.ite (fun special => ?_) fun _ =>
      Completes.ite (fun _ => Completes.pure true) fun _ => andTrue (Completes.modify _)
    · exact oscColors_completes (Nat.zero_le _) (by omega) (by decide)
    · exact oscDynamicColors_completes (Int.le_refl 0) (Int.le_refl 0) (by omega) (by omega) (by omega)
    · refine Completes.bind (resetColor_completes.mpr (by omega)) fun _ _ _ => ?_
      exact Completes.bind (Completes.modify _) fun _ _ _ => Completes.pure true

def closing (m : EmulatorM Bool) : EmulatorM Unit := do
  let finishes ← m
  if finishes then modify finishSequence

theorem run_osc_none (none : oscValue e.mOSCOrDeviceControlArgs (-1) = none) :
    (doOscSetTextParameters host terminator).run e = .ok () e.unknownSequence := by
  unfold doOscSetTextParameters
  simp only [EStateM.run_bind, EStateM.run_get, none]
  rfl

theorem run_osc_command
    (command : oscValue e.mOSCOrDeviceControlArgs (-1) = some (value, text)) :
    (doOscSetTextParameters host terminator).run e = (closing (oscCommand host value text terminator)).run e := by
  unfold doOscSetTextParameters
  simp only [EStateM.run_bind, EStateM.run_get, command]
  rfl

theorem closing_completes {m : EmulatorM Bool} : Completes (closing m) e ↔ Completes m e := by
  constructor
  · intro completes
    obtain ⟨finishes, t, ran, -⟩ := completes_bind_iff.mp completes
    exact ⟨finishes, t, ran⟩
  · intro completes
    refine Completes.bind completes fun _ _ _ => ?_
    exact Completes.ite (fun _ => Completes.modify _) fun _ => Completes.pure ()

/-- OSC 104 with a part that is no number of a colour is the only payload that ends in an exception. -/
theorem doOscSetTextParameters_completes (bellOrStringTerminator : List Nat) :
    Completes (doOscSetTextParameters host bellOrStringTerminator) e ↔ ResetsColors host e.mOSCOrDeviceControlArgs := by
  have command : Completes (doOscSetTextParameters host bellOrStringTerminator) e ↔
      ∀ value text, oscValue e.mOSCOrDeviceControlArgs (-1) = some (value, text) →
        Completes (oscCommand host value text bellOrStringTerminator) e := by
    cases found : oscValue e.mOSCOrDeviceControlArgs (-1) with
    | none => exact iff_of_true ⟨_, _, run_osc_none found⟩ fun _ _ impossible => by cases impossible
    | some command =>
      obtain ⟨value, text⟩ := command
      unfold Completes
      rw [run_osc_command found]
      refine closing_completes.trans ⟨fun completes _ _ same => ?_, fun completes => completes value text rfl⟩
      cases same
      exact completes
  rw [command]
  constructor
  · intro completes digits text payload all number more
    refine oscCommand_completes.mp (completes 104 text ?_) rfl more
    rw [payload, oscValue_digits all, number]
  · intro resets value text found
    refine oscCommand_completes.mpr ?_
    rintro rfl more
    obtain ⟨digits, payload, all, number⟩ := digits_of_oscValue found more
    exact resets digits text payload all number more

/-- `OSC 104 ; 300` and BEL. -/
theorem reset_of_no_color : (fed 10 4 [27, 93, 49, 48, 52, 59, 51, 48, 48]).isOk = true ∧
    (started 10 4 (do
      append plainHost [27, 93, 49, 48, 52, 59, 51, 48, 48]
      doOscSetTextParameters plainHost [7])).isOk = false := by
  decide +kernel

end Payload

end TerminalEmulator
