import TerminalAndroid.Text.Fields
import TerminalAndroid.Emulator.Apc
import TerminalAndroid.Emulator.Ready

open Java Exec Text

namespace TerminalEmulator

def isSeparator (x : Nat) : Bool := x = ';'.toNat ∨ x = ':'.toNat

def IsParameter (x : Nat) : Prop := ('0'.toNat ≤ x ∧ x ≤ '9'.toNat) ∨ isSeparator x = true

instance : DecidablePred IsParameter := fun _ => inferInstanceAs (Decidable (_ ∨ _))

def fields (text : List Nat) : List (List Nat) := text.splitOnP isSeparator

def argument (digits : List Nat) : Int := if digits = [] then -1 else min (decimal digits) 9999

def introducedByColon (text : List Nat) (i : Nat) : Bool :=
  (';'.toNat :: text.filter isSeparator)[i]? = some ':'.toNat

/-- The digits that `parseArg` takes for an argument: the last one gets those of all the fields that follow as well. -/
def digitsOf (text : List Nat) (i : Nat) : List Nat :=
  if i < 31 then (fields text).getD i [] else ((fields text).drop 31).flatten

def argumentsOf (text : List Nat) : Vector Int 32 := Vector.ofFn fun i => argument (digitsOf text i)

def subParamsOf (text : List Nat) : BitVec 32 := BitVec.ofFnLE fun i => introducedByColon text i

def reading (e : TerminalEmulator) (state : EscapeState) (text : List Nat) : TerminalEmulator :=
  { e with
    mEscapeState := state
    mContinueSequence := true
    mArgIndex := min (text.filter isSeparator).length 31
    mArgs := argumentsOf text
    mArgsSubParamsBitSet := subParamsOf text }

def finishing (e : TerminalEmulator) (state : EscapeState) (text : List Nat) : TerminalEmulator :=
  { e.reading state text with mContinueSequence := false }

variable {e e₁ : TerminalEmulator} {host : Host} {state : EscapeState} {text more : List Nat} {x b : Nat}

variable {i : Nat}

section Fields

theorem length_fields (text : List Nat) : (fields text).length = (text.filter isSeparator).length + 1 :=
  length_splitOnP isSeparator text

theorem fields_digit (digit : isSeparator x = false) {init : List (List Nat)} {last : List Nat}
    (split : fields text = init ++ [last]) : fields (text ++ [x]) = init ++ [last ++ [x]] :=
  splitOnP_append split (by simpa using digit)

theorem fields_separator (separator : isSeparator x = true) (text more : List Nat) :
    fields (text ++ x :: more) = fields text ++ fields more := List.splitOnP_append_cons text more separator

theorem digitsOf_digit (digit : isSeparator x = false) (text : List Nat) (inside : i < 32) :
    digitsOf (text ++ [x]) i =
      if i = min (text.filter isSeparator).length 31 then digitsOf text i ++ [x] else digitsOf text i := by
  obtain ⟨init, last, split⟩ := exists_splitOnP isSeparator text
  have length : init.length = (text.filter isSeparator).length := by
    have both := length_splitOnP isSeparator text
    rw [split, List.length_append, List.length_singleton] at both
    omega
  unfold digitsOf
  rw [fields_digit digit split, fields, split, ← length]
  by_cases early : i < 31
  · rw [if_pos early, if_pos early]
    rcases Nat.lt_trichotomy i init.length with before | same | behind
    · rw [if_neg (by omega), List.getD_append _ _ _ _ before, List.getD_append _ _ _ _ before]
    · rw [if_pos (by omega), same, List.getD_append_right _ _ _ _ (Nat.le_refl _),
        List.getD_append_right _ _ _ _ (Nat.le_refl _), Nat.sub_self]
      rfl
    · rw [if_neg (by omega), List.getD_eq_default _ _ (by simp; omega), List.getD_eq_default _ _ (by simp; omega)]
  · rw [if_neg early, if_neg early]
    by_cases full : init.length < 31
    · rw [if_neg (by omega), List.drop_eq_nil_of_le (by simp; omega), List.drop_eq_nil_of_le (by simp; omega)]
    · rw [if_pos (by omega), List.drop_append_of_le_length (by omega), List.drop_append_of_le_length (by omega)]
      simp

theorem digitsOf_separator (separator : isSeparator x = true) (text : List Nat) (i : Nat) :
    digitsOf (text ++ [x]) i = digitsOf text i := by
  unfold digitsOf
  rw [fields_separator separator]
  split
  · rcases Nat.lt_or_ge i (fields text).length with before | behind
    · rw [List.getD_append _ _ _ _ before]
    · rw [List.getD_append_right _ _ _ _ behind, List.getD_eq_default _ _ behind]
      simp [fields]
  · have empty : ((fields []).drop (31 - (fields text).length)).flatten = [] := by
      rw [List.flatten_eq_nil_iff]
      intro field member
      have inside := List.mem_of_mem_drop member
      simpa [fields] using inside
    rw [List.drop_append, List.flatten_append, empty, List.append_nil]

theorem argument_snoc (digits : List Nat) (x : Nat) :
    argument (digits ++ [x]) =
      let value := if 0 ≤ argument digits then argument digits * 10 + (x - '0'.toNat : Nat) else (x - '0'.toNat : Nat)
      if 9999 < value then 9999 else value := by
  have number := decimal_snoc digits x
  unfold argument
  rw [if_neg (by simp), number]
  by_cases empty : digits = []
  · subst empty
    have zero : decimal [] = 0 := rfl
    dsimp only
    split <;> omega
  · rw [if_neg empty]
    dsimp only
    split <;> omega

theorem argumentsOf_digit (digit : isSeparator x = false) (index : i = min (text.filter isSeparator).length 31)
    (inside : i < 32) :
    let old := (argumentsOf text).get ⟨i, inside⟩
    let value := if 0 ≤ old then old * 10 + (x - '0'.toNat : Nat) else (x - '0'.toNat : Nat)
    (argumentsOf text).set i (if 9999 < value then 9999 else value) inside = argumentsOf (text ++ [x]) := by
  apply Vector.ext
  intro k bound
  have more := digitsOf_digit digit text bound
  unfold argumentsOf
  rw [Vector.getElem_set, Vector.getElem_ofFn, Vector.get_ofFn, Vector.getElem_ofFn, more]
  by_cases same : i = k
  · subst same
    rw [if_pos rfl, if_pos index, argument_snoc]
  · rw [if_neg same, if_neg (by omega)]

theorem argumentsOf_separator (separator : isSeparator x = true) (text : List Nat) :
    argumentsOf (text ++ [x]) = argumentsOf text := by
  unfold argumentsOf
  simp only [digitsOf_separator separator]

theorem introducedByColon_digit (digit : isSeparator x = false) (text : List Nat) (i : Nat) :
    introducedByColon (text ++ [x]) i = introducedByColon text i := by
  unfold introducedByColon
  rw [List.filter_append, List.filter_cons, digit]
  simp

theorem introducedByColon_separator (separator : isSeparator x = true) (text : List Nat) (i : Nat) :
    introducedByColon (text ++ [x]) i =
      if i = (text.filter isSeparator).length + 1 then decide (x = ':'.toNat) else introducedByColon text i := by
  unfold introducedByColon
  rw [List.filter_append, List.filter_cons, separator, if_pos rfl, ← List.cons_append]
  rcases Nat.lt_trichotomy i ((text.filter isSeparator).length + 1) with before | same | behind
  · rw [if_neg (by omega), List.getElem?_append_left (by rw [List.length_cons]; exact before)]
  · rw [if_pos same, same, List.getElem?_append_right (by simp)]
    simp
  · rw [if_neg (by omega), List.getElem?_eq_none (by simp; omega), List.getElem?_eq_none (by simp; omega)]

theorem subParamsOf_digit (digit : isSeparator x = false) (text : List Nat) :
    subParamsOf (text ++ [x]) = subParamsOf text := by
  unfold subParamsOf
  simp only [introducedByColon_digit digit]

theorem getLsbD_subParamsOf (text : List Nat) (inside : i < 32) :
    (subParamsOf text).getLsbD i = introducedByColon text i := by
  unfold subParamsOf
  rw [BitVec.getLsbD_ofFnLE, dif_pos inside]

theorem introducedByColon_past (past : (text.filter isSeparator).length < i) :
    introducedByColon text i = false := by
  unfold introducedByColon
  rw [List.getElem?_eq_none (by rw [List.length_cons]; omega)]
  rfl

theorem and_twoPow_ne_zero (flags : BitVec 32) {k : Nat} (inside : k < 32) :
    (flags &&& BitVec.twoPow 32 k != 0) = flags.getLsbD k := by
  rw [BitVec.and_twoPow]
  cases flags.getLsbD k with
  | false => rfl
  | true =>
    rw [if_pos rfl, bne_iff_ne, ne_eq, ← BitVec.toNat_inj, BitVec.toNat_twoPow_of_lt inside]
    exact Nat.ne_of_gt (Nat.two_pow_pos k)

theorem getLsbD_one_shiftLeft (k : Nat) (inside : i < 32) :
    ((1 : BitVec 32) <<< k).getLsbD i = decide (i = k) := by
  have one : (1 : BitVec 32).getLsbD (i - k) = decide (i - k = 0) := by
    rw [BitVec.ofNat_eq_ofNat, BitVec.getLsbD_one]
    simp
  rw [BitVec.getLsbD_shiftLeft, one]
  grind

theorem subParamsOf_separator (separator : isSeparator x = true) (text : List Nat) :
    subParamsOf (text ++ [x]) =
      if (text.filter isSeparator).length + 1 < 32 ∧ x = ':'.toNat then
        subParamsOf text ||| (1 : BitVec 32) <<< ((text.filter isSeparator).length + 1)
      else subParamsOf text := by
  apply BitVec.eq_of_getLsbD_eq
  intro i inside
  rw [getLsbD_subParamsOf _ inside, introducedByColon_separator separator]
  by_cases new : i = (text.filter isSeparator).length + 1
  · have unset : introducedByColon text i = false := introducedByColon_past (by omega)
    rw [if_pos new]
    split
    next both =>
      rw [BitVec.getLsbD_or, getLsbD_subParamsOf _ inside, unset, getLsbD_one_shiftLeft _ inside]
      simp [new, both.2]
    next other =>
      rw [getLsbD_subParamsOf _ inside, unset]
      exact decide_eq_false fun colon => other ⟨by omega, colon⟩
  · rw [if_neg new]
    split
    · rw [BitVec.getLsbD_or, getLsbD_subParamsOf _ inside, getLsbD_one_shiftLeft _ inside, decide_eq_false new,
        Bool.or_false]
    · rw [getLsbD_subParamsOf _ inside]

end Fields

section Parse

theorem finishing_index (e : TerminalEmulator) (state : EscapeState) (text : List Nat) :
    0 ≤ (e.finishing state text).mArgIndex ∧ (e.finishing state text).mArgIndex.toNat < 32 := by
  unfold finishing reading
  dsimp only
  omega

theorem clampArgIndex_finishing (e : TerminalEmulator) (state : EscapeState) (text : List Nat) :
    clampArgIndex (e.finishing state text) = e.finishing state text := by
  have index := finishing_index e state text
  exact if_neg (by rw [maxEscapeParameters]; omega)

theorem parseArg_digit (digit : '0'.toNat ≤ x ∧ x ≤ '9'.toNat) (state : EscapeState) (text : List Nat) :
    parseArg x (e.finishing state text) = e.reading state (text ++ [x]) := by
  have plain : isSeparator x = false := by
    have upper : x ≤ 57 := digit.2
    simp only [isSeparator, decide_eq_false_iff_not, Char.reduceToNat]
    omega
  have filtered : (text ++ [x]).filter isSeparator = text.filter isSeparator := by
    rw [List.filter_append, List.filter_cons, plain]
    simp
  have index : (e.finishing state text).mArgIndex.toNat = min (text.filter isSeparator).length 31 := by
    unfold finishing reading
    dsimp only
    omega
  have args := argumentsOf_digit plain index (finishing_index e state text).2
  unfold parseArg
  rw [if_pos digit, dif_pos (finishing_index e state text)]
  unfold finishing reading continueSequence at *
  dsimp only at *
  rw [filtered, subParamsOf_digit plain, ← args]

theorem parseArg_separator (separator : isSeparator x = true) (state : EscapeState) (text : List Nat) :
    parseArg x (e.finishing state text) = e.reading state (text ++ [x]) := by
  have sort : x = ';'.toNat ∨ x = ':'.toNat := of_decide_eq_true separator
  have digit : ¬ ('0'.toNat ≤ x ∧ x ≤ '9'.toNat) := by rcases sort with rfl | rfl <;> decide
  have filtered : ((text ++ [x]).filter isSeparator).length = (text.filter isSeparator).length + 1 := by
    rw [List.filter_append, List.filter_cons, separator]
    simp
  have bits := subParamsOf_separator separator text
  unfold parseArg
  rw [if_neg digit, if_pos sort]
  unfold finishing reading continueSequence maxEscapeParameters
  dsimp only
  rw [filtered, argumentsOf_separator separator, bits]
  by_cases room : (text.filter isSeparator).length + 1 < 32
  · have index : min ((text.filter isSeparator).length : Int) 31 + 1 = (text.filter isSeparator).length + 1 := by omega
    have next : min (((text.filter isSeparator).length + 1 : Nat) : Int) 31 = (text.filter isSeparator).length + 1 := by
      omega
    have shift : (((text.filter isSeparator).length + 1 : Int) % 32).toNat = (text.filter isSeparator).length + 1 := by
      omega
    rw [if_pos (by omega), index, next, shift]
    by_cases colon : x = ':'.toNat
    · rw [if_pos colon, if_pos ⟨room, colon⟩]
    · rw [if_neg colon, if_neg fun both => colon both.2]
  · have full : min (((text.filter isSeparator).length + 1 : Nat) : Int) 31 =
        min ((text.filter isSeparator).length : Int) 31 := by omega
    rw [if_neg (by omega), if_neg fun both => room both.1, full]

theorem parseArg_reading (parameter : IsParameter x) (state : EscapeState) (text : List Nat) :
    parseArg x (e.finishing state text) = e.reading state (text ++ [x]) := by
  rcases parameter with digit | separator
  · exact parseArg_digit digit state text
  · exact parseArg_separator separator state text

end Parse

section Receive

def receive (host : Host) (points : List Nat) : EmulatorM Unit := forM points (processCodePoint host)

theorem run_receive_cons (host : Host) {x : Nat} {points : List Nat} {e e' : TerminalEmulator}
    (first : (processCodePoint host x).run e = .ok () e') :
    (receive host (x :: points)).run e = (receive host points).run e' := by
  rw [receive, List.forM_cons, EStateM.run_bind, first]
  rfl

theorem receive_append (host : Host) (points more : List Nat) :
    receive host (points ++ more) = receive host points >>= fun _ => receive host more := by
  induction points with
  | nil => rfl
  | cons x points ih =>
    unfold receive at *
    rw [List.cons_append, List.forM_cons, List.forM_cons, ih, bind_assoc]

def TakesParameters (state : EscapeState) : Prop := state = .csi ∨ state = .csiQuestionmark

theorem IsParameter.range (parameter : IsParameter x) : 48 ≤ x ∧ x ≤ 59 := by
  rcases parameter with ⟨lower, upper⟩ | separator
  · exact ⟨lower, Nat.le_trans upper (by decide)⟩
  · rcases (of_decide_eq_true separator : x = ';'.toNat ∨ x = ':'.toNat) with rfl | rfl <;> decide

theorem doCsi_parameter (parameter : IsParameter x) : doCsi x = modify (parseArg x) := by
  obtain ⟨lower, upper⟩ := parameter.range
  interval_cases x <;> rfl

theorem doCsiQuestionMark_parameter (parameter : IsParameter x) : doCsiQuestionMark host x = modify (parseArg x) := by
  obtain ⟨lower, upper⟩ := parameter.range
  interval_cases x <;> rfl

theorem run_reading (outside : ¬ (e.reading state text).Ignoring) (printable : 28 ≤ b) :
    (processCodePoint host b).run (e.reading state text) = (do
      doEscapeState host b
      modify fun e => if e.mContinueSequence then e else { e with mEscapeState := .none } : EmulatorM Unit).run
        (e.finishing state text) := run_processCodePoint outside printable

theorem run_parameter (takes : TakesParameters state) (parameter : IsParameter x) :
    (processCodePoint host x).run (e.reading state text) = .ok () (e.reading state (text ++ [x])) := by
  have outside : ¬ (e.reading state text).Ignoring := by rcases takes with rfl | rfl <;> exact of_decide_eq_true rfl
  have parsed : (doEscapeState host x).run (e.finishing state text) =
      .ok () (e.reading state (text ++ [x])) := by
    rw [← parseArg_reading parameter]
    rcases takes with rfl | rfl
    · exact congrArg (fun m : EmulatorM Unit => m.run _) (doCsi_parameter parameter)
    · exact congrArg (fun m : EmulatorM Unit => m.run _) (doCsiQuestionMark_parameter parameter)
  have := parameter.range
  rw [run_reading outside (by omega), EStateM.run_bind, parsed]
  rfl

theorem run_parameters (takes : TakesParameters state) (parameters : ∀ x ∈ more, IsParameter x) :
    (receive host more).run (e.reading state text) = .ok () (e.reading state (text ++ more)) := by
  induction more generalizing text with
  | nil =>
    rw [List.append_nil]
    rfl
  | cons x more ih =>
    rw [List.forall_mem_cons] at parameters
    rw [run_receive_cons host (run_parameter takes parameters.1), ih parameters.2, List.append_assoc, List.singleton_append]

def StartsSequence (e : TerminalEmulator) : Prop := ¬ e.Ignoring ∧ e.mEscapeState ≠ .osc ∧ e.mEscapeState ≠ .p

theorem run_introducer (starts : e.StartsSequence) : (receive host [27, '['.toNat]).run e = .ok () (e.reading .csi []) := by
  have args : argumentsOf [] = Vector.replicate 32 (-1) := by decide
  have bits : subParamsOf [] = 0 := by decide +kernel
  rw [run_receive_cons host (run_processCodePoint_escape starts.1 starts.2.1 starts.2.2)]
  unfold reading
  rw [args, bits]
  rfl

theorem run_csi (starts : e.StartsSequence) (parameters : ∀ x ∈ text, IsParameter x) :
    (receive host (27 :: '['.toNat :: text)).run e = .ok () (e.reading .csi text) := by
  rw [show 27 :: '['.toNat :: text = [27, '['.toNat] ++ text from rfl, receive_append, EStateM.run_bind,
    run_introducer starts]
  exact run_parameters (Or.inl rfl) parameters

theorem run_csi_private (starts : e.StartsSequence) (parameters : ∀ x ∈ text, IsParameter x) :
    (receive host (27 :: '['.toNat :: '?'.toNat :: text)).run e = .ok () (e.reading .csiQuestionmark text) := by
  have mark : (processCodePoint host '?'.toNat).run (e.reading .csi []) = .ok () (e.reading .csiQuestionmark []) := rfl
  rw [show 27 :: '['.toNat :: '?'.toNat :: text = [27, '['.toNat] ++ '?'.toNat :: text from rfl, receive_append,
    EStateM.run_bind, run_introducer starts]
  dsimp only
  rw [run_receive_cons host mark]
  exact run_parameters (Or.inr rfl) parameters

theorem run_final (outside : ¬ (e.reading state text).Ignoring) (printable : 28 ≤ b)
    (ran : (doEscapeState host b).run (e.finishing state text) = .ok () e₁) (ended : e₁.mContinueSequence = false) :
    (processCodePoint host b).run (e.reading state text) = .ok () e₁.finishSequence := by
  have same : (if e₁.mContinueSequence then e₁ else { e₁ with mEscapeState := .none }) = e₁.finishSequence :=
    if_neg (by simp [ended])
  rw [run_reading outside printable, EStateM.run_bind, ran, ← same]
  rfl

theorem run_csi_final (starts : e.StartsSequence) (parameters : ∀ x ∈ text, IsParameter x) (printable : 28 ≤ b)
    (ran : (doCsi b).run (e.finishing .csi text) = .ok () e₁) (ended : e₁.mContinueSequence = false) :
    (receive host (27 :: '['.toNat :: (text ++ [b]))).run e = .ok () e₁.finishSequence := by
  rw [← List.cons_append, ← List.cons_append, receive_append, EStateM.run_bind, run_csi starts parameters]
  exact run_receive_cons host (run_final (of_decide_eq_true rfl) printable ran ended)

theorem run_csi_private_final (starts : e.StartsSequence) (parameters : ∀ x ∈ text, IsParameter x) (printable : 28 ≤ b)
    (ran : (doCsiQuestionMark host b).run (e.finishing .csiQuestionmark text) = .ok () e₁)
    (ended : e₁.mContinueSequence = false) :
    (receive host (27 :: '['.toNat :: '?'.toNat :: (text ++ [b]))).run e = .ok () e₁.finishSequence := by
  rw [← List.cons_append, ← List.cons_append, ← List.cons_append, receive_append, EStateM.run_bind,
    run_csi_private starts parameters]
  exact run_receive_cons host (run_final (of_decide_eq_true rfl) printable ran ended)

theorem run_argAt_get (e : TerminalEmulator) (inside : i < 32) :
    (argAt (i : Int)).run e = .ok (e.mArgs.get ⟨i, inside⟩) e := by
  unfold argAt
  rw [EStateM.run_bind, EStateM.run_get]
  exact run_readArray (by rw [List.getElem?_eq_getElem (by simpa using inside)]; rfl) e

theorem startsSequence_of_none (none : e.mEscapeState = .none) : e.StartsSequence := by
  unfold StartsSequence Ignoring
  rw [none]
  decide

end Receive

section Excess

def lastDigits (text : List Nat) : List Nat := (fields text).getD 31 []

def excessDigits (text : List Nat) : List Nat := ((fields text).drop 32).flatten

/-- The digits of the fields that are too many do not show. -/
def ExcessHidden (text : List Nat) : Prop :=
  excessDigits text = [] ∨ 9999 ≤ decimal (lastDigits text) ∨
    (lastDigits text ≠ [] ∧ decimal (lastDigits text) = 0 ∧ decimal (excessDigits text) = 0)

theorem argument_append_iff (digits more : List Nat) : argument (digits ++ more) = argument digits ↔
    more = [] ∨ 9999 ≤ decimal digits ∨ (digits ≠ [] ∧ decimal digits = 0 ∧ decimal more = 0) := by
  by_cases none : more = []
  · rw [none, List.append_nil]
    exact iff_of_true rfl (Or.inl rfl)
  have number := decimal_append digits more
  have scale : 10 ≤ 10 ^ more.length := Nat.le_self_pow (by simpa using none) 10
  have grows : decimal digits * 10 ≤ decimal digits * 10 ^ more.length := Nat.mul_le_mul_left _ scale
  have zero : decimal digits = 0 → decimal digits * 10 ^ more.length = 0 := fun zero => by rw [zero, Nat.zero_mul]
  unfold argument
  rw [if_neg (by simp [none]), number]
  by_cases empty : digits = []
  · have nothing : decimal digits = 0 := by rw [empty]; rfl
    rw [if_pos empty]
    simp only [none, empty, ne_eq, not_true_eq_false, false_and, or_false, false_or]
    rw [← empty]
    omega
  · rw [if_neg empty]
    simp only [none, empty, ne_eq, not_false_eq_true, true_and, false_or]
    omega

theorem digitsOf_last (text : List Nat) : digitsOf text 31 = lastDigits text ++ excessDigits text := by
  unfold digitsOf lastDigits excessDigits
  rw [if_neg (by decide)]
  by_cases long : 31 < (fields text).length
  · rw [List.drop_eq_getElem_cons long, List.flatten_cons, List.getD_eq_getElem _ _ long]
  · rw [List.drop_eq_nil_of_le (by omega), List.drop_eq_nil_of_le (by omega), List.getD_eq_default _ _ (by omega)]
    rfl

def ParsedAs (text : List Nat) (e : TerminalEmulator) : Prop :=
  (∀ i : Fin 32, e.mArgs.get i = argument ((fields text).getD i [])) ∧
    ∀ i : Fin 32, e.mArgsSubParamsBitSet.getLsbD i = introducedByColon text i

theorem parsedAs_reading_iff (e : TerminalEmulator) (state : EscapeState) (text : List Nat) :
    ParsedAs text (e.reading state text) ↔ ExcessHidden text := by
  have bits : ∀ i : Fin 32, (e.reading state text).mArgsSubParamsBitSet.getLsbD i = introducedByColon text i := fun i =>
    getLsbD_subParamsOf text i.isLt
  have args : ∀ i : Fin 32, (e.reading state text).mArgs.get i = argument (digitsOf text i) := fun i =>
    Vector.get_ofFn _ _
  have last : argument (digitsOf text 31) = argument (lastDigits text) ↔ ExcessHidden text := by
    rw [digitsOf_last]
    exact argument_append_iff _ _
  rw [← last]
  constructor
  · intro parsed
    exact (args 31).symm.trans (parsed.1 31)
  · intro same
    refine ⟨fun i => ?_, bits⟩
    rw [args]
    by_cases early : i.val < 31
    · rw [digitsOf, if_pos early]
    · obtain rfl : i = 31 := Fin.ext (show i.val = 31 by omega)
      exact same

/-- The parameters after CSI: every field has its argument, except that the digits of the fields past the last argument are
taken for digits of that argument. -/
theorem parameters_parsed_iff (host : Host) (e : TerminalEmulator) (starts : e.StartsSequence) (text : List Nat)
    (parameters : ∀ x ∈ text, IsParameter x) :
    Ends (fun _ e' => ParsedAs text e' ↔ ExcessHidden text) (receive host (27 :: '['.toNat :: text)) e :=
  ⟨(), e.reading .csi text, run_csi starts parameters, parsedAs_reading_iff e .csi text⟩

theorem parameters_parsed_iff_color : Ends (fun _ e' => ParsedAs (chars "38:5;1") e' ↔ ExcessHidden (chars "38:5;1"))
    (receive plainHost (27 :: '['.toNat :: chars "38:5;1")) (filledWith 4 2 120) :=
  parameters_parsed_iff plainHost (filledWith 4 2 120) ⟨by decide, by decide, by decide⟩ (chars "38:5;1") (by decide)

/-- The digit of the 33rd field is taken for the one of the 32nd, which is empty. -/
theorem parameters_excess_shown : ∃ e',
    (receive plainHost (27 :: '['.toNat :: (List.replicate 32 ';'.toNat ++ ['7'.toNat]))).run (filledWith 4 2 120) =
      .ok () e' ∧ e'.mArgs.get 31 = 7 ∧ ¬ ParsedAs (List.replicate 32 ';'.toNat ++ ['7'.toNat]) e' :=
  ⟨_, run_csi ⟨by decide, by decide, by decide⟩ (by decide), by decide, fun parsed =>
    absurd (parsed.1 31) (by decide)⟩

end Excess

end TerminalEmulator
