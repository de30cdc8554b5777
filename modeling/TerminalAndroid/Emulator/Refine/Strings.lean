import TerminalAndroid.Emulator.Effects

open Java Exec

namespace TerminalEmulator

theorem Quiet.trans {e₁ e₂ e₃ : TerminalEmulator} (first : Quiet e₁ e₂) (second : Quiet e₂ e₃) : Quiet e₁ e₃ :=
  Eq.trans second first

theorem Quiet.ite {e e₁ e₂ : TerminalEmulator} {p : Prop} [Decidable p] (yes : Quiet e e₁) (no : Quiet e e₂) :
    Quiet e (if p then e₁ else e₂) := by
  split
  · exact yes
  · exact no

theorem appendCodePoint_quiet (b : Nat) : Returns Quiet (appendCodePoint b) := by
  unfold appendCodePoint
  exact Returns.ite (fun _ => Returns.throw _) fun _ => Returns.modify fun _ => rfl

theorem collectOSCArgs_quiet (b : Nat) : Returns Quiet (collectOSCArgs b) := by
  refine fun e => Leads.get_bind (Leads.ite (fun _ => ?_) fun _ => Leads.set rfl)
  exact Leads.bind (appendCodePoint_quiet b _) fun _ _ _ => Leads.modify rfl

theorem answerTermcap_quiet (host : Host) (part : List Nat) (e : TerminalEmulator) : Quiet e (answerTermcap host part e) := by
  unfold answerTermcap
  split
  · dsimp only
    split <;> rfl
  · rfl

theorem answerAll_quiet (host : Host) (parts : List (List Nat)) (e : TerminalEmulator) :
    Quiet e (parts.foldl (fun e part => answerTermcap host part e) e) := by
  induction parts generalizing e with
  | nil => rfl
  | cons part parts ih => exact (answerTermcap_quiet host part e).trans (ih _)

theorem doDeviceControl_quiet (host : Host) (b : Nat) : Returns Quiet (doDeviceControl host b) := by
  refine Returns.ite (fun _ => Returns.modify fun e => ?_) fun _ e => Leads.get_bind (Leads.ite (fun _ => Leads.set rfl) fun _ => ?_)
  · dsimp only
    split
    · split <;> rfl
    · split
      · exact answerAll_quiet host _ e
      · rfl
  · exact Leads.bind (appendCodePoint_quiet b _) fun _ _ _ => Leads.modify rfl

theorem readArray_same {α : Type} (array : List α) (index : Int) :
    Returns (fun e e' => e' = e) (readArray array index : EmulatorM α) := by
  have : Std.Refl fun e e' : TerminalEmulator => e' = e := ⟨fun _ => rfl⟩
  unfold readArray
  split
  · split
    · exact Returns.pure _
    · exact Returns.throw _
  · exact Returns.throw _

theorem readArray_inv {α : Type} {array : List α} {index : Int} {a : α}
    (ran : (readArray array index : EmulatorM α).run e = .ok a e') : e' = e ∧ 0 ≤ index ∧ array[index.toNat]? = some a := by
  unfold readArray at ran
  split at ran
  next nonneg =>
    split at ran
    next found =>
      cases ran
      exact ⟨rfl, nonneg, found⟩
    next => cases ran
  next => cases ran

theorem readArray_quiet {α : Type} (array : List α) (index : Int) :
    Returns Quiet (readArray array index : EmulatorM α) := (readArray_same array index).of_same

theorem liftResult_quiet {α : Type} (result : Except Throwable α) : Returns Quiet (liftResult result : EmulatorM α) := by
  cases result with
  | ok value => exact Returns.pure value
  | error thrown => exact Returns.throw thrown

theorem setCurrentColor_quiet (index : Int) (color : BitVec 32) : Returns Quiet (setCurrentColor index color) := by
  unfold setCurrentColor
  split
  · exact Returns.modify fun _ => rfl
  · exact Returns.throw _

theorem tryParseColor_quiet (host : Host) (index : Int) (text : List Nat) : Returns Quiet (tryParseColor host index text) :=
  Returns.ite (fun _ => setCurrentColor_quiet _ _) fun _ => Returns.pure ()

theorem resetColor_quiet (host : Host) (index : Int) : Returns Quiet (resetColor host index) :=
  Returns.bind (readArray_quiet _ _) fun _ => setCurrentColor_quiet _ _

theorem reportColor_quiet (value index : Int) (terminator : List Nat) : Returns Quiet (reportColor value index terminator) :=
  fun _ => Leads.get_bind (Leads.bind (readArray_quiet _ _ _) fun _ _ _ => Leads.modify rfl)

theorem oscColors_quiet (host : Host) (text : List Nat) (fuel i : Nat) (colorIndex start : Int) :
    Returns Quiet (oscColors host text fuel i colorIndex start) := by
  induction fuel generalizing i colorIndex start with
  | zero => exact Returns.throw _
  | succ fuel ih =>
    have next : ∀ colorIndex start, Returns Quiet
        (if i = text.length then pure true else oscColors host text fuel (i + 1) colorIndex start : EmulatorM Bool) :=
      fun colorIndex start => Returns.ite (fun _ => Returns.pure _) fun _ => ih _ _ _
    have fails : Returns Quiet (do modify unknownSequence; pure false : EmulatorM Bool) :=
      Returns.bind (Returns.modify fun _ => rfl) fun _ => Returns.pure _
    refine Returns.ite (fun _ => Returns.ite (fun _ => next _ _) fun _ => Returns.ite (fun _ => fails) fun _ => ?_)
      fun _ => Returns.ite (fun _ => next _ _) fun _ => Returns.ite (fun _ => next _ _) fun _ => fails
    refine Returns.bind (liftResult_quiet _) fun spec => Returns.bind (tryParseColor_quiet _ _ _) fun _ => ?_
    exact Returns.bind (Returns.modify fun _ => rfl) fun _ => next _ _

theorem separator_quiet (text : List Nat) (charIndex : Int) : Returns Quiet
    (if charIndex = text.length then pure true else do pure (decide ((← charAt text charIndex) = ';'.toNat)) :
      EmulatorM Bool) :=
  Returns.ite (fun _ => Returns.pure _) fun _ => Returns.bind (readArray_quiet _ _) fun _ => Returns.pure _

theorem oscDynamicColors_quiet (host : Host) (value : Int) (text terminator : List Nat) (fuel : Nat)
    (charIndex last special : Int) :
    Returns Quiet (oscDynamicColors host value text terminator fuel charIndex last special) := by
  induction fuel generalizing charIndex last special with
  | zero => exact Returns.throw _
  | succ fuel ih =>
    refine Returns.bind (separator_quiet text charIndex) fun separator => Returns.ite (fun _ => ?_) fun _ => ih _ _ _
    refine Returns.bind (liftResult_quiet _) fun spec => Returns.bind ?_ fun _ =>
      Returns.ite (fun _ => Returns.pure ()) fun _ => ih _ _ _
    exact Returns.ite (fun _ => reportColor_quiet _ _ _) fun _ =>
      Returns.bind (tryParseColor_quiet _ _ _) fun _ => Returns.modify fun _ => rfl

theorem oscResetColors_quiet (host : Host) (text : List Nat) (fuel : Nat) (charIndex last : Int) :
    Returns Quiet (oscResetColors host text fuel charIndex last) := by
  induction fuel generalizing charIndex last with
  | zero => exact Returns.throw _
  | succ fuel ih =>
    refine Returns.bind (separator_quiet text charIndex) fun separator => Returns.ite (fun _ => ?_) fun _ => ih _ _
    refine Returns.bind (liftResult_quiet _) fun number => ?_
    split
    · exact ih _ _
    · refine Returns.bind (resetColor_quiet _ _) fun _ => Returns.bind (Returns.modify fun _ => rfl) fun _ => ?_
      exact Returns.ite (fun _ => Returns.pure ()) fun _ => ih _ _

theorem setTitle_quiet (e : TerminalEmulator) (title : Option (List Nat)) : Quiet e (e.setTitle title) := by
  unfold setTitle
  split <;> rfl

theorem oscCommand_quiet (host : Host) (value : Int) (text terminator : List Nat) :
    Returns Quiet (oscCommand host value text terminator) := by
  refine Returns.ite (fun _ => Returns.bind (Returns.modify fun e => setTitle_quiet e _) fun _ => Returns.pure _) fun _ => ?_
  refine Returns.ite (fun _ => oscColors_quiet _ _ _ _ _ _) fun _ => ?_
  refine Returns.ite (fun _ => Returns.bind (oscDynamicColors_quiet _ _ _ _ _ _ _ _) fun _ => Returns.pure _) fun _ => ?_
  refine Returns.ite (fun _ => ?_) fun _ => ?_
  · refine Returns.bind (Returns.modify fun e => ?_) fun _ => Returns.pure _
    split <;> rfl
  refine Returns.ite (fun _ => Returns.bind ?_ fun _ => Returns.pure _) fun _ => ?_
  · exact Returns.ite (fun _ => Returns.modify fun _ => rfl) fun _ => oscResetColors_quiet _ _ _ _ _
  refine Returns.ite (fun _ => ?_) fun _ => ?_
  · exact Returns.bind (resetColor_quiet _ _) fun _ => Returns.bind (Returns.modify fun _ => rfl) fun _ => Returns.pure _
  refine Returns.ite (fun _ => Returns.pure _) fun _ => ?_
  exact Returns.bind (Returns.modify fun _ => rfl) fun _ => Returns.pure _

theorem doOscSetTextParameters_quiet (host : Host) (terminator : List Nat) :
    Returns Quiet (doOscSetTextParameters host terminator) := by
  refine fun e => Leads.get_bind ?_
  split
  · exact Leads.set rfl
  · refine Leads.bind (oscCommand_quiet _ _ _ _ _) fun _ _ _ => ?_
    exact Leads.ite (fun _ => Leads.modify rfl) fun _ => Leads.pure ()

theorem doOsc_quiet (host : Host) (b : Nat) : Returns Quiet (doOsc host b) := by
  refine Returns.ite (fun _ => doOscSetTextParameters_quiet _ _) fun _ => ?_
  exact Returns.ite (fun _ => Returns.modify fun _ => rfl) fun _ => collectOSCArgs_quiet b

theorem doOscEsc_quiet (host : Host) (b : Nat) : Returns Quiet (doOscEsc host b) := by
  refine Returns.ite (fun _ => doOscSetTextParameters_quiet _ _) fun _ => ?_
  refine Returns.bind (collectOSCArgs_quiet 27) fun _ => Returns.bind (collectOSCArgs_quiet b) fun _ => ?_
  exact Returns.modify fun _ => rfl

end TerminalEmulator
