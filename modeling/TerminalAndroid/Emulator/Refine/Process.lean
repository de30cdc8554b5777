import TerminalAndroid.Emulator.Refine.Csi

open Java Exec

namespace TerminalCore

theorem Moves.mono {permits permits' : Label → Prop} (weaker : ∀ label, permits label → permits' label)
    {c : TerminalCore} {row col : Int} {about : Bool} (move : Moves permits c row col about) :
    Moves permits' c row col about := by
  cases move with
  | position place => exact .position place
  | rowCol row col permitted => exact .rowCol row col fun leaves => weaker _ (permitted leaves)
  | stay => exact .stay
  | up n positive permitted => exact .up n positive fun leaves => weaker _ (permitted leaves)
  | down n positive permitted => exact .down n positive fun leaves => weaker _ (permitted leaves)
  | toRow n permitted => exact .toRow n fun leaves => weaker _ (permitted leaves)
  | linefeed above => exact .linefeed above
  | lastLine => exact .lastLine
  | previousRow below => exact .previousRow below
  | nextRow above => exact .nextRow above
  | carriageReturn => exact .carriageReturn
  | toStart off => exact .toStart off
  | forward n positive => exact .forward n positive
  | backward n positive => exact .backward n positive
  | toColumn n permitted => exact .toColumn n fun leaves => weaker _ (permitted leaves)
  | tab col about stop kept =>
    exact .tab col about (stop.imp id (Or.imp id fun last => ⟨last.1, last.2.1, weaker _ last.2.2⟩))
      (kept.imp id fun held => ⟨held.1, weaker _ held.2⟩)
  | backTab col stop permitted => exact .backTab col stop fun about wide => weaker _ (permitted about wide)
  | left inside permitted => exact .left inside fun about => weaker _ (permitted about)
  | right inside => exact .right inside
  | wrap permitted => exact .wrap (weaker _ permitted)
  | advance width small about kept permitted => exact .advance width small about kept (weaker _ permitted)

theorem Effect.mono {permits permits' : Label → Prop} (weaker : ∀ label, permits label → permits' label)
    {c c' : TerminalCore} (effect : Effect permits c c') : Effect permits' c c' := by
  cases effect with
  | draws drawing ran => exact .draws drawing ran
  | moves move => exact .moves (move.mono weaker)
  | backspaces permitted off => exact .backspaces (weaker _ permitted) off
  | clearsTranscript permitted ran => exact .clearsTranscript (weaker _ permitted) ran
  | flags bit setting single other => exact .flags bit setting single other
  | setsOrigin permitted set place => exact .setsOrigin (weaker _ permitted) set place
  | saves permitted row col flags => exact .saves (weaker _ permitted) row col flags
  | restores permitted => exact .restores (weaker _ permitted)
  | rowMargins permitted n m set place => exact .rowMargins (weaker _ permitted) n m set place
  | columnMargins permitted n m nonneg set place => exact .columnMargins (weaker _ permitted) n m nonneg set place
  | resetsColumnMargins permitted => exact .resetsColumnMargins (weaker _ permitted)
  | resetsMargins => exact .resetsMargins
  | tabStops length => exact .tabStops length
  | startsArgs permitted => exact .startsArgs (weaker _ permitted)
  | resetsArgIndex => exact .resetsArgIndex
  | digit permitted inside lower upper => exact .digit (weaker _ permitted) inside lower upper
  | nextArg room => exact .nextArg room
  | clampsArgIndex beyond => exact .clampsArgIndex beyond
  | idles => exact .idles
  | resetsSaved permitted flags_eq atOrigin saved => exact .resetsSaved (weaker _ permitted) flags_eq atOrigin saved
  | switches setting permitted ran => exact .switches setting (weaker _ permitted) ran

end TerminalCore

namespace TerminalEmulator

open TerminalCore Relation

variable {permits : Label → Prop} {e e' : TerminalEmulator}

theorem Steps.mono {permits' : Label → Prop} (weaker : ∀ label, permits label → permits' label)
    (steps : Steps permits e e') : Steps permits' e e' :=
  ReflTransGen.mono (fun _ _ => Effect.mono weaker) _ _ steps

theorem reset_steps (host : Host) (permitted : permits .reset) : Returns (Steps permits) (reset host) := by
  refine Returns.bind (Returns.modify fun e => ?_) fun _ => Returns.bind setDefaultTabStops_steps fun _ =>
    Returns.modify fun e => ?_
  · exact ((ReflTransGen.single .resetsArgIndex).tail .resetsMargins).tail (.moves .stay)
  · exact (ReflTransGen.single .idles).tail (.resetsSaved permitted rfl ⟨rfl, rfl, rfl, rfl⟩ ⟨rfl, rfl⟩)

/-- Where a code point takes the cursor without a look at the margins: CUU, CUD, CHA and VPA, `ESC F`, and a backspace
    that undoes an automatic wrap. -/
def jumpTarget (e : TerminalEmulator) (b : Nat) : Option (Int × Int) :=
  if b = 8 then
    if e.mLeftMargin = e.mCursorCol ∧ 0 < e.mCursorRow then
      some (max 0 (min (e.mCursorRow - 1) (e.mRows - 1)), max 0 (min (e.mRightMargin - 1) (e.mColumns - 1)))
    else none
  else if e.mEscapeState = .csi then
    if b = 'A'.toNat then some (max 0 (e.mCursorRow - e.getArg0 1), e.mCursorCol)
    else if b = 'B'.toNat then some (min (e.mRows - 1) (e.mCursorRow + e.getArg0 1), e.mCursorCol)
    else if b = 'G'.toNat then some (e.mCursorRow, min (max 1 (e.getArg0 1)) e.mColumns - 1)
    else if b = 'd'.toNat then some (min (max 1 (e.getArg0 1)) e.mRows - 1, e.mCursorCol)
    else none
  else if e.mEscapeState = .esc ∧ b = 'F'.toNat then
    some (max 0 (min 0 (e.mRows - 1)), max 0 (min (e.mBottomMargin - 1) (e.mColumns - 1)))
  else none

/-- The code points that put characters on the screen: outside of a sequence, the cancellation of one, and REP. -/
def Emits (e : TerminalEmulator) (b : Nat) : Prop :=
  (e.mEscapeState = .none ∧ 32 ≤ b) ∨ b = 24 ∨ b = 26 ∨ (e.mEscapeState = .csi ∧ b = 'b'.toNat)

/-- The labelled effects that the next code point can have. -/
inductive Permitted (e : TerminalEmulator) (b : Nat) : Label → Prop
  | emit (emits : e.Emits b) : Permitted e b .emit
  | backspace (control : b = 8) : Permitted e b .backspace
  | tab (final : (b = 9 ∧ e.StopBeyond 1) ∨ (e.mEscapeState = .csi ∧ b = 'I'.toNat ∧ e.StopBeyond (e.getArg0 1))) :
      Permitted e b .tab
  | holdTab (control : b = 9) : Permitted e b .holdTab
  | back (about : e.mAboutToAutoWrap = true)
      (final : (e.mEscapeState = .csi ∧ b = 'Z'.toNat ∧ e.mLeftMargin + 1 < e.mRightMargin) ∨
        (e.mEscapeState = .esc ∧ b = '6'.toNat ∧ e.mLeftMargin < e.mCursorCol)) : Permitted e b .back
  | jump {row col : Int} (target : e.jumpTarget b = some (row, col)) (leaves : e.Leaves row col) : Permitted e b .jump
  | origin (state : e.mEscapeState = .csiQuestionmark) (final : b = 'h'.toNat ∨ b = 'r'.toNat) : Permitted e b .origin
  | margins (state : e.mEscapeState = .csi) (final : b = 'r'.toNat ∨ b = 's'.toNat) : Permitted e b .margins
  | save (final : (e.mEscapeState = .esc ∧ b = '7'.toNat) ∨ (e.mEscapeState = .csi ∧ b = 's'.toNat) ∨
      (e.mEscapeState = .csiQuestionmark ∧ b = 'h'.toNat)) : Permitted e b .save
  | restore (final : (e.mEscapeState = .esc ∧ b = '8'.toNat) ∨ (e.mEscapeState = .csi ∧ b = 'u'.toNat) ∨
      (e.mEscapeState = .csiQuestionmark ∧ b = 'l'.toNat ∧ 1048 ∈ e.mArgs.toList)) : Permitted e b .restore
  | widen (state : e.mEscapeState = .csiQuestionmark) (final : b = 'l'.toNat ∨ b = 'r'.toNat)
      (mode : 69 ∈ e.mArgs.toList) : Permitted e b .widen
  | argument : Permitted e b .argument
  | eraseTranscript (state : e.mEscapeState = .csi) (final : b = 'J'.toNat) (arg : e.getArg0 0 = 3) :
      Permitted e b .transcript
  | initialState (state : e.mEscapeState = .esc) (final : b = 'c'.toNat) : Permitted e b .transcript
  | reset (state : e.mEscapeState = .esc) (final : b = 'c'.toNat) : Permitted e b .reset
  | softReset (state : e.mEscapeState = .csiExclamation) (final : b = 'p'.toNat) : Permitted e b .reset
  | toAlt (state : e.mEscapeState = .csiQuestionmark) (final : b = 'h'.toNat) : Permitted e b .toAlt
  | toMain (state : e.mEscapeState = .csiQuestionmark) (final : b = 'l'.toNat)
      (mode : 47 ∈ e.mArgs.toList ∨ 1047 ∈ e.mArgs.toList ∨ 1049 ∈ e.mArgs.toList) : Permitted e b .toMain

theorem resetToInitialState_steps (host : Host) (reset : permits .reset) (transcript : permits .transcript) :
    Returns (Steps permits) (resetToInitialState host) := by
  refine Returns.bind (reset_steps host reset) fun _ => Returns.bind ?_ fun _ e => Leads.get_bind ?_
  · intro e _ e' ran
    obtain ⟨buffer, inner, rfl⟩ := zoom_inv ran
    exact .one (.clearsTranscript transcript inner) rfl
  · exact Leads.bind (blockClear_steps _ _ _ _ _) fun _ _ _ => Leads.modify (setCursorPosition_steps _ _ _)

theorem doEscPound_steps (b : Nat) : Returns (Steps permits) (doEscPound b) :=
  fun _ => Leads.get_bind (Leads.ite (fun _ => onScreen_steps (.blockSet ..) _) fun _ => Leads.set (.of_quiet rfl))

theorem doEsc_steps (host : Host) {b : Nat} (other : b ≠ 8) (state : e.mEscapeState = .esc) :
    Leads (Steps (Permitted e b)) (doEsc host b) e := by
  have quiet : ∀ f : TerminalEmulator → TerminalEmulator, (∀ e, Quiet e (f e)) →
      Leads (Steps (Permitted e b)) (modify f : EmulatorM Unit) e := fun f same => Leads.modify (.of_quiet (same e))
  unfold doEsc
  refine Leads.ite (fun _ => quiet _ fun _ => rfl) fun _ => Leads.ite (fun _ => quiet _ fun _ => rfl) fun _ =>
    Leads.ite (fun _ => quiet _ fun _ => rfl) fun _ => Leads.ite (fun final => ?_) fun _ =>
    Leads.ite (fun final => Leads.modify (saveCursor_steps (.save (Or.inl ⟨state, final⟩)) e)) fun _ =>
    Leads.ite (fun final => Leads.modify (restoreCursor_steps (.restore (Or.inl ⟨state, final⟩)) e)) fun _ =>
    Leads.ite (fun _ => forwardIndex_steps e) fun _ => Leads.ite (fun final => ?_) fun _ =>
    Leads.ite (fun _ => doLinefeed_steps e) fun _ => Leads.ite (fun _ => nextLine_steps e) fun _ =>
    Leads.ite (fun final => Leads.modify (setCursorRowCol_steps e _ _ fun leaves => .jump ?_ leaves)) fun _ =>
    Leads.ite (fun _ => setTabStop_steps true e) fun _ => Leads.ite (fun _ => reverseIndex_steps e) fun _ =>
    Leads.ite (fun _ => Leads.pure ()) fun _ => Leads.ite (fun _ => quiet _ fun _ => rfl) fun _ =>
    Leads.ite (fun _ => quiet _ fun _ => rfl) fun _ =>
    Leads.ite (fun _ => Leads.modify (setDecsetinternalBit_steps _ _ _ (by decide) (Or.inl (by decide)))) fun _ =>
    Leads.ite (fun _ => quiet _ fun _ => rfl) fun _ =>
    Leads.ite (fun _ => Leads.modify (setDecsetinternalBit_steps _ _ _ (by decide) (Or.inl (by decide)))) fun _ =>
    Leads.ite (fun _ => quiet _ fun _ => rfl) fun _ => quiet _ fun _ => rfl
  · exact backIndex_steps fun about inside => .back about (Or.inr ⟨state, final, inside⟩)
  · exact resetToInitialState_steps host (.reset state final) (.initialState state final) e
  · rw [jumpTarget, if_neg other, if_neg (by rw [state]; nofun), if_pos ⟨state, final⟩]
    rfl

theorem jumpTarget_csi {b : Nat} (other : b ≠ 8) (state : e.mEscapeState = .csi) :
    e.jumpTarget b =
      if b = 'A'.toNat then some (max 0 (e.mCursorRow - e.getArg0 1), e.mCursorCol)
      else if b = 'B'.toNat then some (min (e.mRows - 1) (e.mCursorRow + e.getArg0 1), e.mCursorCol)
      else if b = 'G'.toNat then some (e.mCursorRow, min (max 1 (e.getArg0 1)) e.mColumns - 1)
      else if b = 'd'.toNat then some (min (max 1 (e.getArg0 1)) e.mRows - 1, e.mCursorCol)
      else none := by
  rw [jumpTarget, if_neg other, if_pos state]

theorem doCsi_steps {b : Nat} (other : b ≠ 8) (state : e.mEscapeState = .csi) :
    Leads (Steps (Permitted e b)) (doCsi b) e := by
  have quiet : ∀ f : TerminalEmulator → TerminalEmulator, (∀ e, Quiet e (f e)) →
      Leads (Steps (Permitted e b)) (modify f : EmulatorM Unit) e := fun f same => Leads.modify (.of_quiet (same e))
  have move : ∀ {row col : Int} {about : Bool} (f : TerminalEmulator → TerminalEmulator),
      Moves (Permitted e b) e.toTerminalCore row col about → (f e).toTerminalCore = e.moved row col about →
      Leads (Steps (Permitted e b)) (modify f : EmulatorM Unit) e := fun f move same => Leads.modify (.move move same)
  have jump : ∀ x y : TerminalEmulator → Int,
      Leads (Steps (Permitted e b)) (modify fun e => e.setCursorPosition (x e) (y e) : EmulatorM Unit) e :=
    fun x y => Leads.modify (setCursorPosition_steps _ _ _)
  have target := jumpTarget_csi other state
  unfold doCsi
  refine Leads.ite (fun _ => quiet _ fun _ => rfl) fun _ => Leads.ite (fun _ => quiet _ fun _ => rfl) fun _ =>
    Leads.ite (fun _ => quiet _ fun _ => rfl) fun _ => Leads.ite (fun _ => quiet _ fun _ => rfl) fun _ =>
    Leads.ite (fun _ => quiet _ fun _ => rfl) fun _ => Leads.ite (fun _ => insertCharacters_steps _) fun _ =>
    Leads.ite (fun final => move _ (.up _ e.getArg0_pos (.jump ?_)) rfl) fun _ =>
    Leads.ite (fun final => move _ (.down _ e.getArg0_pos (.jump ?_)) rfl) fun _ =>
    Leads.ite (fun _ => move _ (.forward _ e.getArg0_pos) rfl) fun _ =>
    Leads.ite (fun _ => move _ (.backward _ e.getArg0_pos) rfl) fun _ =>
    Leads.ite (fun _ => jump _ _) fun _ => Leads.ite (fun _ => jump _ _) fun _ =>
    Leads.ite (fun final => move _ (.toColumn _ (.jump ?_)) rfl) fun _ => Leads.ite (fun _ => jump _ _) fun _ =>
    Leads.ite (fun final => Leads.get_bind (forwardTab_steps fun beyond => .tab (Or.inr ⟨state, final, beyond⟩))) fun _ =>
    Leads.ite (fun final => eraseInDisplay_steps (.eraseTranscript state final)) fun _ =>
    Leads.ite (fun _ => eraseInLine_steps _) fun _ => Leads.ite (fun _ => insertLines_steps _) fun _ =>
    Leads.ite (fun _ => deleteLines_steps _) fun _ => Leads.ite (fun _ => deleteCharacters_steps _) fun _ =>
    Leads.ite (fun _ => Leads.get_bind (scrollUp_steps _ _)) fun _ => Leads.ite (fun _ => Leads.get_bind ?_) fun _ =>
    Leads.ite (fun _ => eraseCharacters_steps _) fun _ =>
    Leads.ite (fun final => Leads.get_bind (backwardTab_steps (fun about wide => ?_) _)) fun _ =>
    Leads.ite (fun _ => quiet _ fun _ => rfl) fun _ => Leads.ite (fun _ => quiet _ fun _ => rfl) fun _ =>
    Leads.ite (fun _ => quiet _ fun _ => rfl) fun _ =>
    Leads.ite (fun _ => jump (fun e => e.getArg0 1 - 1) fun e => e.mCursorRow) fun _ =>
    Leads.ite (fun final => Leads.get_bind ?_) fun _ => Leads.ite (fun _ => quiet _ fun e => ?_) fun _ =>
    Leads.ite (fun final => move _ (.toRow _ (.jump ?_)) rfl) fun _ => Leads.ite (fun _ => jump _ _) fun _ =>
    Leads.ite (fun _ => Leads.get_bind ?_) fun _ => Leads.ite (fun _ => quiet _ (doSetMode_quiet _)) fun _ =>
    Leads.ite (fun _ => quiet _ (doSetMode_quiet _)) fun _ => Leads.ite (fun _ => selectGraphicRendition_steps _) fun _ =>
    Leads.ite (fun _ => quiet _ deviceStatusReport_quiet) fun _ =>
    Leads.ite (fun final => Leads.modify (setTopAndBottomMargins_steps (.margins state (Or.inl final)) e)) fun _ =>
    Leads.ite (fun final => Leads.modify ?_) fun _ => Leads.ite (fun _ => quiet _ windowManipulation_quiet) fun _ =>
    Leads.ite (fun final => Leads.modify (restoreCursor_steps (.restore (Or.inr (Or.inl ⟨state, final⟩))) e)) fun _ =>
    Leads.ite (fun _ => quiet _ fun _ => rfl) fun _ => Leads.modify (parseArg_steps .argument b e)
  · rw [target, if_pos final]
  · rw [target, final]
    rfl
  · rw [target, final]
    rfl
  · exact Leads.ite (fun _ => scrollDown_steps _) fun _ => Leads.set (.of_quiet rfl)
  · exact .back about (Or.inl ⟨state, final, wide⟩)
  · refine Leads.ite (fun _ => Leads.pure ()) fun _ => repeatCodePoint_steps (.emit ?_) _ _ _
    exact Or.inr (Or.inr (Or.inr ⟨state, final⟩))
  · split <;> rfl
  · rw [target, final]
    rfl
  · exact Leads.ite (fun _ => setTabStop_steps _ _) fun _ => Leads.ite (fun _ => clearTabStops_steps _) fun _ => Leads.pure ()
  · split
    · exact setLeftAndRightMargins_steps (.margins state (Or.inr final)) e
    · exact saveCursor_steps (.save (Or.inr (Or.inl ⟨state, final⟩))) e

theorem doCsiQuestionMark_permitted (host : Host) {b : Nat} (state : e.mEscapeState = .csiQuestionmark) :
    Leads (Steps (Permitted e b)) (doCsiQuestionMark host b) e := by
  refine doCsiQuestionMark_steps host b .argument (fun final mode listed => ?_)
    (fun final => .origin state (Or.inr final)) fun final listed => .widen state (Or.inr final) listed
  rcases final with set | reset
  · rw [set]
    exact {
      origin := fun _ _ => .origin state (Or.inl rfl)
      widen := nofun
      cursor := fun _ => .save (Or.inr (Or.inr ⟨state, rfl⟩))
      screen := fun _ => .toAlt state rfl }
  · rw [reset]
    exact {
      origin := nofun
      widen := fun margins _ => .widen state (Or.inl rfl) (margins ▸ listed)
      cursor := fun cursor => .restore (Or.inr (Or.inr ⟨state, rfl, cursor ▸ listed⟩))
      screen := fun screen => by
        refine .toMain state rfl ?_
        rcases screen with rfl | rfl | rfl
        · exact Or.inl listed
        · exact Or.inr (Or.inl listed)
        · exact Or.inr (Or.inr listed) }

theorem doEscapeState_steps (host : Host) {b : Nat} (other : b ≠ 8) :
    Leads (Steps (Permitted e b)) (doEscapeState host b) e := by
  have quiet : ∀ {m : EmulatorM Unit}, Returns Quiet m → Leads (Steps (Permitted e b)) m e := fun same =>
    (same e).mono fun _ _ => .of_quiet
  refine Leads.get_bind ?_
  cases state : e.mEscapeState with
  | none => exact Leads.ite (fun printable => emitCodePoint_steps (.emit (Or.inl ⟨state, printable⟩)) _ _) fun _ => Leads.pure ()
  | esc => exact doEsc_steps host other state
  | pound => exact doEscPound_steps b e
  | selectLeftParen => exact quiet (Returns.modify fun _ => rfl)
  | selectRightParen => exact quiet (Returns.modify fun _ => rfl)
  | csi => exact doCsi_steps other state
  | csiUnsupportedParameterByte =>
    exact quiet (Returns.modify (doCsiUnsupportedParameterOrIntermediateByte_quiet b))
  | csiUnsupportedIntermediateByte =>
    exact quiet (Returns.modify (doCsiUnsupportedParameterOrIntermediateByte_quiet b))
  | csiExclamation =>
    exact Leads.ite (fun final => reset_steps host (.softReset state final) e) fun _ => quiet (Returns.modify fun _ => rfl)
  | csiQuestionmark => exact doCsiQuestionMark_permitted host state
  | csiBiggerthan => exact Leads.modify (doCsiBiggerThan_steps .argument b e)
  | csiDollar => exact doCsiDollar_steps b e
  | csiDoubleQuote => exact quiet (Returns.modify (doCsiDoubleQuote_quiet b))
  | csiSingleQuote =>
    exact Leads.ite (fun _ => insertColumns_steps e) fun _ => Leads.ite (fun _ => deleteColumns_steps e) fun _ =>
      quiet (Returns.modify fun _ => rfl)
  | percent => exact Leads.pure ()
  | osc => exact quiet (doOsc_quiet host b)
  | oscEsc => exact quiet (doOscEsc_quiet host b)
  | p => exact quiet (doDeviceControl_quiet host b)
  | csiQuestionmarkArgDollar => exact quiet (Returns.modify (doCsiQuestionMarkArgDollar_quiet b))
  | csiArgsSpace => exact quiet (Returns.modify (doCsiArgsSpace_quiet b))
  | csiArgsAsterix => exact Leads.modify (doCsiArgsAsterix_steps b e)
  | apc => exact quiet (Returns.modify fun _ => rfl)
  | apcEscape => exact quiet (Returns.modify fun _ => rfl)

theorem backspace_steps (permitted : e.mLeftMargin ≠ e.mCursorCol → permits .backspace)
    (jump : ∀ {row col : Int}, e.jumpTarget 8 = some (row, col) → e.Leaves row col → permits .jump) :
    Leads (Steps permits) backspace e := by
  refine Leads.get_bind (Leads.ite (fun first => Leads.ite (fun below => ?_) fun _ => Leads.pure ()) fun off => ?_)
  · refine Leads.bind (onScreen_steps (.getLineWrap _) _) fun _ t read => Leads.ite (fun _ => ?_) fun _ => Leads.pure ()
    refine Leads.bind (onScreen_steps (.clearLineWrap _) _) fun _ s cleared => Leads.modify ?_
    refine setCursorRowCol_steps s _ _ fun leaves => ?_
    obtain ⟨_, -, rfl⟩ := zoom_inv read
    obtain ⟨_, -, rfl⟩ := zoom_inv cleared
    simp only [setCursorRowCol, withScreen_leaves, withScreen_mRows, withScreen_mColumns, withScreen_mRightMargin] at leaves
    exact jump (by rw [jumpTarget, if_pos rfl, if_pos ⟨first, by omega⟩]) leaves
  · exact Leads.set (.one (.backspaces (permitted off) off) rfl)

theorem doCodePoint_steps (host : Host) (b : Nat) : Leads (Steps (Permitted e b)) (doCodePoint host b) e := by
  have quiet : ∀ {m : EmulatorM Unit}, Returns Quiet m → Leads (Steps (Permitted e b)) m e := fun same =>
    (same e).mono fun _ _ => .of_quiet
  refine Leads.ite (fun _ => Leads.pure ()) fun _ => Leads.ite (fun _ => Leads.get_bind ?_) fun _ =>
    Leads.ite (fun control => ?_) fun other =>
    Leads.ite (fun control => horizontalTab_steps (.holdTab control) fun beyond => .tab (Or.inl ⟨control, beyond⟩)) fun _ =>
    Leads.ite (fun _ => doLinefeed_steps e) fun _ =>
    Leads.ite (fun _ => Leads.modify (.move .carriageReturn rfl)) fun _ =>
    Leads.ite (fun _ => quiet (Returns.modify fun _ => rfl)) fun _ =>
    Leads.ite (fun _ => quiet (Returns.modify fun _ => rfl)) fun _ => Leads.ite (fun cancel => Leads.get_bind ?_) fun _ =>
    Leads.ite (fun _ => Leads.get_bind ?_) fun _ => ?_
  · exact Leads.ite (fun _ => quiet (doOsc_quiet host b)) fun _ => Leads.set (.of_quiet rfl)
  · subst control
    exact backspace_steps (fun _ => .backspace rfl) .jump
  · refine Leads.ite (fun _ => ?_) fun _ => Leads.pure ()
    refine Leads.bind (Leads.set (.of_quiet rfl)) fun _ _ _ => emitCodePoint_steps (.emit ?_) _ _
    exact Or.inr (cancel.imp id Or.inl)
  · refine Leads.ite (fun _ => Leads.pure ()) fun _ => Leads.ite (fun _ => ?_) fun _ => quiet (doOsc_quiet host b)
    exact Leads.set (startEscapeSequence_steps .argument e)
  · refine Leads.bind (Leads.modify (.of_quiet rfl)) fun _ t ran => ?_
    cases ran
    refine Leads.bind ?_ fun _ _ _ => Leads.modify ?_
    · exact (doEscapeState_steps host other).mono fun _ _ steps => steps.mono fun label permitted => by
        cases permitted with
        | emit emits => exact .emit emits
        | backspace control => exact .backspace control
        | tab final => exact .tab final
        | holdTab control => exact .holdTab control
        | back about final => exact .back about final
        | jump target leaves => exact .jump target leaves
        | origin state final => exact .origin state final
        | margins state final => exact .margins state final
        | save final => exact .save final
        | restore final => exact .restore final
        | widen state final mode => exact .widen state final mode
        | argument => exact .argument
        | eraseTranscript state final arg => exact .eraseTranscript state final arg
        | initialState state final => exact .initialState state final
        | reset state final => exact .reset state final
        | softReset state final => exact .softReset state final
        | toAlt state final => exact .toAlt state final
        | toMain state final mode => exact .toMain state final mode
    · split <;> exact .of_quiet rfl

theorem doApc_quiet (b : Nat) (e : TerminalEmulator) : Quiet e (doApc b e) := by
  unfold doApc
  split <;> rfl

theorem doApcEscape_quiet (b : Nat) (e : TerminalEmulator) : Quiet e (doApcEscape b e) := by
  unfold doApcEscape
  split <;> rfl

def Ignoring (e : TerminalEmulator) : Prop := e.mEscapeState = .apc ∨ e.mEscapeState = .apcEscape

instance (e : TerminalEmulator) : Decidable e.Ignoring := inferInstanceAs (Decidable (_ ∨ _))

theorem processCodePoint_quiet (host : Host) (b : Nat) (ignoring : e.Ignoring) :
    Leads Quiet (processCodePoint host b) e := by
  refine Leads.get_bind (Leads.ite (fun _ => Leads.set (doApc_quiet b e)) fun outside =>
    Leads.ite (fun _ => Leads.set (doApcEscape_quiet b e)) fun outside' => ?_)
  exact absurd ignoring (not_or.mpr ⟨outside, outside'⟩)

theorem processCodePoint_steps (host : Host) (b : Nat) :
    Leads (Steps fun label => ¬ e.Ignoring ∧ Permitted e b label) (processCodePoint host b) e := by
  refine Leads.get_bind (Leads.ite (fun _ => Leads.set (.of_quiet (doApc_quiet b e))) fun outside =>
    Leads.ite (fun _ => Leads.set (.of_quiet (doApcEscape_quiet b e))) fun outside' => ?_)
  refine (doCodePoint_steps host b).mono fun _ _ steps => steps.mono fun label permitted => ⟨?_, permitted⟩
  rintro (apc | apcEscape)
  · exact outside apc
  · exact outside' apcEscape

end TerminalEmulator
