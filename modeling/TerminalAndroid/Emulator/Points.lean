import TerminalAndroid.Emulator.Valid

open Java Exec Relation

namespace TerminalEmulator

open TerminalCore

structure SameSettings (e e' : TerminalEmulator) : Prop where
  state : e'.mEscapeState = e.mEscapeState
  args : e'.mArgs = e.mArgs
  rows : e'.mRows = e.mRows
  columns : e'.mColumns = e.mColumns
  top : e'.mTopMargin = e.mTopMargin
  bottom : e'.mBottomMargin = e.mBottomMargin
  left : e'.mLeftMargin = e.mLeftMargin
  right : e'.mRightMargin = e.mRightMargin
  tabStops : e'.mTabStop = e.mTabStop
  flags : e'.mCurrentDecSetFlags = e.mCurrentDecSetFlags
  screen : e'.mScreen = e.mScreen
  savedMain : e'.mSavedStateMain = e.mSavedStateMain
  savedAlt : e'.mSavedStateAlt = e.mSavedStateAlt

theorem SameSettings.refl (e : TerminalEmulator) : SameSettings e e := by
  constructor <;> rfl

theorem SameSettings.trans {e e' e'' : TerminalEmulator} (first : SameSettings e e') (second : SameSettings e' e'') :
    SameSettings e e'' where
  state := second.state.trans first.state
  args := second.args.trans first.args
  rows := second.rows.trans first.rows
  columns := second.columns.trans first.columns
  top := second.top.trans first.top
  bottom := second.bottom.trans first.bottom
  left := second.left.trans first.left
  right := second.right.trans first.right
  tabStops := second.tabStops.trans first.tabStops
  flags := second.flags.trans first.flags
  screen := second.screen.trans first.screen
  savedMain := second.savedMain.trans first.savedMain
  savedAlt := second.savedAlt.trans first.savedAlt

instance : Std.Refl SameSettings := ⟨SameSettings.refl⟩

instance : IsTrans TerminalEmulator SameSettings := ⟨fun _ _ _ => SameSettings.trans⟩

variable {host : Host} {allows : TerminalEmulator → UInt8 → Prop} {e e' : TerminalEmulator}

theorem SameSettings.getArg0 (same : SameSettings e e') (defaultValue : Int) :
    e'.getArg0 defaultValue = e.getArg0 defaultValue := by
  unfold TerminalEmulator.getArg0 getArg
  rw [same.args]

theorem SameSettings.ignoring (same : SameSettings e e') : e'.Ignoring ↔ e.Ignoring := by
  unfold Ignoring
  rw [same.state]

theorem onScreen_sameSettings {α : Type} (method : BufferM α) : Returns SameSettings (onScreen method) := by
  intro e a e' ran
  obtain ⟨buffer, -, rfl⟩ := zoom_inv ran
  dsimp only
  unfold withScreen
  split <;> constructor <;> rfl

theorem scrollDownOneLine_sameSettings : Returns SameSettings scrollDownOneLine := by
  refine Returns.bind (Returns.modify fun e => { SameSettings.refl e with }) fun _ e => Leads.get_bind ?_
  refine Leads.ite (fun _ => ?_) fun _ => onScreen_sameSettings _ _
  exact Leads.bind (onScreen_sameSettings _ _) fun _ _ _ => onScreen_sameSettings _ _

theorem wrapLine_sameSettings : Returns SameSettings wrapLine := by
  refine fun e => Leads.get_bind (Leads.bind (onScreen_sameSettings _ _) fun _ t _ => ?_)
  refine Leads.bind (Leads.modify { SameSettings.refl t with }) fun _ t _ => ?_
  exact Leads.ite (fun _ => Leads.modify { SameSettings.refl t with }) fun _ => scrollDownOneLine_sameSettings _

theorem placeCodePoint_sameSettings (autoWrap : Bool) (codePoint : Nat) :
    Returns SameSettings (placeCodePoint autoWrap codePoint) := by
  refine fun e => Leads.get_bind (Leads.bind ?_ fun _ _ _ => ?_)
  · exact Leads.ite (fun _ => onScreen_sameSettings _ _) fun _ => Leads.pure ()
  · exact Leads.bind (onScreen_sameSettings _ _) fun _ t _ => Leads.modify { SameSettings.refl t with }

theorem emitCodePoint_sameSettings (codePoint : Nat) : Returns SameSettings (emitCodePoint codePoint) := by
  refine Returns.bind (Returns.modify fun e => { SameSettings.refl e with }) fun _ e => Leads.get_bind ?_
  refine Leads.ite (fun _ => ?_) fun _ => Leads.ite (fun _ => Leads.pure ()) fun _ => placeCodePoint_sameSettings _ _ _
  refine Leads.bind ?_ fun _ _ _ => placeCodePoint_sameSettings _ _ _
  exact Leads.ite (fun _ => wrapLine_sameSettings _) fun _ => Leads.pure ()

def leaveUtf8 : EmulatorM Unit := do
  let e ← get
  if 0 < e.mUtf8ToFollow then
    set { e with mUtf8Index := 0, mUtf8ToFollow := 0 }
    emitCodePoint unicodeReplacementChar

def startModes : EmulatorM Unit := do
  leaveUtf8
  modify fun e => clampArgIndex { e with mContinueSequence := false }

def finishModes (e : TerminalEmulator) : TerminalEmulator :=
  if e.mContinueSequence then e else { e with mEscapeState := .none }

/-- A place in a run: between two bytes, or before the arguments of DECSET or DECRST from `i` on, of which `count` are
    left. -/
inductive Point
  | between (e : TerminalEmulator)
  | modes (setting : Bool) (count : Nat) (i : Int) (e : TerminalEmulator)

def Point.state : Point → TerminalEmulator
  | .between e => e
  | .modes _ _ _ e => e

/-- A byte is processed as a whole or, if it ends a DECSET or DECRST sequence, argument by argument. -/
inductive Step (host : Host) (allows : TerminalEmulator → UInt8 → Prop) : Point → Point → Prop
  | byte {e e' : TerminalEmulator} {byteToProcess : UInt8} (allowed : allows e byteToProcess)
      (ran : (processByte host byteToProcess).run e = .ok () e') : Step host allows (.between e) (.between e')
  | start {e e' : TerminalEmulator} {byteToProcess : UInt8} (allowed : allows e byteToProcess)
      (final : byteToProcess = 104 ∨ byteToProcess = 108) (sequence : e.mEscapeState = .csiQuestionmark)
      (ran : startModes.run e = .ok () e') :
      Step host allows (.between e) (.modes (decide (byteToProcess = 104)) (e'.mArgIndex + 1).toNat 0 e')
  | mode {e e' : TerminalEmulator} {setting : Bool} {count : Nat} {i : Int}
      (ran : (argAt i >>= doDecSetOrReset host setting).run e = .ok () e') :
      Step host allows (.modes setting (count + 1) i e) (.modes setting count (i + 1) e')
  | finish {e : TerminalEmulator} {setting : Bool} {i : Int} :
      Step host allows (.modes setting 0 i e) (.between e.finishModes)

theorem processCodePoint_modes {b : Nat} (final : b = 'h'.toNat ∨ b = 'l'.toNat)
    (sequence : e.mEscapeState = .csiQuestionmark) (ran : (processCodePoint host b).run e = .ok () e') :
    ∃ t, (doDecSetOrResetArgs host (decide (b = 'h'.toNat)) ((clampArgIndex { e with mContinueSequence := false }).mArgIndex + 1).toNat 0).run
      (clampArgIndex { e with mContinueSequence := false }) = .ok () t ∧ e' = t.finishModes := by
  have same : { e with mEscapeState := .csiQuestionmark } = e := by rw [← sequence]
  have printable : 32 ≤ b := by rcases final with rfl | rfl <;> decide
  obtain ⟨_, _, got, rest⟩ := bind_inv ran
  cases got
  rw [if_neg (by rw [sequence]; nofun), if_neg (by rw [sequence]; nofun)] at rest
  unfold doCodePoint at rest
  iterate 10 rw [if_neg (by omega)] at rest
  obtain ⟨_, _, modified, rest⟩ := bind_inv rest
  cases modified
  obtain ⟨_, t, escape, rest⟩ := bind_inv rest
  cases rest
  obtain ⟨_, _, got, escape⟩ := bind_inv escape
  cases got
  rw [← same] at escape ⊢
  change (doCsiQuestionMark host b).run _ = _ at escape
  unfold doCsiQuestionMark at escape
  rw [if_neg (by rcases final with rfl | rfl <;> decide), if_pos final] at escape
  exact ⟨t, escape, rfl⟩

def Reached (host : Host) (p : Point) : Prop :=
  ∃ e, Reaches host (fun _ _ => True) e ∧ ReflTransGen (Step host fun _ _ => True) (.between e) p

section

variable {permits : Label → Prop}

theorem leaveUtf8_steps : Returns (Steps (.emit = ·)) leaveUtf8 := by
  refine fun e => Leads.get_bind (Leads.ite (fun _ => ?_) fun _ => Leads.pure ())
  exact Leads.bind (Leads.set (.one .idles rfl)) fun _ _ _ => emitCodePoint_emits _ _

theorem startModes_steps : Returns (Steps (.emit = ·)) startModes := by
  refine Returns.bind leaveUtf8_steps fun _ => Returns.modify fun e => ?_
  exact Steps.trans (.of_quiet rfl) (clampArgIndex_steps { e with mContinueSequence := false })

theorem finishModes_quiet (e : TerminalEmulator) : Quiet e e.finishModes := by
  unfold finishModes
  split <;> rfl

theorem mode_steps {setting : Bool} (permitted : ∀ mode, ModePermits permits setting mode) (i : Int) :
    Returns (Steps permits) (argAt i >>= doDecSetOrReset host setting) :=
  Returns.bind ((argAt_quiet i).mono fun _ _ => .of_quiet) fun mode =>
    doDecSetOrReset_steps host setting mode (permitted mode)

end

theorem Step.valid {p p' : Point} (step : Step host allows p p') (valid : p.state.Valid ∧ p.state.decoder.Valid) :
    p'.state.Valid ∧ p'.state.decoder.Valid := by
  have kept : ∀ {e e' : TerminalEmulator}, Steps (fun _ => True) e e' → e.Valid ∧ e.decoder.Valid →
      e'.Valid ∧ e'.decoder.Valid := fun steps valid =>
    ⟨steps.keeps (fun _ _ => Effect.valid) valid.1, steps.decoder_valid valid.2⟩
  cases step with
  | byte _ ran => exact ⟨processByte_valid valid.2 valid.1 ran, processByte_decoder valid.2 ran⟩
  | start _ _ _ ran => exact kept ((startModes_steps _ _ _ ran).mono fun _ _ => trivial) valid
  | mode ran =>
    exact kept (mode_steps (fun _ => ⟨fun _ _ => trivial, fun _ _ => trivial, fun _ => trivial, fun _ => trivial⟩) _ _ _ _ ran)
      valid
  | finish => exact kept (.of_quiet (finishModes_quiet _)) valid

theorem Reached.valid {p : Point} (reached : Reached host p) : p.state.Valid ∧ p.state.decoder.Valid := by
  obtain ⟨e, reaches, steps⟩ := reached
  induction steps with
  | refl => exact reaches.valid
  | tail _ step ih => exact step.valid ih

end TerminalEmulator
