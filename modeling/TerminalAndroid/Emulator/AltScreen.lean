import TerminalAndroid.Emulator.OnScreen
import TerminalAndroid.Emulator.Points

open Java Exec Relation

namespace TerminalCore

variable {permits : Label → Prop} {o c c' : TerminalCore}

theorem withScreen_mScreen (c : TerminalCore) (buffer : TerminalBuffer) : (c.withScreen buffer).mScreen = c.mScreen := by
  unfold withScreen
  split <;> rfl

theorem withSavedState_mScreen (c : TerminalCore) (state : SavedScreenState) :
    (c.withSavedState state).mScreen = c.mScreen := by
  unfold withSavedState
  split <;> rfl

structure Aside (o c : TerminalCore) : Prop where
  shown : c.mScreen = .alt
  mainBuffer : c.mMainBuffer = o.mMainBuffer
  savedState : c.mSavedStateMain = o.mSavedStateMain
  rows : c.mRows = o.mRows
  columns : c.mColumns = o.mColumns

theorem Aside.refl (shown : c.mScreen = .alt) : Aside c c := ⟨shown, rfl, rfl, rfl, rfl⟩

theorem Aside.withScreen (aside : Aside o c) (buffer : TerminalBuffer) : Aside o (c.withScreen buffer) := by
  unfold TerminalCore.withScreen
  split
  next main => exact absurd (main.symm.trans aside.shown) nofun
  · exact { aside with }

theorem Aside.withSavedState (aside : Aside o c) (state : SavedScreenState) : Aside o (c.withSavedState state) := by
  unfold TerminalCore.withSavedState
  split
  next main => exact absurd (main.symm.trans aside.shown) nofun
  · exact { aside with }

end TerminalCore

namespace TerminalEmulator

open TerminalCore

variable {permits : Label → Prop} {host : Host} {o : TerminalCore} {e e' : TerminalEmulator}

theorem FitsScreen.screen (fits : FitsScreen e e') : e'.mScreen = e.mScreen := by
  obtain ⟨cursor, buffer, -, rfl⟩ := fits
  exact withScreen_mScreen _ _

theorem FitsScreen.aside (fits : FitsScreen e e') (aside : Aside o e.toTerminalCore) : Aside o e'.toTerminalCore := by
  obtain ⟨cursor, buffer, -, rfl⟩ := fits
  exact { aside.withScreen buffer with }

theorem onScreen_aside {α : Type} {method : BufferM α} {a : α} (ran : (onScreen method).run e = .ok a e')
    (aside : Aside o e.toTerminalCore) : Aside o e'.toTerminalCore := by
  obtain ⟨buffer, -, same⟩ := onScreen_inv ran
  rw [same]
  exact aside.withScreen buffer

theorem Switched.aside (switched : Switched e true e') (main : e.mScreen = .main) :
    Aside { e.saveCursor with mScreen := .alt } e'.toTerminalCore := by
  cases switched with
  | stays _ same => exact absurd (main.symm.trans same) nofun
  | toAlt _ fitted cleared =>
    refine onScreen_aside cleared ?_
    rcases fitted with ⟨-, rfl⟩ | ⟨-, fits⟩
    · exact .refl rfl
    · exact fits.aside (.refl rfl)

theorem Switched.restored (switched : Switched e false e') (alt : e.mScreen = .alt) (fits : ¬ e.Stale e.mMainBuffer) :
    e' = { e with mScreen := .main }.restoreCursor := by
  cases switched with
  | stays _ same => exact absurd (alt.symm.trans same) nofun
  | toMain _ fitted =>
    rcases fitted with ⟨-, same⟩ | ⟨stale, -⟩
    · exact same
    · exact absurd stale fits

variable {setting : Bool} {c : TerminalCore} {byte : UInt8}

theorem Switched.screen (switched : Switched e setting e') :
    e'.mScreen = if setting then .alt else .main := by
  cases switched with
  | stays _ same => exact same
  | toAlt from_main fitted cleared => exact (Switched.toAlt from_main fitted cleared).aside from_main |>.shown
  | toMain from_alt fitted =>
    rcases fitted with ⟨-, rfl⟩ | ⟨-, fits⟩
    · rfl
    · exact fits.screen

theorem Effect.screen {c' : TerminalCore} (effect : Effect permits c c') : c'.mScreen = c.mScreen ∨
    (permits .toAlt ∧ c'.mScreen = .alt) ∨ (permits .toMain ∧ c'.mScreen = .main) := by
  cases effect with
  | draws drawing ran => exact Or.inl (withScreen_mScreen _ _)
  | saves => exact Or.inl (withSavedState_mScreen _ _)
  | setsOrigin _ set _ | rowMargins _ _ _ set _ | columnMargins _ _ _ _ set _ => exact set ▸ Or.inl rfl
  | switches setting permitted ran =>
    have shown := (switchScreen_inv ran).screen
    cases setting with
    | false => exact Or.inr (Or.inr ⟨permitted, shown⟩)
    | true => exact Or.inr (Or.inl ⟨permitted, shown⟩)
  | _ => exact Or.inl rfl

theorem Steps.screen (steps : Steps permits e e') (toAlt : ¬ permits .toAlt) (toMain : ¬ permits .toMain) :
    e'.mScreen = e.mScreen := by
  refine steps.keeps (I := fun c => c.mScreen = e.mScreen) (fun c c' effect same => ?_) rfl
  rcases Effect.screen effect with kept | ⟨permitted, -⟩ | ⟨permitted, -⟩
  · exact kept.trans same
  · exact absurd permitted toAlt
  · exact absurd permitted toMain

def AsideOrBack (permits : Label → Prop) (o c : TerminalCore) : Prop :=
  Aside o c ∨ (c.mScreen = .main ∧ ¬ permits .toAlt)

theorem Effect.asideOrBack {c' : TerminalCore} (effect : Effect permits c c') (transcript : ¬ permits .transcript)
    (reset : ¬ permits .reset) (oneWay : permits .toMain → ¬ permits .toAlt) (kept : AsideOrBack permits o c) :
    AsideOrBack permits o c' := by
  rcases kept with aside | ⟨main, never⟩
  · cases effect with
    | draws drawing ran => exact Or.inl (aside.withScreen _)
    | saves => exact Or.inl (aside.withSavedState _)
    | setsOrigin _ set _ | rowMargins _ _ _ set _ | columnMargins _ _ _ _ set _ =>
      subst set
      exact Or.inl { aside with }
    | clearsTranscript permitted => exact absurd permitted transcript
    | resetsSaved permitted => exact absurd permitted reset
    | switches setting permitted ran =>
      have switched := switchScreen_inv ran
      cases setting with
      | false => exact Or.inr ⟨switched.screen, oneWay permitted⟩
      | true =>
        cases switched with
        | stays => exact Or.inl aside
        | toAlt from_main => exact absurd (from_main.symm.trans aside.shown) nofun
    | _ => exact Or.inl { aside with }
  · rcases Effect.screen effect with same | ⟨toAlt, -⟩ | ⟨-, back⟩
    · exact Or.inr ⟨same.trans main, never⟩
    · exact absurd toAlt never
    · exact Or.inr ⟨back, never⟩

theorem AsideOrBack.aside (kept : AsideOrBack permits o c) (shown : c.mScreen = .alt) : Aside o c := by
  rcases kept with aside | ⟨main, -⟩
  · exact aside
  · exact absurd (main.symm.trans shown) nofun

/-- The sequences that reset the terminal or clear the transcript of the main buffer are RIS, DECSTR and `CSI 3 J`. -/
def SparesMain (e : TerminalEmulator) (byte : UInt8) : Prop :=
  ¬ (e.mEscapeState = .esc ∧ byte = 99) ∧ ¬ (e.mEscapeState = .csiExclamation ∧ byte = 112) ∧
    ¬ (e.mEscapeState = .csi ∧ byte = 74 ∧ e.getArg0 0 = 3)

instance (e : TerminalEmulator) (byte : UInt8) : Decidable (e.SparesMain byte) := inferInstanceAs (Decidable (_ ∧ _))

theorem SparesMain.same (spares : e.SparesMain byte) (same : SameSettings e e') : e'.SparesMain byte := by
  unfold SparesMain at *
  rw [same.state, same.getArg0]
  exact spares

def OneWay (b : Nat) : Label → Prop
  | .transcript => False
  | .reset => False
  | .toAlt => b ≠ 'l'.toNat
  | .toMain => b = 'l'.toNat
  | _ => True

theorem Steps.asideOrBack {b : Nat} (steps : Steps (OneWay b) e e') (kept : AsideOrBack (OneWay b) o e.toTerminalCore) :
    AsideOrBack (OneWay b) o e'.toTerminalCore :=
  steps.keeps (fun _ _ effect => Effect.asideOrBack effect id id fun toMain toAlt => toAlt toMain) kept

theorem processCodePoint_asideOrBack (spares : e.SparesMain byte) :
    Leads (Keeps fun e : TerminalEmulator => AsideOrBack (OneWay byte.toNat) o e.toTerminalCore)
      (processCodePoint host byte.toNat) e := by
  intro _ e' ran
  refine Steps.asideOrBack ((processCodePoint_steps host byte.toNat () e' ran).mono ?_)
  rintro label ⟨-, permitted⟩
  have same : ∀ c : UInt8, byte.toNat = c.toNat → byte = c := fun c eq => UInt8.toNat_inj.mp eq
  cases permitted with
  | emit | backspace | tab | holdTab | back | jump | origin | margins | save | restore | widen | argument => trivial
  | eraseTranscript state final arg => exact spares.2.2 ⟨state, same 74 final, arg⟩
  | initialState state final => exact spares.1 ⟨state, same 99 final⟩
  | reset state final => exact spares.1 ⟨state, same 99 final⟩
  | softReset state final => exact spares.2.1 ⟨state, same 112 final⟩
  | toAlt _ final => rw [final]; show 'h'.toNat ≠ 'l'.toNat; decide
  | toMain _ final => exact final

theorem processCodePoint_beyond {b codePoint : Nat} (beyond : 128 ≤ codePoint) :
    Returns (Keeps fun e : TerminalEmulator => AsideOrBack (OneWay b) o e.toTerminalCore)
      (processCodePoint host codePoint) := by
  intro e _ e' ran
  refine Steps.asideOrBack ((processCodePoint_steps host codePoint () e' ran).mono ?_)
  rintro label ⟨-, permitted⟩
  have ascii : ∀ c : Char, c.toNat < 128 → codePoint ≠ c.toNat := by omega
  cases permitted with
  | emit | backspace | tab | holdTab | back | jump | origin | margins | save | restore | widen | argument => trivial
  | eraseTranscript _ final => exact absurd final (ascii 'J' (by decide))
  | initialState _ final => exact absurd final (ascii 'c' (by decide))
  | reset _ final => exact absurd final (ascii 'c' (by decide))
  | softReset _ final => exact absurd final (ascii 'p' (by decide))
  | toAlt _ final => exact absurd final (ascii 'h' (by decide))
  | toMain _ final => exact absurd final (ascii 'l' (by decide))

theorem processByte_aside (decodes : e.decoder.Valid) (spares : e.SparesMain byte)
    (ran : (processByte host byte).run e = .ok () e') (aside : Aside o e.toTerminalCore) (shown : e'.mScreen = .alt) :
    Aside o e'.toTerminalCore := by
  have kept : AsideOrBack (OneWay byte.toNat) o e'.toTerminalCore := by
    refine processByte_leads (R := Keeps fun e : TerminalEmulator => AsideOrBack (OneWay byte.toNat) o e.toTerminalCore)
      (fun e d => Or.imp_left fun aside => { aside with }) (fun e _ e' ran => ?_) (fun _ => processCodePoint_beyond)
      decodes (fun _ _ => processCodePoint_asideOrBack spares) (fun _ _ t emitted => ?_) () e' ran (Or.inl aside)
    · exact Steps.asideOrBack (emitCodePoint_steps trivial _ _ _ _ ran)
    · have same : SameSettings _ t := emitCodePoint_sameSettings _ _ _ _ emitted
      exact processCodePoint_asideOrBack (spares.same { same with })
  exact kept.aside shown

theorem Step.aside {p p' : Point} (step : Step host SparesMain p p') (decodes : p.state.decoder.Valid)
    (aside : Aside o p.state.toTerminalCore) (shown : p'.state.mScreen = .alt) : Aside o p'.state.toTerminalCore := by
  have kept : ∀ {b : Nat} {e e' : TerminalEmulator}, Steps (OneWay b) e e' → Aside o e.toTerminalCore → e'.mScreen = .alt →
      Aside o e'.toTerminalCore := fun steps aside shown => (steps.asideOrBack (Or.inl aside)).aside shown
  cases step with
  | byte spares ran => exact processByte_aside decodes spares ran aside shown
  | start _ _ _ ran =>
    refine kept (b := 0) ((startModes_steps _ _ _ ran).mono ?_) aside shown
    rintro label rfl
    trivial
  | mode ran =>
    rename_i setting _ _
    have oneWay : ∀ mode, ModePermits (OneWay (if setting then 'h'.toNat else 'l'.toNat)) setting mode := by
      intro mode
      cases setting with
      | false => exact ⟨nofun, fun _ _ => trivial, fun _ => trivial, fun _ => rfl⟩
      | true => exact ⟨fun _ _ => trivial, nofun, fun _ => trivial, fun _ => (by decide : 'h'.toNat ≠ 'l'.toNat)⟩
    exact kept (mode_steps oneWay _ _ _ _ ran) aside shown
  | finish => exact kept (b := 0) (.of_quiet (finishModes_quiet _)) aside shown

def OnAlt (host : Host) : Point → Point → Prop :=
  ReflTransGen fun p p' => Step host SparesMain p p' ∧ p'.state.mScreen = .alt

theorem OnAlt.aside {p p' : Point} (run : OnAlt host p p') (valid : p.state.Valid ∧ p.state.decoder.Valid)
    (aside : Aside o p.state.toTerminalCore) : Aside o p'.state.toTerminalCore := by
  have both : (p'.state.Valid ∧ p'.state.decoder.Valid) ∧ Aside o p'.state.toTerminalCore := by
    induction run with
    | refl => exact ⟨valid, aside⟩
    | tail _ step ih => exact ⟨step.1.valid ih.1, step.1.aside ih.1.2 ih.2 step.2⟩
  exact both.2

theorem mode_switched {i : Int} (ran : (argAt i >>= doDecSetOrReset host setting).run e = .ok () e')
    (other : e'.mScreen ≠ e.mScreen) : Switched e setting e' := by
  obtain ⟨externalBit, t, read, called⟩ := bind_inv ran
  have same : t = e := readArray_same _ _ _ _ _ read
  subst same
  by_cases screen : externalBit = 47 ∨ externalBit = 1047 ∨ externalBit = 1049
  · refine switchScreen_inv ?_
    rcases screen with rfl | rfl | rfl <;> exact called
  · have steps : Steps (fun label => label ≠ .toAlt ∧ label ≠ .toMain) t e' :=
      doDecSetOrReset_steps host setting externalBit
        ⟨fun _ _ => ⟨nofun, nofun⟩, fun _ _ => ⟨nofun, nofun⟩, fun _ => by cases setting <;> exact ⟨nofun, nofun⟩,
          fun is => absurd is screen⟩ _ _ _ called
    exact absurd (steps.screen (fun permitted => permitted.1 rfl) fun permitted => permitted.2 rfl) other

structure Restored (e e' : TerminalEmulator) : Prop where
  mainBuffer : e'.mMainBuffer = e.mMainBuffer
  row : e'.mCursorRow = e.mCursorRow
  col : e'.mCursorCol = e.mCursorCol
  foreColor : e'.mForeColor = e.mForeColor
  backColor : e'.mBackColor = e.mBackColor
  effect : e'.mEffect = e.mEffect
  autowrap : e'.isDecsetInternalBitSet decsetBitAutowrap = e.isDecsetInternalBitSet decsetBitAutowrap
  originMode : e'.isDecsetInternalBitSet decsetBitOriginMode = e.isDecsetInternalBitSet decsetBitOriginMode
  lineDrawingG0 : e'.mUseLineDrawingG0 = e.mUseLineDrawingG0
  lineDrawingG1 : e'.mUseLineDrawingG1 = e.mUseLineDrawingG1
  lineDrawingUsesG0 : e'.mUseLineDrawingUsesG0 = e.mUseLineDrawingUsesG0

theorem restored_of_aside {e₂ : TerminalEmulator} (valid : e.Valid) (main : e.mScreen = .main) (inside : e.OnScreen)
    (aside : Aside { e.saveCursor with mScreen := .alt } e₂.toTerminalCore) (switched : Switched e₂ false e') :
    Restored e e' := by
  rw [saveCursor_of_main main] at aside
  have mainBuffer : e₂.mMainBuffer = e.mMainBuffer := aside.mainBuffer
  have rows : e₂.mRows = e.mRows := aside.rows
  have columns : e₂.mColumns = e.mColumns := aside.columns
  have width := valid.screenColumns
  have height := valid.screenRows
  unfold screen at width height
  rw [main] at width height
  have fits : ¬ e₂.Stale e₂.mMainBuffer := by
    rw [Stale, mainBuffer, rows, columns]
    exact not_not.mpr ⟨width, height⟩
  have row := inside.row
  have col := inside.col
  rw [switched.restored aside.shown fits]
  have saved := aside.savedState
  have savedRow : e₂.mSavedStateMain.mSavedCursorRow = e.mCursorRow := congrArg SavedScreenState.mSavedCursorRow saved
  have savedCol : e₂.mSavedStateMain.mSavedCursorCol = e.mCursorCol := congrArg SavedScreenState.mSavedCursorCol saved
  have bit : ∀ {flags bit : BitVec 32}, (decsetBitAutowrap ||| decsetBitOriginMode) &&& bit = bit →
      ((flags &&& ~~~(decsetBitAutowrap ||| decsetBitOriginMode) |||
        e₂.mSavedStateMain.mSavedDecFlags &&& (decsetBitAutowrap ||| decsetBitOriginMode)) &&& bit != 0) =
        (e.mCurrentDecSetFlags &&& bit != 0) := by
    intro flags bit inside
    rw [restored_bit inside, saved]
  exact
    { mainBuffer := mainBuffer
      row := by
        show max 0 (min e₂.mSavedStateMain.mSavedCursorRow (e₂.mRows - 1)) = e.mCursorRow
        rw [savedRow, rows]
        omega
      col := by
        show max 0 (min e₂.mSavedStateMain.mSavedCursorCol (e₂.mColumns - 1)) = e.mCursorCol
        rw [savedCol, columns]
        omega
      foreColor := congrArg SavedScreenState.mSavedForeColor saved
      backColor := congrArg SavedScreenState.mSavedBackColor saved
      effect := congrArg SavedScreenState.mSavedEffect saved
      autowrap := bit (by decide)
      originMode := bit (by decide)
      lineDrawingG0 := congrArg SavedScreenState.mUseLineDrawingG0 saved
      lineDrawingG1 := congrArg SavedScreenState.mUseLineDrawingG1 saved
      lineDrawingUsesG0 := congrArg SavedScreenState.mUseLineDrawingUsesG0 saved }

/-- From the DECSET that shows the alternate buffer to the DECRST that shows the main one again. -/
theorem alternate_screen_restores {count count' : Nat} {i i' : Int} {e e₁ e₂ e₃ : TerminalEmulator}
    (reached : Reached host (.modes true (count + 1) i e)) (main : e.mScreen = .main) (inside : e.OnScreen)
    (left : Step host SparesMain (.modes true (count + 1) i e) (.modes true count (i + 1) e₁)) (shown : e₁.mScreen = .alt)
    (run : OnAlt host (.modes true count (i + 1) e₁) (.modes false (count' + 1) i' e₂))
    (returned : Step host SparesMain (.modes false (count' + 1) i' e₂) (.modes false count' (i' + 1) e₃))
    (back : e₃.mScreen = .main) : Restored e e₃ := by
  have valid := reached.valid
  have valid₁ := left.valid valid
  cases left with
  | mode entered =>
    cases returned with
    | mode exited =>
      have aside := run.aside valid₁ ((mode_switched entered (by rw [main, shown]; nofun)).aside main)
      have alt : e₂.mScreen = .alt := aside.shown
      refine restored_of_aside valid.1 main inside aside (mode_switched exited fun same => ?_)
      exact absurd (back.symm.trans (same.trans alt)) nofun

theorem Step.start_single {allows : TerminalEmulator → UInt8 → Prop}
    (allowed : allows e (if setting then 104 else 108)) (sequence : e.mEscapeState = .csiQuestionmark)
    (ran : startModes.run e = .ok () e') (single : e'.mArgIndex = 0) :
    Step host allows (.between e) (.modes setting 1 0 e') := by
  have count : (e'.mArgIndex + 1).toNat = 1 := by omega
  cases setting with
  | false => exact count ▸ Step.start allowed (Or.inr rfl) sequence ran
  | true => exact count ▸ Step.start allowed (Or.inl rfl) sequence ran

def appendOnAlt (host : Host) : List UInt8 → EmulatorM Unit
  | [] => pure ()
  | byte :: bytes => do
    check fun e => decide (e.SparesMain byte)
    processByte host byte
    check fun e => decide (e.mScreen = .alt)
    appendOnAlt host bytes

theorem appendOnAlt_inv {bytes : List UInt8} (ran : (appendOnAlt host bytes).run e = .ok () e') :
    OnAlt host (.between e) (.between e') := by
  induction bytes generalizing e with
  | nil =>
    cases ran
    exact .refl
  | cons byte bytes ih =>
    obtain ⟨spares, ran⟩ := check_bind_inv ran
    obtain ⟨_, t, processed, ran⟩ := bind_inv ran
    obtain ⟨shown, ran⟩ := check_bind_inv ran
    exact .head ⟨.byte (of_decide_eq_true spares) processed, of_decide_eq_true shown⟩ (ih ran)

def visit : EmulatorM Unit := do
  append plainHost [27, 91, 63, 52, 55]
  check fun e => decide (e.mEscapeState = .csiQuestionmark)
  startModes
  check fun e => decide (e.mArgIndex = 0 ∧ e.mScreen = .main ∧ (0 ≤ e.mCursorRow ∧ e.mCursorRow < e.mRows) ∧
    0 ≤ e.mCursorCol ∧ e.mCursorCol < e.mColumns)
  argAt 0 >>= doDecSetOrReset plainHost true
  check fun e => decide (e.mScreen = .alt)
  modify finishModes
  appendOnAlt plainHost [88, 27, 91, 63, 52, 55]
  check fun e => decide (e.mEscapeState = .csiQuestionmark)
  startModes
  check fun e => decide (e.mArgIndex = 0 ∧ e.mScreen = .alt)
  argAt 0 >>= doDecSetOrReset plainHost false
  check fun e => decide (e.mScreen = .main)
  pure ()

theorem alternate_screen_restores_visit : ∃ e₃, started 10 4 visit = .ok e₃ ∧ ∃ e, Restored e e₃ := by
  obtain ⟨e₃, visited⟩ := exists_of_isOk (show (started 10 4 visit).isOk = true by decide +kernel)
  refine ⟨e₃, visited, ?_⟩
  obtain ⟨e₀, created, ran⟩ := started_inv visited
  obtain ⟨_, s, appended, ran⟩ := bind_inv ran
  obtain ⟨sequence, ran⟩ := check_bind_inv ran
  obtain ⟨_, e, began, ran⟩ := bind_inv ran
  obtain ⟨state, ran⟩ := check_bind_inv ran
  obtain ⟨single, main, row, col⟩ := of_decide_eq_true state
  obtain ⟨_, e₁, entered, ran⟩ := bind_inv ran
  obtain ⟨shown, ran⟩ := check_bind_inv ran
  obtain ⟨_, _, finished, ran⟩ := bind_inv ran
  cases finished
  obtain ⟨_, t, fed, ran⟩ := bind_inv ran
  obtain ⟨sequence', ran⟩ := check_bind_inv ran
  obtain ⟨_, e₂, began', ran⟩ := bind_inv ran
  obtain ⟨state', ran⟩ := check_bind_inv ran
  obtain ⟨single', alt⟩ := of_decide_eq_true state'
  obtain ⟨_, _, exited, ran⟩ := bind_inv ran
  obtain ⟨back, ran⟩ := check_bind_inv ran
  cases ran
  have reached := (Reaches.create (by decide) (by decide) created).append (fun _ _ _ => trivial) appended
  have start : Step plainHost (fun _ _ => True) (.between s) (.modes true 1 0 e) :=
    .start_single trivial (of_decide_eq_true sequence) began single
  have start' : Step plainHost SparesMain (.between t) (.modes false 1 0 e₂) := by
    refine .start_single ?_ (of_decide_eq_true sequence') began' single'
    exact ⟨fun ris => absurd ris.2 (by decide), fun soft => absurd soft.2 (by decide), fun erase => absurd erase.2.1 (by decide)⟩
  have finish : OnAlt plainHost (.modes true 0 1 e₁) (.between e₁.finishModes) :=
    .single ⟨.finish, (congrArg TerminalCore.mScreen (finishModes_quiet e₁)).trans (of_decide_eq_true shown)⟩
  have run : OnAlt plainHost (.modes true 0 1 e₁) (.modes false 1 0 e₂) :=
    (ReflTransGen.trans finish (appendOnAlt_inv fed)).tail ⟨start', alt⟩
  exact ⟨e, alternate_screen_restores ⟨s, reached, .single start⟩ main ⟨row, col⟩ (.mode entered)
    (of_decide_eq_true shown) run (.mode exited) (of_decide_eq_true back)⟩

end TerminalEmulator
