import TerminalAndroid.Emulator.Emit
import TerminalAndroid.Emulator.Parameters
import TerminalAndroid.Emulator.ParserMemory

open Java Exec Std.Do

set_option mvcgen.warning false

namespace TerminalEmulator

variable {host : Host} {e : TerminalEmulator} {c : Nat} {events : List Event}

def Grounded (events : List Event) (e : TerminalEmulator) : Prop := e.mEscapeState = .none ∧ e.events = events

theorem onScreen_grounded {α : Type} (m : BufferM α) : Exec.Stays (Grounded events) (onScreen m) := by
  apply stays_iff.mpr
  intro e a e' grounded ran
  obtain ⟨buffer, -, rfl⟩ := zoom_inv ran
  exact grounded

theorem emitCodePoint_grounded (c : Nat) : Exec.Stays (Grounded events) (emitCodePoint c) := by
  mvcgen [emitCodePoint, wrapLine, placeCodePoint, scrollDownOneLine, onScreen_grounded, -emitCodePoint_bounded,
    -onScreen_bounded]

theorem doLinefeed_grounded : Exec.Stays (Grounded events) doLinefeed := by
  mvcgen [doLinefeed, scrollDownOneLine, onScreen_grounded, -doLinefeed_bounded, -onScreen_bounded]

theorem shownCodePoint_narrow (narrow : WcWidth.width c ≤ 1) : WcWidth.width (e.shownCodePoint c) ≤ 1 := by
  unfold shownCodePoint
  refine iteInduction (motive := fun x => WcWidth.width x ≤ 1) (fun _ => ?_) fun _ => narrow
  unfold lineDrawing
  repeat refine iteInduction (motive := fun x => WcWidth.width x ≤ 1) (fun _ => by decide +kernel) fun _ => ?_
  exact narrow

theorem emitCodePoint_ready (ready : e.Ready) (scalar : c.isValidChar) (narrow : WcWidth.width c ≤ 1) :
    Ends (fun _ e' => e'.Ready) (emitCodePoint c) e := by
  have shown := shownCodePoint_narrow (e := e) narrow
  have start : (e.emitting c).Ready := { ready with }
  unfold Ends
  rw [run_emitCodePoint]
  apply Ends.ite (fun _ => Ends.pure start)
  intro _
  apply @Ends.bind _ _ _ _ _ (fun _ e' => e'.Ready)
  · apply Ends.ite (fun _ => (wrapLine_wraps start).mono fun _ _ wrapped => wrapped.ready start)
    exact fun _ => Ends.pure start
  · intro _ e₁ ready₁
    apply (placeCodePoint_places ready₁ _ (shownCodePoint_valid scalar) fun wide => by omega).mono
    rintro - e' ⟨b, b', reformed, reformed', -, rfl⟩
    have width := ready₁.width
    have right := ready₁.right
    have left := ready₁.left
    have col := ready₁.col
    refine TerminalCore.Ready.drawn (e := e₁.advanced _ _) { ready₁ with col := ⟨?_, ?_⟩ } (reformed.trans reformed')
    · show 0 ≤ min _ (e₁.mRightMargin - 1)
      omega
    · show min _ (e₁.mRightMargin - 1) < e₁.mColumns
      omega

/-- Line feeds, VT, FF, CR, and characters that are not wide. -/
def Plain (c : Nat) : Prop := (10 ≤ c ∧ c ≤ 13) ∨ (32 ≤ c ∧ c.isValidChar ∧ WcWidth.width c ≤ 1)

theorem processCodePoint_plain (ready : e.Ready) (grounded : Grounded events e) (plain : Plain c) :
    Ends (fun _ e' => e'.Ready ∧ Grounded events e') (processCodePoint host c) e := by
  have outside : ¬ e.Ignoring := by
    rw [Ignoring, grounded.1]
    decide
  have both : ∀ {m : EmulatorM Unit} {e : TerminalEmulator}, Grounded events e → Exec.Stays (Grounded events) m →
      Ends (fun _ e' => e'.Ready) m e → Ends (fun _ e' => e'.Ready ∧ Grounded events e') m e := by
    rintro m e grounded stays ⟨a, e', ran, ready⟩
    exact ⟨a, e', ran, ready, stays_iff.mp stays e a e' grounded ran⟩
  rcases plain with control | ⟨printable, scalar, narrow⟩
  · have entered : (processCodePoint host c).run e = (doCodePoint host c).run e := by
      obtain ⟨apc, escape⟩ := not_or.mp outside
      unfold processCodePoint
      simp only [EStateM.run_bind, EStateM.run_get, apc, escape, if_false]
    apply Ends.congr entered
    rcases (by omega : c = 13 ∨ c = 10 ∨ c = 11 ∨ c = 12) with rfl | rfl | rfl | rfl
    · have width := ready.width
      have right := ready.right
      exact Ends.modify ⟨{ ready with col := ⟨ready.left, show e.mLeftMargin < e.mColumns by omega⟩ }, grounded⟩
    all_goals exact both grounded doLinefeed_grounded (doLinefeed_ready ready)
  · have entered : (doEscapeState host c).run { e with mContinueSequence := false } =
        (emitCodePoint c).run { e with mContinueSequence := false } := by
      unfold doEscapeState
      simp only [EStateM.run_bind, EStateM.run_get, grounded.1, if_pos printable]
    unfold Ends
    rw [run_processCodePoint outside (Nat.le_trans (by decide) printable)]
    apply Ends.bind (Ends.congr entered (both grounded (emitCodePoint_grounded c)
      (emitCodePoint_ready { ready with } scalar narrow)))
    rintro - e' ⟨ready', grounded'⟩
    apply Ends.modify
    split
    · exact ⟨ready', grounded'⟩
    · exact ⟨{ ready' with }, rfl, grounded'.2⟩

/-- Plain text is shown without an exception and without an answer to the process. -/
theorem plain_text_shown {text : List Nat} (plain : ∀ c ∈ text, Plain c) (ready : e.Ready)
    (ground : e.mEscapeState = .none) :
    ∃ e', (receive host text).run e = .ok () e' ∧ e'.Ready ∧ e'.mEscapeState = .none ∧ e'.events = e.events := by
  suffices ∀ events, Grounded events e → Ends (fun _ e' => e'.Ready ∧ Grounded events e') (receive host text) e by
    obtain ⟨_, e', ran, kept⟩ := this e.events ⟨ground, rfl⟩
    exact ⟨e', ran, kept⟩
  clear ground
  induction text generalizing e with
  | nil => exact fun events grounded => Ends.pure ⟨ready, grounded⟩
  | cons c text ih =>
    intro events grounded
    obtain ⟨⟨⟩, e₁, ran, ready₁, grounded₁⟩ :=
      @processCodePoint_plain host _ _ _ ready grounded (plain c List.mem_cons_self)
    unfold Ends
    rw [run_receive_cons host ran]
    exact ih (fun c later => plain c (List.mem_cons_of_mem _ later)) ready₁ events grounded₁

theorem plain_text_shown_feed : ∃ e', (receive plainHost [10]).run (filledWith 4 2 120) = .ok () e' ∧ e'.Ready ∧
    e'.mEscapeState = .none ∧ e'.events = [] :=
  plain_text_shown (fun c found => Or.inl (by rw [List.mem_singleton.mp found]; decide))
    (filledWith_ready (by decide) (by decide) (by decide) (by decide) (by decide)) rfl

end TerminalEmulator
