import TerminalAndroid.Terminal.Buffer.Picture
import TerminalAndroid.Emulator.OnScreen

open Java Exec

namespace TerminalCore

structure Ready (c : TerminalCore) : Prop extends OnScreen c where
  top : 0 ≤ c.mTopMargin
  height : c.mTopMargin + 2 ≤ c.mBottomMargin
  bottom : c.mBottomMargin ≤ c.mRows
  left : 0 ≤ c.mLeftMargin
  width : c.mLeftMargin < c.mRightMargin
  right : c.mRightMargin ≤ c.mColumns
  screenColumns : c.screen.mColumns = c.mColumns
  screenRows : c.screen.mScreenRows = c.mRows
  main : c.mMainBuffer.Formed
  alt : c.mAltBuffer.Formed

theorem Ready.formed {c : TerminalCore} (ready : c.Ready) : c.screen.Formed := by
  unfold screen
  split
  · exact ready.main
  · exact ready.alt

end TerminalCore

structure TerminalBuffer.Reformed (b b' : TerminalBuffer) : Prop where
  formed : b'.Formed
  screenRows : b'.mScreenRows = b.mScreenRows
  columns : b'.mColumns = b.mColumns

theorem TerminalBuffer.Repainted.reformed {b b' : TerminalBuffer} {rows : Int → TerminalRow → TerminalRow → Prop}
    (painted : Repainted rows b b') : Reformed b b' := ⟨painted.formed, painted.screenRows, painted.columns⟩

namespace TerminalEmulator

variable {e : TerminalEmulator} {host : Host}

def drawn (e : TerminalEmulator) (buffer : TerminalBuffer) : TerminalEmulator :=
  { e with toTerminalCore := e.withScreen buffer }

@[simp] theorem drawn_screen (e : TerminalEmulator) (buffer : TerminalBuffer) : (e.drawn buffer).screen = buffer :=
  TerminalCore.withScreen_screen _ buffer

theorem drawn_drawn (e : TerminalEmulator) (buffer buffer' : TerminalBuffer) :
    (e.drawn buffer).drawn buffer' = e.drawn buffer' := by
  unfold drawn TerminalCore.withScreen
  cases e.mScreen <;> rfl

theorem drawn_self (e : TerminalEmulator) : e.drawn e.screen = e := by
  rcases e with ⟨⟨_, _, _, _, _, _, shown⟩⟩
  cases shown <;> rfl

theorem ends_onScreen {α : Type} {post : α → TerminalBuffer → Prop} {method : BufferM α} (inner : Ends post method e.screen) :
    Ends (fun a e' => ∃ buffer, e' = e.drawn buffer ∧ post a buffer) (onScreen method) e := Ends.zoom inner

theorem onScreen_bind (m n : BufferM Unit) :
    (onScreen m >>= fun _ => onScreen n) = (onScreen (m >>= fun _ => n) : EmulatorM Unit) :=
  zoom_bind (fun buffer e => drawn_screen e buffer) fun buffer buffer' e => drawn_drawn e buffer buffer'

theorem run_onScreen_drawn {α : Type} {m : BufferM α} {a : α} {b c : TerminalBuffer} (e : TerminalEmulator)
    (ran : m.run b = .ok a c) : (onScreen m).run (e.drawn b) = .ok a (e.drawn c) := by
  rw [← drawn_drawn e b c]
  exact run_zoom_ok (by rw [drawn_screen]; exact ran)

theorem run_processCodePoint_feed (outside : ¬ e.Ignoring) : (processCodePoint host 10).run e = doLinefeed.run e := by
  obtain ⟨apc, escape⟩ := not_or.mp outside
  unfold processCodePoint
  simp only [EStateM.run_bind, EStateM.run_get, apc, escape, if_false]
  rfl

theorem run_processCodePoint {b : Nat} (outside : ¬ e.Ignoring) (printable : 28 ≤ b) :
    (processCodePoint host b).run e = (do
      doEscapeState host b
      modify fun e => if e.mContinueSequence then e else { e with mEscapeState := .none } : EmulatorM Unit).run
        { e with mContinueSequence := false } := by
  obtain ⟨apc, escape⟩ := not_or.mp outside
  unfold processCodePoint doCodePoint
  simp only [EStateM.run_bind, EStateM.run_get, EStateM.run_modify, apc, escape, show b ≠ 0 by omega, show b ≠ 7 by omega,
    show b ≠ 8 by omega, show b ≠ 9 by omega, show ¬ (b = 10 ∨ b = 11 ∨ b = 12) by omega, show b ≠ 13 by omega,
    show b ≠ 14 by omega, show b ≠ 15 by omega, show ¬ (b = 24 ∨ b = 26) by omega, show b ≠ 27 by omega, if_false]

theorem ends_processCodePoint {P : TerminalCore → Prop} {b : Nat} (outside : ¬ e.Ignoring) (printable : 28 ≤ b)
    (inner : Ends (fun _ e' => P e'.toTerminalCore) (doEscapeState host b) { e with mContinueSequence := false }) :
    Ends (fun _ e' => P e'.toTerminalCore) (processCodePoint host b) e := by
  unfold Ends
  rw [run_processCodePoint outside printable]
  refine Ends.bind inner fun _ e' holds => Ends.modify ?_
  split
  · exact holds
  · exact holds

theorem ends_csi {P : TerminalCore → Prop} {b : Nat} {method : EmulatorM Unit} (csi : e.mEscapeState = .csi)
    (printable : 28 ≤ b) (final : doCsi b = method)
    (inner : Ends (fun _ e' => P e'.toTerminalCore) method { e with mContinueSequence := false }) :
    Ends (fun _ e' => P e'.toTerminalCore) (processCodePoint host b) e := by
  subst final
  refine ends_processCodePoint (by rw [Ignoring, csi]; decide) printable (Ends.congr ?_ inner)
  unfold doEscapeState
  simp only [EStateM.run_bind, EStateM.run_get, csi]

theorem ends_esc {P : TerminalCore → Prop} {b : Nat} {method : EmulatorM Unit} (esc : e.mEscapeState = .esc)
    (printable : 28 ≤ b) (final : doEsc host b = method)
    (inner : Ends (fun _ e' => P e'.toTerminalCore) method { e with mContinueSequence := false }) :
    Ends (fun _ e' => P e'.toTerminalCore) (processCodePoint host b) e := by
  subst final
  refine ends_processCodePoint (by rw [Ignoring, esc]; decide) printable (Ends.congr ?_ inner)
  unfold doEscapeState
  simp only [EStateM.run_bind, EStateM.run_get, esc]

end TerminalEmulator

theorem TerminalCore.Ready.drawn {e : TerminalEmulator} (ready : e.Ready) {buffer : TerminalBuffer}
    (reformed : TerminalBuffer.Reformed e.screen buffer) : (e.drawn buffer).Ready := by
  have columns := reformed.columns.trans ready.screenColumns
  have rows := reformed.screenRows.trans ready.screenRows
  unfold TerminalEmulator.drawn TerminalCore.withScreen
  cases shown : e.mScreen with
  | main => exact { ready with screenColumns := columns, screenRows := rows, main := reformed.formed }
  | alt => exact { ready with screenColumns := columns, screenRows := rows, alt := reformed.formed }

namespace TerminalEmulator

def filledWith (columns rows x : Nat) : TerminalEmulator :=
  let buffer := TerminalBuffer.filledWith columns rows x TextStyle.normal
  { allocated plainHost columns rows 1 1 buffer buffer with mBottomMargin := rows, mRightMargin := columns }

section

variable {columns rows x : Nat} (lower : 2 ≤ columns) (upper : columns ≤ 1023) (high : 2 ≤ rows) (scalar : x.isValidChar)
  (one : WcWidth.width x = 1)
include lower upper high scalar one

theorem filledWith_ready : (filledWith columns rows x).Ready := by
  obtain ⟨p, paints⟩ := TerminalBuffer.filledWith_paints lower upper (show 1 ≤ rows by omega) scalar one TextStyle.normal
  exact {
    row := ⟨Int.le_refl 0, show (0 : Int) < rows by omega⟩
    col := ⟨Int.le_refl 0, show (0 : Int) < columns by omega⟩
    top := Int.le_refl 0
    height := show (0 : Int) + 2 ≤ rows by omega
    bottom := Int.le_refl _
    left := Int.le_refl 0
    width := show (0 : Int) < columns by omega
    right := Int.le_refl _
    screenColumns := paints.columns
    screenRows := paints.screenRows
    main := paints.formed
    alt := paints.formed }

theorem filledWith_narrow : (filledWith columns rows x).screen.Narrow := by
  obtain ⟨p, paints⟩ := TerminalBuffer.filledWith_paints lower upper (show 1 ≤ rows by omega) scalar one TextStyle.normal
  exact paints.narrow

end

end TerminalEmulator
