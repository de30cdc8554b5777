import TerminalAndroid.Emulator.AltScreen
import TerminalAndroid.Emulator.Ready

open Java Exec Relation

namespace TerminalCore

variable {permits : Label → Prop} {o c c' : TerminalCore}

structure Remembers (o c : TerminalCore) : Prop where
  saved : c.savedState = o.savedState
  rows : c.mRows = o.mRows
  columns : c.mColumns = o.mColumns

theorem Effect.remembers (effect : Effect permits c c') (save : ¬ permits .save) (reset : ¬ permits .reset)
    (toAlt : ¬ permits .toAlt) (toMain : ¬ permits .toMain) (kept : Remembers o c) : Remembers o c' := by
  cases effect with
  | draws =>
    unfold withScreen
    split
    · exact { kept with }
    · exact { kept with }
  | saves permitted => exact absurd permitted save
  | setsOrigin _ set _ | rowMargins _ _ _ set _ | columnMargins _ _ _ _ set _ =>
    subst set
    exact { kept with }
  | resetsSaved permitted => exact absurd permitted reset
  | switches setting permitted =>
    cases setting with
    | false => exact absurd permitted toMain
    | true => exact absurd permitted toAlt
  | _ => exact { kept with }

end TerminalCore

namespace TerminalEmulator

open TerminalCore

variable {e e' : TerminalEmulator} {host : Host}

def KeepsSaved (e : TerminalEmulator) (b : Nat) : Prop :=
  ¬ (e.mEscapeState = .esc ∧ (b = '7'.toNat ∨ b = 'c'.toNat)) ∧ ¬ (e.mEscapeState = .csi ∧ b = 's'.toNat) ∧
    ¬ (e.mEscapeState = .csiExclamation ∧ b = 'p'.toNat) ∧
    ¬ (e.mEscapeState = .csiQuestionmark ∧ (b = 'h'.toNat ∨ (b = 'l'.toNat ∧
      (47 ∈ e.mArgs.toList ∨ 1047 ∈ e.mArgs.toList ∨ 1049 ∈ e.mArgs.toList))))

def Unsaved (host : Host) (e e' : TerminalEmulator) : Prop :=
  ∃ b, e.KeepsSaved b ∧ (processCodePoint host b).run e = .ok () e'

theorem Unsaved.remembers {o : TerminalCore} (step : Unsaved host e e') (kept : Remembers o e.toTerminalCore) :
    Remembers o e'.toTerminalCore := by
  obtain ⟨b, ⟨esc, csi, exclamation, questionmark⟩, ran⟩ := step
  apply (processCodePoint_steps host b () e' ran).keeps _ kept
  intro c c' effect
  -- the labels that would forget come only from what `KeepsSaved` rules out
  apply effect.remembers
  · intro permitted
    cases permitted.2 with
    | save final =>
      rcases final with ⟨state, final⟩ | final | ⟨state, final⟩
      · exact esc ⟨state, Or.inl final⟩
      · exact csi final
      · exact questionmark ⟨state, Or.inl final⟩
  · intro permitted
    cases permitted.2 with
    | reset state final => exact esc ⟨state, Or.inr final⟩
    | softReset state final => exact exclamation ⟨state, final⟩
  · intro permitted
    cases permitted.2 with
    | toAlt state final => exact questionmark ⟨state, Or.inl final⟩
  · intro permitted
    cases permitted.2 with
    | toMain state final mode => exact questionmark ⟨state, Or.inr ⟨final, mode⟩⟩

/-- DECRC brings back what DECSC saved, whatever was processed in between. -/
theorem saved_cursor_restored (inside : e.OnScreen) (run : ReflTransGen (Unsaved host) e.saveCursor e') :
    e'.restoreCursor = { e' with
      mCursorRow := e.mCursorRow
      mCursorCol := e.mCursorCol
      mAboutToAutoWrap := false
      mEffect := e.mEffect
      mForeColor := e.mForeColor
      mBackColor := e.mBackColor
      mCurrentDecSetFlags := e'.mCurrentDecSetFlags &&& ~~~(decsetBitAutowrap ||| decsetBitOriginMode) |||
        e.mCurrentDecSetFlags &&& (decsetBitAutowrap ||| decsetBitOriginMode)
      mUseLineDrawingG0 := e.mUseLineDrawingG0
      mUseLineDrawingG1 := e.mUseLineDrawingG1
      mUseLineDrawingUsesG0 := e.mUseLineDrawingUsesG0 } := by
  have kept : Remembers e.saveCursor.toTerminalCore e'.toTerminalCore := by
    induction run with
    | refl => exact ⟨rfl, rfl, rfl⟩
    | tail _ step ih => exact step.remembers ih
  have size : e.saveCursor.mRows = e.mRows ∧ e.saveCursor.mColumns = e.mColumns := by
    unfold saveCursor withSavedState
    cases e.mScreen <;> exact ⟨rfl, rfl⟩
  have saved : e'.savedState = ⟨e.mCursorRow, e.mCursorCol, e.mEffect, e.mForeColor, e.mBackColor, e.mCurrentDecSetFlags,
      e.mUseLineDrawingG0, e.mUseLineDrawingG1, e.mUseLineDrawingUsesG0⟩ := by
    rw [kept.saved]
    unfold saveCursor withSavedState savedState
    cases e.mScreen <;> rfl
  have row := inside.row
  have col := inside.col
  have sameRow : max 0 (min e.mCursorRow (e'.mRows - 1)) = e.mCursorRow := by
    rw [kept.rows, size.1]
    omega
  have sameCol : max 0 (min e.mCursorCol (e'.mColumns - 1)) = e.mCursorCol := by
    rw [kept.columns, size.2]
    omega
  unfold restoreCursor setCursorRowCol
  rw [saved]
  dsimp only
  rw [sameRow, sameCol]

theorem saved_cursor_restored_shift :
    { (filledWith 4 2 120).saveCursor with mUseLineDrawingUsesG0 := false }.restoreCursor.mUseLineDrawingUsesG0 = true := by
  have ready : (filledWith 4 2 120).Ready := filledWith_ready (by decide) (by decide) (by decide) (by decide) (by decide)
  rw [@saved_cursor_restored _ _ plainHost ready.toOnScreen (.single ⟨14, ⟨nofun, nofun, nofun, nofun⟩, rfl⟩)]
  rfl

end TerminalEmulator
