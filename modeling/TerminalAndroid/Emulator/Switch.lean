import TerminalAndroid.Emulator.Refine.Screen

open Java Exec

namespace TerminalEmulator

open TerminalCore

variable {e e' : TerminalEmulator}

def FitsScreen (e e' : TerminalEmulator) : Prop :=
  ∃ (cursor : Int × Int) (buffer : TerminalBuffer),
    (TerminalBuffer.resize e.mColumns e.mRows (if e.mScreen = .alt then e.mRows else e.mMainBuffer.mTotalRows)
      (e.mCursorCol, e.mCursorRow) e.getStyle (decide (e.mScreen = .alt))).run e.screen = .ok cursor buffer ∧
    e' = { e with toTerminalCore := { e.withScreen buffer with mCursorCol := cursor.1, mCursorRow := cursor.2 } }

theorem resizeScreen_inv (ran : resizeScreen.run e = .ok () e') : FitsScreen e e' := by
  obtain ⟨_, _, got, rest⟩ := bind_inv ran
  cases got
  dsimp only at rest
  obtain ⟨cursor, t, inner, rest⟩ := bind_inv rest
  cases rest
  obtain ⟨buffer, resized, rfl⟩ := zoom_inv inner
  exact ⟨cursor, buffer, resized, rfl⟩

theorem fitScreen_inv {p : Prop} [Decidable p] (ran : (if p then resizeScreen else pure ()).run e = .ok () e') :
    (¬ p ∧ e' = e) ∨ (p ∧ FitsScreen e e') := by
  split at ran
  next resized => exact Or.inr ⟨resized, resizeScreen_inv ran⟩
  next same =>
    cases ran
    exact Or.inl ⟨same, rfl⟩

theorem saveCursor_of_main (main : e.mScreen = .main) :
    e.saveCursor = { e with mSavedStateMain := {
      mSavedCursorRow := e.mCursorRow
      mSavedCursorCol := e.mCursorCol
      mSavedEffect := e.mEffect
      mSavedForeColor := e.mForeColor
      mSavedBackColor := e.mBackColor
      mSavedDecFlags := e.mCurrentDecSetFlags
      mUseLineDrawingG0 := e.mUseLineDrawingG0
      mUseLineDrawingG1 := e.mUseLineDrawingG1
      mUseLineDrawingUsesG0 := e.mUseLineDrawingUsesG0 } } := by
  unfold saveCursor withSavedState
  rw [main]

def Stale (e : TerminalEmulator) (buffer : TerminalBuffer) : Prop :=
  ¬ (buffer.mColumns = e.mColumns ∧ buffer.mScreenRows = e.mRows)

instance (e : TerminalEmulator) (buffer : TerminalBuffer) : Decidable (e.Stale buffer) := inferInstanceAs (Decidable (¬ _))

inductive Switched (e : TerminalEmulator) : Bool → TerminalEmulator → Prop
  | stays (setting : Bool) (same : e.mScreen = if setting then .alt else .main) : Switched e setting e
  | toAlt {t e' : TerminalEmulator} (from_main : e.mScreen = .main)
      (fitted : (¬ e.Stale e.mAltBuffer ∧ t = { e.saveCursor with mScreen := .alt }) ∨
        (e.Stale e.mAltBuffer ∧ FitsScreen { e.saveCursor with mScreen := .alt } t))
      (cleared : (onScreen (TerminalBuffer.blockSet 0 0 t.mColumns t.mRows TerminalRow.space t.getStyle)).run t =
        .ok () e') : Switched e true e'
  | toMain {e' : TerminalEmulator} (from_alt : e.mScreen = .alt)
      (fitted : (¬ e.Stale e.mMainBuffer ∧ e' = { e with mScreen := .main }.restoreCursor) ∨
        (e.Stale e.mMainBuffer ∧ FitsScreen (restoreMainCursor true { e with mScreen := .main }) e')) :
      Switched e false e'

theorem switchScreen_inv {setting : Bool} (ran : (switchScreen setting).run e = .ok () e') : Switched e setting e' := by
  obtain ⟨_, _, got, rest⟩ := bind_inv ran
  cases got
  dsimp only at rest
  by_cases other : (if setting then Screen.alt else Screen.main) ≠ e.mScreen
  · rw [if_pos other] at rest
    obtain ⟨_, s, modified, rest⟩ := bind_inv rest
    cases modified
    obtain ⟨_, s', restored, rest⟩ := bind_inv rest
    obtain ⟨_, t, fitted, cleared⟩ := bind_inv rest
    cases setting with
    | true =>
      cases restored
      simp only [↓reduceIte] at fitted
      rw [if_pos rfl] at cleared
      obtain ⟨_, _, got, cleared⟩ := bind_inv cleared
      cases got
      refine .toAlt ?_ (fitScreen_inv fitted) cleared
      cases screen : e.mScreen with
      | main => rfl
      | alt => exact absurd screen.symm other
    | false =>
      cases restored
      cases cleared
      refine .toMain ?_ ?_
      · cases screen : e.mScreen with
        | main => exact absurd screen.symm other
        | alt => rfl
      · rcases fitScreen_inv fitted with ⟨same, rfl⟩ | ⟨stale, fits⟩
        · refine Or.inl ⟨same, ?_⟩
          rw [restoreMainCursor, decide_eq_false same]
          rfl
        · rw [decide_eq_true stale] at fits
          exact Or.inr ⟨stale, fits⟩
  · rw [if_neg other] at rest
    cases rest
    exact .stays setting (not_not.mp other).symm

end TerminalEmulator
