import TerminalAndroid.Emulator.Points

open Java Exec

namespace TerminalCore

structure Sized (c : TerminalCore) : Prop extends Bounded c where
  mainColumns : c.mMainBuffer.mColumns = c.mColumns
  mainRows : c.mMainBuffer.mScreenRows = c.mRows
  altColumns : c.mAltBuffer.mColumns = c.mColumns
  altRows : c.mAltBuffer.mScreenRows = c.mRows

variable {c : TerminalCore}

theorem Sized.valid (sized : c.Sized) : c.Valid where
  toBounded := sized.toBounded
  screenColumns := by
    unfold screen
    cases c.mScreen with
    | main => exact sized.mainColumns
    | alt => exact sized.altColumns
  screenRows := by
    unfold screen
    cases c.mScreen with
    | main => exact sized.mainRows
    | alt => exact sized.altRows

variable {buffer : TerminalBuffer}

theorem Sized.withMain (sized : c.Sized)
    (same : TerminalBuffer.SameSize c.mMainBuffer buffer) : ({ c with mMainBuffer := buffer } : TerminalCore).Sized :=
  { sized with
    mainColumns := same.columns.trans sized.mainColumns
    mainRows := same.screenRows.trans sized.mainRows }

theorem Sized.withAlt (sized : c.Sized)
    (same : TerminalBuffer.SameSize c.mAltBuffer buffer) : ({ c with mAltBuffer := buffer } : TerminalCore).Sized :=
  { sized with
    altColumns := same.columns.trans sized.altColumns
    altRows := same.screenRows.trans sized.altRows }

theorem Sized.withScreen (sized : c.Sized) (same : TerminalBuffer.SameSize c.screen buffer) :
    (c.withScreen buffer).Sized := by
  unfold TerminalCore.withScreen
  unfold screen at same
  split
  next main => exact sized.withMain (by rw [main] at same; exact same)
  next alt => exact sized.withAlt (by rw [alt] at same; exact same)

theorem Sized.withSavedState (sized : c.Sized) (state : SavedScreenState) : (c.withSavedState state).Sized := by
  unfold TerminalCore.withSavedState
  split <;> exact { sized with }

end TerminalCore

namespace TerminalEmulator

open TerminalCore

variable {host : Host} {allows : TerminalEmulator → UInt8 → Prop} {permits : Label → Prop} {e e' : TerminalEmulator}

theorem Switched.plain {setting : Bool} (switched : Switched e setting e') (sized : e.Sized) :
    e' = e ∨ (setting = true ∧ e.mScreen = .main ∧ ∃ state buffer, TerminalBuffer.SameSize e.mAltBuffer buffer ∧
      state.mSavedCursorRow = e.mCursorRow ∧ state.mSavedCursorCol = e.mCursorCol ∧
      state.mSavedDecFlags = e.mCurrentDecSetFlags ∧
      e'.toTerminalCore = { e.toTerminalCore with mSavedStateMain := state, mScreen := .alt, mAltBuffer := buffer }) ∨
    (setting = false ∧ e.mScreen = .alt ∧ e' = { e with mScreen := .main }.restoreCursor) := by
  cases switched with
  | stays => exact Or.inl rfl
  | toAlt from_main fitted cleared =>
    right
    left
    rw [saveCursor_of_main from_main] at fitted
    rcases fitted with ⟨-, rfl⟩ | ⟨stale, -⟩
    · obtain ⟨buffer, ran, same⟩ := onScreen_inv cleared
      refine ⟨rfl, from_main, e.saveCursor.mSavedStateMain, buffer, ?_⟩
      rw [saveCursor_of_main from_main]
      exact ⟨(Drawing.blockSet ..).sameSize_of_run ran, rfl, rfl, rfl, same⟩
    · exact absurd ⟨sized.altColumns, sized.altRows⟩ stale
  | toMain from_alt fitted =>
    right
    right
    rcases fitted with ⟨-, rfl⟩ | ⟨stale, -⟩
    · exact ⟨rfl, from_alt, rfl⟩
    · exact absurd ⟨sized.mainColumns, sized.mainRows⟩ stale

theorem Effect.sized {c c' : TerminalCore} (effect : Effect permits c c') (sized : c.Sized) : c'.Sized := by
  have bounded := (Effect.valid effect sized.valid).toBounded
  cases effect with
  | draws drawing ran => exact sized.withScreen (drawing.sameSize_of_run ran)
  | clearsTranscript permitted ran => exact sized.withMain (clearTranscript_sameSize ran)
  | saves => exact sized.withSavedState _
  | setsOrigin _ set _ | rowMargins _ _ _ set _ | columnMargins _ _ _ _ set _ =>
    subst set
    exact { bounded, sized with }
  | switches setting permitted ran =>
    rcases (switchScreen_inv ran).plain sized with rfl | ⟨-, -, state, buffer, same, -, -, -, core⟩ | ⟨-, -, rfl⟩
    · exact sized
    · rw [core]
      exact { sized.withAlt same with }
    · exact { bounded, sized with }
  | _ => exact { bounded, sized with }

/-- The states that a run of `append` reaches from a new emulator without an exception, as long as each byte is processed
    in a state that allows it. -/
inductive Appended (host : Host) (allows : TerminalEmulator → UInt8 → Prop) : TerminalEmulator → Prop
  | create {columns rows cellWidthPixels cellHeightPixels : Int} {transcriptRows : Option Int} {e : TerminalEmulator}
      (wide : 2 ≤ columns) (high : 2 ≤ rows)
      (created : create host columns rows cellWidthPixels cellHeightPixels transcriptRows = .ok e) : Appended host allows e
  | process {e e' : TerminalEmulator} {byteToProcess : UInt8} (reached : Appended host allows e)
      (allowed : allows e byteToProcess) (ran : (processByte host byteToProcess).run e = .ok () e') : Appended host allows e'

theorem Appended.reaches (reached : Appended host allows e) : Reaches host allows e := by
  induction reached with
  | create wide high created => exact .create wide high created
  | process _ allowed ran ih => exact ih.process allowed ran

theorem create_sized {columns rows cellWidthPixels cellHeightPixels : Int} {transcriptRows : Option Int}
    (wide : 2 ≤ columns) (high : 2 ≤ rows)
    (created : create host columns rows cellWidthPixels cellHeightPixels transcriptRows = .ok e) : e.Sized := by
  have bounded := (create_valid wide high created).toBounded
  obtain ⟨mainBuffer, altBuffer, stops, savedMain, savedAlt, main, alt, -, core⟩ := create_core created
  rw [core] at bounded ⊢
  exact { bounded with
    mainColumns := (TerminalBuffer.create_sameSize main).columns
    mainRows := (TerminalBuffer.create_sameSize main).screenRows
    altColumns := (TerminalBuffer.create_sameSize alt).columns
    altRows := (TerminalBuffer.create_sameSize alt).screenRows }

theorem Appended.append {bytes : List UInt8} (all : ∀ byte ∈ bytes, ∀ e, allows e byte) (reached : Appended host allows e)
    (ran : (append host bytes).run e = .ok () e') : Appended host allows e' := by
  induction bytes generalizing e with
  | nil =>
    cases ran
    exact reached
  | cons byte bytes ih =>
    obtain ⟨_, t, first, rest⟩ := bind_inv ran
    have allowed := all byte List.mem_cons_self e
    exact ih (fun next inside => all next (List.mem_cons_of_mem _ inside)) (reached.process allowed first) rest

theorem fed_appended {columns rows : Int} {bytes : List UInt8} (wide : 2 ≤ columns) (high : 2 ≤ rows)
    (all : ∀ byte ∈ bytes, ∀ e, allows e byte) (ran : fed columns rows bytes = .ok e) : Appended plainHost allows e := by
  obtain ⟨e₀, created, appended⟩ := started_inv ran
  exact (Appended.create wide high created).append all appended

end TerminalEmulator
