import TerminalAndroid.Emulator.Decoder
import TerminalAndroid.Terminal.Row.Shape

open Java Exec

namespace TerminalEmulator

/-- The states that a run of `append` and `resize` reaches without an exception, as long as each byte is processed in a
    state that allows it. -/
inductive Reaches (host : Host) (allows : TerminalEmulator → UInt8 → Prop) : TerminalEmulator → Prop
  | create {columns rows cellWidthPixels cellHeightPixels : Int} {transcriptRows : Option Int} {e : TerminalEmulator}
      (wide : 2 ≤ columns) (high : 2 ≤ rows)
      (created : create host columns rows cellWidthPixels cellHeightPixels transcriptRows = .ok e) : Reaches host allows e
  | process {e e' : TerminalEmulator} {byteToProcess : UInt8} (reached : Reaches host allows e)
      (allowed : allows e byteToProcess) (ran : (processByte host byteToProcess).run e = .ok () e') : Reaches host allows e'
  | resize {e e' : TerminalEmulator} {columns rows cellWidthPixels cellHeightPixels : Int} (reached : Reaches host allows e)
      (wide : 2 ≤ columns) (high : 2 ≤ rows)
      (ran : (resize columns rows cellWidthPixels cellHeightPixels).run e = .ok () e') : Reaches host allows e'

variable {host : Host} {allows : TerminalEmulator → UInt8 → Prop} {e e' : TerminalEmulator}

theorem Reaches.append {bytes : List UInt8} (all : ∀ byte ∈ bytes, ∀ e, allows e byte) (reached : Reaches host allows e)
    (ran : (append host bytes).run e = .ok () e') : Reaches host allows e' := by
  induction bytes generalizing e with
  | nil =>
    cases ran
    exact reached
  | cons byte bytes ih =>
    obtain ⟨_, t, first, rest⟩ := bind_inv ran
    have allowed := all byte List.mem_cons_self e
    exact ih (fun next inside => all next (List.mem_cons_of_mem _ inside)) (reached.process allowed first) rest

variable {columns rows cellWidthPixels cellHeightPixels : Int} {transcriptRows : Option Int}

theorem create_inv
    (created : create host columns rows cellWidthPixels cellHeightPixels transcriptRows = .ok e) :
    ∃ mainBuffer altBuffer,
      TerminalBuffer.create columns (getTerminalTranscriptRows transcriptRows) rows = .ok mainBuffer ∧
      TerminalBuffer.create columns rows rows = .ok altBuffer ∧
      (reset host).run (allocated host columns rows cellWidthPixels cellHeightPixels mainBuffer altBuffer) = .ok () e := by
  unfold create at created
  cases main : TerminalBuffer.create columns (getTerminalTranscriptRows transcriptRows) rows with
  | error thrown =>
    rw [main] at created
    cases created
  | ok mainBuffer =>
    cases alt : TerminalBuffer.create columns rows rows with
    | error thrown =>
      rw [main, alt] at created
      cases created
    | ok altBuffer =>
      refine ⟨mainBuffer, altBuffer, rfl, rfl, ?_⟩
      rw [main, alt] at created
      change (if columns < 0 then _ else _) = _ at created
      split at created
      · cases created
      · split at created
        next e' ran =>
          cases created
          exact ran
        · cases created

theorem create_core
    (created : create host columns rows cellWidthPixels cellHeightPixels transcriptRows = .ok e) :
    ∃ mainBuffer altBuffer stops savedMain savedAlt,
      TerminalBuffer.create columns (getTerminalTranscriptRows transcriptRows) rows = .ok mainBuffer ∧
      TerminalBuffer.create columns rows rows = .ok altBuffer ∧ stops.length = columns.toNat ∧
      e.toTerminalCore =
        { mCursorRow := 0
          mCursorCol := 0
          mRows := rows
          mColumns := columns
          mMainBuffer := mainBuffer
          mAltBuffer := altBuffer
          mScreen := .main
          mArgIndex := 0
          mArgs := Vector.replicate 32 0
          mSavedStateMain := savedMain
          mSavedStateAlt := savedAlt
          mCurrentDecSetFlags := decsetBitAutowrap ||| decsetBitCursorEnabled
          mTabStop := stops
          mTopMargin := 0
          mBottomMargin := rows
          mLeftMargin := 0
          mRightMargin := columns
          mAboutToAutoWrap := false
          mUtf8ToFollow := 0
          mUtf8Index := 0
          mUtf8InputBuffer := List.replicate 4 0 } := by
  obtain ⟨mainBuffer, altBuffer, main, alt, ran⟩ := create_inv created
  obtain ⟨_, s, modified, rest⟩ := bind_inv ran
  cases modified
  obtain ⟨_, t, defaults, rest⟩ := bind_inv rest
  obtain ⟨stops, length, rfl⟩ := setDefaultTabStops_inv defaults
  cases rest
  exact ⟨mainBuffer, altBuffer, stops, _, _, main, alt, length.trans (List.length_replicate ..), rfl⟩

theorem resizeColumns_inv (ran : (resizeColumns columns).run e = .ok () e') :
    ∃ stops : List Bool, stops.length = columns.toNat ∧
      e' = { e with mColumns := columns, mTabStop := stops, mLeftMargin := 0, mRightMargin := columns } := by
  obtain ⟨_, _, got, rest⟩ := bind_inv ran
  cases got
  obtain ⟨_, s, widened, rest⟩ := bind_inv rest
  cases widened
  obtain ⟨_, t, defaults, rest⟩ := bind_inv rest
  obtain ⟨stops, length, rfl⟩ := setDefaultTabStops_inv defaults
  obtain ⟨_, _, got, rest⟩ := bind_inv rest
  cases got
  obtain ⟨copy, t, copied, rest⟩ := bind_inv rest
  cases rest
  rcases arraycopy_cases e.mTabStop 0 stops 0 (min e.mColumns columns)
    { e with mColumns := columns, mTabStop := stops } with thrown | ⟨result, ran, same⟩
  · exact absurd (thrown.symm.trans copied) nofun
  · obtain ⟨rfl, rfl⟩ := EStateM.Result.ok.inj (ran.symm.trans copied)
    exact ⟨result, same.trans (length.trans (List.length_replicate ..)), rfl⟩

structure Widened (columns rows : Int) (e s : TerminalEmulator) : Prop where
  core : ∃ stops : List Bool, (e.mColumns = columns ∧ stops = e.mTabStop ∨ stops.length = columns.toNat) ∧
    s.toTerminalCore = { e.toTerminalCore with
      mRows := rows
      mTopMargin := if e.mRows = rows then e.mTopMargin else 0
      mBottomMargin := if e.mRows = rows then e.mBottomMargin else rows
      mColumns := columns
      mTabStop := stops
      mLeftMargin := if e.mColumns = columns then e.mLeftMargin else 0
      mRightMargin := if e.mColumns = columns then e.mRightMargin else columns }

theorem resize_inv
    (ran : (resize columns rows cellWidthPixels cellHeightPixels).run e = .ok () e') :
    Quiet e e' ∨ (2 ≤ columns ∧ 2 ≤ rows ∧ ∃ s, Widened columns rows e s ∧ FitsScreen s e') := by
  obtain ⟨_, s, measured, rest⟩ := bind_inv ran
  cases measured
  obtain ⟨_, _, got, rest⟩ := bind_inv rest
  cases got
  split at rest
  · cases rest
    exact Or.inl rfl
  · split at rest
    · cases rest
    next large =>
      obtain ⟨_, s, heightened, rest⟩ := bind_inv rest
      obtain ⟨_, t, widened, fits⟩ := bind_inv rest
      refine Or.inr ⟨by omega, by omega, t, ?_, resizeScreen_inv fits⟩
      have tall : s = { e with
          mCellWidthPixels := cellWidthPixels
          mCellHeightPixels := cellHeightPixels
          mRows := rows
          mTopMargin := if e.mRows = rows then e.mTopMargin else 0
          mBottomMargin := if e.mRows = rows then e.mBottomMargin else rows } := by
        split at heightened
        next other =>
          cases heightened
          simp only [if_neg other]
        next same =>
          cases heightened
          have same : e.mRows = rows := not_not.mp same
          subst same
          simp only [if_pos]
      subst tall
      split at widened
      next other =>
        obtain ⟨stops, length, rfl⟩ := resizeColumns_inv widened
        exact ⟨stops, Or.inr length, by simp only [if_neg other]⟩
      next same =>
        cases widened
        have same : e.mColumns = columns := not_not.mp same
        subst same
        exact ⟨e.mTabStop, Or.inl ⟨rfl, rfl⟩, by simp only [if_pos]⟩

theorem create_decoder
    (created : create host columns rows cellWidthPixels cellHeightPixels transcriptRows = .ok e) : e.decoder.Valid := by
  obtain ⟨mainBuffer, altBuffer, stops, savedMain, savedAlt, -, -, -, core⟩ := create_core created
  rw [core]
  exact ⟨List.length_replicate .., Or.inl ⟨rfl, rfl⟩⟩

theorem Reaches.decoder_valid (reached : Reaches host allows e) : e.decoder.Valid := by
  induction reached with
  | create wide high created => exact create_decoder created
  | process _ _ ran ih => exact processByte_decoder ih ran
  | resize _ wide high ran ih =>
    rcases resize_inv ran with quiet | ⟨-, -, s, ⟨stops, -, core⟩, fits⟩
    · exact (congrArg TerminalCore.decoder quiet).symm ▸ ih
    · rw [fits.decoder, core]
      exact ih

def plainHost : Host where
  getType := fun _ => 1
  digit := fun char radix =>
    if '0'.toNat ≤ char ∧ char < '0'.toNat + min radix 10 then some (char - '0'.toNat) else none
  digit_separator := fun radix => if_neg fun inside => by
    have : 59 < 48 + min radix 10 := inside.2
    omega
  base64Decode := fun _ => none
  defaultColors := Vector.replicate TextStyle.numIndexedColors 0
  getTerminalCursorStyle := none

def started (columns rows : Int) (command : EmulatorM Unit) : Except Throwable TerminalEmulator :=
  match create plainHost columns rows 1 1 (some 100) with
  | .error thrown => .error thrown
  | .ok e =>
    match command.run e with
    | .ok _ e => .ok e
    | .error thrown _ => .error thrown

theorem started_inv {command : EmulatorM Unit} (ran : started columns rows command = .ok e) :
    ∃ e₀, create plainHost columns rows 1 1 (some 100) = .ok e₀ ∧ command.run e₀ = .ok () e := by
  unfold started at ran
  split at ran
  · cases ran
  next e₀ created =>
    split at ran
    next e' returned =>
      cases ran
      exact ⟨e₀, created, returned⟩
    · cases ran

def fed (columns rows : Int) (bytes : List UInt8) : Except Throwable TerminalEmulator :=
  started columns rows (append plainHost bytes)

theorem fed_reaches {bytes : List UInt8} (wide : 2 ≤ columns) (high : 2 ≤ rows)
    (all : ∀ byte ∈ bytes, ∀ e, allows e byte) (ran : fed columns rows bytes = .ok e) : Reaches plainHost allows e := by
  obtain ⟨e₀, created, appended⟩ := started_inv ran
  exact (Reaches.create wide high created).append all appended

def check (test : TerminalEmulator → Bool) : EmulatorM Unit := do
  if test (← get) then pure () else throw .nullPointer

theorem check_bind_inv {test : TerminalEmulator → Bool} {α : Type} {f : Unit → EmulatorM α} {a : α}
    (ran : (check test >>= f).run e = .ok a e') : test e = true ∧ (f ()).run e = .ok a e' := by
  obtain ⟨_, t, checked, rest⟩ := bind_inv ran
  change (if test e then pure () else throw .nullPointer : EmulatorM Unit).run e = .ok () t at checked
  split at checked
  next passed =>
    cases checked
    exact ⟨passed, rest⟩
  · cases checked

end TerminalEmulator
