import TerminalAndroid.Exec.Returns
import TerminalAndroid.Emulator.Process

open Java Exec

namespace TerminalCore

inductive Label
  | emit
  | backspace
  | tab
  | holdTab
  | back
  | jump
  | origin
  | margins
  | save
  | restore
  | widen
  | argument
  | transcript
  | reset
  | toAlt
  | toMain
  deriving DecidableEq

inductive Drawing : {α : Type} → BufferM α → Prop
  | setChar (column row : Int) (codePoint : Nat) (style : Style) :
      Drawing (TerminalBuffer.setChar column row codePoint style)
  | blockSet (sx sy w h : Int) (codePoint : Nat) (style : Style) :
      Drawing (TerminalBuffer.blockSet sx sy w h codePoint style)
  | blockCopy (sx sy w h dx dy : Int) : Drawing (TerminalBuffer.blockCopy sx sy w h dx dy)
  | scrollDownOneLine (top bottom : Int) (style : Style) : Drawing (TerminalBuffer.scrollDownOneLine top bottom style)
  | setLineWrap (row : Int) : Drawing (TerminalBuffer.setLineWrap row)
  | getLineWrap (row : Int) : Drawing (TerminalBuffer.getLineWrap row)
  | clearLineWrap (row : Int) : Drawing (TerminalBuffer.clearLineWrap row)
  | getStyleAt (row column : Int) : Drawing (TerminalBuffer.getStyleAt row column)
  | setOrClearEffect (bits : BitVec 32) (setOrClear reverse rectangular : Bool)
      (leftMargin rightMargin top left bottom right : Int) :
      Drawing (TerminalBuffer.setOrClearEffect bits setOrClear reverse rectangular leftMargin rightMargin top left
        bottom right)

section

variable (c : TerminalCore)

def Origin : Prop := c.mCurrentDecSetFlags &&& TerminalEmulator.decsetBitOriginMode ≠ 0

instance : Decidable c.Origin := inferInstanceAs (Decidable (_ ≠ _))

def Within (row col : Int) : Prop :=
  (c.mTopMargin ≤ row ∧ row < c.mBottomMargin) ∧ c.mLeftMargin ≤ col ∧ col < c.mRightMargin

def Leaves (row col : Int) : Prop := c.Origin ∧ ¬ c.Within row col

/-- A place that `setCursorPosition` can choose: while DECOM is set it counts from the margins and stays inside. -/
def Position (row col : Int) : Prop :=
  ∃ x y top bottom left right, (c.Origin →
      top = c.mTopMargin ∧ bottom = c.mBottomMargin ∧ left = c.mLeftMargin ∧ right = c.mRightMargin) ∧
    row = max 0 (min (max top (min (top + y) (bottom - 1))) (c.mRows - 1)) ∧
    col = max 0 (min (max left (min (left + x) (right - 1))) (c.mColumns - 1))

end

/-- Where the cursor can go, and what becomes of the pending wrap. -/
inductive Moves (permits : Label → Prop) (c : TerminalCore) : Int → Int → Bool → Prop
  | position {row col : Int} (place : c.Position row col) : Moves permits c row col false
  | rowCol (row col : Int)
      (permitted : c.Leaves (max 0 (min row (c.mRows - 1))) (max 0 (min col (c.mColumns - 1))) → permits .jump) :
      Moves permits c (max 0 (min row (c.mRows - 1))) (max 0 (min col (c.mColumns - 1))) false
  | stay : Moves permits c c.mCursorRow c.mCursorCol false
  | up (n : Int) (positive : 1 ≤ n) (permitted : c.Leaves (max 0 (c.mCursorRow - n)) c.mCursorCol → permits .jump) :
      Moves permits c (max 0 (c.mCursorRow - n)) c.mCursorCol false
  | down (n : Int) (positive : 1 ≤ n)
      (permitted : c.Leaves (min (c.mRows - 1) (c.mCursorRow + n)) c.mCursorCol → permits .jump) :
      Moves permits c (min (c.mRows - 1) (c.mCursorRow + n)) c.mCursorCol false
  | toRow (n : Int) (permitted : c.Leaves (min (max 1 n) c.mRows - 1) c.mCursorCol → permits .jump) :
      Moves permits c (min (max 1 n) c.mRows - 1) c.mCursorCol false
  | linefeed (above : c.mCursorRow + 1 < c.mBottomMargin ∨ (c.mBottomMargin ≤ c.mCursorRow ∧ c.mCursorRow ≠ c.mRows - 1)) :
      Moves permits c (c.mCursorRow + 1) c.mCursorCol false
  | lastLine : Moves permits c (c.mBottomMargin - 1) c.mCursorCol false
  | previousRow (below : c.mTopMargin < c.mCursorRow) :
      Moves permits c (c.mCursorRow - 1) c.mCursorCol c.mAboutToAutoWrap
  | nextRow (above : c.mCursorRow + 1 < c.mBottomMargin) :
      Moves permits c (c.mCursorRow + 1) c.mCursorCol c.mAboutToAutoWrap
  | carriageReturn : Moves permits c c.mCursorRow c.mLeftMargin false
  | toStart (off : ¬ c.Origin) : Moves permits c c.mCursorRow 0 false
  | forward (n : Int) (positive : 1 ≤ n) :
      Moves permits c c.mCursorRow (min (c.mRightMargin - 1) (c.mCursorCol + n)) false
  | backward (n : Int) (positive : 1 ≤ n) : Moves permits c c.mCursorRow (max c.mLeftMargin (c.mCursorCol - n)) false
  | toColumn (n : Int) (permitted : c.Leaves c.mCursorRow (min (max 1 n) c.mColumns - 1) → permits .jump) :
      Moves permits c c.mCursorRow (min (max 1 n) c.mColumns - 1) false
  | tab (col : Int) (about : Bool) (stop : col = c.mRightMargin - 1 ∨ (c.mCursorCol < col ∧ col < c.mRightMargin) ∨
        (col = c.mRightMargin ∧ c.mRightMargin < c.mColumns ∧ permits .tab))
      (kept : about = false ∨ (about = c.mAboutToAutoWrap ∧ permits .holdTab)) : Moves permits c c.mCursorRow col about
  | backTab (col : Int) (stop : col = c.mLeftMargin ∨ ∃ i, 0 ≤ i ∧ i < c.mCursorCol ∧ col = max i c.mLeftMargin)
      (permitted : c.mAboutToAutoWrap = true → c.mLeftMargin + 1 < c.mRightMargin → permits .back) :
      Moves permits c c.mCursorRow col c.mAboutToAutoWrap
  | left (inside : c.mLeftMargin < c.mCursorCol) (permitted : c.mAboutToAutoWrap = true → permits .back) :
      Moves permits c c.mCursorRow (c.mCursorCol - 1) c.mAboutToAutoWrap
  | right (inside : c.mCursorCol < c.mRightMargin - 1) :
      Moves permits c c.mCursorRow (c.mCursorCol + 1) c.mAboutToAutoWrap
  | wrap (permitted : permits .emit) : Moves permits c c.mCursorRow c.mLeftMargin false
  | advance (width : Nat) (small : width ≤ 2) (about : Bool)
      (kept : about = c.mAboutToAutoWrap ∨ (0 < width ∧ about = decide (c.mCursorCol = c.mRightMargin - width)))
      (permitted : permits .emit) :
      Moves permits c c.mCursorRow (min (c.mCursorCol + width) (c.mRightMargin - 1)) about

def moved (c : TerminalCore) (row col : Int) (about : Bool) : TerminalCore :=
  { c with mCursorRow := row, mCursorCol := col, mAboutToAutoWrap := about }

section

variable (c : TerminalCore) (buffer : TerminalBuffer)

@[simp] theorem withScreen_mCursorRow : (c.withScreen buffer).mCursorRow = c.mCursorRow := by
  unfold withScreen
  cases c.mScreen <;> rfl

@[simp] theorem withScreen_mTopMargin : (c.withScreen buffer).mTopMargin = c.mTopMargin := by
  unfold withScreen
  cases c.mScreen <;> rfl

@[simp] theorem withScreen_mBottomMargin : (c.withScreen buffer).mBottomMargin = c.mBottomMargin := by
  unfold withScreen
  cases c.mScreen <;> rfl

@[simp] theorem withScreen_mLeftMargin : (c.withScreen buffer).mLeftMargin = c.mLeftMargin := by
  unfold withScreen
  cases c.mScreen <;> rfl

@[simp] theorem withScreen_mRightMargin : (c.withScreen buffer).mRightMargin = c.mRightMargin := by
  unfold withScreen
  cases c.mScreen <;> rfl

@[simp] theorem withScreen_mRows : (c.withScreen buffer).mRows = c.mRows := by
  unfold withScreen
  cases c.mScreen <;> rfl

@[simp] theorem withScreen_mColumns : (c.withScreen buffer).mColumns = c.mColumns := by
  unfold withScreen
  cases c.mScreen <;> rfl

@[simp]
theorem withScreen_leaves (buffer : TerminalBuffer) (row col : Int) :
    (c.withScreen buffer).Leaves row col ↔ c.Leaves row col := by
  unfold withScreen
  cases c.mScreen <;> rfl

@[simp] theorem withScreen_mArgs : (c.withScreen buffer).mArgs = c.mArgs := by
  unfold withScreen
  cases c.mScreen <;> rfl

end

def SingleMouseBit (bit : BitVec 32) : Prop :=
  bit = TerminalEmulator.decsetBitMouseTrackingPressRelease ∨ bit = TerminalEmulator.decsetBitMouseTrackingButtonEvent ∨
    (bit &&& TerminalEmulator.decsetBitMouseTrackingPressRelease = 0 ∧
      bit &&& TerminalEmulator.decsetBitMouseTrackingButtonEvent = 0)

instance : DecidablePred SingleMouseBit := fun _ => inferInstanceAs (Decidable (_ ∨ _))

inductive Effect (permits : Label → Prop) : TerminalCore → TerminalCore → Prop
  | draws {c : TerminalCore} {α : Type} {method : BufferM α} {a : α} {buffer : TerminalBuffer} (drawing : Drawing method)
      (ran : method.run c.screen = .ok a buffer) : Effect permits c (c.withScreen buffer)
  | moves {c : TerminalCore} {row col : Int} {about : Bool} (move : Moves permits c row col about) :
      Effect permits c (c.moved row col about)
  | backspaces {c : TerminalCore} (permitted : permits .backspace) (off : c.mLeftMargin ≠ c.mCursorCol) :
      Effect permits c (c.moved c.mCursorRow (c.mCursorCol - 1) false)
  | clearsTranscript {c : TerminalCore} {buffer : TerminalBuffer} (permitted : permits .transcript)
      (ran : TerminalBuffer.clearTranscript.run c.mMainBuffer = .ok () buffer) :
      Effect permits c { c with mMainBuffer := buffer }
  | flags {c : TerminalCore} (bit : BitVec 32) (setting : Bool) (single : SingleMouseBit bit)
      (other : bit &&& TerminalEmulator.decsetBitOriginMode = 0 ∨ setting = false) :
      Effect permits c { c with mCurrentDecSetFlags := TerminalEmulator.decsetFlags c.mCurrentDecSetFlags bit setting }
  | setsOrigin {c c₁ : TerminalCore} {row col : Int} (permitted : permits .origin)
      (set : c₁ = { c with mCurrentDecSetFlags :=
        TerminalEmulator.decsetFlags c.mCurrentDecSetFlags TerminalEmulator.decsetBitOriginMode true })
      (place : c₁.Position row col) : Effect permits c (c₁.moved row col false)
  | saves {c : TerminalCore} {state : SavedScreenState} (permitted : permits .save) (row : state.mSavedCursorRow = c.mCursorRow)
      (col : state.mSavedCursorCol = c.mCursorCol) (flags : state.mSavedDecFlags = c.mCurrentDecSetFlags) :
      Effect permits c (c.withSavedState state)
  | restores {c : TerminalCore} (permitted : permits .restore) :
      Effect permits c { c.moved (max 0 (min c.savedState.mSavedCursorRow (c.mRows - 1)))
          (max 0 (min c.savedState.mSavedCursorCol (c.mColumns - 1))) false with
        mCurrentDecSetFlags :=
          c.mCurrentDecSetFlags &&& ~~~(TerminalEmulator.decsetBitAutowrap ||| TerminalEmulator.decsetBitOriginMode) |||
            c.savedState.mSavedDecFlags &&&
              (TerminalEmulator.decsetBitAutowrap ||| TerminalEmulator.decsetBitOriginMode) }
  | rowMargins {c c₁ : TerminalCore} (permitted : permits .margins) (n m : Int) {row col : Int}
      (set : c₁ = { c with
        mTopMargin := max 0 (min n (c.mRows - 2))
        mBottomMargin := max (max 0 (min n (c.mRows - 2)) + 2) (min m c.mRows) })
      (place : c₁.Position row col) : Effect permits c (c₁.moved row col false)
  | columnMargins {c c₁ : TerminalCore} (permitted : permits .margins) (n m : Int) (nonneg : 0 ≤ n) {row col : Int}
      (set : c₁ = { c with
        mLeftMargin := min n (c.mColumns - 2)
        mRightMargin := max (min n (c.mColumns - 2) + 1) (min m c.mColumns) })
      (place : c₁.Position row col) : Effect permits c (c₁.moved row col false)
  | resetsColumnMargins {c : TerminalCore} (permitted : permits .widen) :
      Effect permits c { c with mLeftMargin := 0, mRightMargin := c.mColumns }
  | resetsMargins {c : TerminalCore} :
      Effect permits c { c with
        mLeftMargin := 0
        mTopMargin := 0
        mBottomMargin := c.mRows
        mRightMargin := c.mColumns
        mAboutToAutoWrap := false }
  | tabStops {c : TerminalCore} {stops : List Bool} (length : stops.length = c.mTabStop.length) :
      Effect permits c { c with mTabStop := stops }
  | startsArgs {c : TerminalCore} (permitted : permits .argument) :
      Effect permits c { c with mArgIndex := 0, mArgs := Vector.replicate 32 (-1) }
  | resetsArgIndex {c : TerminalCore} : Effect permits c { c with mArgIndex := 0 }
  | digit {c : TerminalCore} {value : Int} {index : Nat} (permitted : permits .argument) (inside : index < 32)
      (lower : 0 ≤ value) (upper : value ≤ 9999) :
      Effect permits c { c with mArgs := c.mArgs.set index value inside }
  | nextArg {c : TerminalCore} (room : c.mArgIndex + 1 < 32) : Effect permits c { c with mArgIndex := c.mArgIndex + 1 }
  | clampsArgIndex {c : TerminalCore} (beyond : 32 ≤ c.mArgIndex) : Effect permits c { c with mArgIndex := 31 }
  | idles {c : TerminalCore} : Effect permits c { c with mUtf8ToFollow := 0, mUtf8Index := 0 }
  | resetsSaved {c : TerminalCore} {main alt : SavedScreenState} {flags : BitVec 32} (permitted : permits .reset)
      (flags_eq : flags = TerminalEmulator.decsetBitAutowrap ||| TerminalEmulator.decsetBitCursorEnabled)
      (atOrigin : main.mSavedCursorRow = 0 ∧ main.mSavedCursorCol = 0 ∧ alt.mSavedCursorRow = 0 ∧
        alt.mSavedCursorCol = 0) (saved : main.mSavedDecFlags = flags ∧ alt.mSavedDecFlags = flags) :
      Effect permits c { c with mSavedStateMain := main, mSavedStateAlt := alt, mCurrentDecSetFlags := flags }
  | switches {e e' : TerminalEmulator} (setting : Bool) (permitted : permits (if setting then .toAlt else .toMain))
      (ran : (TerminalEmulator.switchScreen setting).run e = .ok () e') :
      Effect permits e.toTerminalCore e'.toTerminalCore

end TerminalCore

namespace TerminalEmulator

open TerminalCore

def Steps (permits : Label → Prop) (e e' : TerminalEmulator) : Prop :=
  Relation.ReflTransGen (Effect permits) e.toTerminalCore e'.toTerminalCore

instance (permits : Label → Prop) : Std.Refl (Steps permits) := ⟨fun _ => .refl⟩

instance (permits : Label → Prop) : IsTrans TerminalEmulator (Steps permits) := ⟨fun _ _ _ first second => first.trans second⟩

def Quiet (e e' : TerminalEmulator) : Prop := e'.toTerminalCore = e.toTerminalCore

instance : Std.Refl Quiet := ⟨fun _ => rfl⟩

instance : IsTrans TerminalEmulator Quiet := ⟨fun _ _ _ first second => Eq.trans second first⟩

variable {permits : Label → Prop} {e e' : TerminalEmulator}

theorem Steps.trans {e'' : TerminalEmulator} (first : Steps permits e e') (second : Steps permits e' e'') :
    Steps permits e e'' := Relation.ReflTransGen.trans first second

theorem Steps.of_quiet (quiet : Quiet e e') : Steps permits e e' := by
  unfold Steps
  rw [show e'.toTerminalCore = e.toTerminalCore from quiet]

theorem Steps.one {c : TerminalCore} (effect : Effect permits e.toTerminalCore c) (same : e'.toTerminalCore = c) :
    Steps permits e e' := by
  subst same
  exact .single effect

theorem Steps.move {row col : Int} {about : Bool} (move : Moves permits e.toTerminalCore row col about)
    (same : e'.toTerminalCore = e.moved row col about) : Steps permits e e' := .one (.moves move) same

theorem Steps.keeps {I : TerminalCore → Prop} (step : ∀ c c', Effect permits c c' → I c → I c') (steps : Steps permits e e')
    (holds : I e.toTerminalCore) : I e'.toTerminalCore := by
  unfold Steps at steps
  generalize e.toTerminalCore = c at steps holds
  generalize e'.toTerminalCore = c' at steps
  induction steps with
  | refl => exact holds
  | tail _ effect ih => exact step _ _ effect ih

theorem onScreen_steps {α : Type} {method : BufferM α} (drawing : Drawing method) :
    Returns (Steps permits) (onScreen method) := by
  intro e a e' ran
  obtain ⟨buffer, inner, rfl⟩ := zoom_inv ran
  exact .one (.draws drawing inner) rfl

end TerminalEmulator
