import TerminalAndroid.Exec.Zoom
import TerminalAndroid.Terminal.TerminalBuffer

open Java Utf16

/-- What the emulator asks of its surroundings: the tables of the Java and Android libraries, the colours of the
    theme, and the cursor style that the client answers (`none` without a client). -/
structure Host where
  getType : Nat → Int
  digit : Nat → Nat → Option Nat
  digit_separator : ∀ radix, digit ';'.toNat radix = none
  base64Decode : List Nat → Option (List UInt8)
  defaultColors : Vector (BitVec 32) TextStyle.numIndexedColors
  getTerminalCursorStyle : Option (Option Int)

/-- The `ESC_*` constants. -/
inductive EscapeState
  | none
  | esc
  | pound
  | selectLeftParen
  | selectRightParen
  | csi
  | csiQuestionmark
  | csiDollar
  | percent
  | osc
  | oscEsc
  | csiBiggerthan
  | p
  | csiQuestionmarkArgDollar
  | csiArgsSpace
  | csiArgsAsterix
  | csiDoubleQuote
  | csiSingleQuote
  | csiExclamation
  | apc
  | apcEscape
  | csiUnsupportedParameterByte
  | csiUnsupportedIntermediateByte
  deriving DecidableEq, Repr

structure SavedScreenState where
  mSavedCursorRow : Int := 0
  mSavedCursorCol : Int := 0
  mSavedEffect : BitVec 32 := 0
  mSavedForeColor : BitVec 32 := 0
  mSavedBackColor : BitVec 32 := 0
  mSavedDecFlags : BitVec 32 := 0
  mUseLineDrawingG0 : Bool := false
  mUseLineDrawingG1 : Bool := false
  mUseLineDrawingUsesG0 : Bool := true
  deriving DecidableEq, Repr

inductive Screen
  | main
  | alt
  deriving DecidableEq, Repr

/-- The calls on `mSession` and `mClient`, in the order they were made. A text is a list of Java chars; `write` sends
    it encoded in UTF-8. -/
inductive Event
  | write (data : List Nat)
  | titleChanged (oldTitle newTitle : Option (List Nat))
  | onCopyTextToClipboard (utf8 : List UInt8)
  | onBell
  | onColorsChanged
  | onTerminalCursorStateChange (state : Bool)
  deriving DecidableEq, Repr

/-- The part of the state that decides where something is shown, and what the decoder and the parser have read of a
    sequence so far. -/
structure TerminalCore where
  mCursorRow : Int
  mCursorCol : Int
  mRows : Int
  mColumns : Int
  mMainBuffer : TerminalBuffer
  mAltBuffer : TerminalBuffer
  mScreen : Screen
  mArgIndex : Int
  mArgs : Vector Int 32
  mSavedStateMain : SavedScreenState
  mSavedStateAlt : SavedScreenState
  mCurrentDecSetFlags : BitVec 32
  mTabStop : List Bool
  mTopMargin : Int
  mBottomMargin : Int
  mLeftMargin : Int
  mRightMargin : Int
  mAboutToAutoWrap : Bool
  mUtf8ToFollow : Int
  mUtf8Index : Int
  mUtf8InputBuffer : List UInt8

namespace TerminalCore

variable (c : TerminalCore)

def screen : TerminalBuffer :=
  match c.mScreen with
  | .main => c.mMainBuffer
  | .alt => c.mAltBuffer

def withScreen (buffer : TerminalBuffer) : TerminalCore :=
  match c.mScreen with
  | .main => { c with mMainBuffer := buffer }
  | .alt => { c with mAltBuffer := buffer }

def savedState : SavedScreenState :=
  match c.mScreen with
  | .main => c.mSavedStateMain
  | .alt => c.mSavedStateAlt

def withSavedState (state : SavedScreenState) : TerminalCore :=
  match c.mScreen with
  | .main => { c with mSavedStateMain := state }
  | .alt => { c with mSavedStateAlt := state }

end TerminalCore

structure TerminalEmulator extends TerminalCore where
  mTitle : Option (List Nat)
  mTitleStack : List (Option (List Nat))
  mCellWidthPixels : Int
  mCellHeightPixels : Int
  mCursorStyle : Int
  mArgsSubParamsBitSet : BitVec 32
  mOSCOrDeviceControlArgs : List Nat
  mContinueSequence : Bool
  mEscapeState : EscapeState
  mUseLineDrawingG0 : Bool
  mUseLineDrawingG1 : Bool
  mUseLineDrawingUsesG0 : Bool
  mSavedDecSetFlags : BitVec 32
  mInsertMode : Bool
  mForeColor : BitVec 32
  mBackColor : BitVec 32
  mUnderlineColor : BitVec 32
  mEffect : BitVec 32
  mScrollCounter : Int
  mLastEmittedCodePoint : Int
  mColors : Vector (BitVec 32) TextStyle.numIndexedColors
  events : List Event

abbrev EmulatorM := EStateM Throwable TerminalEmulator

namespace TerminalEmulator

def unicodeReplacementChar : Nat := 0xFFFD
def maxEscapeParameters : Nat := 32
def maxOscStringLength : Nat := 8192

def decsetBitApplicationCursorKeys : BitVec 32 := 1
def decsetBitReverseVideo : BitVec 32 := 1 <<< 1
def decsetBitOriginMode : BitVec 32 := 1 <<< 2
def decsetBitAutowrap : BitVec 32 := 1 <<< 3
def decsetBitCursorEnabled : BitVec 32 := 1 <<< 4
def decsetBitApplicationKeypad : BitVec 32 := 1 <<< 5
def decsetBitMouseTrackingPressRelease : BitVec 32 := 1 <<< 6
def decsetBitMouseTrackingButtonEvent : BitVec 32 := 1 <<< 7
def decsetBitSendFocusEvents : BitVec 32 := 1 <<< 8
def decsetBitMouseProtocolSgr : BitVec 32 := 1 <<< 9
def decsetBitBracketedPasteMode : BitVec 32 := 1 <<< 10
def decsetBitLeftrightMarginMode : BitVec 32 := 1 <<< 11
def decsetBitRectangularChangeattribute : BitVec 32 := 1 <<< 12

def terminalCursorStyleBlock : Int := 0
def terminalCursorStyleUnderline : Int := 1
def terminalCursorStyleBar : Int := 2

def terminalTranscriptRowsMin : Int := 100
def terminalTranscriptRowsMax : Int := 50000
def defaultTerminalTranscriptRows : Int := 2000

/-- `-1` in the source is `none`. -/
def mapDecSetBitToInternalBit (decsetBit : Int) : Option (BitVec 32) :=
  if decsetBit = 1 then some decsetBitApplicationCursorKeys
  else if decsetBit = 5 then some decsetBitReverseVideo
  else if decsetBit = 6 then some decsetBitOriginMode
  else if decsetBit = 7 then some decsetBitAutowrap
  else if decsetBit = 25 then some decsetBitCursorEnabled
  else if decsetBit = 66 then some decsetBitApplicationKeypad
  else if decsetBit = 69 then some decsetBitLeftrightMarginMode
  else if decsetBit = 1000 then some decsetBitMouseTrackingPressRelease
  else if decsetBit = 1002 then some decsetBitMouseTrackingButtonEvent
  else if decsetBit = 1004 then some decsetBitSendFocusEvents
  else if decsetBit = 1006 then some decsetBitMouseProtocolSgr
  else if decsetBit = 2004 then some decsetBitBracketedPasteMode
  else none

def chars (text : String) : List Nat := text.toList.map Char.toNat

/-- `String.format("%0<width>x", value)`. -/
def hexChars (width value : Nat) : List Nat :=
  let digits := Nat.toDigits 16 value
  (List.replicate (width - digits.length) '0' ++ digits).map Char.toNat

/-- What `setDecsetinternalBit` makes of the flags: the mouse modes are mutually exclusive. -/
def decsetFlags (flags internalBit : BitVec 32) (set : Bool) : BitVec 32 :=
  if set then
    (if internalBit = decsetBitMouseTrackingPressRelease then flags &&& ~~~decsetBitMouseTrackingButtonEvent
    else if internalBit = decsetBitMouseTrackingButtonEvent then flags &&& ~~~decsetBitMouseTrackingPressRelease
    else flags) ||| internalBit
  else flags &&& ~~~internalBit

section Pure

variable (e : TerminalEmulator)

def isDecsetInternalBitSet (bit : BitVec 32) : Bool := e.mCurrentDecSetFlags &&& bit != 0

def setDecsetinternalBit (internalBit : BitVec 32) (set : Bool) : TerminalEmulator :=
  { e with mCurrentDecSetFlags := decsetFlags e.mCurrentDecSetFlags internalBit set }

def getStyle : Style := TextStyle.encode e.mForeColor e.mBackColor e.mEffect

def setCursorRow (row : Int) : TerminalEmulator := { e with mCursorRow := row, mAboutToAutoWrap := false }

def setCursorCol (col : Int) : TerminalEmulator := { e with mCursorCol := col, mAboutToAutoWrap := false }

def setCursorRowCol (row col : Int) : TerminalEmulator :=
  { e with
    mCursorRow := max 0 (min row (e.mRows - 1))
    mCursorCol := max 0 (min col (e.mColumns - 1))
    mAboutToAutoWrap := false }

def effectiveTopMargin : Int := if e.isDecsetInternalBitSet decsetBitOriginMode then e.mTopMargin else 0

def effectiveBottomMargin : Int := if e.isDecsetInternalBitSet decsetBitOriginMode then e.mBottomMargin else e.mRows

def effectiveLeftMargin : Int := if e.isDecsetInternalBitSet decsetBitOriginMode then e.mLeftMargin else 0

def effectiveRightMargin : Int := if e.isDecsetInternalBitSet decsetBitOriginMode then e.mRightMargin else e.mColumns

def setCursorPosition (x y : Int) : TerminalEmulator :=
  e.setCursorRowCol
    (max e.effectiveTopMargin (min (e.effectiveTopMargin + y) (e.effectiveBottomMargin - 1)))
    (max e.effectiveLeftMargin (min (e.effectiveLeftMargin + x) (e.effectiveRightMargin - 1)))

def setCursorColRespectingOriginMode (col : Int) : TerminalEmulator := e.setCursorPosition col e.mCursorRow

instance neZeroArgs : NeZero 32 := ⟨by decide⟩

def getArg (index : Fin 32) (defaultValue : Int) (treatZeroAsDefault : Bool) : Int :=
  let result := e.mArgs.get index
  if result < 0 ∨ (result = 0 ∧ treatZeroAsDefault) then defaultValue else result

def getArg0 (defaultValue : Int) : Int := e.getArg 0 defaultValue true

def getArg1 (defaultValue : Int) : Int := e.getArg 1 defaultValue true

def continueSequence (state : EscapeState) : TerminalEmulator :=
  { e with mEscapeState := state, mContinueSequence := true }

def finishSequence : TerminalEmulator := { e with mEscapeState := .none }

/-- The next two log only when `LOG_ESCAPE_SEQUENCES` is set, which it is not. -/
def unknownSequence : TerminalEmulator := e.finishSequence

def unknownParameter : TerminalEmulator := e.finishSequence

def startEscapeSequence : TerminalEmulator :=
  { e with
    mEscapeState := .esc
    mArgIndex := 0
    mArgs := Vector.replicate 32 (-1)
    mArgsSubParamsBitSet := 0 }

def saveCursor : TerminalEmulator :=
  let state : SavedScreenState :=
    { mSavedCursorRow := e.mCursorRow
      mSavedCursorCol := e.mCursorCol
      mSavedEffect := e.mEffect
      mSavedForeColor := e.mForeColor
      mSavedBackColor := e.mBackColor
      mSavedDecFlags := e.mCurrentDecSetFlags
      mUseLineDrawingG0 := e.mUseLineDrawingG0
      mUseLineDrawingG1 := e.mUseLineDrawingG1
      mUseLineDrawingUsesG0 := e.mUseLineDrawingUsesG0 }
  { e with toTerminalCore := e.withSavedState state }

def restoreCursor : TerminalEmulator :=
  let state := e.savedState
  let mask := decsetBitAutowrap ||| decsetBitOriginMode
  { e.setCursorRowCol state.mSavedCursorRow state.mSavedCursorCol with
    mEffect := state.mSavedEffect
    mForeColor := state.mSavedForeColor
    mBackColor := state.mSavedBackColor
    mCurrentDecSetFlags := e.mCurrentDecSetFlags &&& ~~~mask ||| state.mSavedDecFlags &&& mask
    mUseLineDrawingG0 := state.mUseLineDrawingG0
    mUseLineDrawingG1 := state.mUseLineDrawingG1
    mUseLineDrawingUsesG0 := state.mUseLineDrawingUsesG0 }

def raise (event : Event) : TerminalEmulator := { e with events := e.events ++ [event] }

def write (data : List Nat) : TerminalEmulator := e.raise (.write data)

def setTitle (newTitle : Option (List Nat)) : TerminalEmulator :=
  if e.mTitle = newTitle then { e with mTitle := newTitle }
  else { e with mTitle := newTitle }.raise (.titleChanged e.mTitle newTitle)

def setCursorStyle (host : Host) : TerminalEmulator :=
  let answer := host.getTerminalCursorStyle.join
  { e with mCursorStyle :=
      match answer with
      | some style =>
        if style ∈ [terminalCursorStyleBlock, terminalCursorStyleUnderline, terminalCursorStyleBar] then style
        else terminalCursorStyleBlock
      | none => terminalCursorStyleBlock }

end Pure

def onScreen {α : Type} (method : BufferM α) : EmulatorM α :=
  Exec.zoom (fun e => e.screen) (fun buffer e => { e with toTerminalCore := e.withScreen buffer }) method

def onMain {α : Type} (method : BufferM α) : EmulatorM α :=
  Exec.zoom (fun e => e.mMainBuffer) (fun buffer e => { e with mMainBuffer := buffer }) method

def blockClear (sx sy w h : Int) : EmulatorM Unit := do
  let e ← get
  onScreen (TerminalBuffer.blockSet sx sy w h TerminalRow.space e.getStyle)

def scrollDownOneLine : EmulatorM Unit := do
  modify fun e => { e with mScrollCounter := e.mScrollCounter + 1 }
  let e ← get
  if e.mLeftMargin ≠ 0 ∨ e.mRightMargin ≠ e.mColumns then
    onScreen (TerminalBuffer.blockCopy e.mLeftMargin (e.mTopMargin + 1) (e.mRightMargin - e.mLeftMargin)
      (e.mBottomMargin - e.mTopMargin - 1) e.mLeftMargin e.mTopMargin)
    onScreen (TerminalBuffer.blockSet e.mLeftMargin (e.mBottomMargin - 1) (e.mRightMargin - e.mLeftMargin) 1
      TerminalRow.space e.getStyle)
  else onScreen (TerminalBuffer.scrollDownOneLine e.mTopMargin e.mBottomMargin e.getStyle)

def doLinefeed : EmulatorM Unit := do
  let e ← get
  if e.mBottomMargin ≤ e.mCursorRow then
    -- below the scrolling region: move down, but do not scroll
    if e.mCursorRow ≠ e.mRows - 1 then set (e.setCursorRow (e.mCursorRow + 1))
  else if e.mCursorRow + 1 = e.mBottomMargin then
    scrollDownOneLine
    modify fun e => e.setCursorRow (e.mBottomMargin - 1)
  else set (e.setCursorRow (e.mCursorRow + 1))

def lineDrawing (codePoint : Nat) : Nat :=
  if codePoint = '_'.toNat then ' '.toNat
  else if codePoint = 96 then '◆'.toNat
  else if codePoint = '0'.toNat then '█'.toNat
  else if codePoint = 'a'.toNat then '▒'.toNat
  else if codePoint = 'b'.toNat then '␉'.toNat
  else if codePoint = 'c'.toNat then '␌'.toNat
  else if codePoint = 'd'.toNat then 13
  else if codePoint = 'e'.toNat then '␊'.toNat
  else if codePoint = 'f'.toNat then '°'.toNat
  else if codePoint = 'g'.toNat then '±'.toNat
  else if codePoint = 'h'.toNat then 10
  else if codePoint = 'i'.toNat then '␋'.toNat
  else if codePoint = 'j'.toNat then '┘'.toNat
  else if codePoint = 'k'.toNat then '┐'.toNat
  else if codePoint = 'l'.toNat then '┌'.toNat
  else if codePoint = 'm'.toNat then '└'.toNat
  else if codePoint = 'n'.toNat then '┼'.toNat
  else if codePoint = 'o'.toNat then '⎺'.toNat
  else if codePoint = 'p'.toNat then '⎻'.toNat
  else if codePoint = 'q'.toNat then '─'.toNat
  else if codePoint = 'r'.toNat then '⎼'.toNat
  else if codePoint = 's'.toNat then '⎽'.toNat
  else if codePoint = 't'.toNat then '├'.toNat
  else if codePoint = 'u'.toNat then '┤'.toNat
  else if codePoint = 'v'.toNat then '┴'.toNat
  else if codePoint = 'w'.toNat then '┬'.toNat
  else if codePoint = 'x'.toNat then '│'.toNat
  else if codePoint = 'y'.toNat then '≤'.toNat
  else if codePoint = 'z'.toNat then '≥'.toNat
  else if codePoint = 123 then 'π'.toNat
  else if codePoint = '|'.toNat then '≠'.toNat
  else if codePoint = 125 then '£'.toNat
  else if codePoint = '~'.toNat then '·'.toNat
  else codePoint

def shownCodePoint (e : TerminalEmulator) (codePoint : Nat) : Nat :=
  if (if e.mUseLineDrawingUsesG0 then e.mUseLineDrawingG0 else e.mUseLineDrawingG1) then lineDrawing codePoint
  else codePoint

def wrapLine : EmulatorM Unit := do
  let e ← get
  onScreen (TerminalBuffer.setLineWrap e.mCursorRow)
  modify fun e => { e with mCursorCol := e.mLeftMargin }
  if e.mCursorRow + 1 < e.mBottomMargin then modify fun e => { e with mCursorRow := e.mCursorRow + 1 }
  else scrollDownOneLine

def placeCodePoint (autoWrap : Bool) (codePoint : Nat) : EmulatorM Unit := do
  let displayWidth : Int := WcWidth.width codePoint
  let e ← get
  let destCol := e.mCursorCol + displayWidth
  (if e.mInsertMode ∧ 0 < displayWidth ∧ destCol < e.mRightMargin then
    onScreen (TerminalBuffer.blockCopy e.mCursorCol e.mCursorRow (e.mRightMargin - destCol) 1 destCol e.mCursorRow)
  else pure ())
  let offsetDueToCombiningChar := if displayWidth ≤ 0 ∧ 0 < e.mCursorCol ∧ ¬ e.mAboutToAutoWrap then 1 else 0
  let column := e.mCursorCol - offsetDueToCombiningChar
  onScreen (TerminalBuffer.setChar (if column < 0 then 0 else column) e.mCursorRow codePoint e.getStyle)
  modify fun e => { e with
    mAboutToAutoWrap :=
      if autoWrap ∧ 0 < displayWidth then decide (e.mCursorCol = e.mRightMargin - displayWidth) else e.mAboutToAutoWrap
    mCursorCol := min (e.mCursorCol + displayWidth) (e.mRightMargin - 1) }

def emitCodePoint (codePoint : Nat) : EmulatorM Unit := do
  modify fun e => { e with mLastEmittedCodePoint := codePoint }
  let e ← get
  let codePoint := e.shownCodePoint codePoint
  let autoWrap := e.isDecsetInternalBitSet decsetBitAutowrap
  let displayWidth := WcWidth.width codePoint
  let cursorInLastColumn := e.mCursorCol = e.mRightMargin - 1
  if autoWrap then
    (if cursorInLastColumn ∧ ((e.mAboutToAutoWrap ∧ displayWidth = 1) ∨ displayWidth = 2) then wrapLine else pure ())
    placeCodePoint autoWrap codePoint
  else if cursorInLastColumn ∧ displayWidth = 2 then pure ()
  else placeCodePoint autoWrap codePoint

def resizeScreen : EmulatorM Unit := do
  let e ← get
  let newTotalRows := if e.mScreen = .alt then e.mRows else e.mMainBuffer.mTotalRows
  let cursor ← onScreen (TerminalBuffer.resize e.mColumns e.mRows newTotalRows (e.mCursorCol, e.mCursorRow) e.getStyle
    (decide (e.mScreen = .alt)))
  modify fun e => { e with mCursorCol := cursor.1, mCursorRow := cursor.2 }

/-- The stop for column `i`, `(i & 7) == 0 && i != 0`. -/
def defaultTabStop (i : Nat) : Bool := decide (i % 8 = 0 ∧ i ≠ 0)

/-- The loop writes `mTabStop[i]` for every column. -/
def setDefaultTabStops : EmulatorM Unit := do
  let e ← get
  if e.mTabStop.length < e.mColumns.toNat then throw .indexOutOfBounds
  else set { e with mTabStop := (List.range e.mColumns.toNat).map defaultTabStop ++ e.mTabStop.drop e.mColumns.toNat }

/-- The assignments of `reset()` after the tab stops. -/
def resetState (host : Host) (e : TerminalEmulator) : TerminalEmulator :=
  let flags := decsetFlags (decsetFlags 0 decsetBitAutowrap true) decsetBitCursorEnabled true
  let saved (state : SavedScreenState) : SavedScreenState :=
    { state with
      mSavedCursorRow := 0
      mSavedCursorCol := 0
      mSavedEffect := 0
      mSavedForeColor := TextStyle.colorIndexForeground
      mSavedBackColor := TextStyle.colorIndexBackground
      mSavedDecFlags := flags }
  { e with
    mUseLineDrawingG0 := false
    mUseLineDrawingG1 := false
    mUseLineDrawingUsesG0 := true
    mSavedStateMain := saved e.mSavedStateMain
    mSavedStateAlt := saved e.mSavedStateAlt
    mCurrentDecSetFlags := flags
    mSavedDecSetFlags := flags
    mUtf8Index := 0
    mUtf8ToFollow := 0
    mColors := host.defaultColors }.raise .onColorsChanged

def reset (host : Host) : EmulatorM Unit := do
  modify fun e => { e.setCursorStyle host with
    mArgIndex := 0
    mContinueSequence := false
    mEscapeState := .none
    mInsertMode := false
    mTopMargin := 0
    mLeftMargin := 0
    mBottomMargin := e.mRows
    mRightMargin := e.mColumns
    mAboutToAutoWrap := false
    mForeColor := TextStyle.colorIndexForeground
    mBackColor := TextStyle.colorIndexBackground }
  setDefaultTabStops
  modify (resetState host)

end TerminalEmulator
