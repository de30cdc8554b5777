import TerminalAndroid.Emulator.Csi

open Java Utf16

namespace TerminalEmulator

def doEscPound (b : Nat) : EmulatorM Unit := do
  let e ← get
  if b = '8'.toNat then onScreen (TerminalBuffer.blockSet 0 0 e.mColumns e.mRows 'E'.toNat e.getStyle)
  else set e.unknownSequence

/-- RIS. -/
def resetToInitialState (host : Host) : EmulatorM Unit := do
  reset host
  onMain TerminalBuffer.clearTranscript
  let e ← get
  blockClear 0 0 e.mColumns e.mRows
  modify fun e => e.setCursorPosition 0 0

def doEsc (host : Host) (b : Nat) : EmulatorM Unit := do
  if b = '#'.toNat then modify fun e => e.continueSequence .pound
  else if b = '('.toNat then modify fun e => e.continueSequence .selectLeftParen
  else if b = ')'.toNat then modify fun e => e.continueSequence .selectRightParen
  else if b = '6'.toNat then backIndex
  else if b = '7'.toNat then modify saveCursor
  else if b = '8'.toNat then modify restoreCursor
  else if b = '9'.toNat then forwardIndex
  else if b = 'c'.toNat then resetToInitialState host
  else if b = 'D'.toNat then doLinefeed
  else if b = 'E'.toNat then nextLine
  else if b = 'F'.toNat then modify fun e => e.setCursorRowCol 0 (e.mBottomMargin - 1)
  else if b = 'H'.toNat then setTabStop true
  else if b = 'M'.toNat then reverseIndex
  else if b = 'N'.toNat ∨ b = '0'.toNat then pure ()
  else if b = 'P'.toNat then modify fun e => { e with mOSCOrDeviceControlArgs := [] }.continueSequence .p
  else if b = '['.toNat then modify fun e => e.continueSequence .csi
  else if b = '='.toNat then modify fun e => e.setDecsetinternalBit decsetBitApplicationKeypad true
  else if b = ']'.toNat then modify fun e => { e with mOSCOrDeviceControlArgs := [] }.continueSequence .osc
  else if b = '>'.toNat then modify fun e => e.setDecsetinternalBit decsetBitApplicationKeypad false
  else if b = '_'.toNat then modify fun e => e.continueSequence .apc
  else modify unknownSequence

def doEscapeState (host : Host) (b : Nat) : EmulatorM Unit := do
  match (← get).mEscapeState with
  | .none => if 32 ≤ b then emitCodePoint b
  | .esc => doEsc host b
  | .pound => doEscPound b
  | .selectLeftParen => modify fun e => { e with mUseLineDrawingG0 := decide (b = '0'.toNat) }
  | .selectRightParen => modify fun e => { e with mUseLineDrawingG1 := decide (b = '0'.toNat) }
  | .csi => doCsi b
  | .csiUnsupportedParameterByte | .csiUnsupportedIntermediateByte =>
    modify (doCsiUnsupportedParameterOrIntermediateByte b)
  | .csiExclamation => if b = 'p'.toNat then reset host else modify unknownSequence
  | .csiQuestionmark => doCsiQuestionMark host b
  | .csiBiggerthan => modify (doCsiBiggerThan b)
  | .csiDollar => doCsiDollar b
  | .csiDoubleQuote => modify (doCsiDoubleQuote b)
  | .csiSingleQuote =>
    if b = 125 then insertColumns else if b = '~'.toNat then deleteColumns else modify unknownSequence
  | .percent => pure ()
  | .osc => doOsc host b
  | .oscEsc => doOscEsc host b
  | .p => doDeviceControl host b
  | .csiQuestionmarkArgDollar => modify (doCsiQuestionMarkArgDollar b)
  | .csiArgsSpace => modify (doCsiArgsSpace b)
  | .csiArgsAsterix => modify (doCsiArgsAsterix b)
  | .apc | .apcEscape => modify unknownSequence

/-- BS. -/
def backspace : EmulatorM Unit := do
  let e ← get
  if e.mLeftMargin = e.mCursorCol then
    let previousRow := e.mCursorRow - 1
    if 0 ≤ previousRow then
      if ← onScreen (TerminalBuffer.getLineWrap previousRow) then
        onScreen (TerminalBuffer.clearLineWrap previousRow)
        modify fun e => e.setCursorRowCol previousRow (e.mRightMargin - 1)
  else set (e.setCursorCol (e.mCursorCol - 1))

def doCodePoint (host : Host) (b : Nat) : EmulatorM Unit := do
  if b = 0 then pure ()
  else if b = 7 then do
    let e ← get
    if e.mEscapeState = .osc then doOsc host b else set (e.raise .onBell)
  else if b = 8 then backspace
  else if b = 9 then do
    let col ← nextTabStop 1
    modify fun e => { e with mCursorCol := col }
  else if b = 10 ∨ b = 11 ∨ b = 12 then doLinefeed
  else if b = 13 then modify fun e => e.setCursorCol e.mLeftMargin
  else if b = 14 then modify fun e => { e with mUseLineDrawingUsesG0 := false }
  else if b = 15 then modify fun e => { e with mUseLineDrawingUsesG0 := true }
  else if b = 24 ∨ b = 26 then do
    let e ← get
    if e.mEscapeState ≠ .none then
      set e.finishSequence
      emitCodePoint 127
  else if b = 27 then do
    let e ← get
    if e.mEscapeState = .p then pure ()
    else if e.mEscapeState ≠ .osc then set e.startEscapeSequence
    else doOsc host b
  else
    modify fun e => { e with mContinueSequence := false }
    doEscapeState host b
    modify fun e => if e.mContinueSequence then e else { e with mEscapeState := .none }

def processCodePoint (host : Host) (b : Nat) : EmulatorM Unit := do
  let e ← get
  if e.mEscapeState = .apc then set (doApc b e)
  else if e.mEscapeState = .apcEscape then set (doApcEscape b e)
  else doCodePoint host b

def unassigned : Int := 0
def surrogate : Int := 19

def decodeBytes : List UInt8 → Nat
  | [] => 0
  | first :: rest =>
    let firstByteMask : Nat := if rest.length = 1 then 0b00011111 else if rest.length = 2 then 0b00001111 else 0b00000111
    rest.foldl (fun codePoint byte => codePoint <<< 6 ||| (byte.toNat &&& 0b00111111)) (first.toNat &&& firstByteMask)

/-- The code point of a complete sequence of `index` bytes, with overlong encodings replaced. -/
def sequenceCodePoint (bytes : List UInt8) (index : Int) : Nat :=
  let codePoint := decodeBytes (bytes.take index.toNat)
  if (codePoint ≤ 0b1111111 ∧ 1 < index) ∨ (codePoint < 0b11111111111 ∧ 2 < index) ∨
      (codePoint < 0b1111111111111111 ∧ 3 < index) then unicodeReplacementChar
  else codePoint

/-- The code point of a complete sequence is processed unless it is a C1 control character. -/
def finishUtf8 (host : Host) (codePoint : Nat) : EmulatorM Unit := do
  if 0x80 ≤ codePoint ∧ codePoint ≤ 0x9F then pure ()
  else if host.getType codePoint = unassigned ∨ host.getType codePoint = surrogate then
    processCodePoint host unicodeReplacementChar
  else processCodePoint host codePoint

def storeUtf8Byte (byteToProcess : UInt8) : EmulatorM Unit := do
  let e ← get
  let bytes ← writeArray e.mUtf8InputBuffer e.mUtf8Index byteToProcess
  set { e with mUtf8InputBuffer := bytes, mUtf8Index := e.mUtf8Index + 1 }

def startUtf8 (host : Host) (byteToProcess : UInt8) : EmulatorM Unit := do
  if byteToProcess &&& 0b10000000 = 0 then processCodePoint host byteToProcess.toNat
  else if byteToProcess &&& 0b11100000 = 0b11000000 then
    modify fun e => { e with mUtf8ToFollow := 1 }
    storeUtf8Byte byteToProcess
  else if byteToProcess &&& 0b11110000 = 0b11100000 then
    modify fun e => { e with mUtf8ToFollow := 2 }
    storeUtf8Byte byteToProcess
  else if byteToProcess &&& 0b11111000 = 0b11110000 then
    modify fun e => { e with mUtf8ToFollow := 3 }
    storeUtf8Byte byteToProcess
  else processCodePoint host unicodeReplacementChar

def continueUtf8 (host : Host) (byteToProcess : UInt8) : EmulatorM Unit := do
  storeUtf8Byte byteToProcess
  modify fun e => { e with mUtf8ToFollow := e.mUtf8ToFollow - 1 }
  let e ← get
  if e.mUtf8ToFollow = 0 then
    set { e with mUtf8Index := 0, mUtf8ToFollow := 0 }
    finishUtf8 host (sequenceCodePoint e.mUtf8InputBuffer e.mUtf8Index)

/-- A byte that ends a sequence too early: the method calls itself once, outside of a sequence. -/
def resynchronize (host : Host) (byteToProcess : UInt8) : EmulatorM Unit := do
  modify fun e => { e with mUtf8Index := 0, mUtf8ToFollow := 0 }
  emitCodePoint unicodeReplacementChar
  startUtf8 host byteToProcess

def processByte (host : Host) (byteToProcess : UInt8) : EmulatorM Unit := do
  let e ← get
  if 0 < e.mUtf8ToFollow then
    if byteToProcess &&& 0b11000000 = 0b10000000 then continueUtf8 host byteToProcess
    else resynchronize host byteToProcess
  else startUtf8 host byteToProcess

def append (host : Host) : List UInt8 → EmulatorM Unit
  | [] => pure ()
  | byte :: bytes => do
    processByte host byte
    append host bytes

def resizeColumns (columns : Int) : EmulatorM Unit := do
  let e ← get
  set { e with mColumns := columns, mTabStop := List.replicate columns.toNat false }
  setDefaultTabStops
  let stops ← arraycopy e.mTabStop 0 (← get).mTabStop 0 (min e.mColumns columns)
  modify fun e => { e with mTabStop := stops, mLeftMargin := 0, mRightMargin := columns }

def resize (columns rows cellWidthPixels cellHeightPixels : Int) : EmulatorM Unit := do
  modify fun e => { e with mCellWidthPixels := cellWidthPixels, mCellHeightPixels := cellHeightPixels }
  let e ← get
  if e.mRows = rows ∧ e.mColumns = columns then pure ()
  else if columns < 2 ∨ rows < 2 then
    throw (.illegalArgument ("rows=" ++ toString rows ++ ", columns=" ++ toString columns))
  else
    (if e.mRows ≠ rows then modify fun e => { e with mRows := rows, mTopMargin := 0, mBottomMargin := rows } else pure ())
    (if e.mColumns ≠ columns then resizeColumns columns else pure ())
    resizeScreen

def getTerminalTranscriptRows (transcriptRows : Option Int) : Int :=
  match transcriptRows with
  | none => defaultTerminalTranscriptRows
  | some rows =>
    if rows < terminalTranscriptRowsMin ∨ terminalTranscriptRowsMax < rows then defaultTerminalTranscriptRows else rows

def allocated (host : Host) (columns rows cellWidthPixels cellHeightPixels : Int) (mainBuffer altBuffer : TerminalBuffer) :
    TerminalEmulator where
  mTitle := none
  mTitleStack := []
  mCursorRow := 0
  mCursorCol := 0
  mRows := rows
  mColumns := columns
  mCellWidthPixels := cellWidthPixels
  mCellHeightPixels := cellHeightPixels
  mCursorStyle := terminalCursorStyleBlock
  mMainBuffer := mainBuffer
  mAltBuffer := altBuffer
  mScreen := .main
  mArgIndex := 0
  mArgs := Vector.replicate 32 0
  mArgsSubParamsBitSet := 0
  mOSCOrDeviceControlArgs := []
  mContinueSequence := false
  mEscapeState := .none
  mSavedStateMain := {}
  mSavedStateAlt := {}
  mUseLineDrawingG0 := false
  mUseLineDrawingG1 := false
  mUseLineDrawingUsesG0 := true
  mCurrentDecSetFlags := 0
  mSavedDecSetFlags := 0
  mInsertMode := false
  mTabStop := List.replicate columns.toNat false
  mTopMargin := 0
  mBottomMargin := 0
  mLeftMargin := 0
  mRightMargin := 0
  mAboutToAutoWrap := false
  mForeColor := 0
  mBackColor := 0
  mUnderlineColor := 0
  mEffect := 0
  mScrollCounter := 0
  mUtf8ToFollow := 0
  mUtf8Index := 0
  mUtf8InputBuffer := List.replicate 4 0
  mLastEmittedCodePoint := -1
  mColors := host.defaultColors
  events := []

def create (host : Host) (columns rows cellWidthPixels cellHeightPixels : Int) (transcriptRows : Option Int) :
    Except Throwable TerminalEmulator := do
  let mainBuffer ← TerminalBuffer.create columns (getTerminalTranscriptRows transcriptRows) rows
  let altBuffer ← TerminalBuffer.create columns rows rows
  if columns < 0 then .error .negativeArraySize
  else
    match (reset host).run (allocated host columns rows cellWidthPixels cellHeightPixels mainBuffer altBuffer) with
    | .ok _ e => .ok e
    | .error thrown _ => .error thrown

end TerminalEmulator
