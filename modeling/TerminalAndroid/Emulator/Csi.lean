import TerminalAndroid.Emulator.Strings

open Java Utf16

namespace TerminalEmulator

def nextTabStopLoop (e : TerminalEmulator) : Nat → Int → Int → EmulatorM Int
  | 0, _, _ => pure (e.mRightMargin - 1)
  | count + 1, i, numTabs => do
    if ← readArray e.mTabStop i then
      if numTabs - 1 = 0 then pure (min i e.mRightMargin) else nextTabStopLoop e count (i + 1) (numTabs - 1)
    else nextTabStopLoop e count (i + 1) numTabs

def nextTabStop (numTabs : Int) : EmulatorM Int := do
  let e ← get
  nextTabStopLoop e (e.mColumns - (e.mCursorCol + 1)).toNat (e.mCursorCol + 1) numTabs

def previousTabStopLoop (e : TerminalEmulator) : Nat → Int → EmulatorM Int
  | 0, _ => pure e.mLeftMargin
  | i + 1, numberOfTabs => do
    if ← readArray e.mTabStop i then
      if numberOfTabs - 1 = 0 then pure (max i e.mLeftMargin) else previousTabStopLoop e i (numberOfTabs - 1)
    else previousTabStopLoop e i numberOfTabs

def setTabStop (stop : Bool) : EmulatorM Unit := do
  let e ← get
  let stops ← writeArray e.mTabStop e.mCursorCol stop
  set { e with mTabStop := stops }

def clearTabStops : EmulatorM Unit := do
  let e ← get
  if e.mTabStop.length < e.mColumns.toNat then throw .indexOutOfBounds
  else set { e with mTabStop := List.replicate e.mColumns.toNat false ++ e.mTabStop.drop e.mColumns.toNat }

def parseArg (b : Nat) (e : TerminalEmulator) : TerminalEmulator :=
  if '0'.toNat ≤ b ∧ b ≤ '9'.toNat then
    let e :=
      if h : 0 ≤ e.mArgIndex ∧ e.mArgIndex.toNat < 32 then
        let oldValue := e.mArgs.get ⟨e.mArgIndex.toNat, h.2⟩
        let thisDigit : Int := (b - '0'.toNat : Nat)
        let value := if 0 ≤ oldValue then oldValue * 10 + thisDigit else thisDigit
        { e with mArgs := e.mArgs.set e.mArgIndex.toNat (if 9999 < value then 9999 else value) h.2 }
      else e
    e.continueSequence e.mEscapeState
  else if b = ';'.toNat ∨ b = ':'.toNat then
    let e :=
      if e.mArgIndex + 1 < maxEscapeParameters then
        { e with
          mArgIndex := e.mArgIndex + 1
          mArgsSubParamsBitSet :=
            if b = ':'.toNat then e.mArgsSubParamsBitSet ||| (1 : BitVec 32) <<< ((e.mArgIndex + 1) % 32).toNat
            else e.mArgsSubParamsBitSet }
      else e
    e.continueSequence e.mEscapeState
  else e.unknownSequence

def clampArgIndex (e : TerminalEmulator) : TerminalEmulator :=
  if (maxEscapeParameters : Int) ≤ e.mArgIndex then { e with mArgIndex := maxEscapeParameters - 1 } else e

def argAt (index : Int) : EmulatorM Int := do readArray (← get).mArgs.toList index

def argOr (index defaultValue : Int) (treatZeroAsDefault : Bool) : EmulatorM Int := do
  let result ← argAt index
  pure (if result < 0 ∨ (result = 0 ∧ treatZeroAsDefault) then defaultValue else result)

section Editing

/-- ICH. -/
def insertCharacters : EmulatorM Unit := do
  modify fun e => { e with mAboutToAutoWrap := false }
  let e ← get
  let columnsAfterCursor := e.mColumns - e.mCursorCol
  let spacesToInsert := min (e.getArg0 1) columnsAfterCursor
  let charsToMove := columnsAfterCursor - spacesToInsert
  onScreen (TerminalBuffer.blockCopy e.mCursorCol e.mCursorRow charsToMove 1 (e.mCursorCol + spacesToInsert) e.mCursorRow)
  blockClear e.mCursorCol e.mCursorRow spacesToInsert 1

/-- DCH. -/
def deleteCharacters : EmulatorM Unit := do
  modify fun e => { e with mAboutToAutoWrap := false }
  let e ← get
  let cellsAfterCursor := e.mColumns - e.mCursorCol
  let cellsToDelete := min (e.getArg0 1) cellsAfterCursor
  let cellsToMove := cellsAfterCursor - cellsToDelete
  onScreen (TerminalBuffer.blockCopy (e.mCursorCol + cellsToDelete) e.mCursorRow cellsToMove 1 e.mCursorCol e.mCursorRow)
  blockClear (e.mCursorCol + cellsToMove) e.mCursorRow cellsToDelete 1

/-- IL. -/
def insertLines : EmulatorM Unit := do
  let e ← get
  let linesAfterCursor := e.mBottomMargin - e.mCursorRow
  let linesToInsert := min (e.getArg0 1) linesAfterCursor
  let linesToMove := linesAfterCursor - linesToInsert
  onScreen (TerminalBuffer.blockCopy 0 e.mCursorRow e.mColumns linesToMove 0 (e.mCursorRow + linesToInsert))
  blockClear 0 e.mCursorRow e.mColumns linesToInsert

/-- DL. -/
def deleteLines : EmulatorM Unit := do
  modify fun e => { e with mAboutToAutoWrap := false }
  let e ← get
  let linesAfterCursor := e.mBottomMargin - e.mCursorRow
  let linesToDelete := min (e.getArg0 1) linesAfterCursor
  let linesToMove := linesAfterCursor - linesToDelete
  onScreen (TerminalBuffer.blockCopy 0 (e.mCursorRow + linesToDelete) e.mColumns linesToMove 0 e.mCursorRow)
  blockClear 0 (e.mCursorRow + linesToMove) e.mColumns linesToDelete

/-- `for (int i = 0; i < count; i++) scrollDownOneLine()`, for SU. -/
def scrollUp : Nat → EmulatorM Unit
  | 0 => pure ()
  | count + 1 => do
    scrollDownOneLine
    scrollUp count

/-- SD. -/
def scrollDown : EmulatorM Unit := do
  let e ← get
  let linesBetweenTopAndBottomMargins := e.mBottomMargin - e.mTopMargin
  let linesToScroll := min linesBetweenTopAndBottomMargins (e.getArg0 1)
  onScreen (TerminalBuffer.blockCopy e.mLeftMargin e.mTopMargin (e.mRightMargin - e.mLeftMargin)
    (linesBetweenTopAndBottomMargins - linesToScroll) e.mLeftMargin (e.mTopMargin + linesToScroll))
  blockClear e.mLeftMargin e.mTopMargin (e.mRightMargin - e.mLeftMargin) linesToScroll

/-- ECH. -/
def eraseCharacters : EmulatorM Unit := do
  modify fun e => { e with mAboutToAutoWrap := false }
  let e ← get
  onScreen (TerminalBuffer.blockSet e.mCursorCol e.mCursorRow (min (e.getArg0 1) (e.mColumns - e.mCursorCol)) 1
    TerminalRow.space e.getStyle)

/-- ED. -/
def eraseInDisplay : EmulatorM Unit := do
  let e ← get
  let arg := e.getArg0 0
  if arg = 0 then
    blockClear e.mCursorCol e.mCursorRow (e.mColumns - e.mCursorCol) 1
    blockClear 0 (e.mCursorRow + 1) e.mColumns (e.mRows - (e.mCursorRow + 1))
    modify fun e => { e with mAboutToAutoWrap := false }
  else if arg = 1 then
    blockClear 0 0 e.mColumns e.mCursorRow
    blockClear 0 e.mCursorRow (e.mCursorCol + 1) 1
    modify fun e => { e with mAboutToAutoWrap := false }
  else if arg = 2 then
    blockClear 0 0 e.mColumns e.mRows
    modify fun e => { e with mAboutToAutoWrap := false }
  else if arg = 3 then
    onMain TerminalBuffer.clearTranscript
    modify fun e => { e with mAboutToAutoWrap := false }
  else set e.unknownSequence

/-- EL. -/
def eraseInLine : EmulatorM Unit := do
  let e ← get
  let arg := e.getArg0 0
  if arg = 0 then
    blockClear e.mCursorCol e.mCursorRow (e.mColumns - e.mCursorCol) 1
    modify fun e => { e with mAboutToAutoWrap := false }
  else if arg = 1 then
    blockClear 0 e.mCursorRow (e.mCursorCol + 1) 1
    modify fun e => { e with mAboutToAutoWrap := false }
  else if arg = 2 then
    blockClear 0 e.mCursorRow e.mColumns 1
    modify fun e => { e with mAboutToAutoWrap := false }
  else set e.unknownSequence

/-- DECIC. -/
def insertColumns : EmulatorM Unit := do
  let e ← get
  let columnsAfterCursor := e.mRightMargin - e.mCursorCol
  let columnsToInsert := min (e.getArg0 1) columnsAfterCursor
  let columnsToMove := columnsAfterCursor - columnsToInsert
  onScreen (TerminalBuffer.blockCopy e.mCursorCol 0 columnsToMove e.mRows (e.mCursorCol + columnsToInsert) 0)
  blockClear e.mCursorCol 0 columnsToInsert e.mRows

/-- DECDC. -/
def deleteColumns : EmulatorM Unit := do
  let e ← get
  let columnsAfterCursor := e.mRightMargin - e.mCursorCol
  let columnsToDelete := min (e.getArg0 1) columnsAfterCursor
  let columnsToMove := columnsAfterCursor - columnsToDelete
  onScreen (TerminalBuffer.blockCopy (e.mCursorCol + columnsToDelete) 0 columnsToMove e.mRows e.mCursorCol 0)

/-- DECBI. -/
def backIndex : EmulatorM Unit := do
  let e ← get
  if e.mLeftMargin < e.mCursorCol then set { e with mCursorCol := e.mCursorCol - 1 }
  else
    let rows := e.mBottomMargin - e.mTopMargin
    onScreen (TerminalBuffer.blockCopy e.mLeftMargin e.mTopMargin (e.mRightMargin - e.mLeftMargin - 1) rows
      (e.mLeftMargin + 1) e.mTopMargin)
    onScreen (TerminalBuffer.blockSet e.mLeftMargin e.mTopMargin 1 rows TerminalRow.space
      (TextStyle.encode e.mForeColor e.mBackColor 0))

/-- DECFI. -/
def forwardIndex : EmulatorM Unit := do
  let e ← get
  if e.mCursorCol < e.mRightMargin - 1 then set { e with mCursorCol := e.mCursorCol + 1 }
  else
    let rows := e.mBottomMargin - e.mTopMargin
    onScreen (TerminalBuffer.blockCopy (e.mLeftMargin + 1) e.mTopMargin (e.mRightMargin - e.mLeftMargin - 1) rows
      e.mLeftMargin e.mTopMargin)
    onScreen (TerminalBuffer.blockSet (e.mRightMargin - 1) e.mTopMargin 1 rows TerminalRow.space
      (TextStyle.encode e.mForeColor e.mBackColor 0))

/-- RI. -/
def reverseIndex : EmulatorM Unit := do
  let e ← get
  if e.mCursorRow ≤ e.mTopMargin then
    onScreen (TerminalBuffer.blockCopy e.mLeftMargin e.mTopMargin (e.mRightMargin - e.mLeftMargin)
      (e.mBottomMargin - (e.mTopMargin + 1)) e.mLeftMargin (e.mTopMargin + 1))
    blockClear e.mLeftMargin e.mTopMargin (e.mRightMargin - e.mLeftMargin) 1
  else set { e with mCursorRow := e.mCursorRow - 1 }

/-- NEL. -/
def nextLine : EmulatorM Unit := do
  modify fun e => e.setCursorCol (if e.isDecsetInternalBitSet decsetBitOriginMode then e.mLeftMargin else 0)
  doLinefeed

/-- DECCRA. -/
def copyRectangularArea : EmulatorM Unit := do
  let e ← get
  let topSource := min (e.getArg 0 1 true - 1 + e.effectiveTopMargin) e.mRows
  let leftSource := min (e.getArg 1 1 true - 1 + e.effectiveLeftMargin) e.mColumns
  let bottomSource := min (max (e.getArg 2 e.mRows true + e.effectiveTopMargin) topSource) e.mRows
  let rightSource := min (max (e.getArg 3 e.mColumns true + e.effectiveLeftMargin) leftSource) e.mColumns
  let destionationTop := min (e.getArg 5 1 true - 1 + e.effectiveTopMargin) e.mRows
  let destinationLeft := min (e.getArg 6 1 true - 1 + e.effectiveLeftMargin) e.mColumns
  let heightToCopy := min (e.mRows - destionationTop) (bottomSource - topSource)
  let widthToCopy := min (e.mColumns - destinationLeft) (rightSource - leftSource)
  onScreen (TerminalBuffer.blockCopy leftSource topSource widthToCopy heightToCopy destinationLeft destionationTop)

/-- The cells of a row from `col` on, of which `count` are left. A cell that is protected against selective erasure is
    kept when `selective` is set, and an erasure may keep the style of the cell. -/
def fillRow (selective keepVisualAttributes : Bool) (fillChar : Nat) (style : Style) (row : Int) :
    Nat → Int → EmulatorM Unit
  | 0, _ => pure ()
  | count + 1, col => do
    let kept ← (if selective then do
        let current ← onScreen (TerminalBuffer.getStyleAt row col)
        pure (TextStyle.decodeEffect current &&& TextStyle.characterAttributeProtected != 0)
      else pure false)
    (if kept then pure ()
    else do
      let style ← (if keepVisualAttributes then onScreen (TerminalBuffer.getStyleAt row col) else pure style)
      onScreen (TerminalBuffer.setChar col row fillChar style))
    fillRow selective keepVisualAttributes fillChar style row count (col + 1)

def fillRows (selective keepVisualAttributes : Bool) (fillChar : Nat) (style : Style) (left right : Int) :
    Nat → Int → EmulatorM Unit
  | 0, _ => pure ()
  | count + 1, row => do
    fillRow selective keepVisualAttributes fillChar style row (right - left).toNat left
    fillRows selective keepVisualAttributes fillChar style left right count (row + 1)

/-- DECFRA, DECERA and DECSERA, from the argument with the number `argIndex` on. -/
def fillRectangularArea (selective keepVisualAttributes : Bool) (fillChar : Int) (argIndex : Fin 2) : EmulatorM Unit := do
  let e ← get
  if (32 ≤ fillChar ∧ fillChar ≤ 126) ∨ (160 ≤ fillChar ∧ fillChar ≤ 255) then
    let arg (i : Fin 4) (defaultValue : Int) : Int := e.getArg ⟨argIndex.val + i.val, by omega⟩ defaultValue true
    let top := min (arg 0 1 + e.effectiveTopMargin) (e.effectiveBottomMargin + 1)
    let left := min (arg 1 1 + e.effectiveLeftMargin) (e.effectiveRightMargin + 1)
    let bottom := min (arg 2 e.mRows + e.effectiveTopMargin) e.effectiveBottomMargin
    let right := min (arg 3 e.mColumns + e.effectiveLeftMargin) e.effectiveRightMargin
    fillRows selective keepVisualAttributes fillChar.toNat e.getStyle (left - 1) right (bottom - (top - 1)).toNat (top - 1)

def attributeBits (reverse : Bool) (arg : Int) : BitVec 32 × Bool :=
  if arg = 0 then
    (TextStyle.characterAttributeBold ||| TextStyle.characterAttributeUnderline ||| TextStyle.characterAttributeBlink |||
      TextStyle.characterAttributeInverse, reverse)
  else if arg = 1 then (TextStyle.characterAttributeBold, true)
  else if arg = 4 then (TextStyle.characterAttributeUnderline, true)
  else if arg = 5 then (TextStyle.characterAttributeBlink, true)
  else if arg = 7 then (TextStyle.characterAttributeInverse, true)
  else if arg = 22 then (TextStyle.characterAttributeBold, false)
  else if arg = 24 then (TextStyle.characterAttributeUnderline, false)
  else if arg = 25 then (TextStyle.characterAttributeBlink, false)
  else if arg = 27 then (TextStyle.characterAttributeInverse, false)
  else (0, true)

def changeAttributesLoop (reverse : Bool) (top left bottom right : Int) : Nat → Int → EmulatorM Unit
  | 0, _ => pure ()
  | count + 1, i => do
    let (bits, setOrClear) := attributeBits reverse (← argOr i 0 false)
    let e ← get
    (if reverse ∧ ¬ setOrClear then pure ()
    else
      onScreen (TerminalBuffer.setOrClearEffect bits setOrClear reverse
        (e.isDecsetInternalBitSet decsetBitRectangularChangeattribute) e.effectiveLeftMargin e.effectiveRightMargin
        top left bottom right))
    changeAttributesLoop reverse top left bottom right count (i + 1)

/-- DECCARA and DECRARA. -/
def changeAttributes (reverse : Bool) : EmulatorM Unit := do
  let e ← get
  let top := min (e.getArg 0 1 true - 1) e.effectiveBottomMargin + e.effectiveTopMargin
  let left := min (e.getArg 1 1 true - 1) e.effectiveRightMargin + e.effectiveLeftMargin
  let bottom := min (e.getArg 2 e.mRows true + 1) (e.effectiveBottomMargin - 1) + e.effectiveTopMargin
  let right := min (e.getArg 3 e.mColumns true + 1) (e.effectiveRightMargin - 1) + e.effectiveLeftMargin
  if 4 ≤ e.mArgIndex then
    modify clampArgIndex
    let e ← get
    changeAttributesLoop reverse top left bottom right (e.mArgIndex - 3).toNat 4

/-- DECSED and DECSEL. -/
def selectiveErase (justRow : Bool) : EmulatorM Unit := do
  modify fun e => { e with mAboutToAutoWrap := false }
  let e ← get
  let arg := e.getArg0 0
  let lastRow := if justRow then e.mCursorRow + 1 else e.mRows
  let firstRow := if justRow then e.mCursorRow else 0
  if arg = 0 then
    fillRows true false TerminalRow.space e.getStyle e.mCursorCol e.mColumns (lastRow - e.mCursorRow).toNat e.mCursorRow
  else if arg = 1 then
    fillRows true false TerminalRow.space e.getStyle 0 (e.mCursorCol + 1) (e.mCursorRow + 1 - firstRow).toNat firstRow
  else if arg = 2 then
    fillRows true false TerminalRow.space e.getStyle 0 e.mColumns (lastRow - firstRow).toNat firstRow
  else set e.unknownSequence

end Editing

section Modes

/-- Back on the main buffer; the position is not clipped to the screen when the buffer is about to be resized. -/
def restoreMainCursor (resized : Bool) (e : TerminalEmulator) : TerminalEmulator :=
  let col := e.mSavedStateMain.mSavedCursorCol
  let row := e.mSavedStateMain.mSavedCursorRow
  if resized then { e.restoreCursor with mCursorCol := col, mCursorRow := row } else e.restoreCursor

/-- The switch between the buffers, DECSET 47, 1047 and 1049. -/
def switchScreen (setting : Bool) : EmulatorM Unit := do
  let e ← get
  let newScreen := if setting then Screen.alt else Screen.main
  if newScreen ≠ e.mScreen then
    let buffer := if setting then e.mAltBuffer else e.mMainBuffer
    let resized := ¬ (buffer.mColumns = e.mColumns ∧ buffer.mScreenRows = e.mRows)
    modify fun e => { (if setting then e.saveCursor else e) with mScreen := newScreen }
    (if setting then pure () else modify (restoreMainCursor (decide resized)))
    (if resized then resizeScreen else pure ())
    (if setting then do
      let e ← get
      onScreen (TerminalBuffer.blockSet 0 0 e.mColumns e.mRows TerminalRow.space e.getStyle)
    else pure ())

def doDecSetOrReset (host : Host) (setting : Bool) (externalBit : Int) : EmulatorM Unit := do
  modify fun e =>
    match mapDecSetBitToInternalBit externalBit with
    | some internalBit => e.setDecsetinternalBit internalBit setting
    | none => e
  if externalBit ∈ [1, 4, 5] then pure ()
  else if externalBit = 3 then
    modify fun e => { e with
      mLeftMargin := 0
      mTopMargin := 0
      mBottomMargin := e.mRows
      mRightMargin := e.mColumns }.setDecsetinternalBit decsetBitLeftrightMarginMode false
    let e ← get
    blockClear 0 0 e.mColumns e.mRows
    modify fun e => e.setCursorRowCol 0 0
  else if externalBit = 6 then
    if setting then modify fun e => e.setCursorPosition 0 0
  else if externalBit ∈ [7, 8, 9, 12, 25] then
    if host.getTerminalCursorStyle.isSome then modify fun e => e.raise (.onTerminalCursorStateChange setting)
  else if externalBit ∈ [40, 45, 66] then pure ()
  else if externalBit = 69 then
    if ¬ setting then modify fun e => { e with mLeftMargin := 0, mRightMargin := e.mColumns }
  else if externalBit ∈ [1000, 1001, 1002, 1003, 1004, 1005, 1006, 1015, 1034] then pure ()
  else if externalBit = 1048 then modify (if setting then saveCursor else restoreCursor)
  else if externalBit = 47 ∨ externalBit = 1047 ∨ externalBit = 1049 then switchScreen setting
  else if externalBit = 2004 then pure ()
  else modify unknownParameter

def doDecSetOrResetArgs (host : Host) (setting : Bool) : Nat → Int → EmulatorM Unit
  | 0, _ => pure ()
  | count + 1, i => do
    doDecSetOrReset host setting (← argAt i)
    doDecSetOrResetArgs host setting count (i + 1)

def saveOrRecallArgs (host : Host) (saving : Bool) : Nat → Int → EmulatorM Unit
  | 0, _ => pure ()
  | count + 1, i => do
    let externalBit ← argAt i
    (match mapDecSetBitToInternalBit externalBit with
    | none => pure ()
    | some internalBit =>
      if saving then modify fun e => { e with mSavedDecSetFlags := e.mSavedDecSetFlags ||| internalBit }
      else do
        let e ← get
        doDecSetOrReset host (e.mSavedDecSetFlags &&& internalBit != 0) externalBit)
    saveOrRecallArgs host saving count (i + 1)

def doSetMode (newValue : Bool) (e : TerminalEmulator) : TerminalEmulator :=
  let modeBit := e.getArg0 0
  if modeBit = 4 then { e with mInsertMode := newValue }
  else if modeBit = 34 then e
  else e.unknownParameter

def setColor (code : Int) (color : BitVec 32) (e : TerminalEmulator) : TerminalEmulator :=
  if code = 38 then { e with mForeColor := color }
  else if code = 48 then { e with mBackColor := color }
  else { e with mUnderlineColor := color }

def isSubParam (e : TerminalEmulator) (i : Int) : Bool :=
  e.mArgsSubParamsBitSet &&& (1 : BitVec 32) <<< (i % 32).toNat != 0

/-- The extended colours 38, 48 and 58 at argument `i`; returns the index of the last argument used. -/
def extendedColor (code i : Int) : EmulatorM Int := do
  let e ← get
  if e.mArgIndex < i + 2 then pure i
  else
    let firstArg ← argAt (i + 1)
    if firstArg = 2 then
      if e.mArgIndex < i + 4 then pure i
      else
        let red ← argOr (i + 2) 0 false
        let green ← argOr (i + 3) 0 false
        let blue ← argOr (i + 4) 0 false
        modify (if red < 0 ∨ green < 0 ∨ blue < 0 ∨ 255 < red ∨ 255 < green ∨ 255 < blue then finishSequence
          else setColor code (0xff000000 ||| BitVec.ofInt 32 red <<< 16 ||| BitVec.ofInt 32 green <<< 8 |||
            BitVec.ofInt 32 blue))
        pure (i + 4)
    else if firstArg = 5 then
      let color ← argOr (i + 2) 0 false
      modify (if 0 ≤ color ∧ color < TextStyle.numIndexedColors then setColor code (BitVec.ofInt 32 color) else id)
      pure (i + 2)
    else
      modify finishSequence
      pure i

def renditionCode (code : Int) (e : TerminalEmulator) : TerminalEmulator :=
  let on (bit : BitVec 32) : TerminalEmulator := { e with mEffect := e.mEffect ||| bit }
  let off (bit : BitVec 32) : TerminalEmulator := { e with mEffect := e.mEffect &&& ~~~bit }
  if code = 0 then
    { e with
      mForeColor := TextStyle.colorIndexForeground
      mBackColor := TextStyle.colorIndexBackground
      mEffect := 0 }
  else if code = 1 then on TextStyle.characterAttributeBold
  else if code = 2 then on TextStyle.characterAttributeDim
  else if code = 3 then on TextStyle.characterAttributeItalic
  else if code = 4 then on TextStyle.characterAttributeUnderline
  else if code = 5 then on TextStyle.characterAttributeBlink
  else if code = 7 then on TextStyle.characterAttributeInverse
  else if code = 8 then on TextStyle.characterAttributeInvisible
  else if code = 9 then on TextStyle.characterAttributeStrikethrough
  else if code = 22 then off (TextStyle.characterAttributeBold ||| TextStyle.characterAttributeDim)
  else if code = 23 then off TextStyle.characterAttributeItalic
  else if code = 24 then off TextStyle.characterAttributeUnderline
  else if code = 25 then off TextStyle.characterAttributeBlink
  else if code = 27 then off TextStyle.characterAttributeInverse
  else if code = 28 then off TextStyle.characterAttributeInvisible
  else if code = 29 then off TextStyle.characterAttributeStrikethrough
  else if 30 ≤ code ∧ code ≤ 37 then { e with mForeColor := BitVec.ofInt 32 (code - 30) }
  else if code = 39 then { e with mForeColor := TextStyle.colorIndexForeground }
  else if 40 ≤ code ∧ code ≤ 47 then { e with mBackColor := BitVec.ofInt 32 (code - 40) }
  else if code = 49 then { e with mBackColor := TextStyle.colorIndexBackground }
  else if code = 59 then { e with mUnderlineColor := TextStyle.colorIndexForeground }
  else if 90 ≤ code ∧ code ≤ 97 then { e with mForeColor := BitVec.ofInt 32 (code - 90 + 8) }
  else if 100 ≤ code ∧ code ≤ 107 then { e with mBackColor := BitVec.ofInt 32 (code - 100 + 8) }
  else e

/-- The code at argument `i`; returns the index of the last argument used. -/
def renditionArg (code i : Int) : EmulatorM Int := do
  let e ← get
  if code = 4 ∧ i + 1 ≤ e.mArgIndex ∧ e.isSubParam (i + 1) then
    let variation ← argAt (i + 1)
    modify fun e => { e with
      mEffect :=
        if variation = 0 then e.mEffect &&& ~~~TextStyle.characterAttributeUnderline
        else e.mEffect ||| TextStyle.characterAttributeUnderline }
    pure (i + 1)
  else if code = 38 ∨ code = 48 ∨ code = 58 then extendedColor code i
  else
    modify (renditionCode code)
    pure i

/-- The arguments from `i` on. Every round takes at least one of them, so that `count` rounds are enough for the
    `count` arguments left. -/
def selectGraphicRenditionLoop : Nat → Int → EmulatorM Unit
  | 0, _ => pure ()
  | count + 1, i => do
    let e ← get
    if e.mArgIndex < i then pure ()
    else if e.isSubParam i then selectGraphicRenditionLoop count (i + 1)
    else
      let code ← argOr i 0 false
      if code < 0 ∧ 0 < e.mArgIndex then selectGraphicRenditionLoop count (i + 1)
      else
        let last ← renditionArg (if code < 0 then 0 else code) i
        selectGraphicRenditionLoop count (last + 1)

def selectGraphicRendition : EmulatorM Unit := do
  modify clampArgIndex
  let e ← get
  selectGraphicRenditionLoop (e.mArgIndex + 1).toNat 0

/-- DECSTBM. -/
def setTopAndBottomMargins (e : TerminalEmulator) : TerminalEmulator :=
  let top := max 0 (min (e.getArg0 1 - 1) (e.mRows - 2))
  { e with
    mTopMargin := top
    mBottomMargin := max (top + 2) (min (e.getArg1 e.mRows) e.mRows) }.setCursorPosition 0 0

/-- DECSLRM. -/
def setLeftAndRightMargins (e : TerminalEmulator) : TerminalEmulator :=
  let left := min (e.getArg0 1 - 1) (e.mColumns - 2)
  { e with
    mLeftMargin := left
    mRightMargin := max (left + 1) (min (e.getArg1 e.mColumns) e.mColumns) }.setCursorPosition 0 0

def pushTitle (e : TerminalEmulator) : TerminalEmulator :=
  let stack := e.mTitleStack ++ [e.mTitle]
  { e with mTitleStack := if 20 < stack.length then stack.drop 1 else stack }

def popTitle (e : TerminalEmulator) : TerminalEmulator :=
  match e.mTitleStack.getLast? with
  | some title => { e with mTitleStack := e.mTitleStack.dropLast }.setTitle title
  | none => e

def windowManipulation (e : TerminalEmulator) : TerminalEmulator :=
  let number (n : Int) : List Nat := chars (toString n)
  let arg := e.getArg0 0
  if arg = 11 then e.write (chars "\x1b[1t")
  else if arg = 13 then e.write (chars "\x1b[3;0;0t")
  else if arg = 14 then
    e.write (chars "\x1b[4;" ++ number (toInt (e.mRows * e.mCellHeightPixels)) ++ chars ";" ++
      number (toInt (e.mColumns * e.mCellWidthPixels)) ++ chars "t")
  else if arg = 16 then
    e.write (chars "\x1b[6;" ++ number e.mCellHeightPixels ++ chars ";" ++ number e.mCellWidthPixels ++ chars "t")
  else if arg = 18 then e.write (chars "\x1b[8;" ++ number e.mRows ++ chars ";" ++ number e.mColumns ++ chars "t")
  else if arg = 19 then e.write (chars "\x1b[9;" ++ number e.mRows ++ chars ";" ++ number e.mColumns ++ chars "t")
  else if arg = 20 then e.write (chars "\x1b]LIconLabel\x1b\\")
  else if arg = 21 then e.write (chars "\x1b]l\x1b\\")
  else if arg = 22 then e.pushTitle
  else if arg = 23 then e.popTitle
  else e

/-- `"\033[%d;%dR"` and its variant with a question mark and a page. -/
def reportCursor (before after : List Nat) (e : TerminalEmulator) : TerminalEmulator :=
  e.write (before ++ chars (toString (e.mCursorRow + 1)) ++ chars ";" ++ chars (toString (e.mCursorCol + 1)) ++ after)

/-- DSR. -/
def deviceStatusReport (e : TerminalEmulator) : TerminalEmulator :=
  let arg := e.getArg0 0
  if arg = 5 then e.write (chars "\x1b[0n")
  else if arg = 6 then reportCursor (chars "\x1b[") (chars "R") e
  else e

end Modes

def repeatCodePoint (codePoint : Nat) : Nat → EmulatorM Unit
  | 0 => pure ()
  | count + 1 => do
    emitCodePoint codePoint
    repeatCodePoint codePoint count

def doCsiUnsupportedParameterOrIntermediateByte (b : Nat) (e : TerminalEmulator) : TerminalEmulator :=
  if e.mEscapeState = .csiUnsupportedParameterByte ∧ 0x30 ≤ b ∧ b ≤ 0x3F then
    e.continueSequence .csiUnsupportedParameterByte
  else if 0x20 ≤ b ∧ b ≤ 0x2F then e.continueSequence .csiUnsupportedIntermediateByte
  else if 0x40 ≤ b ∧ b ≤ 0x7E then e.finishSequence
  else e.unknownSequence

def doCsiQuestionMark (host : Host) (b : Nat) : EmulatorM Unit := do
  if b = 'J'.toNat ∨ b = 'K'.toNat then selectiveErase (decide (b = 'K'.toNat))
  else if b = 'h'.toNat ∨ b = 'l'.toNat then
    modify clampArgIndex
    let e ← get
    doDecSetOrResetArgs host (decide (b = 'h'.toNat)) (e.mArgIndex + 1).toNat 0
  else if b = 'n'.toNat then
    modify fun e =>
      if e.getArg0 (-1) = 6 then reportCursor (chars "\x1b[?") (chars ";1R") e else e.finishSequence
  else if b = 'r'.toNat ∨ b = 's'.toNat then
    modify clampArgIndex
    let e ← get
    saveOrRecallArgs host (decide (b = 's'.toNat)) (e.mArgIndex + 1).toNat 0
  else if b = '$'.toNat then modify fun e => e.continueSequence .csiQuestionmarkArgDollar
  else modify (parseArg b)

def doCsiBiggerThan (b : Nat) (e : TerminalEmulator) : TerminalEmulator :=
  if b = 'c'.toNat then e.write (chars "\x1b[>41;320;0c")
  else if b = 'm'.toNat then e
  else parseArg b e

def doCsiDollar (b : Nat) : EmulatorM Unit := do
  if b = 'v'.toNat then copyRectangularArea
  else if b = 123 then fillRectangularArea true true TerminalRow.space 0
  else if b = 'x'.toNat then do
    let e ← get
    fillRectangularArea false false (e.getArg 0 (-1) true) 1
  else if b = 'z'.toNat then fillRectangularArea false false TerminalRow.space 0
  else if b = 'r'.toNat then changeAttributes false
  else if b = 't'.toNat then changeAttributes true
  else modify unknownSequence

/-- DECSCA. -/
def doCsiDoubleQuote (b : Nat) (e : TerminalEmulator) : TerminalEmulator :=
  if b = 'q'.toNat then
    let arg := e.getArg0 0
    if arg = 0 ∨ arg = 2 then { e with mEffect := e.mEffect &&& ~~~TextStyle.characterAttributeProtected }
    else if arg = 1 then { e with mEffect := e.mEffect ||| TextStyle.characterAttributeProtected }
    else e.unknownSequence
  else e.unknownSequence

/-- DECRQM. -/
def doCsiQuestionMarkArgDollar (b : Nat) (e : TerminalEmulator) : TerminalEmulator :=
  if b = 'p'.toNat then
    let mode := e.getArg0 0
    let value : Nat :=
      if mode = 47 ∨ mode = 1047 ∨ mode = 1049 then if e.mScreen = .alt then 1 else 2
      else
        match mapDecSetBitToInternalBit mode with
        | some internalBit => if e.isDecsetInternalBitSet internalBit then 1 else 2
        | none => 0
    e.write (chars "\x1b[?" ++ chars (toString mode) ++ chars ";" ++ chars (toString value) ++ chars "$y")
  else e.unknownSequence

/-- DECSCUSR. -/
def doCsiArgsSpace (b : Nat) (e : TerminalEmulator) : TerminalEmulator :=
  let arg := e.getArg0 0
  if b = 'q'.toNat then
    if arg = 0 ∨ arg = 1 ∨ arg = 2 then { e with mCursorStyle := terminalCursorStyleBlock }
    else if arg = 3 ∨ arg = 4 then { e with mCursorStyle := terminalCursorStyleUnderline }
    else if arg = 5 ∨ arg = 6 then { e with mCursorStyle := terminalCursorStyleBar }
    else e
  else if b = 't'.toNat ∨ b = 'u'.toNat then e
  else e.unknownSequence

/-- DECSACE. -/
def doCsiArgsAsterix (b : Nat) (e : TerminalEmulator) : TerminalEmulator :=
  let attributeChangeExtent := e.getArg0 0
  if b = 'x'.toNat ∧ 0 ≤ attributeChangeExtent ∧ attributeChangeExtent ≤ 2 then
    e.setDecsetinternalBit decsetBitRectangularChangeattribute (decide (attributeChangeExtent = 2))
  else e.unknownSequence

def doCsi (b : Nat) : EmulatorM Unit := do
  if b = '!'.toNat then modify fun e => e.continueSequence .csiExclamation
  else if b = 34 then modify fun e => e.continueSequence .csiDoubleQuote
  else if b = 39 then modify fun e => e.continueSequence .csiSingleQuote
  else if b = '$'.toNat then modify fun e => e.continueSequence .csiDollar
  else if b = '*'.toNat then modify fun e => e.continueSequence .csiArgsAsterix
  else if b = '@'.toNat then insertCharacters
  else if b = 'A'.toNat then modify fun e => e.setCursorRow (max 0 (e.mCursorRow - e.getArg0 1))
  else if b = 'B'.toNat then modify fun e => e.setCursorRow (min (e.mRows - 1) (e.mCursorRow + e.getArg0 1))
  else if b = 'C'.toNat ∨ b = 'a'.toNat then
    modify fun e => e.setCursorCol (min (e.mRightMargin - 1) (e.mCursorCol + e.getArg0 1))
  else if b = 'D'.toNat then modify fun e => e.setCursorCol (max e.mLeftMargin (e.mCursorCol - e.getArg0 1))
  else if b = 'E'.toNat then modify fun e => e.setCursorPosition 0 (e.mCursorRow + e.getArg0 1)
  else if b = 'F'.toNat then modify fun e => e.setCursorPosition 0 (e.mCursorRow - e.getArg0 1)
  else if b = 'G'.toNat then modify fun e => e.setCursorCol (min (max 1 (e.getArg0 1)) e.mColumns - 1)
  else if b = 'H'.toNat ∨ b = 'f'.toNat then
    modify fun e => e.setCursorPosition (e.getArg1 1 - 1) (e.getArg0 1 - 1)
  else if b = 'I'.toNat then do
    let e ← get
    let col ← nextTabStop (e.getArg0 1)
    modify fun e => e.setCursorCol col
  else if b = 'J'.toNat then eraseInDisplay
  else if b = 'K'.toNat then eraseInLine
  else if b = 'L'.toNat then insertLines
  else if b = 'M'.toNat then deleteLines
  else if b = 'P'.toNat then deleteCharacters
  else if b = 'S'.toNat then do
    let e ← get
    scrollUp (e.getArg0 1).toNat
  else if b = 'T'.toNat then do
    let e ← get
    if e.mArgIndex = 0 then scrollDown else set e.unknownSequence
  else if b = 'X'.toNat then eraseCharacters
  else if b = 'Z'.toNat then do
    let e ← get
    let col ← previousTabStopLoop e e.mCursorCol.toNat (e.getArg0 1)
    set { e with mCursorCol := col }
  else if b = '?'.toNat then modify fun e => e.continueSequence .csiQuestionmark
  else if b = '>'.toNat then modify fun e => e.continueSequence .csiBiggerthan
  else if b = '<'.toNat ∨ b = '='.toNat then modify fun e => e.continueSequence .csiUnsupportedParameterByte
  else if b = 96 then modify fun e => e.setCursorColRespectingOriginMode (e.getArg0 1 - 1)
  else if b = 'b'.toNat then do
    let e ← get
    if e.mLastEmittedCodePoint = -1 then pure ()
    else repeatCodePoint e.mLastEmittedCodePoint.toNat (e.getArg0 1).toNat
  else if b = 'c'.toNat then
    modify fun e => if e.getArg0 0 = 0 then e.write (chars "\x1b[?64;1;2;6;9;15;18;21;22c") else e
  else if b = 'd'.toNat then modify fun e => e.setCursorRow (min (max 1 (e.getArg0 1)) e.mRows - 1)
  else if b = 'e'.toNat then modify fun e => e.setCursorPosition e.mCursorCol (e.mCursorRow + e.getArg0 1)
  else if b = 'g'.toNat then do
    let e ← get
    if e.getArg0 0 = 0 then setTabStop false else if e.getArg0 0 = 3 then clearTabStops
  else if b = 'h'.toNat then modify (doSetMode true)
  else if b = 'l'.toNat then modify (doSetMode false)
  else if b = 'm'.toNat then selectGraphicRendition
  else if b = 'n'.toNat then modify deviceStatusReport
  else if b = 'r'.toNat then modify setTopAndBottomMargins
  else if b = 's'.toNat then
    modify fun e => if e.isDecsetInternalBitSet decsetBitLeftrightMarginMode then e.setLeftAndRightMargins else e.saveCursor
  else if b = 't'.toNat then modify windowManipulation
  else if b = 'u'.toNat then modify restoreCursor
  else if b = ' '.toNat then modify fun e => e.continueSequence .csiArgsSpace
  else modify (parseArg b)

end TerminalEmulator
