import TerminalAndroid.Terminal.TerminalRow
import TerminalAndroid.Terminal.TextStyle

open Java Utf16

/-- `rows` holds the row objects in the order they were created; an entry of `mLines` is `null` or
    the position of a row in it, so that two entries may refer to one object. -/
structure TerminalBuffer where
  rows : List TerminalRow
  mLines : List (Option Nat)
  mTotalRows : Int
  mScreenRows : Int
  mColumns : Int
  mActiveTranscriptRows : Int
  mScreenFirstRow : Int
  deriving DecidableEq, Repr

abbrev BufferM := EStateM Throwable TerminalBuffer

namespace TerminalBuffer

def withRow {α : Type} (ref : Nat) (method : RowM α) : BufferM α := fun buffer =>
  match buffer.rows[ref]? with
  | none => .error .nullPointer buffer
  | some row =>
    match method.run row with
    | .ok a row => .ok a { buffer with rows := buffer.rows.set ref row }
    | .error thrown row => .error thrown { buffer with rows := buffer.rows.set ref row }

def newRow (columns : Int) (style : Style) : BufferM Nat := do
  if columns < 0 then throw .negativeArraySize
  let buffer ← get
  set { buffer with rows := buffer.rows ++ [TerminalRow.create columns.toNat style] }
  pure buffer.rows.length

def getLine (index : Int) : BufferM (Option Nat) := do
  let buffer ← get
  readArray buffer.mLines index

def setLine (index : Int) (ref : Option Nat) : BufferM Unit := do
  let buffer ← get
  let lines ← writeArray buffer.mLines index ref
  set { buffer with mLines := lines }

def deref (ref : Option Nat) : BufferM Nat :=
  match ref with
  | none => throw .nullPointer
  | some ref => pure ref

def externalToInternalRow (externalRow : Int) : BufferM Int := do
  let buffer ← get
  if externalRow < -buffer.mActiveTranscriptRows ∨ buffer.mScreenRows < externalRow then
    throw (.illegalArgument ("extRow=" ++ toString externalRow ++ ", mScreenRows=" ++ toString buffer.mScreenRows ++
      ", mActiveTranscriptRows=" ++ toString buffer.mActiveTranscriptRows))
  let internalRow := buffer.mScreenFirstRow + externalRow
  if internalRow < 0 then pure (buffer.mTotalRows + internalRow)
  else liftResult (remainder internalRow buffer.mTotalRows)

def allocateFullLineIfNecessary (row : Int) : BufferM Nat := do
  let line ← getLine row
  match line with
  | some ref => pure ref
  | none =>
    let ref ← newRow (← get).mColumns 0
    setLine row (some ref)
    pure ref

def onLine {α : Type} (row : Int) (method : RowM α) : BufferM α := do
  withRow (← allocateFullLineIfNecessary row) method

def lineAt (externalRow : Int) : BufferM Nat := do
  let line ← getLine (← externalToInternalRow externalRow)
  deref line

def setLineWrap (row : Int) : BufferM Unit := do
  withRow (← lineAt row) (modify fun line => { line with mLineWrap := true })

def getLineWrap (row : Int) : BufferM Bool := do
  withRow (← lineAt row) (do pure (← get).mLineWrap)

def clearLineWrap (row : Int) : BufferM Unit := do
  withRow (← lineAt row) (modify fun line => { line with mLineWrap := false })

def setChar (column row : Int) (codePoint : Nat) (style : Style) : BufferM Unit := do
  let buffer ← get
  if row < 0 ∨ buffer.mScreenRows ≤ row ∨ column < 0 ∨ buffer.mColumns ≤ column then
    throw (.illegalArgument ("TerminalBuffer.setChar(): row=" ++ toString row ++ ", column=" ++ toString column ++
      ", mScreenRows=" ++ toString buffer.mScreenRows ++ ", mColumns=" ++ toString buffer.mColumns))
  onLine (← externalToInternalRow row) (TerminalRow.setChar .java column codePoint style)

def blockSetRow (sx row : Int) (codePoint : Nat) (style : Style) : Nat → Int → BufferM Unit
  | 0, _ => pure ()
  | count + 1, x => do
    setChar (sx + x) row codePoint style
    blockSetRow sx row codePoint style count (x + 1)

def blockSetRows (sx sy w : Int) (codePoint : Nat) (style : Style) : Nat → Int → BufferM Unit
  | 0, _ => pure ()
  | count + 1, y => do
    blockSetRow sx (sy + y) codePoint style w.toNat 0
    blockSetRows sx sy w codePoint style count (y + 1)

def blockSet (sx sy w h : Int) (codePoint : Nat) (style : Style) : BufferM Unit := do
  let buffer ← get
  if sx < 0 ∨ buffer.mColumns < sx + w ∨ sy < 0 ∨ buffer.mScreenRows < sy + h then
    throw (.illegalArgument ("Illegal arguments! blockSet(" ++ toString sx ++ ", " ++ toString sy ++ ", " ++
      toString w ++ ", " ++ toString h ++ ", " ++ toString codePoint ++ ", " ++ toString buffer.mColumns ++ ", " ++
      toString buffer.mScreenRows ++ ")"))
  blockSetRows sx sy w codePoint style h.toNat 0

/-- The source row of a copy is read as it is at the call unless it is the target row itself. -/
def copyIntervalOf (target source : Nat) (sourceX1 sourceX2 destinationX : Int) : BufferM Unit := do
  match (← get).rows[source]? with
  | none => throw .nullPointer
  | some line =>
    withRow target (TerminalRow.copyInterval .java line (target == source) sourceX1 sourceX2 destinationX)

def blockCopyRows (sx sy w h dx dy : Int) (copyingUp : Bool) : Nat → Int → BufferM Unit
  | 0, _ => pure ()
  | count + 1, y => do
    let y2 := if copyingUp then y else h - (y + 1)
    let sourceRow ← allocateFullLineIfNecessary (← externalToInternalRow (sy + y2))
    let targetRow ← allocateFullLineIfNecessary (← externalToInternalRow (dy + y2))
    copyIntervalOf targetRow sourceRow sx (sx + w) dx
    blockCopyRows sx sy w h dx dy copyingUp count (y + 1)

def blockCopy (sx sy w h dx dy : Int) : BufferM Unit := do
  if w = 0 then return
  let buffer ← get
  if sx < 0 ∨ buffer.mColumns < sx + w ∨ sy < 0 ∨ buffer.mScreenRows < sy + h ∨ dx < 0 ∨ buffer.mColumns < dx + w ∨
      dy < 0 ∨ buffer.mScreenRows < dy + h then throw (.illegalArgument "")
  blockCopyRows sx sy w h dx dy (decide (dy < sy)) h.toNat 0

def copyLinesLoop (srcInternal totalRows : Int) : Nat → BufferM Unit
  | 0 => pure ()
  | i + 1 => do
    let target ← liftResult (remainder (srcInternal + i + 1) totalRows)
    let source ← liftResult (remainder (srcInternal + i) totalRows)
    let line ← getLine source
    setLine target line
    copyLinesLoop srcInternal totalRows i

def blockCopyLinesDown (srcInternal len : Int) : BufferM Unit := do
  if len = 0 then return
  let totalRows := (← get).mTotalRows
  let start := len - 1
  let lineToBeOverWritten ← getLine (← liftResult (remainder (srcInternal + start + 1) totalRows))
  copyLinesLoop srcInternal totalRows len.toNat
  setLine (← liftResult (remainder srcInternal totalRows)) lineToBeOverWritten

def scrollDownOneLine (topMargin bottomMargin : Int) (style : Style) : BufferM Unit := do
  let buffer ← get
  if bottomMargin - 1 < topMargin ∨ topMargin < 0 ∨ buffer.mScreenRows < bottomMargin then
    throw (.illegalArgument ("topMargin=" ++ toString topMargin ++ ", bottomMargin=" ++ toString bottomMargin ++
      ", mScreenRows=" ++ toString buffer.mScreenRows))
  blockCopyLinesDown buffer.mScreenFirstRow topMargin
  blockCopyLinesDown (← externalToInternalRow bottomMargin) (buffer.mScreenRows - bottomMargin)
  let first ← liftResult (remainder (buffer.mScreenFirstRow + 1) buffer.mTotalRows)
  modify fun buffer => { buffer with
    mScreenFirstRow := first
    mActiveTranscriptRows :=
      if buffer.mActiveTranscriptRows < buffer.mTotalRows - buffer.mScreenRows then buffer.mActiveTranscriptRows + 1
      else buffer.mActiveTranscriptRows }
  let blankRow ← externalToInternalRow (bottomMargin - 1)
  match ← getLine blankRow with
  | none => setLine blankRow (some (← newRow buffer.mColumns style))
  | some ref => withRow ref (modify (TerminalRow.cleared .java style))

def getStyleAt (externalRow column : Int) : BufferM Style := do
  onLine (← externalToInternalRow externalRow) (do TerminalRow.getStyle (← get) column)

def clearTranscript : BufferM Unit := do
  let buffer ← get
  if buffer.mScreenFirstRow < buffer.mActiveTranscriptRows then
    let lines ← liftResult (arraysFill buffer.mLines
      (buffer.mTotalRows + buffer.mScreenFirstRow - buffer.mActiveTranscriptRows) buffer.mTotalRows none)
    set { buffer with mLines := lines }
    let lines ← liftResult (arraysFill lines 0 buffer.mScreenFirstRow none)
    set { buffer with mLines := lines }
  else
    let lines ← liftResult (arraysFill buffer.mLines
      (buffer.mScreenFirstRow - buffer.mActiveTranscriptRows) buffer.mScreenFirstRow none)
    set { buffer with mLines := lines }
  modify fun buffer => { buffer with mActiveTranscriptRows := 0 }

def effectLoop (bits : BitVec 32) (setOrClear reverse : Bool) (ref : Nat) : Nat → Int → BufferM Unit
  | 0, _ => pure ()
  | count + 1, x => do
    withRow ref (do
      let line ← get
      let currentStyle ← TerminalRow.getStyle line x
      let effect := TextStyle.decodeEffect currentStyle
      let effect :=
        if reverse then (effect &&& ~~~bits) ||| (bits &&& ~~~effect)
        else if setOrClear then effect ||| bits
        else effect &&& ~~~bits
      let style ← writeArray line.mStyle x
        (TextStyle.encode (TextStyle.decodeForeColor currentStyle) (TextStyle.decodeBackColor currentStyle) effect)
      set { line with mStyle := style })
    effectLoop bits setOrClear reverse ref count (x + 1)

def effectRows (bits : BitVec 32) (setOrClear reverse rectangular : Bool)
    (leftMargin rightMargin top left bottom right : Int) : Nat → Int → BufferM Unit
  | 0, _ => pure ()
  | count + 1, y => do
    let line ← getLine (← externalToInternalRow y)
    let startOfLine := if rectangular ∨ y = top then left else leftMargin
    let endOfLine := if rectangular ∨ y + 1 = bottom then right else rightMargin
    if startOfLine < endOfLine then
      effectLoop bits setOrClear reverse (← deref line) (endOfLine - startOfLine).toNat startOfLine
    effectRows bits setOrClear reverse rectangular leftMargin rightMargin top left bottom right count (y + 1)

def setOrClearEffect (bits : BitVec 32) (setOrClear reverse rectangular : Bool)
    (leftMargin rightMargin top left bottom right : Int) : BufferM Unit :=
  effectRows bits setOrClear reverse rectangular leftMargin rightMargin top left bottom right (bottom - top).toNat top

def isBlankAt (ref : Option Nat) : BufferM Bool := do
  match ref with
  | none => pure true
  | some ref => withRow ref (do liftResult (← get).isBlank)

def skipBlankRows (cursorRow : Int) : Nat → Int → BufferM Int
  | 0, shiftDownOfTopRow => pure shiftDownOfTopRow
  | i + 1, shiftDownOfTopRow => do
    if (i : Int) + 1 ≤ cursorRow then return shiftDownOfTopRow
    let line ← getLine (← externalToInternalRow (i + 1))
    if ← isBlankAt line then
      if shiftDownOfTopRow - 1 = 0 then return shiftDownOfTopRow - 1
      skipBlankRows cursorRow i (shiftDownOfTopRow - 1)
    else skipBlankRows cursorRow i shiftDownOfTopRow

def clearRevealedRows (style : Style) : Nat → Int → BufferM Unit
  | 0, _ => pure ()
  | count + 1, i => do
    let buffer ← get
    onLine (← liftResult (remainder (buffer.mScreenFirstRow + buffer.mScreenRows + i) buffer.mTotalRows))
      (modify (TerminalRow.cleared .java style))
    clearRevealedRows style count (i + 1)

def resizeRows (newRows newTotalRows cursorRow : Int) (currentStyle : Style) (altScreen : Bool) : BufferM Int := do
  let buffer ← get
  let difference := buffer.mScreenRows - newRows
  let shiftDownOfTopRow ←
    (if 0 < difference ∧ difference < buffer.mScreenRows then
      skipBlankRows cursorRow (buffer.mScreenRows - 1).toNat difference
    else if difference < 0 then do
      let actualShift := max difference (-buffer.mActiveTranscriptRows)
      clearRevealedRows currentStyle (actualShift - difference).toNat 0
      pure actualShift
    else pure difference)
  let first := buffer.mScreenFirstRow + shiftDownOfTopRow
  let first ← liftResult (if first < 0 then .ok (first + buffer.mTotalRows) else remainder first buffer.mTotalRows)
  modify fun buffer => { buffer with
    mScreenFirstRow := first
    mTotalRows := newTotalRows
    mActiveTranscriptRows := if altScreen then 0 else max 0 (buffer.mActiveTranscriptRows + shiftDownOfTopRow)
    mScreenRows := newRows }
  pure (cursorRow - shiftDownOfTopRow)

/-- The local variables of the slow resize that its loops change. `foundFull` is not in the source: it
    records that a scroll found the transcript already full, so that its oldest line was dropped. -/
structure Reflow where
  newCursorRow : Int := -1
  newCursorColumn : Int := -1
  newCursorPlaced : Bool := false
  currentOutputExternalRow : Int := 0
  currentOutputExternalColumn : Int := 0
  skippedBlankLines : Nat := 0
  foundFull : Bool := false
  deriving DecidableEq, Repr

/-- To the start of the next output row. Two of the three places that do this keep the row of the
    placed cursor in step with the scroll (`adjustCursor`), the one for skipped blank lines does not. -/
def nextOutputRow (currentStyle : Style) (adjustCursor : Bool) (reflow : Reflow) : BufferM Reflow := do
  let buffer ← get
  if reflow.currentOutputExternalRow = buffer.mScreenRows - 1 then
    scrollDownOneLine 0 buffer.mScreenRows currentStyle
    pure { reflow with
      newCursorRow :=
        if adjustCursor ∧ reflow.newCursorPlaced then reflow.newCursorRow - 1 else reflow.newCursorRow
      currentOutputExternalColumn := 0
      foundFull := reflow.foundFull || decide (buffer.mTotalRows - buffer.mScreenRows ≤ buffer.mActiveTranscriptRows) }
  else
    pure { reflow with
      currentOutputExternalRow := reflow.currentOutputExternalRow + 1
      currentOutputExternalColumn := 0 }

def insertSkippedLines (currentStyle : Style) : Nat → Reflow → BufferM Reflow
  | 0, reflow => pure { reflow with skippedBlankLines := 0 }
  | count + 1, reflow => do
    insertSkippedLines currentStyle count (← nextOutputRow currentStyle false reflow)

def reflowCodePoint (currentStyle : Style) (cursorAtThisRow : Bool) (oldCursorColumn currentOldCol : Int)
    (codePoint : Nat) (styleAtCol : Style) (reflow : Reflow) : BufferM (Reflow × Bool) := do
  let displayWidth := WcWidth.width codePoint
  let reflow ←
    (if (← get).mColumns < reflow.currentOutputExternalColumn + displayWidth then do
      setLineWrap reflow.currentOutputExternalRow
      nextOutputRow currentStyle true reflow
    else pure reflow)
  let offsetDueToCombiningChar := if displayWidth ≤ 0 ∧ 0 < reflow.currentOutputExternalColumn then 1 else 0
  setChar (reflow.currentOutputExternalColumn - offsetDueToCombiningChar) reflow.currentOutputExternalRow
    codePoint styleAtCol
  if 0 < displayWidth then
    let reflow :=
      if cursorAtThisRow ∧ oldCursorColumn = currentOldCol then { reflow with
        newCursorColumn := reflow.currentOutputExternalColumn
        newCursorRow := reflow.currentOutputExternalRow
        newCursorPlaced := true }
      else reflow
    pure ({ reflow with currentOutputExternalColumn := reflow.currentOutputExternalColumn + displayWidth },
      cursorAtThisRow && reflow.newCursorPlaced)
  else pure (reflow, false)

/-- The loop over the chars of an old line up to `lastNonSpaceIndex`; `chars` is its text from
    index `i` on. -/
def reflowChars (currentStyle : Style) (oldLine : TerminalRow) (cursorAtThisRow : Bool) (oldCursorColumn : Int)
    (lastNonSpaceIndex : Int) : List Nat → Nat → Int → Style → Reflow → BufferM Reflow
  | [], i, _, _, reflow => if i < lastNonSpaceIndex then throw .indexOutOfBounds else pure reflow
  | c :: chars, i, currentOldCol, styleAtCol, reflow =>
    if i < lastNonSpaceIndex then
      if isHighSurrogate c then
        match chars with
        | [] => throw .indexOutOfBounds
        | d :: chars => do
          let codePoint := toCodePoint c d
          let styleAtCol ←
            (if 0 < WcWidth.width codePoint then readArray oldLine.mStyle currentOldCol else pure styleAtCol)
          let (reflow, left) ← reflowCodePoint currentStyle cursorAtThisRow oldCursorColumn currentOldCol codePoint
            styleAtCol reflow
          if left then pure reflow
          else
            reflowChars currentStyle oldLine cursorAtThisRow oldCursorColumn lastNonSpaceIndex chars (i + 2)
              (currentOldCol + WcWidth.width codePoint) styleAtCol reflow
      else do
        let styleAtCol ← (if 0 < WcWidth.width c then readArray oldLine.mStyle currentOldCol else pure styleAtCol)
        let (reflow, left) ← reflowCodePoint currentStyle cursorAtThisRow oldCursorColumn currentOldCol c
          styleAtCol reflow
        if left then pure reflow
        else
          reflowChars currentStyle oldLine cursorAtThisRow oldCursorColumn lastNonSpaceIndex chars (i + 1)
            (currentOldCol + WcWidth.width c) styleAtCol reflow
    else pure reflow

def lastNonSpaceLoop (spaceUsed : Int) : List Nat → Nat → Nat → Except Throwable Nat
  | [], i, last => if i < spaceUsed then .error .indexOutOfBounds else .ok last
  | c :: chars, i, last =>
    if i < spaceUsed then lastNonSpaceLoop spaceUsed chars (i + 1) (if c ≠ TerminalRow.space then i + 1 else last)
    else .ok last

def reflowLine (currentStyle : Style) (oldLine : TerminalRow) (cursorAtThisRow lastRow : Bool)
    (oldCursorColumn : Int) (reflow : Reflow) : BufferM Reflow := do
  let reflow ← insertSkippedLines currentStyle reflow.skippedBlankLines reflow
  let lastNonSpaceIndex ← liftResult
    (if cursorAtThisRow ∨ oldLine.mLineWrap then .ok oldLine.mSpaceUsed
    else (lastNonSpaceLoop oldLine.mSpaceUsed oldLine.mText 0 0).map Nat.cast)
  let reflow ← reflowChars currentStyle oldLine cursorAtThisRow oldCursorColumn lastNonSpaceIndex oldLine.mText 0 0 0
    reflow
  if ¬ lastRow ∧ ¬ oldLine.mLineWrap then nextOutputRow currentStyle true reflow else pure reflow

structure OldLines where
  lines : List (Option Nat)
  activeTranscriptRows : Int
  screenFirstRow : Int
  screenRows : Int
  totalRows : Int

def oldLines (buffer : TerminalBuffer) : OldLines where
  lines := buffer.mLines
  activeTranscriptRows := buffer.mActiveTranscriptRows
  screenFirstRow := buffer.mScreenFirstRow
  screenRows := buffer.mScreenRows
  totalRows := buffer.mTotalRows

def reflowRows (currentStyle : Style) (old : OldLines) (oldCursorColumn oldCursorRow : Int) :
    Nat → Int → Reflow → BufferM Reflow
  | 0, _, reflow => pure reflow
  | count + 1, externalOldRow, reflow => do
    let internalOldRow := old.screenFirstRow + externalOldRow
    let internalOldRow ← liftResult
      (if internalOldRow < 0 then .ok (old.totalRows + internalOldRow) else remainder internalOldRow old.totalRows)
    let oldRef ← readArray old.lines internalOldRow
    let cursorAtThisRow := decide (externalOldRow = oldCursorRow)
    let reflow ←
      (match oldRef with
      | none => pure { reflow with skippedBlankLines := reflow.skippedBlankLines + 1 }
      | some ref => do
        let oldLine ← withRow ref get
        let blank ← liftResult (if reflow.newCursorPlaced ∨ ¬ cursorAtThisRow then oldLine.isBlank else .ok false)
        if blank then pure { reflow with skippedBlankLines := reflow.skippedBlankLines + 1 }
        else
          reflowLine currentStyle oldLine cursorAtThisRow (decide (externalOldRow = old.screenRows - 1))
            oldCursorColumn reflow)
    reflowRows currentStyle old oldCursorColumn oldCursorRow count (externalOldRow + 1) reflow

def newRows (columns : Int) (style : Style) : Nat → BufferM (List (Option Nat))
  | 0 => pure []
  | count + 1 => do
    let ref ← newRow columns style
    let refs ← newRows columns style count
    pure (some ref :: refs)

def reflowAll (newColumns newRows newTotalRows : Int) (cursor : Int × Int) (currentStyle : Style) :
    BufferM Reflow := do
  let buffer ← get
  if newTotalRows < 0 then throw .negativeArraySize
  let old := buffer.oldLines
  let lines ← TerminalBuffer.newRows newColumns currentStyle newTotalRows.toNat
  modify fun buffer => { buffer with
    mLines := lines
    mTotalRows := newTotalRows
    mScreenRows := newRows
    mActiveTranscriptRows := 0
    mScreenFirstRow := 0
    mColumns := newColumns }
  reflowRows currentStyle old cursor.1 cursor.2 (old.activeTranscriptRows + old.screenRows).toNat
    (-old.activeTranscriptRows) {}

def resizeReflow (newColumns newRows newTotalRows : Int) (cursor : Int × Int) (currentStyle : Style) :
    BufferM (Int × Int) := do
  let reflow ← reflowAll newColumns newRows newTotalRows cursor currentStyle
  pure (reflow.newCursorColumn, reflow.newCursorRow)

def resize (newColumns newRows newTotalRows : Int) (cursor : Int × Int) (currentStyle : Style) (altScreen : Bool) :
    BufferM (Int × Int) := do
  let buffer ← get
  let cursor ←
    (if newColumns = buffer.mColumns ∧ newRows ≤ buffer.mTotalRows then do
      let row ← resizeRows newRows newTotalRows cursor.2 currentStyle altScreen
      pure (cursor.1, row)
    else resizeReflow newColumns newRows newTotalRows cursor currentStyle)
  pure (if cursor.1 < 0 ∨ cursor.2 < 0 then (0, 0) else cursor)

def allocated (columns totalRows screenRows : Int) : TerminalBuffer where
  rows := []
  mLines := List.replicate totalRows.toNat none
  mTotalRows := totalRows
  mScreenRows := screenRows
  mColumns := columns
  mActiveTranscriptRows := 0
  mScreenFirstRow := 0

def create (columns totalRows screenRows : Int) : Except Throwable TerminalBuffer :=
  if totalRows < 0 then .error .negativeArraySize
  else
    match (blockSet 0 0 columns screenRows TerminalRow.space TextStyle.normal).run
        (allocated columns totalRows screenRows) with
    | .ok _ buffer => .ok buffer
    | .error thrown _ => .error thrown

end TerminalBuffer
