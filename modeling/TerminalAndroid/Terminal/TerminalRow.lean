import TerminalAndroid.Exec.Java
import TerminalAndroid.Text.Utf16
import TerminalAndroid.Terminal.WcWidth

open Java Utf16

abbrev Style := BitVec 64

/-- A `char` of `mText` is a natural number below `0x10000`; `mSpaceUsed` is the value of a `short`. -/
structure TerminalRow where
  mColumns : Nat
  mText : List Nat
  mSpaceUsed : Int
  mLineWrap : Bool
  mStyle : List Style
  mHasNonOneWidthOrSurrogateChars : Bool
  deriving DecidableEq, Repr

/-- How `mSpaceUsed` is stored and whether the fast path of `setChar` is taken. The source is
    `java`; the other rules say what a row does without the narrowing or without the fast path. -/
structure RowRules where
  short : Int → Int
  fastPath : Bool

def RowRules.java : RowRules := ⟨toShort, true⟩

abbrev RowM := EStateM Throwable TerminalRow

namespace TerminalRow

def maxCombiningCharactersPerColumn : Nat := 15

def space : Nat := 0x20

/-- `(int) (SPARE_CAPACITY_FACTOR * columns)` with the factor `1.5f`: `columns` is rounded to a
    `float`, the product is rounded once more and truncated. -/
def spareCapacity (columns : Nat) : Nat := min (roundFloat (3 * roundFloat columns) / 2) 0x7fffffff

def cleared (rules : RowRules) (style : Style) (row : TerminalRow) : TerminalRow :=
  { row with
    mText := List.replicate row.mText.length space
    mStyle := List.replicate row.mStyle.length style
    mSpaceUsed := rules.short row.mColumns
    mHasNonOneWidthOrSurrogateChars := false }

def create (columns : Nat) (style : Style) : TerminalRow :=
  cleared .java style
    { mColumns := columns
      mText := List.replicate (spareCapacity columns) 0
      mSpaceUsed := 0
      mLineWrap := false
      mStyle := List.replicate columns 0
      mHasNonOneWidthOrSurrogateChars := false }

def skipCombining (spaceUsed : Int) : List Nat → Nat → Except Throwable Nat
  | [], newCharIndex => if newCharIndex < spaceUsed then .error .indexOutOfBounds else .ok newCharIndex
  | c :: text, newCharIndex =>
    if newCharIndex < spaceUsed then
      if isHighSurrogate c then
        match text with
        | [] => .error .indexOutOfBounds
        | d :: text =>
          if WcWidth.width (toCodePoint c d) ≤ 0 then skipCombining spaceUsed text (newCharIndex + 2)
          else .ok newCharIndex
      else if WcWidth.width c ≤ 0 then skipCombining spaceUsed text (newCharIndex + 1)
      else .ok newCharIndex
    else .ok newCharIndex

def findStartLoop (spaceUsed column : Int) : List Nat → Int → Nat → Except Throwable Nat
  | [], _, _ => .error .indexOutOfBounds
  | c :: text, currentColumn, currentCharIndex =>
    if isHighSurrogate c then
      match text with
      | [] => .error .indexOutOfBounds
      | d :: text =>
        let wcwidth := WcWidth.width (toCodePoint c d)
        if 0 < wcwidth then
          if currentColumn + wcwidth = column then skipCombining spaceUsed text (currentCharIndex + 2)
          else if column < currentColumn + wcwidth then .ok currentCharIndex
          else findStartLoop spaceUsed column text (currentColumn + wcwidth) (currentCharIndex + 2)
        else findStartLoop spaceUsed column text currentColumn (currentCharIndex + 2)
    else
      let wcwidth := WcWidth.width c
      if 0 < wcwidth then
        if currentColumn + wcwidth = column then skipCombining spaceUsed text (currentCharIndex + 1)
        else if column < currentColumn + wcwidth then .ok currentCharIndex
        else findStartLoop spaceUsed column text (currentColumn + wcwidth) (currentCharIndex + 1)
      else findStartLoop spaceUsed column text currentColumn (currentCharIndex + 1)

def findStartOfColumn (row : TerminalRow) (column : Int) : Except Throwable Int :=
  if column = row.mColumns then .ok row.mSpaceUsed
  else (findStartLoop row.mSpaceUsed column row.mText 0 0).map fun index => index

def wideStartLoop (spaceUsed column : Int) : List Nat → Nat → Int → Except Throwable Bool
  | [], currentCharIndex, _ =>
    if currentCharIndex < spaceUsed then .error .indexOutOfBounds else .ok false
  | c :: text, currentCharIndex, currentColumn =>
    if currentCharIndex < spaceUsed then
      if isHighSurrogate c then
        match text with
        | [] => .error .indexOutOfBounds
        | d :: text =>
          let wcwidth := WcWidth.width (toCodePoint c d)
          if 0 < wcwidth then
            if currentColumn = column ∧ wcwidth = 2 then .ok true
            else if column < currentColumn + wcwidth then .ok false
            else wideStartLoop spaceUsed column text (currentCharIndex + 2) (currentColumn + wcwidth)
          else wideStartLoop spaceUsed column text (currentCharIndex + 2) currentColumn
      else
        let wcwidth := WcWidth.width c
        if 0 < wcwidth then
          if currentColumn = column ∧ wcwidth = 2 then .ok true
          else if column < currentColumn + wcwidth then .ok false
          else wideStartLoop spaceUsed column text (currentCharIndex + 1) (currentColumn + wcwidth)
        else wideStartLoop spaceUsed column text (currentCharIndex + 1) currentColumn
    else .ok false

def wideDisplayCharacterStartingAt (row : TerminalRow) (column : Int) : Except Throwable Bool :=
  wideStartLoop row.mSpaceUsed column row.mText 0 0

def widthAt (text : List Nat) (index : Int) : RowM Nat := do
  let c ← readArray text index
  if isHighSurrogate c then
    let d ← readArray text (index + 1)
    pure (WcWidth.width (toCodePoint c d))
  else pure (WcWidth.width c)

def zeroWidthLoop (stop : Int) : List Nat → Nat → Nat → Except Throwable Nat
  | [], _, count => .ok count
  | c :: text, i, count =>
    if i < stop then
      if isHighSurrogate c then
        match text with
        | [] => .error .indexOutOfBounds
        | d :: text =>
          zeroWidthLoop stop text (i + 2) (if WcWidth.width (toCodePoint c d) ≤ 0 then count + 1 else count)
      else zeroWidthLoop stop text (i + 1) (if WcWidth.width c ≤ 0 then count + 1 else count)
    else .ok count

def zeroWidthCharsCount (chars : List Nat) (start stop : Int) : Except Throwable Nat :=
  if start < 0 ∨ chars.length ≤ start then .ok 0
  else zeroWidthLoop stop (chars.drop start.toNat) start.toNat 0

def isBlankLoop (spaceUsed : Int) : List Nat → Nat → Except Throwable Bool
  | [], charIndex => if charIndex < spaceUsed then .error .indexOutOfBounds else .ok true
  | c :: text, charIndex =>
    if charIndex < spaceUsed then
      if c ≠ space then .ok false else isBlankLoop spaceUsed text (charIndex + 1)
    else .ok true

def isBlank (row : TerminalRow) : Except Throwable Bool := isBlankLoop row.mSpaceUsed row.mText 0

def getStyle (row : TerminalRow) (column : Int) : RowM Style := readArray row.mStyle column

/-- Makes room for `target - source` more characters before the text that starts at `source`,
    in place or in an array that is larger by `mColumns`. -/
def shiftRight (source target : Int) : RowM Unit := do
  let row ← get
  let charactersAfter := row.mSpaceUsed - source
  if row.mText.length < row.mSpaceUsed + (target - source) then
    let newText ← arraycopy row.mText 0 (List.replicate (row.mText.length + row.mColumns) 0) 0 source
    let newText ← arraycopy row.mText source newText target charactersAfter
    set { row with mText := newText }
  else
    let text ← arraycopy row.mText source row.mText target charactersAfter
    set { row with mText := text }

def shiftLeft (source target : Int) : RowM Unit := do
  let row ← get
  let text ← arraycopy row.mText source row.mText target (row.mSpaceUsed - source)
  set { row with mText := text }

def addSpaceUsed (rules : RowRules) (difference : Int) : RowM Unit :=
  modify fun row => { row with mSpaceUsed := rules.short (row.mSpaceUsed + difference) }

def storeChars (codePoint : Nat) (index : Int) : RowM Unit := do
  let row ← get
  if codePoint < 0x10000 then
    let text ← writeArray row.mText index codePoint
    set { row with mText := text }
  else if codePoint ≤ 0x10FFFF then
    let text ← writeArray row.mText (index + 1) (lowSurrogate codePoint)
    let text ← writeArray text index (highSurrogate codePoint)
    set { row with mText := text }
  else throw (.illegalArgument s!"Not a valid Unicode code point: {codePoint}")

/-- Replaces the characters from `index` up to `oldNextColumnIndex` by the code point, or adds it
    after them when `index` is `oldNextColumnIndex`. -/
def replaceChars (rules : RowRules) (codePoint : Nat) (index oldNextColumnIndex newNextColumnIndex : Int) :
    RowM Unit := do
  let javaCharDifference := newNextColumnIndex - oldNextColumnIndex
  if 0 < javaCharDifference then shiftRight oldNextColumnIndex newNextColumnIndex
  else if javaCharDifference < 0 then shiftLeft oldNextColumnIndex newNextColumnIndex
  addSpaceUsed rules javaCharDifference
  storeChars codePoint index

/-- What `setChar` does after the character was stored when its width differs from the width of
    the character it replaced; `newNextColumnIndex` is the end of what was stored. -/
def adjustWidth (rules : RowRules) (columnToSet : Int) (oldWidth newWidth : Nat)
    (newNextColumnIndex : Int) : RowM Unit := do
  let row ← get
  if oldWidth = 2 ∧ newWidth = 1 then
    shiftRight newNextColumnIndex (newNextColumnIndex + 1)
    storeChars space newNextColumnIndex
    addSpaceUsed rules 1
  else if oldWidth = 1 ∧ newWidth = 2 then
    if columnToSet = row.mColumns - 1 then
      throw (.illegalArgument "Cannot put wide character in last column")
    else if columnToSet = row.mColumns - 2 then
      modify fun row => { row with mSpaceUsed := rules.short newNextColumnIndex }
    else
      let c ← readArray row.mText newNextColumnIndex
      let newNextNextColumnIndex := newNextColumnIndex + (if isHighSurrogate c then 2 else 1)
      shiftLeft newNextNextColumnIndex newNextColumnIndex
      addSpaceUsed rules (newNextColumnIndex - newNextNextColumnIndex)

def storeInColumn (rules : RowRules) (columnToSet : Int) (codePoint : Nat) : RowM Unit := do
  let row ← get
  let newWidth := WcWidth.width codePoint
  let oldStartOfColumnIndex ← liftResult (row.findStartOfColumn columnToSet)
  let oldWidth ← widthAt row.mText oldStartOfColumnIndex
  let oldEndOfColumnIndex ← liftResult
    (if columnToSet + oldWidth < row.mColumns then row.findStartOfColumn (columnToSet + oldWidth)
    else .ok row.mSpaceUsed)
  let oldCharactersUsedForColumn := oldEndOfColumnIndex - oldStartOfColumnIndex
  let combiningCharsCount ← liftResult
    (if newWidth ≤ 0 then zeroWidthCharsCount row.mText oldStartOfColumnIndex
      (oldStartOfColumnIndex + oldCharactersUsedForColumn)
    else .ok 0)
  if newWidth ≤ 0 ∧ maxCombiningCharactersPerColumn ≤ combiningCharsCount then return
  let newCharactersUsedForColumn :=
    charCount codePoint + (if newWidth ≤ 0 then oldCharactersUsedForColumn else 0)
  let newNextColumnIndex := oldStartOfColumnIndex + newCharactersUsedForColumn
  replaceChars rules codePoint
    (oldStartOfColumnIndex + (if newWidth ≤ 0 then oldCharactersUsedForColumn else 0))
    (oldStartOfColumnIndex + oldCharactersUsedForColumn) newNextColumnIndex
  adjustWidth rules columnToSet oldWidth newWidth newNextColumnIndex

/-- `setChar` with its recursion cut off after `fuel` calls. It calls itself only to put a space
    over a wide character it cuts, which needs no further cut. -/
def setCharFuel (rules : RowRules) : Nat → Int → Nat → Style → RowM Unit
  | 0, _, _, _ => throw .stackOverflow
  | fuel + 1, columnToSet, codePoint, style => do
    let row ← get
    if columnToSet < 0 ∨ row.mStyle.length ≤ columnToSet then
      throw (.illegalArgument ("TerminalRow.setChar(): columnToSet=" ++ toString columnToSet ++
        ", codePoint=" ++ toString codePoint ++ ", style=" ++ toString style.toInt))
    set { row with mStyle := row.mStyle.set columnToSet.toNat style }
    let newWidth := WcWidth.width codePoint
    if rules.fastPath ∧ row.mHasNonOneWidthOrSurrogateChars = false ∧ ¬ (0x10000 ≤ codePoint ∨ newWidth ≠ 1) then
      let text ← writeArray row.mText columnToSet codePoint
      modify fun row => { row with mText := text }
    else
      modify fun row => { row with mHasNonOneWidthOrSurrogateChars := true }
      let wasExtraColForWideChar ← liftResult
        (if 0 < columnToSet then row.wideDisplayCharacterStartingAt (columnToSet - 1) else .ok false)
      if newWidth ≤ 0 then
        storeInColumn rules (if wasExtraColForWideChar then columnToSet - 1 else columnToSet) codePoint
      else
        if wasExtraColForWideChar then setCharFuel rules fuel (columnToSet - 1) space style
        let row ← get
        let overwritingWideCharInNextColumn ← liftResult
          (if newWidth = 2 then row.wideDisplayCharacterStartingAt (columnToSet + 1) else .ok false)
        if overwritingWideCharInNextColumn then setCharFuel rules fuel (columnToSet + 1) space style
        storeInColumn rules columnToSet codePoint

def setChar (rules : RowRules) (columnToSet : Int) (codePoint : Nat) (style : Style) : RowM Unit :=
  setCharFuel rules 3 columnToSet codePoint style

/-- The loop of `copyInterval` from index `i` to `x2`; `chars` is `sourceChars` from `i` on. When
    the row is copied onto itself its styles are read as they are by then. -/
def copyLoop (rules : RowRules) (line : TerminalRow) (same : Bool) (x2 : Int) :
    List Nat → Nat → Bool → Int → Int → Nat → RowM Unit
  | [], i, _, _, _, _ => if i < x2 then throw .indexOutOfBounds else pure ()
  | c :: chars, i, startingFromSecondHalfOfWideChar, sourceX1, destinationX, latestNonCombiningWidth =>
    if i < x2 then
      if isHighSurrogate c then
        match chars with
        | [] => throw .indexOutOfBounds
        | d :: chars => do
          let codePoint := if startingFromSecondHalfOfWideChar then space else toCodePoint c d
          let w := WcWidth.width codePoint
          let step : Nat := if 0 < w then latestNonCombiningWidth else 0
          let row ← get
          let style ← getStyle (if same then row else line) (sourceX1 + step)
          setChar rules (destinationX + step) codePoint style
          copyLoop rules line same x2 chars (i + 2) false (sourceX1 + step) (destinationX + step)
            (if 0 < w then w else latestNonCombiningWidth)
      else do
        let codePoint := if startingFromSecondHalfOfWideChar then space else c
        let w := WcWidth.width codePoint
        let step : Nat := if 0 < w then latestNonCombiningWidth else 0
        let row ← get
        let style ← getStyle (if same then row else line) (sourceX1 + step)
        setChar rules (destinationX + step) codePoint style
        copyLoop rules line same x2 chars (i + 1) false (sourceX1 + step) (destinationX + step)
          (if 0 < w then w else latestNonCombiningWidth)
    else pure ()

/-- `line` is the source row as it is at the call; `same` says that it is this row itself. -/
def copyInterval (rules : RowRules) (line : TerminalRow) (same : Bool) (sourceX1 sourceX2 destinationX : Int) :
    RowM Unit := do
  modify fun row => { row with
    mHasNonOneWidthOrSurrogateChars :=
      row.mHasNonOneWidthOrSurrogateChars || line.mHasNonOneWidthOrSurrogateChars }
  let x1 ← liftResult (line.findStartOfColumn sourceX1)
  let x2 ← liftResult (line.findStartOfColumn sourceX2)
  let startingFromSecondHalfOfWideChar ← liftResult
    (if 0 < sourceX1 then line.wideDisplayCharacterStartingAt (sourceX1 - 1) else .ok false)
  copyLoop rules line same x2 (line.mText.drop x1.toNat) x1.toNat startingFromSecondHalfOfWideChar
    sourceX1 destinationX 0

end TerminalRow
