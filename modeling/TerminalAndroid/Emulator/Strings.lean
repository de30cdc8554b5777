import TerminalAndroid.Emulator.Colors
import TerminalAndroid.Emulator.KeyHandler

open Java Utf16

namespace TerminalEmulator

def appendCodePoint (b : Nat) : EmulatorM Unit := do
  if 0x10FFFF < b then throw (.illegalArgument "")
  else modify fun e => { e with mOSCOrDeviceControlArgs := e.mOSCOrDeviceControlArgs ++ toChars b }

/-- `text.split(";")`: empty parts at the end are dropped unless the text has no `;`. -/
def splitParts (text : List Nat) : List (List Nat) :=
  if ';'.toNat ∈ text then (text.splitOn ';'.toNat).rdropWhile List.isEmpty else [text]

/-- The characters that the pairs of digits of a name stand for; a pair that is no number is skipped. -/
def termcapName (host : Host) : List Nat → List Nat
  | c :: d :: part =>
    match (host.digit c 16), (host.digit d 16) with
    | some high, some low => (high * 16 + low) :: termcapName host part
    | _, _ => termcapName host part
  | _ => []

def answerTermcap (host : Host) (part : List Nat) (e : TerminalEmulator) : TerminalEmulator :=
  if part.length % 2 = 0 then
    let trans := termcapName host part
    let responseValue :=
      if trans = chars "Co" ∨ trans = chars "colors" then some (chars "256")
      else if trans = chars "TN" ∨ trans = chars "name" then some (chars "xterm")
      else KeyHandler.getCodeFromTermcap trans (e.isDecsetInternalBitSet decsetBitApplicationCursorKeys)
        (e.isDecsetInternalBitSet decsetBitApplicationKeypad)
    match responseValue with
    | none => e.write (chars "\x1bP0+r" ++ part ++ chars "\x1b\\")
    | some value =>
      let hexEncoded := value.flatMap fun c => (hexChars 2 c).map fun digit =>
        if 'a'.toNat ≤ digit then digit - 32 else digit
      e.write (chars "\x1bP1+r" ++ part ++ chars "=" ++ hexEncoded ++ chars "\x1b\\")
  else e

def doDeviceControl (host : Host) (b : Nat) : EmulatorM Unit := do
  if b = 92 then
    modify fun e =>
      let dcs := e.mOSCOrDeviceControlArgs
      let answered :=
        if (chars "$q").isPrefixOf dcs then
          if dcs = chars "$q\"p" then e.write (chars "\x1bP1$r64;1\"p\x1b\\") else e.finishSequence
        else if (chars "+q").isPrefixOf dcs then
          (splitParts (dcs.drop 2)).foldl (fun e part => answerTermcap host part e) e
        else e
      answered.finishSequence
  else
    let e ← get
    if maxOscStringLength < e.mOSCOrDeviceControlArgs.length then
      set { e with mOSCOrDeviceControlArgs := [] }.finishSequence
    else
      appendCodePoint b
      modify fun e => e.continueSequence e.mEscapeState

def doApc (b : Nat) (e : TerminalEmulator) : TerminalEmulator :=
  if b = 27 then e.continueSequence .apcEscape else e

def doApcEscape (b : Nat) (e : TerminalEmulator) : TerminalEmulator :=
  if b = 92 then e.finishSequence else e.continueSequence .apc

def collectOSCArgs (b : Nat) : EmulatorM Unit := do
  let e ← get
  if e.mOSCOrDeviceControlArgs.length < maxOscStringLength then
    appendCodePoint b
    modify fun e => e.continueSequence e.mEscapeState
  else set e.unknownSequence

/-- The number before the first `;` and the text after it; `none` for a character that is no digit. The number is an
    `int`. -/
def oscValue : List Nat → Int → Option (Int × List Nat)
  | [], value => some (value, [])
  | b :: text, value =>
    if b = ';'.toNat then some (value, text)
    else if '0'.toNat ≤ b ∧ b ≤ '9'.toNat then
      oscValue text (toInt ((if value < 0 then 0 else value * 10) + (b - '0'.toNat : Nat)))
    else none

/-- The loop over the pairs of a colour number and a specification, which sees one more `;` at the end of the text. The
    result is false when the pairs are given up. -/
def oscColors (host : Host) (textParameter : List Nat) : Nat → Nat → Int → Int → EmulatorM Bool
  | 0, _, _, _ => throw .stackOverflow
  | fuel + 1, i, colorIndex, parsingPairStart => do
    let endOfInput := i = textParameter.length
    let b := if endOfInput then ';'.toNat else textParameter.getD i 0
    let next (colorIndex parsingPairStart : Int) : EmulatorM Bool :=
      if endOfInput then pure true else oscColors host textParameter fuel (i + 1) colorIndex parsingPairStart
    if b = ';'.toNat then
      if parsingPairStart < 0 then next colorIndex (i + 1)
      else if colorIndex < 0 ∨ 255 < colorIndex then
        modify unknownSequence
        pure false
      else
        let spec ← liftResult (TerminalColors.substring textParameter parsingPairStart i)
        tryParseColor host colorIndex spec
        modify fun e => e.raise .onColorsChanged
        next (-1) (-1)
    else if 0 ≤ parsingPairStart then next colorIndex parsingPairStart
    else if '0'.toNat ≤ b ∧ b ≤ '9'.toNat then
      next (toInt ((if colorIndex < 0 then 0 else colorIndex * 10) + (b - '0'.toNat : Nat))) parsingPairStart
    else
      modify unknownSequence
      pure false

def charAt (text : List Nat) (index : Int) : EmulatorM Nat := readArray text index

def reportColor (value specialIndex : Int) (bellOrStringTerminator : List Nat) : EmulatorM Unit := do
  let e ← get
  let rgb ← readArray e.mColors.toList specialIndex
  let r := 65535 * ((rgb &&& 0x00FF0000) >>> 16).toNat / 255
  let g := 65535 * ((rgb &&& 0x0000FF00) >>> 8).toNat / 255
  let b := 65535 * (rgb &&& 0x000000FF).toNat / 255
  modify fun e => e.write (chars ("\x1b]" ++ toString value ++ ";rgb:") ++ hexChars 4 r ++ chars "/" ++ hexChars 4 g ++
    chars "/" ++ hexChars 4 b ++ bellOrStringTerminator)

def oscDynamicColors (host : Host) (value : Int) (textParameter bellOrStringTerminator : List Nat) :
    Nat → Int → Int → Int → EmulatorM Unit
  | 0, _, _, _ => throw .stackOverflow
  | fuel + 1, charIndex, lastSemiIndex, specialIndex => do
    let endOfInput := charIndex = textParameter.length
    let separator ← (if endOfInput then pure true else do pure (decide ((← charAt textParameter charIndex) = ';'.toNat)))
    if separator then
      let colorSpec ← liftResult (TerminalColors.substring textParameter lastSemiIndex charIndex)
      (if colorSpec = chars "?" then reportColor value specialIndex bellOrStringTerminator
      else do
        tryParseColor host specialIndex colorSpec
        modify fun e => e.raise .onColorsChanged)
      if endOfInput ∨ TextStyle.colorIndexCursor.toInt < specialIndex + 1 ∨ textParameter.length ≤ charIndex + 1 then
        pure ()
      else
        oscDynamicColors host value textParameter bellOrStringTerminator fuel (charIndex + 2) (charIndex + 1)
          (specialIndex + 1)
    else
      oscDynamicColors host value textParameter bellOrStringTerminator fuel (charIndex + 1) lastSemiIndex specialIndex

/-- The loop for the colours to reset. The `NumberFormatException` of a bad number is caught inside the loop, which goes
    on with the next character, also past the end of the text. -/
def oscResetColors (host : Host) (textParameter : List Nat) : Nat → Int → Int → EmulatorM Unit
  | 0, _, _ => throw .stackOverflow
  | fuel + 1, charIndex, lastIndex => do
    let endOfInput := charIndex = textParameter.length
    let separator ← (if endOfInput then pure true else do pure (decide ((← charAt textParameter charIndex) = ';'.toNat)))
    if separator then
      let text ← liftResult (TerminalColors.substring textParameter lastIndex charIndex)
      match host.parseInt 10 text with
      | none => oscResetColors host textParameter fuel (charIndex + 1) lastIndex
      | some colorToReset =>
        resetColor host colorToReset
        modify fun e => e.raise .onColorsChanged
        if endOfInput then pure ()
        else oscResetColors host textParameter fuel (charIndex + 2) (charIndex + 1)
    else oscResetColors host textParameter fuel (charIndex + 1) lastIndex

def selectionData (textParameter : List Nat) : List Nat :=
  if ';'.toNat ∈ textParameter then textParameter.drop (textParameter.idxOf ';'.toNat + 1) else textParameter

/-- The `switch` over the number; the result says whether `finishSequence` is still to be called. -/
def oscCommand (host : Host) (value : Int) (textParameter bellOrStringTerminator : List Nat) : EmulatorM Bool := do
  if value = 0 ∨ value = 1 ∨ value = 2 then
    modify fun e => e.setTitle (some textParameter)
    pure true
  else if value = 4 then oscColors host textParameter (textParameter.length + 1) 0 (-1) (-1)
  else if value = 10 ∨ value = 11 ∨ value = 12 then
    oscDynamicColors host value textParameter bellOrStringTerminator (textParameter.length + 1) 0 0
      (TextStyle.colorIndexForeground.toInt + (value - 10))
    pure true
  else if value = 52 then
    modify fun e =>
      match host.base64Decode (selectionData textParameter) with
      | some utf8 => e.raise (.onCopyTextToClipboard utf8)
      | none => e
    pure true
  else if value = 104 then
    (if textParameter = [] then modify fun e => { e with mColors := host.defaultColors }.raise .onColorsChanged
    else oscResetColors host textParameter (textParameter.length + 2) 0 0)
    pure true
  else if value = 110 ∨ value = 111 ∨ value = 112 then
    resetColor host (TextStyle.colorIndexForeground.toInt + (value - 110))
    modify fun e => e.raise .onColorsChanged
    pure true
  else if value = 119 then pure true
  else
    modify unknownParameter
    pure true

def doOscSetTextParameters (host : Host) (bellOrStringTerminator : List Nat) : EmulatorM Unit := do
  let e ← get
  match oscValue e.mOSCOrDeviceControlArgs (-1) with
  | none => set e.unknownSequence
  | some (value, textParameter) =>
    let finishes ← oscCommand host value textParameter bellOrStringTerminator
    if finishes then modify finishSequence

def doOsc (host : Host) (b : Nat) : EmulatorM Unit := do
  if b = 7 then doOscSetTextParameters host [7]
  else if b = 27 then modify fun e => e.continueSequence .oscEsc
  else collectOSCArgs b

def doOscEsc (host : Host) (b : Nat) : EmulatorM Unit := do
  if b = 92 then doOscSetTextParameters host [27, 92]
  else
    collectOSCArgs 27
    collectOSCArgs b
    modify fun e => e.continueSequence .osc

end TerminalEmulator
