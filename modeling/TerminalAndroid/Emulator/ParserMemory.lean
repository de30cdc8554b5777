import TerminalAndroid.Emulator.Runs
import TerminalAndroid.Exec.Stays

open Java Utf16 Exec Std.Do

set_option mvcgen.warning false

namespace TerminalEmulator

def MemoryBounded (e : TerminalEmulator) : Prop := e.mOSCOrDeviceControlArgs.length ≤ 8194 ∧ e.mTitleStack.length ≤ 20

variable {host : Host} {e : TerminalEmulator} {α : Type}

@[spec]
theorem onScreen_bounded (m : BufferM α) : Stays MemoryBounded (onScreen m) := by
  apply stays_iff.mpr
  intro e a e' bounded ran
  obtain ⟨buffer, -, rfl⟩ := zoom_inv ran
  exact bounded

@[spec]
theorem onMain_bounded (m : BufferM α) : Stays MemoryBounded (onMain m) := by
  apply stays_iff.mpr
  intro e a e' bounded ran
  obtain ⟨buffer, -, rfl⟩ := zoom_inv ran
  exact bounded

@[spec]
theorem liftResult_bounded (result : Except Throwable α) : Stays MemoryBounded (liftResult result) := by
  mvcgen [liftResult]

@[spec]
theorem readArray_bounded (array : List α) (index : Int) : Stays MemoryBounded (readArray array index) := by
  mvcgen [readArray]

@[spec]
theorem writeArray_bounded (array : List α) (index : Int) (value : α) : Stays MemoryBounded (writeArray array index value) := by
  mvcgen [writeArray]

@[spec]
theorem nextTabStopLoop_bounded (count i n) : Stays MemoryBounded (nextTabStopLoop e count i n) := by
  induction count generalizing i n with
  | zero => mvcgen [nextTabStopLoop]
  | succ count ih => mvcgen [nextTabStopLoop, ih]

@[spec]
theorem previousTabStopLoop_bounded (i n) : Stays MemoryBounded (previousTabStopLoop e i n) := by
  induction i generalizing n with
  | zero => mvcgen [previousTabStopLoop]
  | succ count ih => mvcgen [previousTabStopLoop, ih]

@[spec]
theorem scrollUp_bounded (count) : Stays MemoryBounded (scrollUp count) := by
  induction count with
  | zero => mvcgen [scrollUp]
  | succ count ih => mvcgen [scrollUp, scrollDownOneLine, ih]


@[spec]
theorem fillRow_bounded (selective keepVisualAttributes fillChar style row count col) :
    Stays MemoryBounded (fillRow selective keepVisualAttributes fillChar style row count col) := by
  induction count generalizing col with
  | zero => mvcgen [fillRow]
  | succ count ih => mvcgen [fillRow, ih]

@[spec]
theorem fillRows_bounded (selective keepVisualAttributes fillChar style left right count row) :
    Stays MemoryBounded (fillRows selective keepVisualAttributes fillChar style left right count row) := by
  induction count generalizing row with
  | zero => mvcgen [fillRows]
  | succ count ih => mvcgen [fillRows, ih]

@[spec]
theorem changeAttributesLoop_bounded (reverse top left bottom right count i) :
    Stays MemoryBounded (changeAttributesLoop reverse top left bottom right count i) := by
  induction count generalizing i with
  | zero => mvcgen [changeAttributesLoop]
  | succ count ih => mvcgen [changeAttributesLoop, argOr, argAt, ih]

@[spec]
theorem emitCodePoint_bounded (b) : Stays MemoryBounded (emitCodePoint b) := by
  mvcgen [emitCodePoint, wrapLine, placeCodePoint, scrollDownOneLine]

@[spec]
theorem repeatCodePoint_bounded (b count) : Stays MemoryBounded (repeatCodePoint b count) := by
  induction count with
  | zero => mvcgen [repeatCodePoint]
  | succ count ih => mvcgen [repeatCodePoint, ih]

theorem MemoryBounded.ite {p : Prop} [Decidable p] {e' : TerminalEmulator} (yes : e.MemoryBounded) (no : e'.MemoryBounded) :
    (if p then e else e').MemoryBounded := by
  split
  · exact yes
  · exact no

theorem MemoryBounded.choose {p : Prop} [Decidable p] {f g : TerminalEmulator → TerminalEmulator} (yes : (f e).MemoryBounded)
    (no : (g e).MemoryBounded) : ((if p then f else g) e).MemoryBounded := by
  split
  · exact yes
  · exact no

theorem MemoryBounded.parseArg (b : Nat) (bounded : e.MemoryBounded) : (parseArg b e).MemoryBounded := by
  simp only [TerminalEmulator.parseArg]
  repeat' split
  all_goals exact bounded

theorem MemoryBounded.renditionCode (code : Int) (bounded : e.MemoryBounded) : (renditionCode code e).MemoryBounded := by
  repeat' first | exact bounded | apply MemoryBounded.ite

theorem MemoryBounded.setTitle (title : Option (List Nat)) (bounded : e.MemoryBounded) : (e.setTitle title).MemoryBounded :=
  MemoryBounded.ite bounded bounded

theorem MemoryBounded.restoreMainCursor (resized : Bool) (bounded : e.MemoryBounded) : (restoreMainCursor resized e).MemoryBounded :=
  MemoryBounded.ite bounded bounded

theorem MemoryBounded.clampArgIndex (bounded : e.MemoryBounded) : (clampArgIndex e).MemoryBounded := MemoryBounded.ite bounded bounded

theorem MemoryBounded.answerTermcap (part : List Nat) (bounded : e.MemoryBounded) : (answerTermcap host part e).MemoryBounded := by
  simp only [TerminalEmulator.answerTermcap]
  repeat' split
  all_goals exact bounded

theorem MemoryBounded.pushTitle (bounded : e.MemoryBounded) : e.pushTitle.MemoryBounded := by
  apply And.intro bounded.1
  change (if 20 < (e.mTitleStack ++ [e.mTitle]).length then _ else _ : List _).length ≤ 20
  have := bounded.2
  split
  · rw [List.length_drop, List.length_append, List.length_singleton]
    omega
  · omega

theorem MemoryBounded.popTitle (bounded : e.MemoryBounded) : e.popTitle.MemoryBounded := by
  unfold TerminalEmulator.popTitle
  split
  · apply MemoryBounded.setTitle
    apply And.intro bounded.1
    change e.mTitleStack.dropLast.length ≤ 20
    rw [List.length_dropLast]
    exact le_trans (Nat.sub_le _ _) bounded.2
  · exact bounded

theorem MemoryBounded.windowManipulation (bounded : e.MemoryBounded) : (windowManipulation e).MemoryBounded := by
  repeat' first | exact bounded | exact bounded.pushTitle | exact bounded.popTitle | apply MemoryBounded.ite

@[spec]
theorem switchScreen_bounded (setting) : Stays MemoryBounded (switchScreen setting) := by
  cases setting <;> mvcgen [switchScreen, resizeScreen]
  all_goals exact MemoryBounded.restoreMainCursor _ ‹_›

@[spec]
theorem doDecSetOrReset_bounded (setting externalBit) : Stays MemoryBounded (doDecSetOrReset host setting externalBit) := by
  unfold doDecSetOrReset
  generalize mapDecSetBitToInternalBit externalBit = mapped
  cases setting <;> cases mapped <;> mvcgen [blockClear]

@[spec]
theorem doDecSetOrResetArgs_bounded (setting count i) : Stays MemoryBounded (doDecSetOrResetArgs host setting count i) := by
  induction count generalizing i with
  | zero => mvcgen [doDecSetOrResetArgs]
  | succ count ih => mvcgen [doDecSetOrResetArgs, argAt, ih]

@[spec]
theorem saveOrRecallArgs_bounded (saving count i) : Stays MemoryBounded (saveOrRecallArgs host saving count i) := by
  induction count generalizing i with
  | zero => mvcgen [saveOrRecallArgs]
  | succ count ih => mvcgen [saveOrRecallArgs, argAt, ih]

@[spec]
theorem selectGraphicRenditionLoop_bounded (count i) : Stays MemoryBounded (selectGraphicRenditionLoop count i) := by
  induction count generalizing i with
  | zero => mvcgen [selectGraphicRenditionLoop]
  | succ count ih =>
    mvcgen [selectGraphicRenditionLoop, renditionArg, extendedColor, argAt, argOr, ih]
    all_goals repeat' first | assumption | exact MemoryBounded.renditionCode _ ‹_› | apply MemoryBounded.choose | apply MemoryBounded.ite

@[spec]
theorem doCsi_bounded (b) : Stays MemoryBounded (doCsi b) := by
  mvcgen [doCsi, insertCharacters, nextTabStop, eraseInDisplay, eraseInLine, insertLines, deleteLines, deleteCharacters,
    scrollDown, eraseCharacters, setTabStop, clearTabStops, selectGraphicRendition, blockClear]
  all_goals
    repeat' first | assumption | exact MemoryBounded.windowManipulation ‹_› | exact MemoryBounded.parseArg _ ‹_› | apply MemoryBounded.ite

@[spec]
theorem doCsiQuestionMark_bounded (b : Nat) : Stays MemoryBounded (doCsiQuestionMark host b) := by
  mvcgen [doCsiQuestionMark, selectiveErase]
  all_goals repeat' first | assumption | exact MemoryBounded.parseArg _ ‹_› | apply MemoryBounded.ite

@[spec]
theorem doCsiDollar_bounded (b : Nat) : Stays MemoryBounded (doCsiDollar b) := by
  mvcgen [doCsiDollar, copyRectangularArea, fillRectangularArea, changeAttributes]
  all_goals exact MemoryBounded.clampArgIndex ‹_›

@[spec]
theorem doLinefeed_bounded : Stays MemoryBounded doLinefeed := by
  mvcgen [doLinefeed, scrollDownOneLine]

@[spec]
theorem reset_bounded : Stays MemoryBounded (reset host) := by
  mvcgen [reset, setDefaultTabStops]

theorem MemoryBounded.appended (b : Nat) (bounded : e.MemoryBounded) (room : ¬ maxOscStringLength < e.mOSCOrDeviceControlArgs.length) :
    { e with mOSCOrDeviceControlArgs := e.mOSCOrDeviceControlArgs ++ toChars b }.MemoryBounded := by
  apply And.intro _ bounded.2
  change (e.mOSCOrDeviceControlArgs ++ toChars b).length ≤ 8194
  have two : (toChars b).length ≤ 2 := by
    unfold toChars
    split <;> simp
  rw [List.length_append]
  unfold maxOscStringLength at room
  omega

theorem MemoryBounded.answerTermcaps (parts : List (List Nat)) (bounded : e.MemoryBounded) :
    (parts.foldl (fun e part => TerminalEmulator.answerTermcap host part e) e).MemoryBounded := by
  induction parts generalizing e with
  | nil => exact bounded
  | cons part parts ih => exact ih (bounded.answerTermcap part)

@[spec]
theorem doDeviceControl_bounded (b : Nat) : Stays MemoryBounded (doDeviceControl host b) := by
  mvcgen [doDeviceControl, appendCodePoint]
  · repeat' first | assumption | exact MemoryBounded.answerTermcaps _ ‹_› | apply MemoryBounded.ite
  · have bounded : MemoryBounded _ := ‹_›
    exact ⟨Nat.zero_le _, bounded.2⟩
  · exact MemoryBounded.appended b ‹_› ‹_›

@[spec]
theorem collectOSCArgs_bounded (b : Nat) : Stays MemoryBounded (collectOSCArgs b) := by
  mvcgen [collectOSCArgs, appendCodePoint]
  exact MemoryBounded.appended b ‹_› (Nat.lt_asymm ‹_›)

@[spec]
theorem tryParseColor_bounded (index text) : Stays MemoryBounded (tryParseColor host index text) := by
  mvcgen [tryParseColor, setCurrentColor]

@[spec]
theorem resetColor_bounded (index : Int) : Stays MemoryBounded (resetColor host index) := by
  mvcgen [resetColor, setCurrentColor]

@[spec]
theorem oscColors_bounded (text fuel i color start) : Stays MemoryBounded (oscColors host text fuel i color start) := by
  induction fuel generalizing i color start with
  | zero => mvcgen [oscColors]
  | succ fuel ih => mvcgen [oscColors, ih]

@[spec]
theorem oscDynamicColors_bounded (value text stop fuel i last index) :
    Stays MemoryBounded (oscDynamicColors host value text stop fuel i last index) := by
  induction fuel generalizing i last index with
  | zero => mvcgen [oscDynamicColors]
  | succ fuel ih => mvcgen [oscDynamicColors, charAt, reportColor, ih]

@[spec]
theorem oscResetColors_bounded (text fuel i last) : Stays MemoryBounded (oscResetColors host text fuel i last) := by
  induction fuel generalizing i last with
  | zero => mvcgen [oscResetColors]
  | succ fuel ih => mvcgen [oscResetColors, charAt, ih]

@[spec]
theorem doOscSetTextParameters_bounded (stop) : Stays MemoryBounded (doOscSetTextParameters host stop) := by
  mvcgen [doOscSetTextParameters, oscCommand]
  · exact MemoryBounded.setTitle _ ‹_›
  · dsimp +zetaDelta only
    split <;> assumption

@[spec]
theorem doOsc_bounded (b : Nat) : Stays MemoryBounded (doOsc host b) := by
  mvcgen [doOsc]

@[spec]
theorem doEsc_bounded (b : Nat) : Stays MemoryBounded (doEsc host b) := by
  mvcgen [doEsc, backIndex, forwardIndex, resetToInitialState, nextLine, setTabStop, reverseIndex, blockClear]
  all_goals
    have bounded : MemoryBounded _ := ‹_›
    exact ⟨Nat.zero_le _, bounded.2⟩

@[spec]
theorem doEscapeState_bounded (b : Nat) : Stays MemoryBounded (doEscapeState host b) := by
  mvcgen [doEscapeState, doEscPound, insertColumns, deleteColumns, doOscEsc, blockClear]
  all_goals repeat' first | assumption | exact MemoryBounded.parseArg _ ‹_› | apply MemoryBounded.ite

@[spec]
theorem processCodePoint_bounded (b : Nat) : Stays MemoryBounded (processCodePoint host b) := by
  mvcgen [processCodePoint, doCodePoint, backspace, nextTabStop]
  all_goals repeat' first | assumption | apply MemoryBounded.ite

theorem processByte_bounded (byte : UInt8) : Stays MemoryBounded (processByte host byte) := by
  mvcgen [processByte, continueUtf8, resynchronize, startUtf8, storeUtf8Byte, finishUtf8]

theorem resize_bounded (columns rows width height) : Stays MemoryBounded (resize columns rows width height) := by
  mvcgen [resize, resizeColumns, setDefaultTabStops, arraycopy, resizeScreen]

theorem Reaches.bounded {allows : TerminalEmulator → UInt8 → Prop} (reached : Reaches host allows e) : e.MemoryBounded := by
  induction reached with
  | create wide high created =>
    obtain ⟨mainBuffer, altBuffer, -, -, ran⟩ := create_inv created
    exact stays_iff.mp reset_bounded _ _ _ ⟨Nat.zero_le _, Nat.zero_le _⟩ ran
  | process _ _ ran ih => exact stays_iff.mp (processByte_bounded _) _ _ _ ih ran
  | resize _ _ _ ran ih => exact stays_iff.mp (resize_bounded _ _ _ _) _ _ _ ih ran

/-- The parser's memory is bounded between bytes, whatever was appended. -/
theorem parser_memory_bounded (reached : Reaches host (fun _ _ => True) e) :
    e.mOSCOrDeviceControlArgs.length ≤ 8194 ∧ e.mTitleStack.length ≤ 20 ∧
      (0 ≤ e.mUtf8ToFollow ∧ e.mUtf8ToFollow ≤ 3) ∧ (0 ≤ e.mUtf8Index ∧ e.mUtf8Index ≤ 3) ∧
      (0 < e.mUtf8Index → 0 < e.mUtf8ToFollow) := by
  obtain ⟨args, titles⟩ := reached.bounded
  have inside : (e.mUtf8ToFollow = 0 ∧ e.mUtf8Index = 0) ∨
      (0 < e.mUtf8ToFollow ∧ 0 < e.mUtf8Index ∧ e.mUtf8Index + e.mUtf8ToFollow ≤ 4) := reached.decoder_valid.inside
  apply And.intro args
  apply And.intro titles
  omega

theorem parser_memory_bounded_title : ∃ e, fed 10 4 [27, 93, 48, 59, 97, 0xC3] = .ok e ∧
    e.mOSCOrDeviceControlArgs.length = 3 ∧ e.mUtf8Index = 1 ∧ e.mUtf8ToFollow ≤ 3 := by
  obtain ⟨e, ran, state⟩ := exists_of_toOption (show (fed 10 4 [27, 93, 48, 59, 97, 0xC3]).toOption.map
    (fun e => (e.mOSCOrDeviceControlArgs.length, e.mUtf8Index)) = some (3, 1) by decide +kernel)
  have reached := fed_reaches (by decide) (by decide) (fun _ _ _ => trivial) ran
  exact ⟨e, ran, congrArg Prod.fst state, congrArg Prod.snd state, (parser_memory_bounded reached).2.2.1.2⟩

end TerminalEmulator
