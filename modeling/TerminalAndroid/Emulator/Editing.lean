import TerminalAndroid.Emulator.Ready

open Java Exec

def TerminalCore.Contains (c : TerminalCore) (x y w h : Int) : Prop :=
  (0 ≤ x ∧ 0 ≤ w ∧ x + w ≤ c.mColumns) ∧ 0 ≤ y ∧ 0 ≤ h ∧ y + h ≤ c.mRows

def TerminalCore.Covers (c : TerminalCore) (row col : Int) : Prop :=
  (-c.screen.mActiveTranscriptRows ≤ row ∧ row < c.mRows) ∧ 0 ≤ col ∧ col < c.mColumns

namespace TerminalEmulator

variable {e : TerminalEmulator} {host : Host}

def Draws (p : Picture) (e e' : TerminalEmulator) : Prop :=
  ∃ buffer, e' = e.drawn buffer ∧ TerminalBuffer.Paints e.screen buffer p

section

variable (ready : e.Ready) (narrow : e.screen.Narrow) {sx sy w h dx dy x y w' h' : Int}
include ready narrow

theorem draws_copy (source : e.Contains sx sy w h) (target : e.Contains dx dy w h) :
    Ends (fun _ => Draws (e.screen.picture.copy sx sy w h dx dy) e)
      (onScreen (TerminalBuffer.blockCopy sx sy w h dx dy)) e := by
  obtain ⟨⟨left, width, right⟩, top, height, bottom⟩ := source
  obtain ⟨⟨left', -, right'⟩, top', -, bottom'⟩ := target
  rw [← ready.screenColumns] at right right'
  rw [← ready.screenRows] at bottom bottom'
  exact ends_onScreen (ready.formed.paints_blockCopy narrow left top width height left' top' right bottom right' bottom')

omit narrow in
theorem Draws.set {p : Picture} {e₁ : TerminalEmulator} (draws : Draws p e e₁) (block : e.Contains x y w h) (style : Style) :
    Ends (fun _ => Draws (p.fill x y w h .blank style) e)
      (onScreen (TerminalBuffer.blockSet x y w h TerminalRow.space style)) e₁ := by
  obtain ⟨buffer, rfl, paints⟩ := draws
  obtain ⟨⟨left, -, right⟩, top, -, bottom⟩ := block
  rw [← ready.screenColumns, ← paints.columns] at right
  rw [← ready.screenRows, ← paints.screenRows] at bottom
  have set := paints.formed.paints_blockSet paints.narrow (show TerminalRow.space.isValidChar by decide) (by decide) left
    right top bottom style
  rw [← drawn_screen e buffer] at set
  refine (ends_onScreen set).mono ?_
  rintro - - ⟨buffer', rfl, paints'⟩
  rw [drawn_screen] at paints'
  exact ⟨buffer', drawn_drawn e buffer buffer', paints.fill paints'⟩

theorem draws_copy_set (source : e.Contains sx sy w h) (target : e.Contains dx dy w h) (block : e.Contains x y w' h')
    (style : Style) :
    Ends (fun _ => Draws ((e.screen.picture.copy sx sy w h dx dy).fill x y w' h' .blank style) e)
      (do onScreen (TerminalBuffer.blockCopy sx sy w h dx dy)
          onScreen (TerminalBuffer.blockSet x y w' h' TerminalRow.space style)) e :=
  Ends.bind (draws_copy ready narrow source target) fun _ _ draws => draws.set ready block style

theorem draws_copy_clear (source : e.Contains sx sy w h) (target : e.Contains dx dy w h) (block : e.Contains x y w' h') :
    Ends (fun _ => Draws ((e.screen.picture.copy sx sy w h dx dy).fill x y w' h' .blank e.getStyle) e)
      (do onScreen (TerminalBuffer.blockCopy sx sy w h dx dy); blockClear x y w' h') e := by
  refine Ends.bind (draws_copy ready narrow source target) fun _ e₁ draws => Ends.get_bind ?_
  have same : e₁.getStyle = e.getStyle := by
    obtain ⟨buffer, rfl, -⟩ := draws
    rfl
  rw [same]
  exact draws.set ready block e.getStyle

end

end TerminalEmulator

inductive Edit
  | insertCharacters
  | deleteCharacters
  | insertLines
  | deleteLines
  | insertColumns
  | deleteColumns
  deriving DecidableEq, Repr

namespace Edit

open TerminalEmulator

variable {e : TerminalEmulator} {host : Host}

def run : Edit → EmulatorM Unit
  | insertCharacters => TerminalEmulator.insertCharacters
  | deleteCharacters => TerminalEmulator.deleteCharacters
  | insertLines => TerminalEmulator.insertLines
  | deleteLines => TerminalEmulator.deleteLines
  | insertColumns => TerminalEmulator.insertColumns
  | deleteColumns => TerminalEmulator.deleteColumns

def sequence : Edit → EscapeState × Nat
  | insertCharacters => (.csi, '@'.toNat)
  | deleteCharacters => (.csi, 'P'.toNat)
  | insertLines => (.csi, 'L'.toNat)
  | deleteLines => (.csi, 'M'.toNat)
  | insertColumns => (.csiSingleQuote, 125)
  | deleteColumns => (.csiSingleQuote, '~'.toNat)

def room (e : TerminalEmulator) : Edit → Int
  | insertCharacters | deleteCharacters => e.mColumns - e.mCursorCol
  | insertLines | deleteLines => e.mBottomMargin - e.mCursorRow
  | insertColumns | deleteColumns => e.mRightMargin - e.mCursorCol

def count (e : TerminalEmulator) (op : Edit) : Int := min (e.getArg0 1) (op.room e)

def picture (e : TerminalEmulator) (op : Edit) : Picture :=
  let k := op.count e
  let rest := op.room e - k
  let row := e.mCursorRow
  let col := e.mCursorCol
  let p := e.screen.picture
  match op with
  | insertCharacters => (p.copy col row rest 1 (col + k) row).fill col row k 1 .blank e.getStyle
  | deleteCharacters => (p.copy (col + k) row rest 1 col row).fill (col + rest) row k 1 .blank e.getStyle
  | insertLines => (p.copy 0 row e.mColumns rest 0 (row + k)).fill 0 row e.mColumns k .blank e.getStyle
  | deleteLines => (p.copy 0 (row + k) e.mColumns rest 0 row).fill 0 (row + rest) e.mColumns k .blank e.getStyle
  | insertColumns => (p.copy col 0 rest e.mRows (col + k) 0).fill col 0 k e.mRows .blank e.getStyle
  | deleteColumns => p.copy (col + k) 0 rest e.mRows col 0

theorem count_range (op : Edit) (room : 0 < op.room e) : 1 ≤ op.count e ∧ op.count e ≤ op.room e := by
  have positive := e.getArg0_pos
  unfold count
  omega

theorem ends_run (op : Edit) (ready : e.Ready) (narrow : e.screen.Narrow) (room : 0 < op.room e) :
    Ends (fun _ e' => TerminalBuffer.Paints e.screen e'.screen (op.picture e)) op.run e := by
  obtain ⟨row, col⟩ := ready.toOnScreen
  have bottom := ready.bottom
  have right := ready.right
  have shown : ∀ {p : Picture} {e₀ e' : TerminalEmulator}, e₀.screen = e.screen → Draws p e₀ e' →
      TerminalBuffer.Paints e.screen e'.screen p := by
    rintro p e₀ - same ⟨buffer, rfl, paints⟩
    rw [drawn_screen, ← same]
    exact paints
  have ready₀ : ({ e with mAboutToAutoWrap := false } : TerminalEmulator).Ready := { ready with }
  have positive := e.getArg0_pos
  have positive₀ := ({ e with mAboutToAutoWrap := false } : TerminalEmulator).getArg0_pos
  cases op <;> simp only [Edit.room] at room
  case insertCharacters =>
    refine Ends.modify_bind (Ends.get_bind ((draws_copy_clear ready₀ narrow ?_ ?_ ?_).mono fun _ e' => shown rfl)) <;>
      unfold TerminalCore.Contains <;> dsimp only <;> omega
  case deleteCharacters =>
    refine Ends.modify_bind (Ends.get_bind ((draws_copy_clear ready₀ narrow ?_ ?_ ?_).mono fun _ e' => shown rfl)) <;>
      unfold TerminalCore.Contains <;> dsimp only <;> omega
  case insertLines =>
    refine Ends.get_bind ((draws_copy_clear ready narrow ?_ ?_ ?_).mono fun _ e' => shown rfl) <;>
      unfold TerminalCore.Contains <;> omega
  case deleteLines =>
    refine Ends.modify_bind (Ends.get_bind ((draws_copy_clear ready₀ narrow ?_ ?_ ?_).mono fun _ e' => shown rfl)) <;>
      unfold TerminalCore.Contains <;> dsimp only <;> omega
  case insertColumns =>
    refine Ends.get_bind ((draws_copy_clear ready narrow ?_ ?_ ?_).mono fun _ e' => shown rfl) <;>
      unfold TerminalCore.Contains <;> omega
  case deleteColumns =>
    refine Ends.get_bind ((draws_copy ready narrow ?_ ?_).mono fun _ e' => shown rfl) <;>
      unfold TerminalCore.Contains <;> omega

theorem run_doEscapeState (op : Edit) (received : e.mEscapeState = op.sequence.1) :
    (doEscapeState host op.sequence.2).run e = op.run.run e := by
  unfold doEscapeState
  simp only [EStateM.run_bind, EStateM.run_get, received]
  cases op <;> rfl

theorem ends_sequence (op : Edit) {post : TerminalCore → Prop} (received : e.mEscapeState = op.sequence.1)
    (inner : Ends (fun _ e' => post e'.toTerminalCore) op.run { e with mContinueSequence := false }) :
    Ends (fun _ e' => post e'.toTerminalCore) (processCodePoint host op.sequence.2) e := by
  refine ends_processCodePoint ?_ ?_ ?_
  · rw [Ignoring, received]
    cases op <;> decide
  · cases op <;> decide
  · exact Ends.congr (run_doEscapeState op received) inner

def result (e : TerminalEmulator) (text : Int → Int → Option Cell) (op : Edit) (r c : Int) : Option Cell :=
  let k := op.count e
  match op with
  | insertCharacters => if r = e.mCursorRow then opened (text r) (some .blank) e.mCursorCol e.mColumns k c else text r c
  | deleteCharacters => if r = e.mCursorRow then closed (text r) (some .blank) e.mCursorCol e.mColumns k c else text r c
  | insertLines => opened (text · c) (some .blank) e.mCursorRow e.mBottomMargin k r
  | deleteLines => closed (text · c) (some .blank) e.mCursorRow e.mBottomMargin k r
  | insertColumns =>
    if 0 ≤ r ∧ r < e.mRows then opened (text r) (some .blank) e.mCursorCol e.mColumns k c else text r c
  | deleteColumns =>
    if 0 ≤ r ∧ r < e.mRows then closed (text r) (some .blank) e.mCursorCol e.mColumns k c else text r c

theorem room_pos (op : Edit) (ready : e.Ready) (right : e.mRightMargin = e.mColumns)
    (above : op = insertLines ∨ op = deleteLines → e.mCursorRow < e.mBottomMargin) : 0 < op.room e := by
  obtain ⟨row, col⟩ := ready.toOnScreen
  cases op <;> simp only [Edit.room, reduceCtorEq, false_or, or_false, or_self, forall_const] at above ⊢ <;> omega

theorem picture_text (op : Edit) (ready : e.Ready) (right : e.mRightMargin = e.mColumns)
    (above : op = insertLines ∨ op = deleteLines → e.mCursorRow < e.mBottomMargin) {r c : Int} (covers : e.Covers r c) :
    (op.picture e).text r c =
      if op = deleteColumns ∧ 0 ≤ r ∧ e.mColumns - op.count e ≤ c then e.screen.picture.text r c
      else op.result e e.screen.picture.text r c := by
  obtain ⟨⟨lower, upper⟩, left, inside⟩ := covers
  obtain ⟨row, col⟩ := ready.toOnScreen
  obtain ⟨one, most⟩ := op.count_range (op.room_pos ready right above)
  cases op <;> simp only [Edit.room] at most <;>
    simp only [picture, result, Edit.room, reduceCtorEq, false_and, if_false, true_and]
  case insertCharacters =>
    rw [Picture.insertColumns_text one most]
    exact if_congr (by omega) rfl rfl
  case deleteCharacters =>
    rw [Picture.deleteColumns_text one most]
    exact if_congr (by omega) rfl rfl
  case insertLines => exact (Picture.insertLines_sameAt one most left inside).1
  case deleteLines => exact (Picture.deleteLines_sameAt one most left inside).1
  case insertColumns =>
    rw [← right, Picture.insertColumns_text one most]
    exact if_congr (by omega) rfl rfl
  case deleteColumns =>
    have row : 0 + (r - 0) = r := by omega
    have column : e.mCursorCol + count e deleteColumns + (c - e.mCursorCol) = c + count e deleteColumns := by omega
    simp only [Picture.copy, Picture.InBlock, closed, row, column, right] at most ⊢
    split_ifs <;> first | rfl | omega

def Moves (op : Edit) (e e' : TerminalEmulator) : Prop :=
  ∀ r c, e.Covers r c → e'.screen.picture.text r c = op.result e e.screen.picture.text r c

theorem exists_text (host : Host) (op : Edit) (ready : e.Ready) (narrow : e.screen.Narrow)
    (right : e.mRightMargin = e.mColumns)
    (above : op = insertLines ∨ op = deleteLines → e.mCursorRow < e.mBottomMargin)
    (received : e.mEscapeState = op.sequence.1) :
    ∃ e', (processCodePoint host op.sequence.2).run e = .ok () e' ∧ ∀ r c, e.Covers r c →
      e'.screen.picture.text r c =
        if op = deleteColumns ∧ 0 ≤ r ∧ e.mColumns - op.count e ≤ c then e.screen.picture.text r c
        else op.result e e.screen.picture.text r c := by
  have paints := @ends_run { e with mContinueSequence := false } op { ready with } narrow (op.room_pos ready right above)
  obtain ⟨⟨⟩, e', ran, paints⟩ := @ends_sequence e host op (fun c => TerminalBuffer.Paints e.screen c.screen (op.picture e))
    received paints
  refine ⟨e', ran, fun r c covers => ?_⟩
  obtain ⟨⟨lower, upper⟩, left, most⟩ := id covers
  rw [(paints.shows r c lower (by rw [ready.screenRows]; exact upper) left (by rw [ready.screenColumns]; exact most)).1,
    op.picture_text ready right above covers]

/-- The operations on a screen without wide characters do what they are for, but for DECDC, which leaves the last
    columns as they are. -/
theorem edit_moves_iff (host : Host) (op : Edit) (e : TerminalEmulator) (ready : e.Ready) (narrow : e.screen.Narrow)
    (right : e.mRightMargin = e.mColumns)
    (above : op = insertLines ∨ op = deleteLines → e.mCursorRow < e.mBottomMargin)
    (received : e.mEscapeState = op.sequence.1) :
    ∃ e', (processCodePoint host op.sequence.2).run e = .ok () e' ∧
      (op.Moves e e' ↔ (op = deleteColumns → ∀ r c, 0 ≤ r → r < e.mRows → e.mColumns - op.count e ≤ c → c < e.mColumns →
        e.screen.picture.text r c = some .blank)) := by
  have room := op.room_pos ready right above
  obtain ⟨row, col⟩ := ready.toOnScreen
  obtain ⟨e', ran, text⟩ := op.exists_text host ready narrow right above received
  refine ⟨e', ran, ?_⟩
  have last : op = deleteColumns → ∀ r c, 0 ≤ r → r < e.mRows → e.mColumns - op.count e ≤ c → c < e.mColumns →
      op.result e e.screen.picture.text r c = some .blank := by
    rintro rfl r c lower upper behind most
    have counted := (deleteColumns.count_range room).2
    simp only [Edit.room, right] at counted
    rw [result, if_pos ⟨lower, upper⟩, closed, if_neg (by omega), if_neg (by omega)]
  constructor
  · intro moves columns r c lower upper behind most
    have covers : e.Covers r c := ⟨⟨by have := ready.formed.active_nonneg; omega, upper⟩, by
      have counted := (op.count_range room).2
      rw [columns] at counted behind
      simp only [Edit.room, right] at counted
      omega, most⟩
    have shown := text r c covers
    rw [if_pos ⟨columns, lower, behind⟩, moves r c covers, last columns r c lower upper behind most] at shown
    exact shown.symm
  · intro blank r c covers
    rw [text r c covers]
    split
    next behind =>
      rw [blank behind.1 r c behind.2.1 covers.1.2 behind.2.2 covers.2.2,
        last behind.1 r c behind.2.1 covers.1.2 behind.2.2 covers.2.2]
    · rfl

theorem edit_moves_iff_insert : ∃ e', (processCodePoint plainHost '@'.toNat).run
      { TerminalEmulator.filledWith 4 2 120 with mEscapeState := .csi } = .ok () e' ∧
    insertCharacters.Moves { TerminalEmulator.filledWith 4 2 120 with mEscapeState := .csi } e' := by
  have ready := @filledWith_ready 4 2 120 (by decide) (by decide) (by decide) (by decide) (by decide)
  have narrow := @filledWith_narrow 4 2 120 (by decide) (by decide) (by decide) (by decide) (by decide)
  obtain ⟨e', ran, iff⟩ := edit_moves_iff plainHost insertCharacters
    { TerminalEmulator.filledWith 4 2 120 with mEscapeState := .csi } { ready with } narrow rfl nofun rfl
  exact ⟨e', ran, iff.mpr nofun⟩

def fullScreen : TerminalEmulator := { TerminalEmulator.filledWith 4 2 120 with mEscapeState := .csiSingleQuote }

/-- DECDC on a full screen leaves the last column as it is. -/
theorem deleteColumns_leaves_column : fullScreen.Ready ∧ fullScreen.screen.Narrow ∧
    fullScreen.mRightMargin = fullScreen.mColumns ∧ fullScreen.mEscapeState = deleteColumns.sequence.1 ∧
    ∃ e', (processCodePoint plainHost deleteColumns.sequence.2).run fullScreen = .ok () e' ∧
      e'.screen.picture.text 0 3 = some (.bare 120) ∧ ¬ deleteColumns.Moves fullScreen e' := by
  have ready := @filledWith_ready 4 2 120 (by decide) (by decide) (by decide) (by decide) (by decide)
  have ready' : fullScreen.Ready := { ready with }
  have narrow : fullScreen.screen.Narrow :=
    @filledWith_narrow 4 2 120 (by decide) (by decide) (by decide) (by decide) (by decide)
  obtain ⟨e', ran, text⟩ := deleteColumns.exists_text plainHost ready' narrow rfl nofun rfl
  have covers : fullScreen.Covers 0 3 := by
    unfold TerminalCore.Covers
    decide +kernel
  have before : fullScreen.screen.picture.text 0 3 = some (.bare 120) := by decide +kernel
  have shown := text 0 3 covers
  rw [if_pos (by decide), before] at shown
  refine ⟨ready', narrow, rfl, rfl, e', ran, shown, fun moves => ?_⟩
  have blank := (moves 0 3 covers).symm.trans shown
  exact absurd blank (by decide)

end Edit
