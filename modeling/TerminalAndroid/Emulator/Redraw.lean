import TerminalAndroid.Emulator.Editing
import TerminalAndroid.Terminal.Buffer.Scrolling

open Java Exec

namespace TerminalBuffer

variable {b b' b'' : TerminalBuffer}

theorem Formed.reformed (formed : b.Formed) : Reformed b b := ⟨formed, rfl, rfl⟩

theorem Reformed.trans (first : Reformed b b') (second : Reformed b' b'') : Reformed b b'' :=
  ⟨second.formed, second.screenRows.trans first.screenRows, second.columns.trans first.columns⟩

theorem Formed.reforms_blockCopy (formed : b.Formed) {sx sy w h dx dy : Int} (left : 0 ≤ sx) (top : 0 ≤ sy) (width : 0 ≤ w)
    (height : 0 ≤ h) (left' : 0 ≤ dx) (top' : 0 ≤ dy) (right : sx + w ≤ b.mColumns) (bottom : sy + h ≤ b.mScreenRows)
    (right' : dx + w ≤ b.mColumns) (bottom' : dy + h ≤ b.mScreenRows) :
    Ends (fun _ => Reformed b) (blockCopy sx sy w h dx dy) b := by
  lift sx to Nat using left
  lift sy to Nat using top
  lift w to Nat using width
  lift h to Nat using height
  lift dx to Nat using left'
  lift dy to Nat using top'
  rcases Nat.eq_zero_or_pos w with rfl | positive
  · exact ⟨(), b, rfl, formed.reformed⟩
  · exact (formed.run_blockCopy positive right bottom right' bottom').mono fun _ b' painted => painted.reformed

theorem Formed.reforms_setChar (formed : b.Formed) {column s : Int} {x : Nat} (scalar : x.isValidChar) (left : 0 ≤ column)
    (right : column < b.mColumns) (room : WcWidth.width x = 2 → column + 1 < b.mColumns) (lower : 0 ≤ s)
    (upper : s < b.mScreenRows) (style : Style) : Ends (fun _ => Reformed b) (setChar column s x style) b := by
  lift column to Nat using left
  obtain ⟨row, found⟩ := formed.exists_shown lower upper
  have good := formed.good found
  have width := formed.shown_width found
  obtain ⟨cells, holds⟩ := good.stored
  cases put : setCells x cells column with
  | none =>
    rw [setCells_eq_none_iff holds.valid (by rw [holds.width]; omega), holds.width] at put
    have := room put.1
    omega
  | some cells' =>
    obtain ⟨row', ran, rewritten⟩ := good.run_setChar holds scalar (by omega) put style
    obtain ⟨b', ran', painted⟩ := formed.run_setChar right lower upper found ran rewritten.good
    exact ⟨(), b', ran', painted.reformed⟩

theorem Formed.setChar_throws (formed : b.Formed) {column s : Int} {x : Nat} (scalar : x.isValidChar) (left : 0 ≤ column)
    (wide : WcWidth.width x = 2) (last : column + 1 = b.mColumns) (lower : 0 ≤ s) (upper : s < b.mScreenRows)
    (style : Style) : ∃ thrown b', (setChar column s x style).run b = .error thrown b' := by
  lift column to Nat using left
  obtain ⟨row, found⟩ := formed.exists_shown lower upper
  have good := formed.good found
  have width := formed.shown_width found
  obtain ⟨cells, holds⟩ := good.stored
  have outcome := holds.run_setChar (Nat.le_trans (holds.length_le good.upper) (by decide))
    (fun _ => holds.roomFor good.lower x) scalar (show column < row.mColumns by omega) true style
  rw [(setCells_eq_none_iff holds.valid (by rw [holds.width]; omega)).mpr ⟨wide, by rw [holds.width]; omega⟩] at outcome
  obtain ⟨row', thrown, -⟩ := outcome
  have active := formed.active_nonneg
  have bounds : ¬ (s < 0 ∨ b.mScreenRows ≤ s ∨ (column : Int) < 0 ∨ b.mColumns ≤ column) := by omega
  obtain ⟨b', -, result⟩ := formed.toLinked.exists_touched formed.columns_nonneg s (TerminalRow.setChar .java column x style)
    ((TerminalRow.setChar_frame .java column x style).mono fun _ _ shape => shape.columns)
  have line : b.lineToTouch s = row := by rw [lineToTouch, found, Option.getD_some]
  rw [line, thrown .java RowRules.java_exact rfl] at result
  refine ⟨.illegalArgument "Cannot put wide character in last column", b', ?_⟩
  unfold setChar
  simp only [EStateM.run_bind, EStateM.run_get, bounds, if_false,
    formed.toSized.run_externalToInternalRow (show -b.mActiveTranscriptRows ≤ s by omega) (by omega), result]

theorem Formed.reforms_getStyleAt (formed : b.Formed) {s : Int} {column : Nat} (right : column < b.mColumns) (lower : 0 ≤ s)
    (upper : s < b.mScreenRows) : Ends (fun _ => Reformed b) (getStyleAt s column) b := by
  have active := formed.active_nonneg
  obtain ⟨ref, row, place, live, shown⟩ := formed.shown_isSome (show -b.mActiveTranscriptRows ≤ s by omega) upper
  have length := formed.styles_length shown
  have stored : row.mStyle[column]? = some row.mStyle[column] := List.getElem?_eq_getElem (by omega)
  have read : (do TerminalRow.getStyle (← get) column : RowM Style).run row = .ok row.mStyle[column] row :=
    run_readArray stored row
  have same : b.rows.set ref row = b.rows := by
    obtain ⟨bound, rfl⟩ := List.getElem?_eq_some_iff.mp live
    rw [List.set_getElem_self]
  refine ⟨row.mStyle[column], b, ?_, formed.reformed⟩
  unfold getStyleAt onLine
  simp only [EStateM.run_bind, formed.toSized.run_externalToInternalRow (show -b.mActiveTranscriptRows ≤ s by omega)
    (Int.le_of_lt upper), run_allocate formed.length_pos place]
  rw [run_withRow live, read]
  dsimp only
  rw [same]

theorem Formed.reforms_clearTranscript (formed : b.Formed) : Ends (fun _ => Reformed b) clearTranscript b := by
  obtain ⟨lines, ran, length, subset, screen⟩ := formed.toRing.exists_clearTranscript
  refine ⟨(), _, ran, ⟨formed.toRing.withoutTranscript length subset screen, formed.lower, formed.upper, ?_⟩, rfl, rfl⟩
  intro r row found
  obtain ⟨ref, place, live⟩ := Option.bind_eq_some_iff.mp found
  refine formed.wellFormed r row (Option.bind_eq_some_iff.mpr ⟨ref, ?_, live⟩)
  exact Option.join_eq_some_iff.mpr (subset _ ref (Option.join_eq_some_iff.mp place))

end TerminalBuffer

def TerminalCore.Admits (c : TerminalCore) (x y w h : Int) : Prop :=
  (0 ≤ x ∧ x + w ≤ c.mColumns) ∧ 0 ≤ y ∧ y + h ≤ c.mRows

namespace TerminalEmulator

variable {e e₁ e' : TerminalEmulator} {host : Host}

def Redraws (e e' : TerminalEmulator) : Prop :=
  ∃ buffer, e' = e.drawn buffer ∧ TerminalBuffer.Reformed e.screen buffer

namespace Redraws

theorem ready (redraws : Redraws e e') (ready : e.Ready) : e'.Ready := by
  obtain ⟨buffer, rfl, reformed⟩ := redraws
  exact ready.drawn reformed

theorem onScreen {α : Type} {method : BufferM α} (redraws : Redraws e e₁)
    (inner : ∀ buffer, TerminalBuffer.Reformed e.screen buffer → Ends (fun _ => TerminalBuffer.Reformed buffer) method buffer) :
    Ends (fun _ => Redraws e) (TerminalEmulator.onScreen method) e₁ := by
  obtain ⟨buffer, rfl, reformed⟩ := redraws
  have ends := inner buffer reformed
  rw [← drawn_screen e buffer] at ends
  refine (ends_onScreen ends).mono ?_
  rintro a e' ⟨buffer', rfl, reformed'⟩
  rw [drawn_screen] at reformed'
  exact ⟨buffer', drawn_drawn e buffer buffer', reformed.trans reformed'⟩

section

variable {sx sy w h dx dy x y w' h' : Int} (ready : e.Ready) (redraws : Redraws e e₁)
include ready redraws

theorem copy (source : e.Contains sx sy w h) (target : e.Contains dx dy w h) :
    Ends (fun _ => Redraws e) (TerminalEmulator.onScreen (TerminalBuffer.blockCopy sx sy w h dx dy)) e₁ := by
  obtain ⟨⟨left, width, right⟩, top, height, bottom⟩ := source
  obtain ⟨⟨left', -, right'⟩, top', -, bottom'⟩ := target
  rw [← ready.screenColumns] at right right'
  rw [← ready.screenRows] at bottom bottom'
  refine redraws.onScreen fun buffer reformed => ?_
  rw [← reformed.columns] at right right'
  rw [← reformed.screenRows] at bottom bottom'
  exact reformed.formed.reforms_blockCopy left top width height left' top' right bottom right' bottom'

theorem set (block : e.Admits x y w h) (style : Style) :
    Ends (fun _ => Redraws e) (TerminalEmulator.onScreen (TerminalBuffer.blockSet x y w h TerminalRow.space style)) e₁ := by
  obtain ⟨⟨left, right⟩, top, bottom⟩ := block
  rw [← ready.screenColumns] at right
  rw [← ready.screenRows] at bottom
  refine redraws.onScreen fun buffer reformed => ?_
  rw [← reformed.columns] at right
  rw [← reformed.screenRows] at bottom
  exact (reformed.formed.run_blockSet (by decide) (by decide) left right top bottom style).mono fun _ b' painted =>
    painted.reformed

theorem clear (block : e.Admits x y w h) : Ends (fun _ => Redraws e) (blockClear x y w h) e₁ :=
  Ends.get_bind (redraws.set ready block e₁.getStyle)

end

end Redraws

section Fill

variable {selective keep : Bool} {codePoint : Nat} {style : Style} (ready : e.Ready) (scalar : codePoint.isValidChar)
  (narrow : WcWidth.width codePoint ≠ 2)
include ready scalar narrow

theorem fillRow_redraws {row : Int} (onScreen : 0 ≤ row ∧ row < e.mRows) (count : Nat) {column : Nat}
    (right : column + count ≤ e.mColumns) (redraws : Redraws e e₁) :
    Ends (fun _ => Redraws e) (fillRow selective keep codePoint style row count column) e₁ := by
  induction count generalizing e₁ column with
  | zero => exact Ends.pure redraws
  | succ count ih =>
    rw [← ready.screenRows, ← ready.screenColumns] at *
    have got {e₂ : TerminalEmulator} (redraws : Redraws e e₂) :
        Ends (fun _ => Redraws e) (TerminalEmulator.onScreen (TerminalBuffer.getStyleAt row column)) e₂ := by
      refine redraws.onScreen fun b reformed => ?_
      rw [← reformed.screenRows, ← reformed.columns] at *
      exact reformed.formed.reforms_getStyleAt (by omega) onScreen.1 onScreen.2
    have put {e₂ : TerminalEmulator} (redraws : Redraws e e₂) (style : Style) :
        Ends (fun _ => Redraws e) (TerminalEmulator.onScreen (TerminalBuffer.setChar column row codePoint style)) e₂ := by
      refine redraws.onScreen fun b reformed => ?_
      rw [← reformed.screenRows, ← reformed.columns] at *
      exact reformed.formed.reforms_setChar scalar (Int.natCast_nonneg column) (by omega) (fun wide => absurd wide narrow)
        onScreen.1 onScreen.2 style
    refine @Ends.bind _ _ _ _ _ (fun _ => Redraws e) _ _ _ (Ends.ite (fun _ => Ends.bind (got redraws) fun _ _ redraws =>
      Ends.pure redraws) fun _ => Ends.pure redraws) fun kept e₂ redraws => ?_
    refine @Ends.bind _ _ _ _ _ (fun _ => Redraws e) _ _ _ (Ends.ite (fun _ => Ends.pure redraws) fun _ => ?_)
      fun _ e₃ redraws => @ih e₃ (column + 1) (by omega) redraws
    exact @Ends.bind _ _ _ _ _ (fun _ => Redraws e) _ _ _ (Ends.ite (fun _ => got redraws) fun _ => Ends.pure redraws)
      fun style _ redraws => put redraws style

theorem fillRows_redraws {left right : Int} (first : 0 ≤ left) (last : right ≤ e.mColumns) (count : Nat) {row : Int}
    (lower : 0 ≤ row) (upper : row + count ≤ e.mRows) (redraws : Redraws e e₁) :
    Ends (fun _ => Redraws e) (fillRows selective keep codePoint style left right count row) e₁ := by
  lift left to Nat using first
  induction count generalizing e₁ row with
  | zero => exact Ends.pure redraws
  | succ count ih =>
    have filled : Ends (fun _ => Redraws e) (fillRow selective keep codePoint style row (right - left).toNat left) e₁ := by
      by_cases some : (left : Int) ≤ right
      · exact fillRow_redraws ready scalar narrow ⟨lower, by omega⟩ _ (by omega) redraws
      · rw [Int.toNat_of_nonpos (by omega)]
        exact Ends.pure redraws
    exact Ends.bind filled fun _ e₂ redraws => ih (by omega) (by omega) redraws

end Fill

theorem Redraws.refl (ready : e.Ready) : Redraws e e := ⟨e.screen, (drawn_self e).symm, ready.formed.reformed⟩

section

variable (ready : e.Ready) {sx sy w h dx dy x y w' h' : Int}
include ready

theorem copy_set_redraws (source : e.Contains sx sy w h) (target : e.Contains dx dy w h) (block : e.Admits x y w' h')
    (style : Style) : Ends (fun _ => Redraws e) (do
      onScreen (TerminalBuffer.blockCopy sx sy w h dx dy)
      onScreen (TerminalBuffer.blockSet x y w' h' TerminalRow.space style)) e :=
  Ends.bind ((Redraws.refl ready).copy ready source target) fun _ _ redraws => redraws.set ready block style

theorem copy_set_ready (source : e.Contains sx sy w h) (target : e.Contains dx dy w h) (block : e.Admits x y w' h')
    (style : Style) : Ends (fun _ e' => e'.Ready) (do
      onScreen (TerminalBuffer.blockCopy sx sy w h dx dy)
      onScreen (TerminalBuffer.blockSet x y w' h' TerminalRow.space style)) e :=
  (copy_set_redraws ready source target block style).mono fun _ _ redraws => redraws.ready ready

theorem copy_clear_ready (source : e.Contains sx sy w h) (target : e.Contains dx dy w h) (block : e.Admits x y w' h') :
    Ends (fun _ e' => e'.Ready) (do
      onScreen (TerminalBuffer.blockCopy sx sy w h dx dy)
      blockClear x y w' h') e :=
  Ends.bind ((Redraws.refl ready).copy ready source target) fun _ _ redraws =>
    (redraws.clear ready block).mono fun _ _ redraws' => redraws'.ready ready

theorem clear_ready (block : e.Admits x y w h) : Ends (fun _ e' => e'.Ready) (blockClear x y w h) e :=
  ((Redraws.refl ready).clear ready block).mono fun _ _ redraws => redraws.ready ready

omit ready in
theorem cancel_wrap_ready {f : TerminalEmulator → EmulatorM Unit} (ready : e.Ready)
    (rest : ∀ e : TerminalEmulator, e.Ready → Ends (fun _ e' => e'.Ready) (f e) e) :
    Ends (fun _ e' => e'.Ready) (do
      modify fun e => { e with mAboutToAutoWrap := false }
      let e ← get
      f e) e :=
  Ends.modify_bind (Ends.get_bind (rest _ { ready with }))

theorem insertCharacters_ready : Ends (fun _ e' => e'.Ready) insertCharacters e := by
  refine cancel_wrap_ready ready fun e ready => ?_
  obtain ⟨⟨lower, upper⟩, left, right⟩ := ready.toOnScreen
  have positive := e.getArg0_pos
  refine copy_clear_ready ready ?_ ?_ ?_ <;> simp only [TerminalCore.Contains, TerminalCore.Admits] <;> omega

theorem deleteCharacters_ready : Ends (fun _ e' => e'.Ready) deleteCharacters e := by
  refine cancel_wrap_ready ready fun e ready => ?_
  obtain ⟨⟨lower, upper⟩, left, right⟩ := ready.toOnScreen
  have positive := e.getArg0_pos
  refine copy_clear_ready ready ?_ ?_ ?_ <;> simp only [TerminalCore.Contains, TerminalCore.Admits] <;> omega

theorem insertLines_ready : Ends (fun _ e' => e'.Ready) insertLines e := by
  obtain ⟨⟨⟨lower, upper⟩, left, right⟩, top, height, bottom, -⟩ := id ready
  have positive := e.getArg0_pos
  refine Ends.get_bind (copy_clear_ready ready ?_ ?_ ?_) <;>
    simp only [TerminalCore.Contains, TerminalCore.Admits] <;> omega

theorem deleteLines_ready : Ends (fun _ e' => e'.Ready) deleteLines e := by
  refine cancel_wrap_ready ready fun e ready => ?_
  obtain ⟨⟨⟨lower, upper⟩, left, right⟩, top, height, bottom, -⟩ := id ready
  have positive := e.getArg0_pos
  refine copy_clear_ready ready ?_ ?_ ?_ <;> simp only [TerminalCore.Contains, TerminalCore.Admits] <;> omega

theorem scrollDown_ready : Ends (fun _ e' => e'.Ready) scrollDown e := by
  obtain ⟨-, top, height, bottom, left, width, right, -⟩ := id ready
  have positive := e.getArg0_pos
  refine Ends.get_bind (copy_clear_ready ready ?_ ?_ ?_) <;>
    simp only [TerminalCore.Contains, TerminalCore.Admits] <;> omega

theorem eraseCharacters_ready : Ends (fun _ e' => e'.Ready) eraseCharacters e := by
  refine cancel_wrap_ready ready fun e ready => ?_
  obtain ⟨⟨lower, upper⟩, left, right⟩ := ready.toOnScreen
  have positive := e.getArg0_pos
  refine ((Redraws.refl ready).set ready ?_ _).mono fun _ _ redraws => redraws.ready ready
  simp only [TerminalCore.Admits]
  omega

theorem insertColumns_ready : Ends (fun _ e' => e'.Ready) insertColumns e := by
  obtain ⟨⟨⟨lower, upper⟩, left, right⟩, -, -, -, margin, width, edge, -⟩ := id ready
  have positive := e.getArg0_pos
  refine Ends.get_bind (copy_clear_ready ready ?_ ?_ ?_) <;>
    simp only [TerminalCore.Contains, TerminalCore.Admits] <;> omega

theorem deleteColumns_ready : Ends (fun _ e' => e'.Ready) deleteColumns e := by
  obtain ⟨⟨⟨lower, upper⟩, left, right⟩, -, -, -, margin, width, edge, -⟩ := id ready
  have positive := e.getArg0_pos
  refine Ends.get_bind (((Redraws.refl ready).copy ready ?_ ?_).mono fun _ _ redraws => redraws.ready ready) <;>
    simp only [TerminalCore.Contains] <;> omega

theorem scrollDownOneLine_redraws :
    Ends (fun _ => Redraws { e with mScrollCounter := e.mScrollCounter + 1 }) scrollDownOneLine e := by
  have ready₁ : ({ e with mScrollCounter := e.mScrollCounter + 1 } : TerminalEmulator).Ready := { ready with }
  refine Ends.modify_bind (Ends.get_bind ?_)
  generalize ({ e with mScrollCounter := e.mScrollCounter + 1 } : TerminalEmulator) = e at ready₁ ⊢
  obtain ⟨-, top, height, bottom, left, width, right, columns, rows, -⟩ := id ready₁
  refine Ends.ite (fun sides => ?_) fun edges => ?_
  · refine copy_set_redraws ready₁ ?_ ?_ ?_ _ <;> simp only [TerminalCore.Contains, TerminalCore.Admits] <;> omega
  · refine (Redraws.refl ready₁).onScreen fun buffer reformed => ?_
    have height' := reformed.screenRows
    refine (reformed.formed.run_scrollDownOneLine top (by omega) (by omega) e.getStyle).mono ?_
    rintro - b ⟨formed, scrolled⟩
    exact ⟨formed, scrolled.screenRows, scrolled.columns⟩

theorem scrollDownOneLine_ready : Ends (fun _ e' => e'.Ready) scrollDownOneLine e :=
  (scrollDownOneLine_redraws ready).mono fun _ _ redraws => redraws.ready { ready with }

theorem scrollUp_ready (count : Nat) : Ends (fun _ e' => e'.Ready) (scrollUp count) e := by
  induction count generalizing e with
  | zero => exact Ends.pure ready
  | succ count ih => exact Ends.bind (scrollDownOneLine_ready ready) fun _ _ ready' => ih ready'

theorem setCursorRow_ready {row : Int} (lower : 0 ≤ row) (upper : row < e.mRows) : (e.setCursorRow row).Ready :=
  { ready with row := ⟨lower, upper⟩ }

theorem doLinefeed_ready : Ends (fun _ e' => e'.Ready) doLinefeed e := by
  obtain ⟨⟨⟨lower, upper⟩, left, right⟩, top, height, bottom, -⟩ := id ready
  refine Ends.get_bind (Ends.ite (fun below => Ends.ite (fun above => ?_) fun last => ?_) fun inside =>
    Ends.ite (fun last => ?_) fun above => ?_)
  · exact Ends.set (setCursorRow_ready ready (by omega) (by omega))
  · exact Ends.pure ready
  · refine Ends.bind (scrollDownOneLine_ready ready) fun _ e₁ ready₁ => Ends.modify ?_
    have top₁ := ready₁.top
    have height₁ := ready₁.height
    have bottom₁ := ready₁.bottom
    exact setCursorRow_ready ready₁ (by omega) (by omega)
  · exact Ends.set (setCursorRow_ready ready (by omega) (by omega))

theorem nextLine_ready : Ends (fun _ e' => e'.Ready) nextLine e := by
  obtain ⟨⟨⟨lower, upper⟩, left, right⟩, -, -, -, margin, width, edge, -⟩ := id ready
  refine Ends.modify_bind (doLinefeed_ready { ready with col := ?_ })
  unfold setCursorCol
  dsimp only
  split <;> omega

theorem backIndex_ready : Ends (fun _ e' => e'.Ready) backIndex e := by
  obtain ⟨⟨⟨lower, upper⟩, first, last⟩, top, height, bottom, left, width, right, -⟩ := id ready
  refine Ends.get_bind (Ends.ite (fun inside => Ends.set ?_) fun edge => ?_)
  · exact { ready with col := ⟨show 0 ≤ e.mCursorCol - 1 by omega, show e.mCursorCol - 1 < e.mColumns by omega⟩ }
  · refine copy_set_ready ready ?_ ?_ ?_ _ <;> simp only [TerminalCore.Contains, TerminalCore.Admits] <;> omega

theorem forwardIndex_ready : Ends (fun _ e' => e'.Ready) forwardIndex e := by
  obtain ⟨⟨⟨lower, upper⟩, first, last⟩, top, height, bottom, left, width, right, -⟩ := id ready
  refine Ends.get_bind (Ends.ite (fun inside => Ends.set ?_) fun edge => ?_)
  · exact { ready with col := ⟨show 0 ≤ e.mCursorCol + 1 by omega, show e.mCursorCol + 1 < e.mColumns by omega⟩ }
  · refine copy_set_ready ready ?_ ?_ ?_ _ <;> simp only [TerminalCore.Contains, TerminalCore.Admits] <;> omega

theorem reverseIndex_ready : Ends (fun _ e' => e'.Ready) reverseIndex e := by
  obtain ⟨⟨⟨lower, upper⟩, first, last⟩, top, height, bottom, left, width, right, -⟩ := id ready
  refine Ends.get_bind (Ends.ite (fun edge => ?_) fun inside => Ends.set ?_)
  · refine copy_clear_ready ready ?_ ?_ ?_ <;> simp only [TerminalCore.Contains, TerminalCore.Admits] <;> omega
  · exact { ready with row := ⟨show 0 ≤ e.mCursorRow - 1 by omega, show e.mCursorRow - 1 < e.mRows by omega⟩ }

theorem clear_cancel_ready (block : e.Admits x y w h) : Ends (fun _ e' => e'.Ready) (do
      blockClear x y w h
      modify fun e => { e with mAboutToAutoWrap := false }) e :=
  Ends.bind (clear_ready ready block) fun _ _ ready' => Ends.modify { ready' with }

theorem clear_clear_ready (block : e.Admits x y w h) (block' : e.Admits dx dy w' h') : Ends (fun _ e' => e'.Ready) (do
      blockClear x y w h
      blockClear dx dy w' h'
      modify fun e => { e with mAboutToAutoWrap := false }) e :=
  Ends.bind ((Redraws.refl ready).clear ready block) fun _ _ redraws =>
    Ends.bind (redraws.clear ready block') fun _ _ redraws' => Ends.modify { redraws'.ready ready with }

theorem eraseInLine_ready : Ends (fun _ e' => e'.Ready) eraseInLine e := by
  obtain ⟨⟨lower, upper⟩, left, right⟩ := ready.toOnScreen
  refine Ends.get_bind (Ends.ite (fun _ => clear_cancel_ready ready ?_) fun _ => Ends.ite (fun _ =>
    clear_cancel_ready ready ?_) fun _ => Ends.ite (fun _ => clear_cancel_ready ready ?_) fun _ => Ends.set { ready with })
  all_goals
    simp only [TerminalCore.Admits]
    omega

omit ready in
theorem ends_onMain {post : Unit → TerminalBuffer → Prop} {method : BufferM Unit} (inner : Ends post method e.mMainBuffer) :
    Ends (fun a e' => ∃ buffer, e' = { e with mMainBuffer := buffer } ∧ post a buffer) (onMain method) e := Ends.zoom inner

theorem clearTranscript_ready : Ends (fun _ e' => e'.Ready) (onMain TerminalBuffer.clearTranscript) e := by
  refine (ends_onMain ready.main.reforms_clearTranscript).mono ?_
  rintro - e' ⟨buffer, rfl, formed, rows, columns⟩
  have screenRows := ready.screenRows
  have screenColumns := ready.screenColumns
  unfold TerminalCore.screen at screenRows screenColumns
  refine { ready with main := formed, screenRows := ?_, screenColumns := ?_ }
  · unfold TerminalCore.screen
    dsimp only
    split at screenColumns
    · exact columns.trans screenColumns
    · exact screenColumns
  · unfold TerminalCore.screen
    dsimp only
    split at screenRows
    · exact rows.trans screenRows
    · exact screenRows

theorem eraseInDisplay_ready : Ends (fun _ e' => e'.Ready) eraseInDisplay e := by
  obtain ⟨⟨lower, upper⟩, left, right⟩ := ready.toOnScreen
  refine Ends.get_bind (Ends.ite (fun _ => clear_clear_ready ready ?_ ?_) fun _ => Ends.ite (fun _ =>
    clear_clear_ready ready ?_ ?_) fun _ => Ends.ite (fun _ => clear_cancel_ready ready ?_) fun _ => Ends.ite (fun _ =>
      Ends.bind (clearTranscript_ready ready) fun _ _ ready' => Ends.modify { ready' with }) fun _ => Ends.set { ready with })
  all_goals
    simp only [TerminalCore.Admits]
    omega

theorem effectiveMargins : (0 ≤ e.effectiveTopMargin ∧ e.effectiveTopMargin < e.effectiveBottomMargin ∧
    e.effectiveBottomMargin ≤ e.mRows) ∧ 0 ≤ e.effectiveLeftMargin ∧ e.effectiveLeftMargin < e.effectiveRightMargin ∧
      e.effectiveRightMargin ≤ e.mColumns := by
  obtain ⟨⟨⟨lower, upper⟩, first, last⟩, top, height, bottom, left, width, right, -⟩ := id ready
  unfold effectiveTopMargin effectiveBottomMargin effectiveLeftMargin effectiveRightMargin
  split <;> omega

theorem copyRectangularArea_ready : Ends (fun _ e' => e'.Ready) copyRectangularArea e := by
  obtain ⟨⟨top, height, bottom⟩, left, width, right⟩ := effectiveMargins ready
  have first := e.getArg_pos 0
  have second := e.getArg_pos 1
  have sixth := e.getArg_pos 5
  have seventh := e.getArg_pos 6
  refine Ends.get_bind (((Redraws.refl ready).copy ready ?_ ?_).mono fun _ _ redraws => redraws.ready ready) <;>
    simp only [TerminalCore.Contains] <;> omega

omit ready in
theorem latin_narrow {x : Nat} (small : x < 256) : x.isValidChar ∧ WcWidth.width x ≠ 2 := by
  have all : ∀ x < 256, x.isValidChar ∧ WcWidth.width x ≠ 2 := by decide +kernel
  exact all x small

theorem fillRectangularArea_ready (selective keepVisualAttributes : Bool) (fillChar : Int) (argIndex : Fin 2) :
    Ends (fun _ e' => e'.Ready) (fillRectangularArea selective keepVisualAttributes fillChar argIndex) e := by
  obtain ⟨⟨top, height, bottom⟩, left, width, right⟩ := effectiveMargins ready
  refine Ends.get_bind (Ends.ite (fun drawable => ?_) fun _ => Ends.pure ready)
  obtain ⟨scalar, narrow⟩ := latin_narrow (show fillChar.toNat < 256 by omega)
  have first := e.getArg_pos ⟨argIndex.val + (0 : Fin 4).val, by omega⟩
  have second := e.getArg_pos ⟨argIndex.val + (1 : Fin 4).val, by omega⟩
  refine (fillRows_redraws ready scalar narrow ?_ ?_ _ ?_ ?_ (Redraws.refl ready)).mono fun _ _ redraws => redraws.ready ready
  all_goals
    dsimp only
    omega

end

end TerminalEmulator
