import TerminalAndroid.Exec.Triple
import TerminalAndroid.Terminal.Buffer.Invariant
import TerminalAndroid.Terminal.Row.WellFormed

open Java Exec Circular

namespace TerminalRow

theorem isBlankLoop_eq {spaceUsed : Int} (text : List Nat) (i : Nat) (fits : spaceUsed ≤ i + text.length) :
    isBlankLoop spaceUsed text i = .ok ((text.take (spaceUsed - i).toNat).all (· == space)) := by
  induction text generalizing i with
  | nil =>
    rw [isBlankLoop, if_neg (by simpa using fits)]
    simp
  | cons c text ih =>
    simp only [List.length_cons] at fits
    rw [isBlankLoop]
    by_cases more : (i : Int) < spaceUsed
    · rw [if_pos more, show (spaceUsed - i).toNat = (spaceUsed - (i + 1 : Nat)).toNat + 1 by omega, List.take_succ_cons]
      by_cases blank : c = space
      · rw [if_neg (not_not.mpr blank), ih (i + 1) (by omega)]
        simp [blank]
      · rw [if_pos blank]
        simp [blank]
    · rw [if_neg more, show (spaceUsed - i).toNat = 0 by omega]
      simp

theorem isBlank_eq {row : TerminalRow} (fits : row.mSpaceUsed ≤ row.mText.length) :
    row.isBlank = .ok (row.usedText.all (· == space)) := by
  rw [isBlank, isBlankLoop_eq row.mText 0 (by simpa using fits)]
  simp [usedText]

end TerminalRow

namespace TerminalBuffer

variable {b : TerminalBuffer}

def blankRow (b : TerminalBuffer) (r : Int) : Bool :=
  match b.shown r with
  | none => true
  | some row => row.usedText.all (· == TerminalRow.space)

structure Readable (b : TerminalBuffer) : Prop extends Counters b where
  screen : ∀ r, 0 ≤ r → r < b.mScreenRows → ∃ row, b.shown r = some row ∧ row.mSpaceUsed ≤ row.mText.length

variable {r shift newRows : Int}

theorem shown_ref {row : TerminalRow} (found : b.shown r = some row) :
    ∃ ref, b.mLines[(slot b.mTotalRows b.mScreenFirstRow r).toNat]? = some (some ref) ∧ b.rows[ref]? = some row := by
  obtain ⟨ref, line, live⟩ := Option.bind_eq_some_iff.mp found
  exact ⟨ref, Option.join_eq_some_iff.mp line, live⟩

theorem withRow_same {α : Type} {ref : Nat} {row : TerminalRow} (live : b.rows[ref]? = some row) {method : RowM α}
    {a : α} (reads : method.run row = .ok a row) : (withRow ref method).run b = .ok a b := by
  obtain ⟨bound, rfl⟩ := List.getElem?_eq_some_iff.mp live
  rw [run_withRow live, reads]
  simp

theorem Readable.run_isBlankAt (readable : b.Readable) (lower : 0 ≤ r) (upper : r < b.mScreenRows) :
    ∃ index line, (externalToInternalRow r).run b = .ok index b ∧ (getLine index).run b = .ok line b ∧
      (isBlankAt line).run b = .ok (b.blankRow r) b := by
  obtain ⟨row, found, fits⟩ := readable.screen r lower upper
  obtain ⟨ref, line, live⟩ := shown_ref found
  have active := readable.active_nonneg
  have positive : 0 < b.mTotalRows := by
    have := readable.first_nonneg
    have := readable.first_lt
    omega
  have index := slot_nonneg positive b.mScreenFirstRow r
  have read : (getLine (slot b.mTotalRows b.mScreenFirstRow r)).run b = .ok (some ref) b := by
    unfold getLine
    simp only [EStateM.run_bind, EStateM.run_get]
    rw [← Int.toNat_of_nonneg index]
    exact run_readArray line b
  refine ⟨_, some ref, readable.run_externalToInternalRow (by omega) (by omega), read, withRow_same live ?_⟩
  · simp only [EStateM.run_bind, EStateM.run_get, TerminalRow.isBlank_eq fits, blankRow, found, run_liftResult_ok]

def blanksBelow (b : TerminalBuffer) (cursorRow : Int) : Nat → Nat
  | 0 => 0
  | i + 1 =>
    if (i : Int) + 1 ≤ cursorRow then 0 else (if b.blankRow (i + 1) then 1 else 0) + blanksBelow b cursorRow i

theorem Readable.run_skipBlankRows (readable : b.Readable) (cursorRow : Int) {i : Nat} (inside : (i : Int) < b.mScreenRows)
    (positive : 0 < shift) :
    (skipBlankRows cursorRow i shift).run b = .ok (max 0 (shift - b.blanksBelow cursorRow i)) b := by
  induction i generalizing shift with
  | zero =>
    rw [skipBlankRows, blanksBelow, show max 0 (shift - ((0 : Nat) : Int)) = shift by omega]
    rfl
  | succ i ih =>
    rw [skipBlankRows, blanksBelow]
    by_cases above : (i : Int) + 1 ≤ cursorRow
    · rw [if_pos above, if_pos above, show max 0 (shift - ((0 : Nat) : Int)) = shift by omega]
      rfl
    · obtain ⟨index, line, place, read, blank⟩ := readable.run_isBlankAt (r := (i : Int) + 1) (by omega) (by omega)
      rw [if_neg above, if_neg above]
      simp only [EStateM.run_bind, place, read, blank]
      cases b.blankRow ((i : Int) + 1) with
      | false =>
        simp only [Bool.false_eq_true, if_false, ih (by omega) positive]
        congr 2
        omega
      | true =>
        simp only [if_true]
        by_cases last : shift - 1 = 0
        · rw [if_pos last, show max 0 (shift - ((1 + b.blanksBelow cursorRow i : Nat) : Int)) = shift - 1 by omega]
          rfl
        · rw [if_neg last, ih (by omega) (by omega)]
          congr 2
          omega

theorem isBlankAt_reads (line : Option Nat) : Frame (fun b b' : TerminalBuffer => b' = b) (isBlankAt line) := by
  cases line with
  | none => exact fun _ => rfl
  | some ref =>
    intro b
    cases live : b.rows[ref]? with
    | none =>
      simp only [isBlankAt, withRow, EStateM.run, live]
      rfl
    | some row =>
      obtain ⟨bound, rfl⟩ := List.getElem?_eq_some_iff.mp live
      simp only [isBlankAt]
      rw [run_withRow live, EStateM.run_bind, EStateM.run_get]
      cases blank : b.rows[ref].isBlank <;> simp [blank]

theorem skipBlankRows_range (cursorRow : Int) (i : Nat) (positive : 0 < shift) (b : TerminalBuffer) :
    Triple (fun s => s = b) (skipBlankRows cursorRow i shift)
      (fun result s => s = b ∧ 0 ≤ result ∧ result ≤ shift ∧ shift ≤ result + max 0 (i - cursorRow))
      (fun _ s => s = b) := by
  induction i generalizing shift with
  | zero => exact Triple.pure _ fun s start => ⟨start, by omega, by omega, by omega⟩
  | succ i ih =>
    rw [skipBlankRows]
    refine Triple.ite (fun _ => Triple.pure _ fun s start => ⟨start, by omega, by omega, by omega⟩) fun _ => ?_
    refine Triple.bind (Triple.reads (externalToInternalRow_frame _) b) fun index => ?_
    refine Triple.bind (Triple.reads (getLine_frame _) b) fun line => ?_
    refine Triple.bind (Triple.reads (isBlankAt_reads line) b) fun blank => Triple.ite (fun _ => ?_) fun _ => ?_
    · refine Triple.ite (fun _ => Triple.pure _ fun s start => ⟨start, by omega, by omega, by omega⟩) fun _ => ?_
      exact Triple.weaken (ih (by omega)) (fun _ start => start)
        (fun _ _ after => ⟨after.1, after.2.1, by omega, by omega⟩) fun _ _ thrown => thrown
    · exact Triple.weaken (ih positive) (fun _ start => start)
        (fun _ _ after => ⟨after.1, after.2.1, by omega, by omega⟩) fun _ _ thrown => thrown

structure Revealed (b b' : TerminalBuffer) (start stop : Int) (style : Style) : Prop where
  linked : b'.Linked
  totalRows : b'.mTotalRows = b.mTotalRows
  screenRows : b'.mScreenRows = b.mScreenRows
  columns : b'.mColumns = b.mColumns
  active : b'.mActiveTranscriptRows = b.mActiveTranscriptRows
  first : b'.mScreenFirstRow = b.mScreenFirstRow
  filled : ∀ r ref, look b.mLines b.mScreenFirstRow r = some (some ref) →
    look b'.mLines b'.mScreenFirstRow r = some (some ref)
  shown : ∀ r, -b.mActiveTranscriptRows ≤ r → r < b.mTotalRows - b.mActiveTranscriptRows → r < start ∨ stop ≤ r →
    b'.shown r = b.shown r
  cleared : ∀ r, start ≤ r → r < stop → b'.shown r = some ((b.lineToTouch r).cleared .java style)

theorem Revealed.blank {b' : TerminalBuffer} {start stop : Int} {style : Style} (revealed : Revealed b b' start stop style)
    (linked : b.Linked) (columns : 0 ≤ b.mColumns) (lower : start ≤ r) (upper : r < stop) :
    ∃ row, b'.shown r = some row ∧ BlankRow b.mColumns style row :=
  ⟨_, revealed.cleared r lower upper, cleared_blank (linked.lineToTouch_width columns r) style⟩

theorem Linked.exists_revealed (linked : b.Linked) (columns : 0 ≤ b.mColumns) (style : Style) (count : Nat) (i : Int)
    (nonneg : 0 ≤ i) (room : b.mScreenRows + i + count ≤ b.mTotalRows - b.mActiveTranscriptRows) :
    ∃ b', (clearRevealedRows style count i).run b = .ok () b' ∧
      Revealed b b' (b.mScreenRows + i) (b.mScreenRows + i + count) style := by
  have active := linked.active_nonneg
  have screen := linked.screen_pos
  induction count generalizing b i with
  | zero =>
    refine ⟨b, rfl, linked, rfl, rfl, rfl, rfl, rfl, fun _ _ found => found, fun _ _ _ _ => rfl, ?_⟩
    intro r lower upper
    omega
  | succ count ih =>
    have first := linked.first_nonneg
    have before := linked.first_lt
    let s := b.mScreenRows + i
    obtain ⟨b1, touched, ran⟩ := linked.exists_touched columns s (modify (TerminalRow.cleared .java style))
      (Frame.modify fun _ => rfl)
    have place : remainder (b.mScreenFirstRow + b.mScreenRows + i) b.mTotalRows =
        .ok (slot b.mLines.length b.mScreenFirstRow s) := by
      rw [remainder_eq (by omega) (by omega), slot, linked.length, Int.add_assoc]
    obtain ⟨b', rest, revealed⟩ := ih touched.linked (touched.columns ▸ columns) (i + 1) (by omega)
      (by rw [touched.screenRows, touched.totalRows, touched.active]; omega) touched.linked.active_nonneg
      touched.linked.screen_pos
    have atS : b1.shown s = some ((b.lineToTouch s).cleared .java style) := by
      have here := touched.shown s (by omega) (by omega)
      rwa [if_pos rfl] at here
    have total := touched.totalRows
    have sameActive := touched.active
    have sameScreen := touched.screenRows
    refine ⟨b', ?_, revealed.linked, revealed.totalRows.trans total, revealed.screenRows.trans sameScreen,
      revealed.columns.trans touched.columns, revealed.active.trans sameActive, revealed.first.trans touched.first,
      fun r ref found => revealed.filled r ref (touched.filled r ref found), ?_, ?_⟩
    · rw [EStateM.run_modify] at ran
      unfold clearRevealedRows
      simp only [EStateM.run_bind, EStateM.run_get, place, run_liftResult_ok, ran]
      exact rest
    · intro r lower upper outside
      rw [revealed.shown r (by omega) (by omega) (by omega), touched.shown r (by omega) (by omega), if_neg (by omega)]
    · intro r lower upper
      by_cases here : r = s
      · rw [here, revealed.shown s (by omega) (by omega) (by omega), atS]
      · have same : b1.lineToTouch r = b.lineToTouch r := by
          rw [lineToTouch, lineToTouch, touched.shown r (by omega) (by omega), if_neg here, touched.columns]
        rw [revealed.cleared r (by omega) (by omega), same]

def shiftedRows (b : TerminalBuffer) (shift newRows newTotalRows : Int) (altScreen : Bool) : TerminalBuffer :=
  { b with
    mScreenFirstRow := slot b.mTotalRows b.mScreenFirstRow shift
    mTotalRows := newTotalRows
    mActiveTranscriptRows := if altScreen then 0 else max 0 (b.mActiveTranscriptRows + shift)
    mScreenRows := newRows }

def shrinkShift (b : TerminalBuffer) (newRows cursorRow : Int) : Int :=
  max 0 (b.mScreenRows - newRows - b.blanksBelow cursorRow (b.mScreenRows - 1).toNat)

theorem Counters.run_shift (counters : b.Counters) (shift : Int) (lower : -b.mTotalRows ≤ b.mScreenFirstRow + shift) :
    (if b.mScreenFirstRow + shift < 0 then .ok (b.mScreenFirstRow + shift + b.mTotalRows)
      else remainder (b.mScreenFirstRow + shift) b.mTotalRows) = .ok (slot b.mTotalRows b.mScreenFirstRow shift) := by
  have first := counters.first_nonneg
  have last := counters.first_lt
  by_cases negative : b.mScreenFirstRow + shift < 0
  · rw [if_pos negative, ← slot_add_self, slot_of_range (by omega) (by omega), Int.add_assoc]
  · rw [if_neg negative, remainder_eq (by omega) (by omega), slot]

theorem Readable.run_resizeRows_shrink (readable : b.Readable) (positive : 1 ≤ newRows)
    (less : newRows < b.mScreenRows) (newTotalRows cursorRow : Int) (style : Style) (altScreen : Bool) :
    (resizeRows newRows newTotalRows cursorRow style altScreen).run b =
      .ok (cursorRow - b.shrinkShift newRows cursorRow)
        (b.shiftedRows (b.shrinkShift newRows cursorRow) newRows newTotalRows altScreen) := by
  have shrinks : 0 < b.mScreenRows - newRows ∧ b.mScreenRows - newRows < b.mScreenRows := by omega
  have skipped : (skipBlankRows cursorRow (b.mScreenRows - 1).toNat (b.mScreenRows - newRows)).run b =
      .ok (b.shrinkShift newRows cursorRow) b :=
    readable.run_skipBlankRows cursorRow (by omega) (by omega)
  have first := readable.first_nonneg
  have last := readable.first_lt
  have nonneg : 0 ≤ b.shrinkShift newRows cursorRow := Int.le_max_left ..
  have shifted := readable.run_shift (b.shrinkShift newRows cursorRow) (by omega)
  unfold resizeRows
  simp only [EStateM.run_bind, EStateM.run_get, shrinks, and_self, if_true, skipped, shifted, run_liftResult_ok,
    EStateM.run_modify]
  rfl

theorem Ring.run_resizeRows_grow (ring : b.Ring) (more : b.mScreenRows ≤ newRows)
    (most : newRows ≤ b.mTotalRows) (shiftEq : shift = max (b.mScreenRows - newRows) (-b.mActiveTranscriptRows))
    (newTotalRows cursorRow : Int) (style : Style) (altScreen : Bool) :
    ∃ b', Revealed b b' b.mScreenRows (newRows + shift) style ∧
      (resizeRows newRows newTotalRows cursorRow style altScreen).run b =
        .ok (cursorRow - shift) (b'.shiftedRows shift newRows newTotalRows altScreen) := by
  have active := ring.active_nonneg
  have least := ring.active_le
  have first := ring.first_nonneg
  have screen := ring.screen_pos
  obtain ⟨count, counted⟩ : ∃ count : Nat, (count : Int) = shift - (b.mScreenRows - newRows) :=
    ⟨_, Int.toNat_of_nonneg (by omega)⟩
  obtain ⟨b', ran, revealed⟩ := ring.exists_revealed ring.columns_nonneg style count 0
    (Int.le_refl 0) (by omega)
  rw [Int.add_zero, counted, show b.mScreenRows + (shift - (b.mScreenRows - newRows)) = newRows + shift by omega]
    at revealed
  refine ⟨b', revealed, ?_⟩
  have shrinks : ¬ (0 < b.mScreenRows - newRows ∧ b.mScreenRows - newRows < b.mScreenRows) := by omega
  have shifted := ring.run_shift shift (by omega)
  unfold resizeRows
  simp only [EStateM.run_bind, EStateM.run_get, shrinks, if_false, ← shiftEq]
  by_cases same : b.mScreenRows - newRows = 0
  · have none : count = 0 := by omega
    subst none
    cases ran
    rw [if_neg (by omega), show b.mScreenRows - newRows = shift by omega]
    simp only [EStateM.run_pure, shifted, run_liftResult_ok, EStateM.run_modify]
    rfl
  · simp only [show b.mScreenRows - newRows < 0 by omega, if_true, EStateM.run_bind,
      show (shift - (b.mScreenRows - newRows)).toNat = count by omega, ran, EStateM.run_pure, shifted,
      run_liftResult_ok, EStateM.run_modify, shiftedRows, revealed.first, revealed.totalRows]

theorem shown_shiftedRows (b : TerminalBuffer) (shift newRows : Int) (altScreen : Bool) (r : Int) :
    (b.shiftedRows shift newRows b.mTotalRows altScreen).shown r = b.shown (shift + r) := by
  simp only [shown, lineRef, shiftedRows, slot_slot]

theorem Linked.shiftedRows (linked : b.Linked) (positive : 1 ≤ newRows)
    (room : max 0 (b.mActiveTranscriptRows + shift) ≤ b.mTotalRows - newRows) :
    (b.shiftedRows shift newRows b.mTotalRows false).Linked where
  screen_pos := positive
  screen_le := by
    show newRows ≤ b.mTotalRows
    omega
  first_nonneg := slot_nonneg (linked.length ▸ Int.natCast_pos.mpr linked.length_pos) _ _
  first_lt := slot_lt (linked.length ▸ Int.natCast_pos.mpr linked.length_pos) _ _
  active_nonneg := Int.le_max_left ..
  active_le := room
  length := linked.length
  live := linked.live
  distinct := linked.distinct

theorem Linked.shiftedRows_ring (linked : b.Linked) (positive : 1 ≤ newRows)
    (room : max 0 (b.mActiveTranscriptRows + shift) ≤ b.mTotalRows - newRows)
    (filled : ∀ r, -b.mActiveTranscriptRows ≤ r → r < newRows + shift →
      ∃ ref, look b.mLines b.mScreenFirstRow r = some (some ref))
    (above : 0 ≤ b.mActiveTranscriptRows + shift) :
    (b.shiftedRows shift newRows b.mTotalRows false).Ring := by
  refine ⟨linked.shiftedRows positive room, fun r lower upper => ?_⟩
  have first : (b.shiftedRows shift newRows b.mTotalRows false).mScreenFirstRow =
      slot b.mLines.length b.mScreenFirstRow shift := by rw [linked.length]; rfl
  have active : (b.shiftedRows shift newRows b.mTotalRows false).mActiveTranscriptRows =
      max 0 (b.mActiveTranscriptRows + shift) := rfl
  have rows : (b.shiftedRows shift newRows b.mTotalRows false).mScreenRows = newRows := rfl
  obtain ⟨ref, found⟩ := filled (shift + r) (by omega) (by omega)
  refine ⟨ref, ?_⟩
  rw [first]
  exact (look_slot b.mLines b.mScreenFirstRow shift r).trans found

theorem resizeRows_keeps {total : Int} (positive : 1 ≤ newRows) (most : newRows ≤ total) (cursorRow : Int)
    (style : Style) : Frame (Keeps (RingOf total)) (resizeRows newRows total cursorRow style false) := by
  intro b ⟨ring, size⟩
  have active := ring.active_nonneg
  have least := ring.active_le
  have first := ring.first_nonneg
  have last := ring.first_lt
  by_cases more : b.mScreenRows ≤ newRows
  · obtain ⟨b', revealed, ran⟩ := ring.run_resizeRows_grow more (by omega) rfl total cursorRow style false
    have sameActive := revealed.active
    have sameTotal := revealed.totalRows
    rw [ran]
    refine ⟨?_, rfl⟩
    rw [show total = b'.mTotalRows by omega]
    refine revealed.linked.shiftedRows_ring positive (by omega) (fun r lower upper => ?_) (by omega)
    rw [revealed.first]
    by_cases old : r < b.mScreenRows
    · obtain ⟨ref, found⟩ := ring.filled r (by omega) old
      exact ⟨ref, revealed.first ▸ revealed.filled r ref found⟩
    · have found := revealed.cleared r (by omega) (by omega)
      obtain ⟨ref, line, -⟩ := Option.bind_eq_some_iff.mp found
      exact ⟨ref, revealed.first ▸ revealed.linked.lineRef_eq_some.mp line⟩
  · have shrinks : 0 < b.mScreenRows - newRows ∧ b.mScreenRows - newRows < b.mScreenRows := by omega
    have range := skipBlankRows_range cursorRow (b.mScreenRows - 1).toNat shrinks.1 b b rfl
    unfold resizeRows
    simp only [EStateM.run_bind, EStateM.run_get, shrinks, and_self, if_true]
    cases ran : (skipBlankRows cursorRow (b.mScreenRows - 1).toNat (b.mScreenRows - newRows)).run b with
    | error thrown b' =>
      rw [ran] at range
      subst range
      exact ⟨ring, size⟩
    | ok shift b' =>
      rw [ran] at range
      obtain ⟨rfl, lower, upper⟩ := range
      simp only [ring.run_shift shift (by omega), run_liftResult_ok, EStateM.run_modify, EStateM.run_pure]
      refine ⟨?_, rfl⟩
      rw [← size]
      exact ring.toLinked.shiftedRows_ring positive (by omega)
        (fun r below above => ring.filled r below (by omega)) (by omega)

end TerminalBuffer
