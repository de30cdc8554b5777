import TerminalAndroid.Terminal.Buffer.Touch

open Java Exec Circular

namespace TerminalBuffer

variable {b : TerminalBuffer}

theorem remainder_slot {n : Int} (positive : 0 < n) (origin start : Int) {k : Int} (lower : 0 ≤ k) :
    remainder (slot n origin start + k) n = .ok (slot n origin (start + k)) := by
  have nonneg := slot_nonneg positive origin start
  rw [remainder_eq (by omega) positive, ← slot_slot]
  rfl

theorem run_copyLinesLoop (positive : 0 < b.mLines.length) (origin start : Int) (count : Nat) :
    (copyLinesLoop (slot b.mLines.length origin start) b.mLines.length count).run b =
      .ok () { b with mLines := movedDown b.mLines origin start count } := by
  induction count generalizing b with
  | zero => rfl
  | succ count ih =>
    have positive' : (0 : Int) < b.mLines.length := Int.natCast_pos.mpr positive
    obtain ⟨line, found⟩ := exists_look positive origin (start + count)
    rw [copyLinesLoop, show slot b.mLines.length origin start + (count : Int) + 1 =
      slot b.mLines.length origin start + (count + 1) by omega, remainder_slot positive' origin start (by omega),
      remainder_slot positive' origin start (by omega)]
    simp only [EStateM.run_bind, run_liftResult_ok, run_getLine positive found, run_setLine positive]
    have rest := @ih { b with mLines := b.mLines.set (slot b.mLines.length origin (start + (count + 1))).toNat line }
      (by simpa using positive)
    simp only [List.length_set] at rest
    rw [rest, movedDown, found, show start + (count : Int) + 1 = start + (count + 1) by omega]

theorem run_blockCopyLinesDown (total : (b.mLines.length : Int) = b.mTotalRows) (positive : 0 < b.mLines.length)
    (origin start : Int) {len : Int} (lower : 0 ≤ len) :
    (blockCopyLinesDown (slot b.mLines.length origin start) len).run b =
      .ok () { b with mLines := rotatedDown b.mLines origin start len.toNat } := by
  have positive' : (0 : Int) < b.mLines.length := Int.natCast_pos.mpr positive
  unfold blockCopyLinesDown
  by_cases zero : len = 0
  · subst zero
    simp only [if_true, Int.toNat_zero, rotatedDown_zero positive]
    rfl
  · obtain ⟨line, found⟩ := exists_look positive origin (start + len.toNat)
    have saved : remainder (slot b.mLines.length origin start + (len - 1) + 1) b.mLines.length =
        .ok (slot b.mLines.length origin (start + len.toNat)) := by
      rw [show slot b.mLines.length origin start + (len - 1) + 1 = slot b.mLines.length origin start + len.toNat by
        omega]
      exact remainder_slot positive' origin start (by omega)
    have front : remainder (slot b.mLines.length origin start) b.mLines.length =
        .ok (slot b.mLines.length origin start) := by
      have same := remainder_slot positive' origin start (Int.le_refl 0)
      rwa [Int.add_zero, Int.add_zero] at same
    simp only [zero, if_false, EStateM.run_bind, EStateM.run_get, ← total, saved, front, run_liftResult_ok,
      run_getLine positive found, run_copyLinesLoop positive]
    have put := run_setLine (b := { b with mLines := movedDown b.mLines origin start len.toNat })
      (by simpa using positive) origin start line
    simp only [movedDown_length, ← total] at put
    rw [put]
    simp only [rotatedDown, found]

/-- Where the line stood before that a scroll puts at a place, counted from the old first row. Above the bottom margin
    comes the line behind the screen, or with no room for history the line scrolled away. -/
def scrollSource (b : TerminalBuffer) (topMargin bottomMargin k : Int) : Int :=
  if bottomMargin < k then k - 1
  else if k = bottomMargin then (if b.mScreenRows < b.mTotalRows then b.mScreenRows else topMargin)
  else if topMargin < k then k
  else if 0 < k then k - 1
  else if k = 0 then topMargin
  else k

def scrolledLines (b : TerminalBuffer) (topMargin bottomMargin : Int) : List (Option Nat) :=
  rotatedDown (rotatedDown b.mLines b.mScreenFirstRow 0 topMargin.toNat) b.mScreenFirstRow bottomMargin
    (b.mScreenRows - bottomMargin).toNat

theorem scrolledLines_length (b : TerminalBuffer) (topMargin bottomMargin : Int) :
    (scrolledLines b topMargin bottomMargin).length = b.mLines.length := by
  simp [scrolledLines]

theorem look_scrolledLines (counters : b.Sized) {top bottom : Int} (top_nonneg : 0 ≤ top) (less : top < bottom)
    (bottom_le : bottom ≤ b.mScreenRows) {k : Int} (lower : b.mScreenRows - b.mTotalRows < k)
    (upper : k ≤ b.mScreenRows) :
    look (scrolledLines b top bottom) b.mScreenFirstRow k =
      look b.mLines b.mScreenFirstRow (scrollSource b top bottom k) := by
  have total := counters.length
  have screen := counters.screen_le
  have above : ∀ i, 0 ≤ i → i < b.mTotalRows →
      look (rotatedDown b.mLines b.mScreenFirstRow 0 top.toNat) b.mScreenFirstRow i =
        if i = 0 then look b.mLines b.mScreenFirstRow top
        else if i ≤ top then look b.mLines b.mScreenFirstRow (i - 1) else look b.mLines b.mScreenFirstRow i := by
    intro i first last
    rw [look_rotatedDown (by omega) _ first (by omega), Int.toNat_of_nonneg top_nonneg, Int.zero_add]
  have around : ∀ i, look (rotatedDown b.mLines b.mScreenFirstRow 0 top.toNat) b.mScreenFirstRow (i + b.mTotalRows) =
      look (rotatedDown b.mLines b.mScreenFirstRow 0 top.toNat) b.mScreenFirstRow i := by
    intro i
    have turn := look_add_length (rotatedDown b.mLines b.mScreenFirstRow 0 top.toNat) b.mScreenFirstRow i
    rwa [rotatedDown_length, total] at turn
  have below : ∀ i, bottom ≤ i → i < bottom + b.mTotalRows →
      look (scrolledLines b top bottom) b.mScreenFirstRow i =
        if i = bottom then look (rotatedDown b.mLines b.mScreenFirstRow 0 top.toNat) b.mScreenFirstRow b.mScreenRows
        else if i ≤ b.mScreenRows then
          look (rotatedDown b.mLines b.mScreenFirstRow 0 top.toNat) b.mScreenFirstRow (i - 1)
        else look (rotatedDown b.mLines b.mScreenFirstRow 0 top.toNat) b.mScreenFirstRow i := by
    intro i first last
    rw [scrolledLines, look_rotatedDown (by rw [rotatedDown_length]; omega) _ first (by rw [rotatedDown_length]; omega),
      show bottom + ((b.mScreenRows - bottom).toNat : Int) = b.mScreenRows by omega]
  unfold scrollSource
  by_cases past : bottom < k
  · rw [if_pos past, below k (by omega) (by omega), if_neg (by omega), if_pos upper, above _ (by omega) (by omega),
      if_neg (by omega), if_neg (by omega)]
  · rw [if_neg past]
    by_cases here : k = bottom
    · rw [if_pos here, below k (by omega) (by omega), if_pos here]
      by_cases room : b.mScreenRows < b.mTotalRows
      · rw [if_pos room, above _ (by omega) room, if_neg (by omega), if_neg (by omega)]
      · have turn := around 0
        rw [Int.zero_add, show b.mTotalRows = b.mScreenRows by omega, above 0 (by omega) (by omega), if_pos rfl] at turn
        rw [if_neg room, turn]
    · have wrapped : look (scrolledLines b top bottom) b.mScreenFirstRow k =
          look (rotatedDown b.mLines b.mScreenFirstRow 0 top.toNat) b.mScreenFirstRow k := by
        have turn := look_add_length (scrolledLines b top bottom) b.mScreenFirstRow k
        rw [scrolledLines_length, total] at turn
        rw [← turn, below _ (by omega) (by omega), if_neg (by omega), if_neg (by omega), around]
      rw [if_neg here, wrapped]
      by_cases region : top < k
      · rw [if_pos region, above k (by omega) (by omega), if_neg (by omega), if_neg (by omega)]
      · rw [if_neg region]
        by_cases inside : 0 < k
        · rw [if_pos inside, above k (by omega) (by omega), if_neg (by omega), if_pos (by omega)]
        · rw [if_neg inside]
          by_cases zero : k = 0
          · rw [if_pos zero, above k (by omega) (by omega), if_pos zero]
          · have turn := look_add_length b.mLines b.mScreenFirstRow k
            rw [total] at turn
            rw [if_neg zero, ← around, above _ (by omega) (by omega), if_neg (by omega), if_neg (by omega), turn]

def advanced (b : TerminalBuffer) (topMargin bottomMargin : Int) : TerminalBuffer :=
  { b with
    mLines := scrolledLines b topMargin bottomMargin
    mScreenFirstRow := slot b.mLines.length b.mScreenFirstRow 1
    mActiveTranscriptRows :=
      if b.mActiveTranscriptRows < b.mTotalRows - b.mScreenRows then b.mActiveTranscriptRows + 1
      else b.mActiveTranscriptRows }

theorem advanced_counters (counters : b.Sized) (top bottom : Int) : (advanced b top bottom).Sized where
  length := by simpa [advanced, scrolledLines_length] using counters.length
  screen_pos := counters.screen_pos
  screen_le := counters.screen_le
  first_nonneg := slot_nonneg (Int.natCast_pos.mpr counters.length_pos) _ _
  first_lt := by
    have := slot_lt (Int.natCast_pos.mpr counters.length_pos) b.mScreenFirstRow 1
    rw [counters.length] at this
    simpa [advanced, counters.length] using this
  active_nonneg := by
    have := counters.active_nonneg
    simp only [advanced]
    split <;> omega
  active_le := by
    have := counters.active_le
    simp only [advanced]
    split <;> omega

section

variable {top bottom : Int} (top_nonneg : 0 ≤ top) (less : top < bottom) (bottom_le : bottom ≤ b.mScreenRows)
include top_nonneg less bottom_le

theorem look_advanced (counters : b.Sized) {r : Int} (lower : b.mScreenRows - b.mTotalRows ≤ r)
    (upper : r < b.mScreenRows) :
    look (advanced b top bottom).mLines (advanced b top bottom).mScreenFirstRow r =
      look b.mLines b.mScreenFirstRow (scrollSource b top bottom (r + 1)) := by
  have turned := look_slot (scrolledLines b top bottom) b.mScreenFirstRow 1 r
  rw [scrolledLines_length] at turned
  rw [← look_scrolledLines counters top_nonneg less bottom_le (by omega) (by omega), Int.add_comm r 1, ← turned]
  rfl

theorem scrollSource_range {k : Int} (lower : b.mScreenRows - b.mTotalRows < k) (upper : k ≤ b.mScreenRows)
    (most : b.mScreenRows ≤ b.mTotalRows) :
    b.mScreenRows - b.mTotalRows ≤ scrollSource b top bottom k ∧ scrollSource b top bottom k ≤ b.mScreenRows ∧
      (b.mScreenRows < b.mTotalRows → b.mScreenRows - b.mTotalRows < scrollSource b top bottom k) ∧
      (b.mScreenRows = b.mTotalRows → scrollSource b top bottom k < b.mScreenRows) := by
  unfold scrollSource
  split_ifs <;> omega

omit bottom_le in
theorem scrollSource_inj {i j : Int} (lowerI : b.mScreenRows - b.mTotalRows < i) (upperI : i ≤ b.mScreenRows)
    (lowerJ : b.mScreenRows - b.mTotalRows < j) (upperJ : j ≤ b.mScreenRows)
    (same : scrollSource b top bottom i = scrollSource b top bottom j) : i = j := by
  unfold scrollSource at same
  split_ifs at same <;> omega

theorem advanced_linked (linked : b.Linked) : (advanced b top bottom).Linked := by
  have counters := advanced_counters linked.toSized top bottom
  have positive : (0 : Int) < b.mTotalRows := by
    rw [← linked.length]
    exact Int.natCast_pos.mpr linked.length_pos
  have most := linked.screen_le
  -- every index of the array is a place on the turn that ends with the screen
  have place : ∀ (i ref : Nat), (advanced b top bottom).mLines[i]? = some (some ref) → ∃ r : Int,
      b.mScreenRows - b.mTotalRows ≤ r ∧ r < b.mScreenRows ∧
      slot b.mTotalRows (advanced b top bottom).mScreenFirstRow r = i ∧
      look b.mLines b.mScreenFirstRow (scrollSource b top bottom (r + 1)) = some (some ref) := by
    intro i ref found
    obtain ⟨bound, -⟩ := List.getElem?_eq_some_iff.mp found
    have length : ((advanced b top bottom).mLines.length : Int) = b.mTotalRows := counters.length
    obtain ⟨r, lower, upper, index⟩ := exists_slot positive (advanced b top bottom).mScreenFirstRow
      (b.mScreenRows - b.mTotalRows) i (by omega) (by omega)
    refine ⟨r, lower, by omega, index, ?_⟩
    rw [← look_advanced top_nonneg less bottom_le linked.toSized lower (by omega), look, length,
      index, Int.toNat_natCast]
    exact found
  refine ⟨counters, fun i ref found => ?_, fun i j ref left right => ?_⟩
  · obtain ⟨r, -, -, -, old⟩ := place i ref found
    exact linked.look_ref old
  · obtain ⟨r, lowerR, upperR, indexR, oldR⟩ := place i ref left
    obtain ⟨s, lowerS, upperS, indexS, oldS⟩ := place j ref right
    have rangeR := scrollSource_range top_nonneg less bottom_le (k := r + 1) (by omega) (by omega) most
    have rangeS := scrollSource_range top_nonneg less bottom_le (k := s + 1) (by omega) (by omega) most
    have sources := linked.look_inj (by omega) (by omega) oldR oldS
    have same := scrollSource_inj top_nonneg less (by omega) (by omega) (by omega) (by omega) sources
    rw [show r = s by omega] at indexR
    omega

theorem run_scroll_moves (ring : b.Ring) (style : Style) :
    (scrollDownOneLine top bottom style).run b = (do
      match ← getLine (slot b.mLines.length (advanced b top bottom).mScreenFirstRow (bottom - 1)) with
      | none =>
        let ref ← newRow b.mColumns style
        setLine (slot b.mLines.length (advanced b top bottom).mScreenFirstRow (bottom - 1)) (some ref)
      | some ref => withRow ref (modify (TerminalRow.cleared .java style)) : BufferM Unit).run
        (advanced b top bottom) := by
  have positive := ring.length_pos
  have total := ring.length
  have active := ring.active_nonneg
  have margins : ¬ (bottom - 1 < top ∨ top < 0 ∨ b.mScreenRows < bottom) := by omega
  have first : slot b.mLines.length b.mScreenFirstRow 0 = b.mScreenFirstRow := by
    rw [slot_of_range (by have := ring.first_nonneg; omega) (by have := ring.first_lt; omega), Int.add_zero]
  let above : TerminalBuffer := { b with mLines := rotatedDown b.mLines b.mScreenFirstRow 0 top.toNat }
  have upper : (blockCopyLinesDown b.mScreenFirstRow top).run b = .ok () above := by
    have moved := run_blockCopyLinesDown total positive b.mScreenFirstRow 0 top_nonneg
    rwa [first] at moved
  have aboveSized : above.Sized := { ring.toSized with length := by simpa [above] using total }
  have index : (externalToInternalRow bottom).run above = .ok (slot above.mLines.length b.mScreenFirstRow bottom) above :=
    aboveSized.run_externalToInternalRow (by simp only [above]; omega) bottom_le
  have lower : (blockCopyLinesDown (slot above.mLines.length b.mScreenFirstRow bottom) (b.mScreenRows - bottom)).run above =
      .ok () { b with mLines := scrolledLines b top bottom } :=
    run_blockCopyLinesDown aboveSized.length aboveSized.length_pos b.mScreenFirstRow bottom (by omega)
  have next : remainder (b.mScreenFirstRow + 1) b.mTotalRows = .ok (slot b.mLines.length b.mScreenFirstRow 1) := by
    rw [remainder_eq (by have := ring.first_nonneg; omega) (by have := ring.first_lt; have := ring.first_nonneg; omega),
      slot, total]
  have blank : (externalToInternalRow (bottom - 1)).run (advanced b top bottom) =
      .ok (slot b.mLines.length (advanced b top bottom).mScreenFirstRow (bottom - 1)) (advanced b top bottom) := by
    have counters := advanced_counters ring.toSized top bottom
    have found := counters.run_externalToInternalRow (r := bottom - 1)
      (by have := counters.active_nonneg; omega) (by simp only [advanced]; omega)
    simpa only [advanced, scrolledLines_length] using found
  unfold scrollDownOneLine
  simp only [EStateM.run_bind, EStateM.run_get, margins, if_false, upper, index, lower, next, run_liftResult_ok,
    EStateM.run_modify]
  rw [show ({ b with
      mLines := scrolledLines b top bottom
      mScreenFirstRow := slot b.mLines.length b.mScreenFirstRow 1
      mActiveTranscriptRows :=
        if b.mActiveTranscriptRows < b.mTotalRows - b.mScreenRows then b.mActiveTranscriptRows + 1
        else b.mActiveTranscriptRows } : TerminalBuffer) = advanced b top bottom from rfl]
  exact blank ▸ rfl

theorem run_scrollDownOneLine (ring : b.Ring) (columns : 0 ≤ b.mColumns) (style : Style) :
    (look (advanced b top bottom).mLines (advanced b top bottom).mScreenFirstRow (bottom - 1) = some none ∧
      (scrollDownOneLine top bottom style).run b = .ok () { advanced b top bottom with
        rows := b.rows ++ [TerminalRow.create b.mColumns.toNat style]
        mLines := (advanced b top bottom).mLines.set
          (slot b.mLines.length (advanced b top bottom).mScreenFirstRow (bottom - 1)).toNat (some b.rows.length) }) ∨
    ∃ ref row, look (advanced b top bottom).mLines (advanced b top bottom).mScreenFirstRow (bottom - 1) = some (some ref) ∧
      b.rows[ref]? = some row ∧
      (scrollDownOneLine top bottom style).run b = .ok () { advanced b top bottom with
        rows := b.rows.set ref (row.cleared .java style) } := by
  have counters := advanced_counters ring.toSized top bottom
  have positive := counters.length_pos
  have length : (advanced b top bottom).mLines.length = b.mLines.length := scrolledLines_length b top bottom
  obtain ⟨line, found⟩ := exists_look positive (advanced b top bottom).mScreenFirstRow (bottom - 1)
  have read := run_getLine positive found
  rw [length] at read
  rw [run_scroll_moves top_nonneg less bottom_le ring style]
  cases line with
  | none =>
    left
    have put := run_setLine (b := { advanced b top bottom with
        rows := b.rows ++ [TerminalRow.create b.mColumns.toNat style] })
      positive (advanced b top bottom).mScreenFirstRow (bottom - 1) (some b.rows.length)
    refine ⟨found, ?_⟩
    simp only [length] at put
    simp only [EStateM.run_bind, read, run_newRow columns]
    exact put
  | some ref =>
    right
    have linked := advanced_linked top_nonneg less bottom_le ring.toLinked
    obtain ⟨row, live, -⟩ := linked.look_ref found
    refine ⟨ref, row, found, live, ?_⟩
    simp only [EStateM.run_bind, read, run_withRow live, EStateM.run_modify]
    rfl

structure Scrolled (b b' : TerminalBuffer) (top bottom : Int) (style : Style) : Prop where
  ring : b'.Ring
  totalRows : b'.mTotalRows = b.mTotalRows
  screenRows : b'.mScreenRows = b.mScreenRows
  columns : b'.mColumns = b.mColumns
  active : b'.mActiveTranscriptRows =
    if b.mActiveTranscriptRows < b.mTotalRows - b.mScreenRows then b.mActiveTranscriptRows + 1
    else b.mActiveTranscriptRows
  kept : ∀ r, b.mScreenRows - b.mTotalRows ≤ r → r < b.mScreenRows → r ≠ bottom - 1 →
    b'.shown r = b.shown (scrollSource b top bottom (r + 1))
  cleared : b'.shown (bottom - 1) = some ((b.lineToTouch (scrollSource b top bottom bottom)).cleared .java style)

theorem advanced_filled (ring : b.Ring) {r : Int} (lower : -(advanced b top bottom).mActiveTranscriptRows ≤ r)
    (upper : r < b.mScreenRows) (other : r ≠ bottom - 1) :
    ∃ ref, look (advanced b top bottom).mLines (advanced b top bottom).mScreenFirstRow r = some (some ref) := by
  have active := ring.active_le
  have nonneg := ring.active_nonneg
  have most := (advanced_counters ring.toSized top bottom).active_le
  have range : -(advanced b top bottom).mActiveTranscriptRows ≥ -b.mActiveTranscriptRows - 1 := by
    simp only [advanced]
    split <;> omega
  simp only [show (advanced b top bottom).mTotalRows = b.mTotalRows from rfl,
    show (advanced b top bottom).mScreenRows = b.mScreenRows from rfl] at most
  rw [look_advanced top_nonneg less bottom_le ring.toSized (by omega) upper]
  apply ring.filled
  · unfold scrollSource
    split_ifs <;> omega
  · unfold scrollSource
    split_ifs <;> omega

theorem exists_scrolled (ring : b.Ring) (style : Style) :
    ∃ b', (scrollDownOneLine top bottom style).run b = .ok () b' ∧ Scrolled b b' top bottom style := by
  have columns := ring.columns_nonneg
  have linked := advanced_linked top_nonneg less bottom_le ring.toLinked
  have length : (advanced b top bottom).mLines.length = b.mLines.length := scrolledLines_length b top bottom
  have total : ((advanced b top bottom).mLines.length : Int) = b.mTotalRows := by
    rw [length]
    exact ring.length
  have source : ∀ r, b.mScreenRows - b.mTotalRows ≤ r → r < b.mScreenRows →
      (advanced b top bottom).shown r = b.shown (scrollSource b top bottom (r + 1)) := by
    intro r lower upper
    rw [shown, linked.lineRef_eq, look_advanced top_nonneg less bottom_le ring.toSized lower upper, shown,
      ring.lineRef_eq]
    rfl
  have most := ring.screen_le
  have recycled := source (bottom - 1) (by omega) (by omega)
  rw [Int.sub_add_cancel] at recycled
  rcases run_scrollDownOneLine top_nonneg less bottom_le ring columns style with
    ⟨empty, ran⟩ | ⟨ref, row, found, live, ran⟩
  · let fresh := TerminalRow.create b.mColumns.toNat style
    have width : (fresh.mColumns : Int) = b.mColumns := Int.toNat_of_nonneg columns
    have put : ∀ r, b.mScreenRows - b.mTotalRows ≤ r → r < b.mScreenRows → _ :=
      fun r lower upper => linked.shown_fillLine (r := r) (s := bottom - 1)
        (show -b.mTotalRows < r - (bottom - 1) by omega) (show r - (bottom - 1) < b.mTotalRows by omega) fresh
    have turn : ∀ r, -(advanced b top bottom).mActiveTranscriptRows ≤ r → r < b.mScreenRows →
        -b.mTotalRows < r - (bottom - 1) ∧ r - (bottom - 1) < b.mTotalRows := by
      intro r lower upper
      have active : (advanced b top bottom).mActiveTranscriptRows ≤ b.mTotalRows - b.mScreenRows := linked.active_le
      omega
    rw [← length] at ran
    refine ⟨_, ran, ⟨⟨linked.fillLine empty width, ?_⟩, rfl, rfl, rfl, rfl, ?_, ?_⟩⟩
    · intro r lower upper
      have placed : look ((advanced b top bottom).mLines.set _ _) _ r = _ :=
        look_set (advanced b top bottom).mLines linked.length_pos (advanced b top bottom).mScreenFirstRow
          (some b.rows.length) (show _ < r - (bottom - 1) by rw [total]; exact turn r lower upper |>.1)
          (show r - (bottom - 1) < _ by rw [total]; exact turn r lower upper |>.2)
      by_cases here : r = bottom - 1
      · exact ⟨b.rows.length, placed.trans (if_pos here)⟩
      · obtain ⟨ref, old⟩ := advanced_filled top_nonneg less bottom_le ring lower upper here
        exact ⟨ref, placed.trans ((if_neg here).trans old)⟩
    · intro r lower upper other
      exact (put r lower upper).trans ((if_neg other).trans (source r lower upper))
    · have absent : b.shown (scrollSource b top bottom bottom) = none := by
        rw [← recycled, shown, linked.lineRef_eq, empty]
        rfl
      rw [lineToTouch, absent, Option.getD_none, TerminalRow.create_cleared]
      exact (put _ (by omega) (by omega)).trans (if_pos rfl)
  · have put : ∀ r, b.mScreenRows - b.mTotalRows ≤ r → r < b.mScreenRows → _ :=
      fun r lower upper => linked.shown_setRow (r := r) found
        (show -b.mTotalRows < r - (bottom - 1) by omega) (show r - (bottom - 1) < b.mTotalRows by omega)
        (row.cleared .java style)
    refine ⟨_, ran, ⟨⟨linked.setRow live rfl, ?_⟩, rfl, rfl, rfl, rfl, ?_, ?_⟩⟩
    · intro r lower upper
      by_cases here : r = bottom - 1
      · exact ⟨ref, here ▸ found⟩
      · exact advanced_filled top_nonneg less bottom_le ring lower upper here
    · intro r lower upper other
      exact (put r lower upper).trans ((if_neg other).trans (source r lower upper))
    · have present : b.shown (scrollSource b top bottom bottom) = some row := by
        rw [← recycled, linked.shown_of_look found]
        exact live
      rw [lineToTouch, present, Option.getD_some]
      exact (put _ (by omega) (by omega)).trans (if_pos rfl)

end

def transcript (b : TerminalBuffer) : List (Option TerminalRow) :=
  (List.range b.mActiveTranscriptRows.toNat).map fun k : Nat => b.shown (k - b.mActiveTranscriptRows)

structure BlankRow (columns : Int) (style : Style) (row : TerminalRow) : Prop where
  width : (row.mColumns : Int) = columns
  text : ∀ c ∈ row.mText, c = TerminalRow.space
  spaceUsed : row.mSpaceUsed = toShort columns
  styles : ∀ s ∈ row.mStyle, s = style

theorem cleared_blank {row : TerminalRow} {columns : Int} (width : (row.mColumns : Int) = columns) (style : Style) :
    BlankRow columns style (row.cleared .java style) where
  width := width
  text := fun _ member => List.eq_of_mem_replicate member
  spaceUsed := by simp only [TerminalRow.cleared, RowRules.java, width]
  styles := fun _ member => List.eq_of_mem_replicate member

theorem Scrolled.transcript {b' : TerminalBuffer} {top bottom : Int} {style : Style}
    (scrolled : Scrolled b b' top bottom style) (ring : b.Ring) (top_nonneg : 0 ≤ top) (less : top < bottom)
    (bottom_le : bottom ≤ b.mScreenRows) :
    b'.transcript = if b.mActiveTranscriptRows < b.mTotalRows - b.mScreenRows then b.transcript ++ [b.shown top]
      else (b.transcript ++ [b.shown top]).tail := by
  have nonneg := ring.active_nonneg
  have most := ring.active_le
  have older : ∀ r, b.mScreenRows - b.mTotalRows ≤ r → r < -1 → b'.shown r = b.shown (r + 1) := by
    intro r lower upper
    rw [scrolled.kept r lower (by omega) (by omega), scrollSource, if_neg (by omega), if_neg (by omega),
      if_neg (by omega), if_neg (by omega), if_neg (by omega)]
  have newest : b.mScreenRows < b.mTotalRows → b'.shown (-1) = b.shown top := by
    intro room
    rw [scrolled.kept (-1) (by omega) (by omega) (by omega), scrollSource, if_neg (by omega), if_neg (by omega),
      if_neg (by omega), if_neg (by omega), if_pos (by omega)]
  unfold TerminalBuffer.transcript
  rw [scrolled.active]
  by_cases room : b.mActiveTranscriptRows < b.mTotalRows - b.mScreenRows
  · rw [if_pos room, if_pos room, show (b.mActiveTranscriptRows + 1).toNat = b.mActiveTranscriptRows.toNat + 1 by omega,
      List.range_succ, List.map_append, List.map_singleton]
    congr 1
    · refine List.map_congr_left fun k member => ?_
      have bound := List.mem_range.mp member
      rw [older _ (by omega) (by omega)]
      congr 1
      omega
    · rw [show (b.mActiveTranscriptRows.toNat : Int) - (b.mActiveTranscriptRows + 1) = -1 by omega, newest (by omega)]
  · rw [if_neg room, if_neg room]
    refine List.ext_getElem? fun k => ?_
    rw [List.getElem?_tail, List.getElem?_map]
    by_cases inside : k < b.mActiveTranscriptRows.toNat
    · rw [List.getElem?_range inside, Option.map_some]
      by_cases last : k + 1 < b.mActiveTranscriptRows.toNat
      · rw [List.getElem?_append_left (by simpa using last), List.getElem?_map, List.getElem?_range last,
          Option.map_some, older _ (by omega) (by omega)]
        congr 2
        omega
      · rw [List.getElem?_append_right (by simp; omega), List.length_map, List.length_range,
          show k + 1 - b.mActiveTranscriptRows.toNat = 0 by omega,
          show (k : Int) - b.mActiveTranscriptRows = -1 by omega, newest (by omega)]
        rfl
    · rw [List.getElem?_eq_none (by simpa using inside), Option.map_none, List.getElem?_eq_none (by simp; omega)]

/-- Scrolling a region of the screen at any position of the ring and any fill level of the history. -/
theorem scrollDownOneLine_shows (b : TerminalBuffer) (ring : b.Ring) (top bottom : Int) (top_nonneg : 0 ≤ top)
    (less : top < bottom) (bottom_le : bottom ≤ b.mScreenRows) (style : Style) :
    ∃ b', (scrollDownOneLine top bottom style).run b = .ok () b' ∧
      (∀ r, 0 ≤ r → r < b.mScreenRows → r < top ∨ bottom ≤ r → b'.shown r = b.shown r) ∧
      (∀ r, top ≤ r → r ≤ bottom - 2 → b'.shown r = b.shown (r + 1)) ∧
      (∃ row, b'.shown (bottom - 1) = some row ∧ BlankRow b.mColumns style row) ∧
      b'.transcript = (if b.mActiveTranscriptRows < b.mTotalRows - b.mScreenRows then b.transcript ++ [b.shown top]
        else (b.transcript ++ [b.shown top]).tail) := by
  obtain ⟨b', ran, scrolled⟩ := exists_scrolled top_nonneg less bottom_le ring style
  have most := ring.screen_le
  refine ⟨b', ran, ?_, ?_, ?_, scrolled.transcript ring top_nonneg less bottom_le⟩
  · intro r lower upper fixed
    rw [scrolled.kept r (by omega) upper (by omega)]
    rcases fixed with above | below
    · rw [scrollSource, if_neg (by omega), if_neg (by omega), if_neg (by omega), if_pos (by omega),
        Int.add_sub_cancel]
    · rw [scrollSource, if_pos (by omega), Int.add_sub_cancel]
  · intro r lower upper
    rw [scrolled.kept r (by omega) (by omega) (by omega), scrollSource, if_neg (by omega), if_neg (by omega),
      if_pos (by omega)]
  · exact ⟨_, scrolled.cleared, cleared_blank (ring.lineToTouch_width ring.columns_nonneg _) style⟩

def smallBuffer : TerminalBuffer := (allocated 2 4 3).freshLines 2 3 4 7

theorem smallBuffer_ring : smallBuffer.Ring := freshLines_ring _ (by decide) (by decide) (by decide) 7

theorem scrollDownOneLine_shows_small : ∃ b', (scrollDownOneLine 1 3 9).run smallBuffer = .ok () b' ∧
    b'.shown 0 = smallBuffer.shown 0 ∧ b'.shown 1 = smallBuffer.shown 2 ∧
    b'.transcript = [smallBuffer.shown 1] := by
  obtain ⟨b', ran, fixed, moved, -, history⟩ :=
    scrollDownOneLine_shows smallBuffer smallBuffer_ring 1 3 (by decide) (by decide) (by decide) 9
  exact ⟨b', ran, fixed 0 (by decide) (by decide) (by decide), moved 1 (by decide) (by decide), history⟩

end TerminalBuffer
