import TerminalAndroid.Terminal.Buffer.Formed
import TerminalAndroid.Terminal.Row.SetRun

open Java Exec Circular

namespace TerminalBuffer

variable {b b' : TerminalBuffer} {x : Nat} {style : Style} {row row' : TerminalRow} {s : Int}

theorem Formed.run_blockSetRow {column count : Nat} (run : TerminalRow.SetRun x style column count row row')
    (formed : b.Formed) (lower : 0 ≤ s) (upper : s < b.mScreenRows) (found : b.shown s = some row) (sx offset : Int)
    (place : sx + offset = column) :
    ∃ b', (blockSetRow sx s x style count offset).run b = .ok () b' ∧ Repainted (RowChange s row row') b b' := by
  induction run generalizing b offset with
  | done column row =>
    refine ⟨b, rfl, Repainted.mono (Repainted.refl formed fun _ _ => rfl) ?_⟩
    rintro r old new - - before - rfl
    unfold RowChange
    split
    next here =>
      rw [here, found] at before
      cases before
      exact ⟨rfl, rfl⟩
    · rfl
  | @next column count row between row' inside ran good rest ih =>
    have width := formed.shown_width found
    obtain ⟨b1, first, painted⟩ := formed.run_setChar (show (column : Int) < b.mColumns by omega) lower upper found ran good
    obtain ⟨line, found1, same⟩ := painted.screen s row lower upper found
    rw [RowChange, if_pos rfl] at same
    obtain ⟨b2, second, painted'⟩ := ih painted.formed (by rw [painted.screenRows]; exact upper) (same.2 ▸ found1)
      (offset + 1) (by omega)
    refine ⟨b2, ?_, (painted.trans painted').mono ?_⟩
    · rw [blockSetRow, place, run_bind_of first]
      exact second
    · rintro r old new - - - - ⟨mid, before, after⟩
      unfold RowChange at before after ⊢
      split at before
      next here =>
        rw [if_pos here] at after ⊢
        exact ⟨before.1, after.2⟩
      next other =>
        rw [if_neg other] at after ⊢
        exact after.trans before

def BlockSet (sx sy w h : Int) (x : Nat) (style : Style) (r : Int) (old new : TerminalRow) : Prop :=
  if sy ≤ r ∧ r < sy + h then TerminalRow.SetRun x style sx.toNat w.toNat old new else new = old

theorem Formed.exists_setRun (formed : b.Formed) (scalar : x.isValidChar) (narrow : WcWidth.width x ≠ 2)
    (found : b.shown s = some row) {sx w : Int} (left : 0 ≤ sx) (right : sx + w ≤ b.mColumns) (style : Style) :
    ∃ row', TerminalRow.SetRun x style sx.toNat w.toNat row row' := by
  rcases Int.le_total w 0 with none | some
  · rw [Int.toNat_of_nonpos none]
    exact ⟨row, .done _ row⟩
  · have width := formed.shown_width found
    obtain ⟨row', run, -⟩ := (formed.good found).exists_setRun scalar narrow
      (show sx.toNat + w.toNat ≤ row.mColumns by omega) style
    exact ⟨row', run⟩

theorem Formed.run_blockSetRows (formed : b.Formed) (scalar : x.isValidChar) (narrow : WcWidth.width x ≠ 2)
    {sx sy w : Int} (left : 0 ≤ sx) (right : sx + w ≤ b.mColumns) (count : Nat) (y : Int) (top : 0 ≤ sy + y)
    (bottom : sy + y + count ≤ b.mScreenRows) (style : Style) :
    ∃ b', (blockSetRows sx sy w x style count y).run b = .ok () b' ∧
      Repainted (BlockSet sx (sy + y) w count x style) b b' := by
  induction count generalizing b y with
  | zero =>
    refine ⟨b, rfl, Repainted.mono (Repainted.refl formed fun _ _ => rfl) ?_⟩
    rintro r old new - - - - rfl
    rw [BlockSet, if_neg (by omega)]
  | succ count ih =>
    obtain ⟨row, found⟩ := formed.exists_shown top (by omega)
    obtain ⟨row', run⟩ := formed.exists_setRun scalar narrow found left right style
    obtain ⟨b1, first, painted⟩ := formed.run_blockSetRow run top (by omega) found sx 0 (by omega)
    obtain ⟨b2, second, painted'⟩ := @ih b1 painted.formed (by rw [painted.columns]; exact right) (y + 1) (by omega)
      (by rw [painted.screenRows]; omega)
    refine ⟨b2, ?_, (painted.trans painted').mono ?_⟩
    · rw [blockSetRows, run_bind_of first]
      exact second
    · rintro r old new - - - - ⟨mid, before, after⟩
      unfold RowChange at before
      unfold BlockSet at after ⊢
      split at before
      next here =>
        rw [if_neg (by omega)] at after
        rw [if_pos (by omega), before.1, after, before.2]
        exact run
      next other =>
        rw [before] at after
        by_cases inside : sy + (y + 1) ≤ r ∧ r < sy + (y + 1) + count
        · rw [if_pos inside] at after
          rw [if_pos (by omega)]
          exact after
        · rw [if_neg inside] at after
          rw [if_neg (by omega)]
          exact after

theorem Formed.run_blockSet (formed : b.Formed) (scalar : x.isValidChar) (narrow : WcWidth.width x ≠ 2)
    {sx sy w h : Int} (left : 0 ≤ sx) (right : sx + w ≤ b.mColumns) (top : 0 ≤ sy) (bottom : sy + h ≤ b.mScreenRows)
    (style : Style) :
    Ends (fun _ => Repainted (BlockSet sx sy w h x style) b) (blockSet sx sy w h x style) b := by
  have checked : ¬ (sx < 0 ∨ b.mColumns < sx + w ∨ sy < 0 ∨ b.mScreenRows < sy + h) := by omega
  have start : (blockSet sx sy w h x style).run b = (blockSetRows sx sy w x style h.toNat 0).run b := by
    unfold blockSet
    simp only [EStateM.run_bind, EStateM.run_get, checked, if_false]
  rcases Int.le_total h 0 with none | some
  · refine ⟨(), b, ?_, Repainted.mono (Repainted.refl formed fun _ _ => rfl) ?_⟩
    · rw [start, Int.toNat_of_nonpos none]
      rfl
    · rintro r old new - - - - rfl
      rw [BlockSet, if_neg (by omega)]
  · obtain ⟨b', ran, painted⟩ := formed.run_blockSetRows scalar narrow left right h.toNat 0
      (show 0 ≤ sy + 0 by omega) (by omega) style
    rw [Int.add_zero, Int.toNat_of_nonneg some] at painted
    exact ⟨(), b', start.trans ran, painted⟩

theorem run_allocate {r : Int} {ref : Nat} (positive : 0 < b.mLines.length)
    (found : look b.mLines b.mScreenFirstRow r = some (some ref)) :
    (allocateFullLineIfNecessary (slot b.mLines.length b.mScreenFirstRow r)).run b = .ok ref b := by
  unfold allocateFullLineIfNecessary
  simp only [EStateM.run_bind, run_getLine positive found, EStateM.run_pure]

def copyRow (source target sx sx2 dx : Int) : BufferM Unit := do
  let sourceRow ← allocateFullLineIfNecessary (← externalToInternalRow source)
  let targetRow ← allocateFullLineIfNecessary (← externalToInternalRow target)
  copyIntervalOf targetRow sourceRow sx sx2 dx

theorem Formed.run_copyRow (formed : b.Formed) {source target sx sx2 dx : Int} {line row row' : TerminalRow}
    (onScreen : 0 ≤ source ∧ source < b.mScreenRows) (onScreen' : 0 ≤ target ∧ target < b.mScreenRows)
    (found : b.shown source = some line) (found' : b.shown target = some row)
    (ran : (TerminalRow.copyInterval .java line (decide (target = source)) sx sx2 dx).run row = .ok () row')
    (good : row'.Good) :
    ∃ b', (copyRow source target sx sx2 dx).run b = .ok () b' ∧ Repainted (RowChange target row row') b b' := by
  have active := formed.active_nonneg
  have total := formed.screen_le
  obtain ⟨ref, line1, place, live, shown⟩ := formed.shown_isSome (show -b.mActiveTranscriptRows ≤ source by omega) onScreen.2
  obtain ⟨ref', row1, place', live', shown'⟩ :=
    formed.shown_isSome (show -b.mActiveTranscriptRows ≤ target by omega) onScreen'.2
  obtain rfl : line1 = line := Option.some.inj (shown.symm.trans found)
  obtain rfl : row1 = row := Option.some.inj (shown'.symm.trans found')
  have same : (ref' == ref) = decide (target = source) := by
    by_cases here : target = source
    · subst here
      rw [place, Option.some.injEq, Option.some.injEq] at place'
      simp [place']
    · have different : ref' ≠ ref := by
        rintro rfl
        exact here (formed.look_inj (by omega) (by omega) place' place)
      simp [here, different]
  have shape := TerminalRow.copyInterval_frame .java line1 (decide (target = source)) sx sx2 dx row1
  rw [ran] at shape
  refine ⟨{ b with rows := b.rows.set ref' row' }, ?_,
    formed.repainted (formed.touched_setRow place' live' shape.columns) onScreen'.1 onScreen'.2 found' good⟩
  unfold copyRow copyIntervalOf
  simp only [EStateM.run_bind, formed.toSized.run_externalToInternalRow (show -b.mActiveTranscriptRows ≤ source by omega)
      (by omega), formed.toSized.run_externalToInternalRow (show -b.mActiveTranscriptRows ≤ target by omega) (by omega),
    run_allocate formed.length_pos place, run_allocate formed.length_pos place', EStateM.run_get, live]
  rw [run_withRow live', same, ran]

def RowCopied (b : TerminalBuffer) (sx sy w dx dy : Nat) (r : Int) (old new : TerminalRow) : Prop :=
  ∃ line source cells, b.shown (sy + (r - dy)) = some line ∧
    TerminalRow.IntervalCopied (decide ((dy : Int) = sy)) line old new source cells sx w dx

def BlockCopied (b : TerminalBuffer) (sx sy w dx dy : Nat) (done : Int → Prop) (r : Int) (old new : TerminalRow) : Prop :=
  (done (r - dy) → RowCopied b sx sy w dx dy r old new) ∧ (¬ done (r - dy) → new = old)

def Passed (up : Bool) (h y i : Int) : Prop := 0 ≤ i ∧ i < h ∧ (if up then i < y else h - y ≤ i)

section

variable {sx sy w h dx dy : Nat} (formed : b.Formed) (positive : 0 < w) (right : (sx + w : Int) ≤ b.mColumns)
  (bottom : (sy + h : Int) ≤ b.mScreenRows) (right' : (dx + w : Int) ≤ b.mColumns)
  (bottom' : (dy + h : Int) ≤ b.mScreenRows)
include formed positive right bottom right' bottom'

theorem Formed.run_blockCopyRows_step {y i : Int} {up : Bool} (lower : 0 ≤ i) (upper : i < h)
    (fresh : ¬ Passed up h y i) (unread : ¬ Passed up h y (sy + i - dy))
    (painted : Repainted (BlockCopied b sx sy w dx dy (Passed up h y)) b b')
    (next : ∀ j, Passed up h (y + 1) j ↔ Passed up h y j ∨ j = i) :
    ∃ b'', (copyRow (sy + i) (dy + i) sx (sx + w) dx).run b' = .ok () b'' ∧
      Repainted (BlockCopied b sx sy w dx dy (Passed up h (y + 1))) b b'' := by
  obtain ⟨line, foundLine⟩ := formed.exists_shown (show 0 ≤ sy + i by omega) (by omega)
  obtain ⟨row, foundRow⟩ := formed.exists_shown (show 0 ≤ dy + i by omega) (by omega)
  obtain ⟨line', foundLine', unchanged⟩ := painted.screen _ line (by omega) (by omega) foundLine
  obtain ⟨row', foundRow', unchanged'⟩ := painted.screen _ row (by omega) (by omega) foundRow
  obtain rfl := unchanged.2 unread
  obtain rfl := unchanged'.2 (by rw [add_sub_cancel_left]; exact fresh)
  have good := formed.good foundRow
  obtain ⟨source, lineHolds⟩ := (formed.good foundLine).stored
  obtain ⟨cells, holds⟩ := good.stored
  have width := formed.shown_width foundRow
  have lineWidth := formed.shown_width foundLine
  have same : decide ((dy + i : Int) = sy + i) = decide ((dy : Int) = sy) := decide_eq_decide.mpr (by omega)
  obtain ⟨new, ran, copied⟩ := good.run_copyInterval holds lineHolds (by omega) positive
    (show sx + w ≤ row'.mColumns by omega) (show dx + w ≤ row'.mColumns by omega) (decide ((dy : Int) = sy))
  have own : decide ((dy : Int) = sy) = true → line' = row' := by
    intro equal
    rw [of_decide_eq_true equal, foundLine] at foundRow
    exact Option.some.inj foundRow
  have interval : TerminalRow.IntervalCopied (decide ((dy : Int) = sy)) line' row' new source cells sx w dx :=
    ⟨lineHolds, holds, own, by omega, positive, by omega, by omega, copied⟩
  rw [← same] at ran
  obtain ⟨b'', result, painted'⟩ := painted.formed.run_copyRow (by rw [painted.screenRows]; omega)
    (by rw [painted.screenRows]; omega) foundLine' foundRow' ran copied.rewritten.good
  refine ⟨b'', result, (painted.trans painted').mono ?_⟩
  rintro r old last - - before - ⟨mid, first, second⟩
  unfold RowChange at second
  split at second
  next here =>
    subst here
    obtain rfl : old = row' := Option.some.inj (before.symm.trans foundRow)
    obtain ⟨-, rfl⟩ := second
    rw [BlockCopied, add_sub_cancel_left]
    exact ⟨fun _ => ⟨line', source, cells, by rw [add_sub_cancel_left]; exact foundLine, interval⟩,
      fun not => absurd ((next i).mpr (.inr rfl)) not⟩
  next other =>
    subst second
    have same : Passed up h (y + 1) (r - dy) ↔ Passed up h y (r - dy) :=
      (next _).trans ⟨fun either => either.resolve_right (by omega), .inl⟩
    exact ⟨fun passed => first.1 (same.mp passed), fun not => first.2 fun passed => not (same.mpr passed)⟩

theorem Formed.run_blockCopyRows {up : Bool} (order : up = decide ((dy : Int) < sy)) (count : Nat) (y : Int)
    (lower : 0 ≤ y) (rest : y + count = h)
    (painted : Repainted (BlockCopied b sx sy w dx dy (Passed up h y)) b b') :
    ∃ b'', (blockCopyRows sx sy w h dx dy up count y).run b' = .ok () b'' ∧
      Repainted (BlockCopied b sx sy w dx dy (Passed up h h)) b b'' := by
  induction count generalizing b' y with
  | zero =>
    obtain rfl : y = h := by omega
    exact ⟨b', rfl, painted⟩
  | succ count ih =>
    have turn : blockCopyRows sx sy w h dx dy up (count + 1) y =
        copyRow (sy + if up then y else h - (y + 1)) (dy + if up then y else h - (y + 1)) sx (sx + w) dx >>= fun _ =>
          blockCopyRows sx sy w h dx dy up count (y + 1) := by
      simp only [blockCopyRows, copyRow, bind_assoc]
    have fresh : ¬ Passed up h y (if up then y else h - (y + 1)) := by
      unfold Passed
      cases up <;> simp
      omega
    have unread : ¬ Passed up h y (sy + (if up then y else h - (y + 1)) - dy) := by
      cases up with
      | true =>
        have less := of_decide_eq_true order.symm
        simp [Passed]
        omega
      | false =>
        have least := of_decide_eq_false order.symm
        simp [Passed]
        omega
    have next : ∀ j, Passed up h (y + 1) j ↔ Passed up h y j ∨ j = if up then y else h - (y + 1) := by
      intro j
      unfold Passed
      cases up <;> simp <;> omega
    obtain ⟨b1, first, painted'⟩ := formed.run_blockCopyRows_step positive right bottom right' bottom'
      (by split <;> omega) (by split <;> omega) fresh unread painted next
    obtain ⟨b2, second, painted''⟩ := ih (y + 1) (by omega) (by omega) painted'
    refine ⟨b2, ?_, painted''⟩
    rw [turn, run_bind_of first]
    exact second

theorem Formed.run_blockCopy :
    Ends (fun _ => Repainted (BlockCopied b sx sy w dx dy fun i => 0 ≤ i ∧ i < h) b) (blockCopy sx sy w h dx dy) b := by
  have checked : ¬ ((sx : Int) < 0 ∨ b.mColumns < sx + w ∨ (sy : Int) < 0 ∨ b.mScreenRows < sy + h ∨ (dx : Int) < 0 ∨
      b.mColumns < dx + w ∨ (dy : Int) < 0 ∨ b.mScreenRows < dy + h) := by omega
  have start : (blockCopy sx sy w h dx dy).run b =
      (blockCopyRows sx sy w h dx dy (decide ((dy : Int) < sy)) h 0).run b := by
    unfold blockCopy
    rw [if_neg (by omega)]
    simp only [EStateM.run_bind, EStateM.run_get, checked, if_false, Int.toNat_natCast]
  have none : ∀ i, ¬ Passed (decide ((dy : Int) < sy)) h 0 i := by
    intro i passed
    unfold Passed at passed
    split at passed <;> omega
  have all : ∀ i, Passed (decide ((dy : Int) < sy)) h h i ↔ 0 ≤ i ∧ i < h := by
    intro i
    unfold Passed
    split <;> omega
  obtain ⟨b', ran, painted⟩ := formed.run_blockCopyRows positive right bottom right' bottom' rfl h 0 (Int.le_refl 0)
    (by omega) (Repainted.refl formed fun r row => ⟨fun passed => absurd passed (none _), fun _ => rfl⟩)
  refine ⟨(), b', start.trans ran, painted.mono ?_⟩
  rintro r old new - - - - ⟨copied, kept⟩
  exact ⟨fun inside => copied ((all _).mpr inside), fun outside => kept fun passed => outside ((all _).mp passed)⟩

end

end TerminalBuffer
