import TerminalAndroid.Exec.Ends
import TerminalAndroid.Terminal.Buffer.Scroll
import TerminalAndroid.Terminal.Row.Interval

open Java Exec Circular

namespace TerminalBuffer

variable {b b' b'' : TerminalBuffer}

/-- The buffer is intact and every row object in it is well formed, also in the places that are not in use. -/
structure Formed (b : TerminalBuffer) : Prop extends Ring b where
  lower : 2 ≤ b.mColumns
  upper : b.mColumns ≤ 1023
  wellFormed : ∀ r row, b.shown r = some row → row.WellFormed

variable {r s : Int} {row row' : TerminalRow}

theorem Formed.good (formed : b.Formed) (shown : b.shown r = some row) : row.Good := by
  have width := formed.shown_width shown
  have lower := formed.lower
  have upper := formed.upper
  exact TerminalRow.good_iff.mpr ⟨formed.wellFormed r row shown, by omega, by omega⟩

theorem Formed.styles_length (formed : b.Formed) (found : b.shown r = some row) :
    (row.mStyle.length : Int) = b.mColumns := by
  obtain ⟨cells, holds⟩ := (formed.good found).stored
  have width := formed.shown_width found
  have styles := holds.styles
  omega

theorem shown_turn (b : TerminalBuffer) (r s : Int) : b.shown r = b.shown (s + (r - s) % b.mTotalRows) := by
  have same : slot b.mTotalRows b.mScreenFirstRow (s + (r - s) % b.mTotalRows) = slot b.mTotalRows b.mScreenFirstRow r := by
    rw [slot, slot, ← Int.add_assoc, Int.add_emod_emod, show b.mScreenFirstRow + s + (r - s) = b.mScreenFirstRow + r by omega]
  rw [shown, shown, lineRef, lineRef, same]

theorem Ring.formed (ring : b.Ring) (lower : 2 ≤ b.mColumns) (upper : b.mColumns ≤ 1023) (s : Int)
    (good : ∀ r row, s ≤ r → r < s + b.mTotalRows → b.shown r = some row → row.Good) : b.Formed := by
  refine ⟨ring, lower, upper, fun r row found => ?_⟩
  have positive : 0 < b.mTotalRows := by
    have := ring.screen_pos
    have := ring.screen_le
    omega
  have least := Int.emod_nonneg (r - s) (show b.mTotalRows ≠ 0 by omega)
  have most := Int.emod_lt_of_pos (r - s) positive
  rw [shown_turn b r s] at found
  exact (TerminalRow.good_iff.mp (good _ row (by omega) (by omega) found)).1

theorem Formed.touched (formed : b.Formed) (touched : Touched b b' s row') (good : row'.Good) :
    b'.Formed := by
  refine (touched.ring formed.toRing).formed (touched.columns ▸ formed.lower) (touched.columns ▸ formed.upper) s ?_
  intro r row least most found
  rw [touched.totalRows] at most
  rw [touched.shown r (by omega) (by omega)] at found
  split at found
  · cases found
    exact good
  · exact formed.good found

structure Repainted (rows : Int → TerminalRow → TerminalRow → Prop) (b b' : TerminalBuffer) : Prop where
  formed : b'.Formed
  totalRows : b'.mTotalRows = b.mTotalRows
  screenRows : b'.mScreenRows = b.mScreenRows
  columns : b'.mColumns = b.mColumns
  active : b'.mActiveTranscriptRows = b.mActiveTranscriptRows
  screen : ∀ r row, 0 ≤ r → r < b.mScreenRows → b.shown r = some row → ∃ row', b'.shown r = some row' ∧ rows r row row'
  transcript : ∀ r, b.mScreenRows - b.mTotalRows ≤ r → r < 0 → b'.shown r = b.shown r

namespace Repainted

variable {rows rows' : Int → TerminalRow → TerminalRow → Prop}

theorem refl (formed : b.Formed) (same : ∀ r row, rows r row row) : Repainted rows b b :=
  ⟨formed, rfl, rfl, rfl, rfl, fun r row _ _ found => ⟨row, found, same r row⟩, fun _ _ _ => rfl⟩

theorem trans (first : Repainted rows b b') (second : Repainted rows' b' b'') :
    Repainted (fun r row row'' => ∃ row', rows r row row' ∧ rows' r row' row'') b b'' := by
  refine ⟨second.formed, second.totalRows.trans first.totalRows, second.screenRows.trans first.screenRows,
    second.columns.trans first.columns, second.active.trans first.active, ?_, ?_⟩
  · intro r row lower upper found
    obtain ⟨row', found', changed⟩ := first.screen r row lower upper found
    obtain ⟨row'', found'', changed'⟩ := second.screen r row' lower (by rw [first.screenRows]; exact upper) found'
    exact ⟨row'', found'', row', changed, changed'⟩
  · intro r lower upper
    rw [second.transcript r (by rw [first.screenRows, first.totalRows]; exact lower) upper, first.transcript r lower upper]

theorem mono (painted : Repainted rows b b')
    (weaker : ∀ r row row', 0 ≤ r → r < b.mScreenRows → b.shown r = some row → b'.shown r = some row' →
      rows r row row' → rows' r row row') : Repainted rows' b b' := by
  refine { painted with screen := fun r row lower upper found => ?_ }
  obtain ⟨row', found', changed⟩ := painted.screen r row lower upper found
  exact ⟨row', found', weaker r row row' lower upper found found' changed⟩

end Repainted

def RowChange (s : Int) (row row' : TerminalRow) (r : Int) (old new : TerminalRow) : Prop :=
  if r = s then old = row ∧ new = row' else new = old

theorem Formed.repainted (formed : b.Formed) (touched : Touched b b' s row')
    (lower : 0 ≤ s) (upper : s < b.mScreenRows) (found : b.shown s = some row) (good : row'.Good) :
    Repainted (RowChange s row row') b b' := by
  have most := formed.screen_le
  refine ⟨formed.touched touched good, touched.totalRows, touched.screenRows, touched.columns, touched.active, ?_, ?_⟩
  · intro r old least below before
    have shown := touched.shown r (by omega) (by omega)
    by_cases here : r = s
    · subst here
      rw [if_pos rfl] at shown
      rw [found, Option.some.injEq] at before
      exact ⟨row', shown, by rw [RowChange, if_pos rfl]; exact ⟨before.symm, rfl⟩⟩
    · rw [if_neg here] at shown
      exact ⟨old, shown.trans before, by rw [RowChange, if_neg here]⟩
  · intro r least negative
    rw [touched.shown r (by omega) (by omega), if_neg (by omega)]

theorem Formed.exists_shown (formed : b.Formed) (lower : 0 ≤ r) (upper : r < b.mScreenRows) :
    ∃ row, b.shown r = some row := by
  have active := formed.active_nonneg
  obtain ⟨ref, row, -, -, found⟩ := formed.shown_isSome (show -b.mActiveTranscriptRows ≤ r by omega) upper
  exact ⟨row, found⟩

theorem Formed.run_onLine {α : Type} (formed : b.Formed) {method : RowM α} {a : α}
    (width : Frame (fun row row' => row'.mColumns = row.mColumns) method) (lower : 0 ≤ s) (upper : s < b.mScreenRows)
    (found : b.shown s = some row) (ran : method.run row = .ok a row') (good : row'.Good) :
    ∃ b', (onLine (slot b.mLines.length b.mScreenFirstRow s) method).run b = .ok a b' ∧
      Repainted (RowChange s row row') b b' := by
  obtain ⟨b', touched, result⟩ := formed.toLinked.exists_touched formed.columns_nonneg s method width
  have line : b.lineToTouch s = row := by rw [lineToTouch, found, Option.getD_some]
  rw [line, ran] at touched result
  exact ⟨b', result, formed.repainted touched lower upper found good⟩

theorem Formed.run_lineAt {α : Type} (formed : b.Formed) {method : RowM α} {a : α}
    (lower : 0 ≤ s) (upper : s < b.mScreenRows) (found : b.shown s = some row) (ran : method.run row = .ok a row')
    (width : row'.mColumns = row.mColumns) (good : row'.Good) :
    ∃ b', (lineAt s >>= fun ref => withRow ref method).run b = .ok a b' ∧ Repainted (RowChange s row row') b b' := by
  have active := formed.active_nonneg
  have total := formed.screen_le
  obtain ⟨ref, row1, place, live, shown⟩ := formed.shown_isSome (show -b.mActiveTranscriptRows ≤ s by omega) upper
  obtain rfl : row1 = row := Option.some.inj (shown.symm.trans found)
  refine ⟨{ b with rows := b.rows.set ref row' }, ?_,
    formed.repainted (formed.touched_setRow place live width) lower upper found good⟩
  unfold lineAt
  simp only [EStateM.run_bind, formed.toSized.run_externalToInternalRow (show -b.mActiveTranscriptRows ≤ s by omega)
    (by omega), run_getLine formed.length_pos place, deref, EStateM.run_pure]
  rw [run_withRow live, ran]

theorem Formed.run_setChar (formed : b.Formed) {column : Nat} {x : Nat} {style : Style}
    (inside : (column : Int) < b.mColumns) (lower : 0 ≤ s) (upper : s < b.mScreenRows) (found : b.shown s = some row)
    (ran : (TerminalRow.setChar .java column x style).run row = .ok () row') (good : row'.Good) :
    ∃ b', (setChar column s x style).run b = .ok () b' ∧
      Repainted (RowChange s row row') b b' := by
  have active := formed.active_nonneg
  have bounds : ¬ (s < 0 ∨ b.mScreenRows ≤ s ∨ (column : Int) < 0 ∨ b.mColumns ≤ column) := by omega
  have width := (TerminalRow.setChar_frame .java column x style).mono fun _ _ shape => shape.columns
  obtain ⟨b', result, painted⟩ := formed.run_onLine width lower upper found ran good
  refine ⟨b', ?_, painted⟩
  unfold setChar
  simp only [EStateM.run_bind, EStateM.run_get, bounds, if_false,
    formed.toSized.run_externalToInternalRow (show -b.mActiveTranscriptRows ≤ s by omega) (by omega), result]

end TerminalBuffer
