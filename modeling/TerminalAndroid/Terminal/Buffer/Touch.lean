import TerminalAndroid.Terminal.Buffer.Ring

open Java Exec Circular

theorem TerminalRow.create_cleared (columns : Nat) (old style : Style) :
    (TerminalRow.create columns old).cleared .java style = TerminalRow.create columns style := by
  simp only [TerminalRow.create, TerminalRow.cleared, List.length_replicate]

namespace TerminalBuffer

variable {b : TerminalBuffer}

structure Touched (b b' : TerminalBuffer) (s : Int) (row : TerminalRow) : Prop where
  linked : b'.Linked
  totalRows : b'.mTotalRows = b.mTotalRows
  screenRows : b'.mScreenRows = b.mScreenRows
  columns : b'.mColumns = b.mColumns
  active : b'.mActiveTranscriptRows = b.mActiveTranscriptRows
  first : b'.mScreenFirstRow = b.mScreenFirstRow
  filled : ∀ r ref, look b.mLines b.mScreenFirstRow r = some (some ref) →
    look b'.mLines b'.mScreenFirstRow r = some (some ref)
  shown : ∀ r, -b.mTotalRows < r - s → r - s < b.mTotalRows → b'.shown r = if r = s then some row else b.shown r

variable {s : Int} {row : TerminalRow}

theorem Touched.ring {b' : TerminalBuffer} (touched : Touched b b' s row)
    (ring : b.Ring) : b'.Ring := by
  refine ⟨touched.linked, fun r lower upper => ?_⟩
  rw [touched.active] at lower
  rw [touched.screenRows] at upper
  obtain ⟨ref, found⟩ := ring.filled r lower upper
  exact ⟨ref, touched.filled r ref found⟩

theorem Linked.touched_setRow (linked : b.Linked) {ref : Nat} {row' : TerminalRow}
    (found : look b.mLines b.mScreenFirstRow s = some (some ref)) (live : b.rows[ref]? = some row)
    (width : row'.mColumns = row.mColumns) : Touched b { b with rows := b.rows.set ref row' } s row' where
  linked := linked.setRow live width
  totalRows := rfl
  screenRows := rfl
  columns := rfl
  active := rfl
  first := rfl
  filled := fun _ _ old => old
  shown := fun _ after before => linked.shown_setRow found after before row'

theorem Linked.touched_fillLine (linked : b.Linked)
    (empty : look b.mLines b.mScreenFirstRow s = some none)
    (width : (row.mColumns : Int) = b.mColumns) :
    Touched b { b with
      rows := b.rows ++ [row]
      mLines := b.mLines.set (slot b.mLines.length b.mScreenFirstRow s).toNat (some b.rows.length) } s row where
  linked := linked.fillLine empty width
  totalRows := rfl
  screenRows := rfl
  columns := rfl
  active := rfl
  first := rfl
  filled := fun r ref old => by
    simp only [look, List.length_set] at old ⊢
    rw [List.getElem?_set_ne]
    · exact old
    · intro same
      rw [look, same, old] at empty
      cases empty
  shown := fun _ after before => linked.shown_fillLine after before row

theorem run_newRow {columns : Int} (nonneg : 0 ≤ columns) (style : Style) :
    (newRow columns style).run b = .ok b.rows.length
      { b with rows := b.rows ++ [TerminalRow.create columns.toNat style] } := by
  unfold newRow
  simp only [show ¬ columns < 0 by omega, if_false, EStateM.run_bind, EStateM.run_get, EStateM.run_set]
  rfl

def lineToTouch (b : TerminalBuffer) (s : Int) : TerminalRow :=
  (b.shown s).getD (TerminalRow.create b.mColumns.toNat 0)

theorem Linked.shown_width (linked : b.Linked) {r : Int} (found : b.shown r = some row) :
    (row.mColumns : Int) = b.mColumns := by
  obtain ⟨ref, line, live⟩ := Option.bind_eq_some_iff.mp found
  obtain ⟨same, alive, width⟩ := linked.look_ref (linked.lineRef_eq_some.mp line)
  rw [alive, Option.some.injEq] at live
  rw [← width, live]

theorem Linked.lineToTouch_width (linked : b.Linked) (columns : 0 ≤ b.mColumns) (s : Int) :
    ((b.lineToTouch s).mColumns : Int) = b.mColumns := by
  unfold lineToTouch
  cases found : b.shown s with
  | none => exact Int.toNat_of_nonneg columns
  | some row => exact linked.shown_width found

theorem Linked.exists_touched {α : Type} (linked : b.Linked) (columns : 0 ≤ b.mColumns) (s : Int) (method : RowM α)
    (width : Frame (fun row row' => row'.mColumns = row.mColumns) method) :
    ∃ b', Touched b b' s (final (method.run (b.lineToTouch s))) ∧
      (onLine (slot b.mLines.length b.mScreenFirstRow s) method).run b =
        match method.run (b.lineToTouch s) with
        | .ok a _ => .ok a b'
        | .error thrown _ => .error thrown b' := by
  unfold onLine
  obtain ⟨line, found⟩ := exists_look linked.length_pos b.mScreenFirstRow s
  cases line with
  | some ref =>
    obtain ⟨row, live, -⟩ := linked.look_ref found
    have shownRow : b.lineToTouch s = row := by
      rw [lineToTouch, linked.shown_of_look found, live, Option.getD_some]
    rw [shownRow]
    have same := width row
    refine ⟨{ b with rows := b.rows.set ref (final (method.run row)) }, linked.touched_setRow found live same, ?_⟩
    simp only [allocateFullLineIfNecessary, EStateM.run_bind, run_getLine linked.length_pos found, EStateM.run_pure,
      run_withRow live]
    cases method.run row <;> rfl
  | none =>
    let fresh := TerminalRow.create b.mColumns.toNat 0
    have shownRow : b.lineToTouch s = fresh := by
      simp [lineToTouch, shown, linked.lineRef_eq, found, fresh]
    rw [shownRow]
    have same := width fresh
    have freshWidth : (fresh.mColumns : Int) = b.mColumns := Int.toNat_of_nonneg columns
    let b1 : TerminalBuffer := { b with
      rows := b.rows ++ [fresh]
      mLines := b.mLines.set (slot b.mLines.length b.mScreenFirstRow s).toNat (some b.rows.length) }
    have live : b1.rows[b.rows.length]? = some fresh := by simp [b1]
    have put := run_setLine (b := { b with rows := b.rows ++ [fresh] }) linked.length_pos b.mScreenFirstRow s
      (some b.rows.length)
    refine ⟨{ b1 with rows := b1.rows.set b.rows.length (final (method.run fresh)) }, ?_, ?_⟩
    · have filled := linked.touched_fillLine found
        (show ((final (method.run fresh)).mColumns : Int) = b.mColumns by rw [same]; exact freshWidth)
      have rows : b1.rows.set b.rows.length (final (method.run fresh)) = b.rows ++ [final (method.run fresh)] := by
        simp [b1]
      rw [rows]
      exact filled
    · simp only [allocateFullLineIfNecessary, EStateM.run_bind, run_getLine linked.length_pos found, EStateM.run_get,
        run_newRow columns]
      rw [put]
      simp only [EStateM.run_pure]
      rw [run_withRow live]
      cases method.run fresh <;> rfl

end TerminalBuffer
