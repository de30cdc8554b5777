import TerminalAndroid.Ring.Circular
import TerminalAndroid.Terminal.TerminalBuffer
import TerminalAndroid.Terminal.Row.Shape

open Java Exec Circular

namespace Java

theorem remainder_eq {a b : Int} (lower : 0 ≤ a) (positive : 0 < b) : remainder a b = .ok (a % b) := by
  rw [remainder, if_neg (by omega), Int.tmod_eq_emod_of_nonneg lower]

end Java

namespace TerminalBuffer

def lineRef (b : TerminalBuffer) (r : Int) : Option Nat :=
  (b.mLines[(slot b.mTotalRows b.mScreenFirstRow r).toNat]?).join

def shown (b : TerminalBuffer) (r : Int) : Option TerminalRow := (b.lineRef r).bind (b.rows[·]?)

structure Counters (b : TerminalBuffer) : Prop where
  screen_pos : 1 ≤ b.mScreenRows
  screen_le : b.mScreenRows ≤ b.mTotalRows
  first_nonneg : 0 ≤ b.mScreenFirstRow
  first_lt : b.mScreenFirstRow < b.mTotalRows
  active_nonneg : 0 ≤ b.mActiveTranscriptRows
  active_le : b.mActiveTranscriptRows ≤ b.mTotalRows - b.mScreenRows

structure Sized (b : TerminalBuffer) : Prop extends Counters b where
  length : (b.mLines.length : Int) = b.mTotalRows

structure Linked (b : TerminalBuffer) : Prop extends Sized b where
  live : ∀ (i ref : Nat), b.mLines[i]? = some (some ref) →
    ∃ row, b.rows[ref]? = some row ∧ (row.mColumns : Int) = b.mColumns
  distinct : ∀ i j ref : Nat, b.mLines[i]? = some (some ref) → b.mLines[j]? = some (some ref) → i = j

structure Ring (b : TerminalBuffer) : Prop extends Linked b where
  filled : ∀ r, -b.mActiveTranscriptRows ≤ r → r < b.mScreenRows →
    ∃ ref, look b.mLines b.mScreenFirstRow r = some (some ref)

variable {b : TerminalBuffer}

theorem Sized.length_pos (counters : b.Sized) : 0 < b.mLines.length := by
  have := counters.length
  have := counters.screen_pos
  have := counters.screen_le
  omega

theorem Sized.lineRef_eq (sized : b.Sized) (r : Int) : b.lineRef r = (look b.mLines b.mScreenFirstRow r).join := by
  rw [lineRef, look, sized.length]

variable {r : Int} {ref i : Nat} {row : TerminalRow}

theorem Sized.lineRef_eq_some (sized : b.Sized) :
    b.lineRef r = some ref ↔ look b.mLines b.mScreenFirstRow r = some (some ref) := by
  rw [sized.lineRef_eq]
  exact Option.join_eq_some_iff

theorem Sized.shown_of_look (sized : b.Sized)
    (found : look b.mLines b.mScreenFirstRow r = some (some ref)) : b.shown r = b.rows[ref]? := by
  rw [shown, sized.lineRef_eq_some.mpr found, Option.bind_some]

namespace Linked

theorem look_ref (linked : b.Linked)
    (found : look b.mLines b.mScreenFirstRow r = some (some ref)) :
    ∃ row, b.rows[ref]? = some row ∧ (row.mColumns : Int) = b.mColumns :=
  linked.live _ ref found

theorem ref_lt (linked : b.Linked) (found : b.mLines[i]? = some (some ref)) : ref < b.rows.length := by
  obtain ⟨old, live, -⟩ := linked.live i ref found
  exact (List.getElem?_eq_some_iff.mp live).1

theorem look_inj (linked : b.Linked) {i j : Int} (after : -b.mTotalRows < i - j)
    (before : i - j < b.mTotalRows) (left : look b.mLines b.mScreenFirstRow i = some (some ref))
    (right : look b.mLines b.mScreenFirstRow j = some (some ref)) : i = j := by
  have positive : (0 : Int) < b.mLines.length := Int.natCast_pos.mpr linked.length_pos
  have same := linked.distinct _ _ ref left right
  have lowerI := slot_nonneg positive b.mScreenFirstRow i
  have lowerJ := slot_nonneg positive b.mScreenFirstRow j
  rw [← linked.length] at after before
  have index : slot b.mLines.length b.mScreenFirstRow i = slot b.mLines.length b.mScreenFirstRow j := by omega
  exact slot_inj after before index

theorem withRows (linked : b.Linked) (rows : List TerminalRow)
    (same : ∀ (ref : Nat) (row : TerminalRow), b.rows[ref]? = some row →
      ∃ row', rows[ref]? = some row' ∧ row'.mColumns = row.mColumns) :
    ({ b with rows := rows } : TerminalBuffer).Linked where
  toSized := { linked.toSized with }
  live := fun i ref found => by
    obtain ⟨row, live, width⟩ := linked.live i ref found
    obtain ⟨row', live', same⟩ := same ref row live
    exact ⟨row', live', by rw [same, width]⟩
  distinct := linked.distinct

theorem setRow (linked : b.Linked) {row' : TerminalRow} (live : b.rows[ref]? = some row)
    (width : row'.mColumns = row.mColumns) : ({ b with rows := b.rows.set ref row' } : TerminalBuffer).Linked := by
  refine linked.withRows _ fun other old found => ?_
  by_cases same : ref = other
  · subst same
    obtain ⟨bound, -⟩ := List.getElem?_eq_some_iff.mp live
    rw [live, Option.some.injEq] at found
    exact ⟨row', List.getElem?_set_self bound, found ▸ width⟩
  · exact ⟨old, by rw [List.getElem?_set_ne same]; exact found, rfl⟩

theorem shown_setRow (linked : b.Linked) {s : Int}
    (found : look b.mLines b.mScreenFirstRow s = some (some ref)) (after : -b.mTotalRows < r - s)
    (before : r - s < b.mTotalRows) (row : TerminalRow) :
    ({ b with rows := b.rows.set ref row } : TerminalBuffer).shown r = if r = s then some row else b.shown r := by
  obtain ⟨old, live, -⟩ := linked.look_ref found
  obtain ⟨bound, -⟩ := List.getElem?_eq_some_iff.mp live
  by_cases here : r = s
  · subst here
    have same : ({ b with rows := b.rows.set ref row } : TerminalBuffer).lineRef r = some ref :=
      linked.lineRef_eq_some.mpr found
    rw [if_pos rfl, shown, same]
    exact List.getElem?_set_self bound
  · rw [if_neg here]
    have same : ({ b with rows := b.rows.set ref row } : TerminalBuffer).lineRef r = b.lineRef r := rfl
    simp only [shown, same]
    cases other : b.lineRef r with
    | none => rfl
    | some ref' =>
      have different : ref ≠ ref' := by
        rintro rfl
        exact here (linked.look_inj after before (linked.lineRef_eq_some.mp other) found)
      simp only [Option.bind_some, List.getElem?_set_ne different]

theorem fillLine (linked : b.Linked) {index : Nat} (empty : b.mLines[index]? = some none)
    (width : (row.mColumns : Int) = b.mColumns) :
    ({ b with rows := b.rows ++ [row], mLines := b.mLines.set index (some b.rows.length) } : TerminalBuffer).Linked := by
  obtain ⟨bound, -⟩ := List.getElem?_eq_some_iff.mp empty
  have entry : ∀ i ref : Nat, (b.mLines.set index (some b.rows.length))[i]? = some (some ref) →
      (i = index ∧ ref = b.rows.length) ∨ (i ≠ index ∧ b.mLines[i]? = some (some ref)) := by
    intro i ref found
    by_cases same : index = i
    · subst same
      rw [List.getElem?_set_self bound] at found
      exact .inl ⟨rfl, by simpa using found.symm⟩
    · rw [List.getElem?_set_ne same] at found
      exact .inr ⟨fun equal => same equal.symm, found⟩
  refine ⟨{ linked.toSized with length := by simpa using linked.length }, ?_, ?_⟩
  · intro i ref found
    rcases entry i ref found with ⟨-, rfl⟩ | ⟨-, old⟩
    · exact ⟨row, by simp, width⟩
    · obtain ⟨oldRow, live, same⟩ := linked.live i ref old
      exact ⟨oldRow, by rw [List.getElem?_append_left (linked.ref_lt old)]; exact live, same⟩
  · intro i j ref left right
    rcases entry i ref left with ⟨rfl, rfl⟩ | ⟨-, oldLeft⟩ <;> rcases entry j _ right with ⟨rfl, same⟩ | ⟨-, oldRight⟩
    · rfl
    · exact absurd (linked.ref_lt oldRight) (Nat.lt_irrefl _)
    · subst same
      exact absurd (linked.ref_lt oldLeft) (Nat.lt_irrefl _)
    · exact linked.distinct i j ref oldLeft oldRight

theorem shown_fillLine (linked : b.Linked) {s : Int} (after : -b.mTotalRows < r - s)
    (before : r - s < b.mTotalRows) (row : TerminalRow) :
    ({ b with
        rows := b.rows ++ [row]
        mLines := b.mLines.set (slot b.mLines.length b.mScreenFirstRow s).toNat (some b.rows.length) } :
      TerminalBuffer).shown r = if r = s then some row else b.shown r := by
  rw [← linked.length] at after before
  have placed := look_set b.mLines linked.length_pos b.mScreenFirstRow (some b.rows.length) after before
  have same : ({ b with
      rows := b.rows ++ [row]
      mLines := b.mLines.set (slot b.mLines.length b.mScreenFirstRow s).toNat (some b.rows.length) } :
        TerminalBuffer).lineRef r = if r = s then some b.rows.length else b.lineRef r := by
    rw [linked.lineRef_eq, lineRef, ← linked.length]
    rw [look, List.length_set] at placed
    simp only [placed]
    split <;> rfl
  simp only [shown, same]
  by_cases here : r = s
  · simp [here]
  · simp only [here, if_false]
    cases other : b.lineRef r with
    | none => rfl
    | some ref =>
      have old := linked.ref_lt (linked.lineRef_eq_some.mp other)
      simp only [Option.bind_some, List.getElem?_append_left old]

end Linked

namespace Ring

theorem shown_isSome (ring : b.Ring) (lower : -b.mActiveTranscriptRows ≤ r) (upper : r < b.mScreenRows) :
    ∃ ref row, look b.mLines b.mScreenFirstRow r = some (some ref) ∧ b.rows[ref]? = some row ∧ b.shown r = some row := by
  obtain ⟨ref, found⟩ := ring.filled r lower upper
  obtain ⟨row, live, -⟩ := ring.look_ref found
  exact ⟨ref, row, found, live, by rw [ring.shown_of_look found, live]⟩

theorem columns_nonneg (ring : b.Ring) : 0 ≤ b.mColumns := by
  obtain ⟨ref, found⟩ := ring.filled 0 (by have := ring.active_nonneg; omega) (by have := ring.screen_pos; omega)
  obtain ⟨row, -, width⟩ := ring.look_ref found
  omega

theorem setRow (ring : b.Ring) {row' : TerminalRow} (live : b.rows[ref]? = some row)
    (width : row'.mColumns = row.mColumns) : ({ b with rows := b.rows.set ref row' } : TerminalBuffer).Ring :=
  ⟨ring.toLinked.setRow live width, ring.filled⟩

theorem fillLine (ring : b.Ring) {index : Nat} (empty : b.mLines[index]? = some none)
    (width : (row.mColumns : Int) = b.mColumns) :
    ({ b with rows := b.rows ++ [row], mLines := b.mLines.set index (some b.rows.length) } : TerminalBuffer).Ring := by
  refine ⟨ring.toLinked.fillLine empty width, fun r lower upper => ?_⟩
  obtain ⟨ref, found⟩ := ring.filled r lower upper
  refine ⟨ref, ?_⟩
  simp only [look, List.length_set] at found ⊢
  rw [List.getElem?_set_ne]
  · exact found
  · intro same
    rw [← same, empty] at found
    cases found

end Ring

theorem Counters.run_externalToInternalRow (counters : b.Counters) (lower : -b.mActiveTranscriptRows ≤ r)
    (upper : r ≤ b.mScreenRows) :
    (externalToInternalRow r).run b = .ok (slot b.mTotalRows b.mScreenFirstRow r) b := by
  have active := counters.active_le
  have first := counters.first_nonneg
  have before := counters.first_lt
  have screen := counters.screen_pos
  have most := counters.screen_le
  have bounds : ¬ (r < -b.mActiveTranscriptRows ∨ b.mScreenRows < r) := by omega
  unfold externalToInternalRow
  simp only [EStateM.run_bind, EStateM.run_get, bounds, if_false]
  by_cases negative : b.mScreenFirstRow + r < 0
  · rw [if_pos negative]
    have index : slot b.mTotalRows b.mScreenFirstRow r = b.mTotalRows + (b.mScreenFirstRow + r) := by
      rw [← slot_add_self, slot_of_range (by omega) (by omega)]
      omega
    rw [index]
    rfl
  · rw [if_neg negative, remainder_eq (by omega) (by omega), run_liftResult_ok, slot]

theorem Sized.run_externalToInternalRow (sized : b.Sized) (lower : -b.mActiveTranscriptRows ≤ r)
    (upper : r ≤ b.mScreenRows) :
    (externalToInternalRow r).run b = .ok (slot b.mLines.length b.mScreenFirstRow r) b := by
  rw [sized.length]
  exact sized.toCounters.run_externalToInternalRow lower upper

theorem run_getLine {origin : Int} {line : Option Nat} (positive : 0 < b.mLines.length)
    (found : look b.mLines origin r = some line) :
    (getLine (slot b.mLines.length origin r)).run b = .ok line b := by
  have lower := slot_nonneg (Int.natCast_pos.mpr positive) origin r
  unfold getLine
  simp only [EStateM.run_bind, EStateM.run_get]
  rw [← Int.toNat_of_nonneg lower]
  exact run_readArray found b

theorem run_setLine (positive : 0 < b.mLines.length) (origin r : Int) (line : Option Nat) :
    (setLine (slot b.mLines.length origin r) line).run b =
      .ok () { b with mLines := b.mLines.set (slot b.mLines.length origin r).toNat line } := by
  have lower := slot_nonneg (Int.natCast_pos.mpr positive) origin r
  have upper := slot_lt (Int.natCast_pos.mpr positive) origin r
  unfold setLine
  simp only [EStateM.run_bind, EStateM.run_get]
  have written := run_writeArray b.mLines (slot b.mLines.length origin r).toNat line (by omega) b
  rw [Int.toNat_of_nonneg lower] at written
  rw [written]
  rfl

theorem run_withRow {α : Type} (live : b.rows[ref]? = some row)
    (method : RowM α) : (withRow ref method).run b =
      match method.run row with
      | .ok a row => .ok a { b with rows := b.rows.set ref row }
      | .error thrown row => .error thrown { b with rows := b.rows.set ref row } := by
  cases outcome : method row <;> simp only [withRow, EStateM.run, live, outcome]

def canvas (old lines : List TerminalRow) (columns screenRows first active : Int) : TerminalBuffer where
  rows := old ++ lines
  mLines := (List.range' old.length lines.length).map some
  mTotalRows := lines.length
  mScreenRows := screenRows
  mColumns := columns
  mActiveTranscriptRows := active
  mScreenFirstRow := first

section Canvas

variable {old lines : List TerminalRow} {columns screenRows first active : Int}

theorem canvas_length : (canvas old lines columns screenRows first active).mLines.length = lines.length := by
  simp [canvas]

theorem canvas_entry (bound : i < lines.length) :
    (canvas old lines columns screenRows first active).mLines[i]? = some (some (old.length + i)) := by
  simp [canvas, List.getElem?_range' bound]

theorem canvas_entry_iff :
    (canvas old lines columns screenRows first active).mLines[i]? = some (some ref) ↔
      i < lines.length ∧ ref = old.length + i := by
  constructor
  · intro found
    have bound := (List.getElem?_eq_some_iff.mp found).1
    rw [canvas_length] at bound
    rw [canvas_entry bound] at found
    simp only [Option.some.injEq] at found
    exact ⟨bound, found.symm⟩
  · rintro ⟨bound, rfl⟩
    exact canvas_entry bound

theorem canvas_row (i : Nat) : (canvas old lines columns screenRows first active).rows[old.length + i]? = lines[i]? := by
  rw [canvas, List.getElem?_append_right (Nat.le_add_right _ _), Nat.add_sub_cancel_left]

theorem canvas_look (positive : 0 < lines.length) (r : Int) :
    look (canvas old lines columns screenRows first active).mLines first r =
      some (some (old.length + (slot lines.length first r).toNat)) := by
  have upper := slot_lt (Int.natCast_pos.mpr positive) first r
  have lower := slot_nonneg (Int.natCast_pos.mpr positive) first r
  rw [look, canvas_length]
  exact canvas_entry (by omega)

theorem canvas_shown (positive : 0 < lines.length) (r : Int) :
    (canvas old lines columns screenRows first active).shown r = look lines first r := by
  have found : look (canvas old lines columns screenRows first active).mLines first r = _ := canvas_look positive r
  have line : (canvas old lines columns screenRows first active).lineRef r =
      some (old.length + (slot lines.length first r).toNat) := by
    rw [look, canvas_length] at found
    exact Option.join_eq_some_iff.mpr found
  rw [shown, line, Option.bind_some, canvas_row]
  rfl

theorem canvas_sized (positive : 1 ≤ screenRows) (most : screenRows ≤ lines.length) (first_nonneg : 0 ≤ first)
    (first_lt : first < lines.length) (active_nonneg : 0 ≤ active) (active_le : active ≤ lines.length - screenRows) :
    (canvas old lines columns screenRows first active).Sized :=
  ⟨⟨positive, most, first_nonneg, first_lt, active_nonneg, active_le⟩, by rw [canvas_length]; rfl⟩

theorem Sized.canvas_ring (sized : (canvas old lines columns screenRows first active).Sized)
    (width : ∀ row ∈ lines, (row.mColumns : Int) = columns) :
    (canvas old lines columns screenRows first active).Ring := by
  refine ⟨⟨sized, fun i ref found => ?_, fun i j ref left right => ?_⟩, fun r _ _ => ?_⟩
  · obtain ⟨bound, rfl⟩ := canvas_entry_iff.mp found
    exact ⟨lines[i], by rw [canvas_row, List.getElem?_eq_getElem bound], width _ (List.getElem_mem bound)⟩
  · obtain ⟨-, left⟩ := canvas_entry_iff.mp left
    obtain ⟨-, right⟩ := canvas_entry_iff.mp right
    omega
  · have positive := sized.length_pos
    rw [canvas_length] at positive
    exact ⟨_, canvas_look positive r⟩

end Canvas

def freshLines (b : TerminalBuffer) (newColumns newRows newTotalRows : Int) (style : Style) : TerminalBuffer :=
  canvas b.rows (List.replicate newTotalRows.toNat (TerminalRow.create newColumns.toNat style)) newColumns newRows 0 0

theorem freshLines_ring (b : TerminalBuffer) {newColumns newRows newTotalRows : Int} (columns : 0 ≤ newColumns)
    (positive : 1 ≤ newRows) (most : newRows ≤ newTotalRows) (style : Style) :
    (b.freshLines newColumns newRows newTotalRows style).Ring := by
  refine (canvas_sized positive ?_ (Int.le_refl 0) ?_ (Int.le_refl 0) ?_).canvas_ring fun row member => ?_
  · rw [List.length_replicate]
    omega
  · rw [List.length_replicate]
    omega
  · rw [List.length_replicate]
    omega
  · rw [List.eq_of_mem_replicate member]
    exact Int.toNat_of_nonneg columns

end TerminalBuffer
