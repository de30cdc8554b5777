import TerminalAndroid.Terminal.Buffer.ResizeRows

open Java Exec Circular

namespace TerminalBuffer

variable {total : Int}

theorem run_newRows {columns : Int} (nonneg : 0 ≤ columns) (style : Style) (count : Nat) (b : TerminalBuffer) :
    (newRows columns style count).run b = .ok ((List.range' b.rows.length count).map some)
      { b with rows := b.rows ++ List.replicate count (TerminalRow.create columns.toNat style) } := by
  induction count generalizing b with
  | zero => simp [newRows]
  | succ count ih =>
    simp only [newRows, EStateM.run_bind, run_newRow nonneg, ih, EStateM.run_pure, List.length_append,
      List.length_singleton, List.append_assoc, List.singleton_append, List.replicate_succ, List.range'_succ,
      List.map_cons]

variable {newColumns : Int} {b : TerminalBuffer}

theorem run_reflowAll {newTotalRows : Int} (columns : 0 ≤ newColumns) (size : 0 ≤ newTotalRows)
    (newRows : Int) (cursor : Int × Int) (style : Style) (b : TerminalBuffer) :
    (reflowAll newColumns newRows newTotalRows cursor style).run b =
      (reflowRows style b.oldLines cursor.1 cursor.2 (b.mActiveTranscriptRows + b.mScreenRows).toNat
        (-b.mActiveTranscriptRows) {}).run (b.freshLines newColumns newRows newTotalRows style) := by
  unfold reflowAll
  simp only [EStateM.run_bind, EStateM.run_get, show ¬ newTotalRows < 0 by omega, if_false, run_newRows columns,
    EStateM.run_modify]
  refine congrArg _ ?_
  simp only [freshLines, canvas, List.length_replicate, Int.toNat_of_nonneg size]

theorem reflowAll_keeps {newRows : Int} (columns : 0 ≤ newColumns) (positive : 1 ≤ newRows)
    (most : newRows ≤ total) (cursor : Int × Int) (style : Style) :
    Frame (Keeps (RingOf total)) (reflowAll newColumns newRows total cursor style) := by
  intro b _
  rw [run_reflowAll columns (by omega)]
  refine (reflowRows_frame _ _ _ _ _ _ _ : Frame (Keeps (RingOf total)) _) _ ⟨b.freshLines_ring columns positive most style, ?_⟩
  show ((List.replicate total.toNat _).length : Int) = total
  rw [List.length_replicate]
  omega

theorem resize_keeps {newRows : Int} (columns : 0 ≤ newColumns) (positive : 1 ≤ newRows)
    (most : newRows ≤ total) (cursor : Int × Int) (style : Style) :
    Frame (Keeps (RingOf total)) (resize newColumns newRows total cursor style false) := by
  refine Frame.get_bind fun b => Frame.bind (Frame.ite (fun _ => ?_) fun _ => ?_) (fun _ => Frame.pure _) b
  · exact Frame.bind (resizeRows_keeps positive most _ _) fun _ => Frame.pure _
  · exact Frame.bind (reflowAll_keeps columns positive most cursor style) fun _ => Frame.pure _

structure Started (columns totalRows screenRows : Int) (place : Int → Prop) (b : TerminalBuffer) : Prop where
  linked : b.Linked
  width : b.mColumns = columns
  size : b.mTotalRows = totalRows
  screen : b.mScreenRows = screenRows
  active : b.mActiveTranscriptRows = 0
  filled : ∀ r, place r → ∃ ref, look b.mLines b.mScreenFirstRow r = some (some ref)

variable {columns totalRows screenRows : Int} {place : Int → Prop}

theorem setChar_started (nonneg : 0 ≤ columns) (column row : Int) (codePoint : Nat) (style : Style) :
    Triple (Started columns totalRows screenRows place) (setChar column row codePoint style)
      (fun _ => Started columns totalRows screenRows fun r => place r ∨ r = row) (fun _ _ => True) := by
  intro b started
  have linked := started.linked
  unfold setChar
  simp only [EStateM.run_bind, EStateM.run_get]
  by_cases outside : row < 0 ∨ b.mScreenRows ≤ row ∨ column < 0 ∨ b.mColumns ≤ column
  · simp only [outside, if_true, EStateM.run_bind, EStateM.run_throw]
  · simp only [outside, if_false, EStateM.run_bind]
    rw [linked.run_externalToInternalRow (by rw [started.active]; omega) (by omega)]
    obtain ⟨b', touched, ran⟩ := linked.exists_touched (by rw [started.width]; exact nonneg) row
      (TerminalRow.setChar .java column codePoint style)
      ((TerminalRow.setChar_frame _ _ _ _).mono fun _ _ shape => shape.columns)
    simp only [ran]
    cases (TerminalRow.setChar .java column codePoint style).run (b.lineToTouch row) with
    | error thrown row' => trivial
    | ok a row' =>
      refine ⟨touched.linked, touched.columns.trans started.width, touched.totalRows.trans started.size,
        touched.screenRows.trans started.screen, touched.active.trans started.active, fun r filled => ?_⟩
      rcases filled with old | rfl
      · obtain ⟨ref, found⟩ := started.filled r old
        exact ⟨ref, touched.filled r ref found⟩
      · have here := touched.shown r (by have := linked.screen_pos; have := linked.screen_le; omega)
          (by have := linked.screen_pos; have := linked.screen_le; omega)
        rw [if_pos rfl] at here
        obtain ⟨ref, line, -⟩ := Option.bind_eq_some_iff.mp here
        exact ⟨ref, touched.linked.lineRef_eq_some.mp line⟩

theorem Started.mono {more : Int → Prop} (started : Started columns totalRows screenRows place b)
    (fewer : ∀ r, more r → place r) : Started columns totalRows screenRows more b :=
  { started with filled := fun r holds => started.filled r (fewer r holds) }

theorem blockSetRow_started (nonneg : 0 ≤ columns) (sx row : Int) (codePoint : Nat) (style : Style) (count : Nat)
    (x : Int) : Triple (Started columns totalRows screenRows place) (blockSetRow sx row codePoint style count x)
      (fun _ => Started columns totalRows screenRows fun r => place r ∨ (0 < count ∧ r = row)) (fun _ _ => True) := by
  induction count generalizing place x with
  | zero => exact Triple.pure _ fun b started => started.mono fun r holds => holds.resolve_right (by omega)
  | succ count ih =>
    refine Triple.bind (setChar_started nonneg _ _ _ _) fun _ => ?_
    refine (ih (x + 1)).weaken (fun _ => id) (fun _ b started => started.mono fun r holds => ?_) fun _ _ _ => trivial
    rcases holds with old | ⟨-, here⟩
    · exact .inl (.inl old)
    · exact .inl (.inr here)

theorem blockSetRows_started (positive : 0 < columns) (sx sy : Int) (codePoint : Nat) (style : Style) (count : Nat)
    (y : Int) : Triple (Started columns totalRows screenRows place) (blockSetRows sx sy columns codePoint style count y)
      (fun _ => Started columns totalRows screenRows fun r => place r ∨ (sy + y ≤ r ∧ r < sy + y + count))
      (fun _ _ => True) := by
  induction count generalizing place y with
  | zero => exact Triple.pure _ fun b started => started.mono fun r holds => holds.resolve_right (by omega)
  | succ count ih =>
    refine Triple.bind (blockSetRow_started (by omega) _ _ _ _ _ _) fun _ => ?_
    refine (ih (y + 1)).weaken (fun _ => id) (fun _ b started => started.mono fun r holds => ?_) fun _ _ _ => trivial
    rcases holds with old | ⟨lower, upper⟩
    · exact .inl (.inl old)
    · by_cases here : r = sy + y
      · exact .inl (.inr ⟨by omega, here⟩)
      · exact .inr (by omega)

theorem allocated_started (positive : 1 ≤ screenRows) (most : screenRows ≤ totalRows) :
    Started columns totalRows screenRows (fun _ => False) (allocated columns totalRows screenRows) := by
  have length : (allocated columns totalRows screenRows).mLines.length = totalRows.toNat := by simp [allocated]
  have empty : ∀ i ref : Nat, (allocated columns totalRows screenRows).mLines[i]? ≠ some (some ref) := by
    intro i ref found
    have entry := List.mem_of_getElem? found
    simp [allocated] at entry
  refine ⟨⟨?_, fun i ref found => absurd found (empty i ref), fun i j ref found => absurd found (empty i ref)⟩,
    rfl, rfl, rfl, rfl, fun _ impossible => impossible.elim⟩
  exact
    { screen_pos := positive
      screen_le := most
      first_nonneg := Int.le_refl 0
      first_lt := by show 0 < totalRows; omega
      active_nonneg := Int.le_refl 0
      active_le := by show 0 ≤ totalRows - screenRows; omega
      length := by rw [length]; show (totalRows.toNat : Int) = totalRows; omega }

theorem create_ring (wide : 0 < columns) (positive : 1 ≤ screenRows) (most : screenRows ≤ totalRows)
    (created : create columns totalRows screenRows = .ok b) : RingOf totalRows b := by
  unfold create at created
  rw [if_neg (by omega)] at created
  cases ran : (blockSet 0 0 columns screenRows TerminalRow.space TextStyle.normal).run
      (allocated columns totalRows screenRows) with
  | error thrown b' =>
    rw [ran] at created
    cases created
  | ok a b' =>
    rw [ran] at created
    simp only [Except.ok.injEq] at created
    subst created
    have inside : ¬ ((0 : Int) < 0 ∨ (allocated columns totalRows screenRows).mColumns < 0 + columns ∨ (0 : Int) < 0 ∨
        (allocated columns totalRows screenRows).mScreenRows < 0 + screenRows) := by
      show ¬ ((0 : Int) < 0 ∨ columns < 0 + columns ∨ (0 : Int) < 0 ∨ screenRows < 0 + screenRows)
      omega
    have started := blockSetRows_started wide 0 0 TerminalRow.space TextStyle.normal screenRows.toNat 0
      _ (allocated_started positive most)
    unfold blockSet at ran
    simp only [EStateM.run_bind, EStateM.run_get] at ran
    rw [if_neg inside] at ran
    rw [ran] at started
    refine ⟨⟨started.linked, fun r lower upper => started.filled r ?_⟩, started.size⟩
    rw [started.active] at lower
    rw [started.screen] at upper
    exact .inr (by omega)

inductive BufferOp
  | setChar (column row : Int) (codePoint : Nat) (style : Style)
  | blockSet (sx sy w h : Int) (codePoint : Nat) (style : Style)
  | blockCopy (sx sy w h dx dy : Int)
  | scrollDownOneLine (topMargin bottomMargin : Int) (style : Style)
  | clearTranscript
  | resize (newColumns newRows : Int) (cursor : Int × Int) (style : Style)

namespace BufferOp

def run : BufferOp → BufferM Unit
  | setChar column row codePoint style => TerminalBuffer.setChar column row codePoint style
  | blockSet sx sy w h codePoint style => TerminalBuffer.blockSet sx sy w h codePoint style
  | blockCopy sx sy w h dx dy => TerminalBuffer.blockCopy sx sy w h dx dy
  | scrollDownOneLine topMargin bottomMargin style => TerminalBuffer.scrollDownOneLine topMargin bottomMargin style
  | clearTranscript => TerminalBuffer.clearTranscript
  | resize newColumns newRows cursor style => do
    let _ ← TerminalBuffer.resize newColumns newRows (← get).mTotalRows cursor style false

def InRange (totalRows : Int) : BufferOp → Prop
  | resize newColumns newRows _ _ => 2 ≤ newColumns ∧ 1 ≤ newRows ∧ newRows ≤ totalRows
  | _ => True

instance (totalRows : Int) : DecidablePred (InRange totalRows) := fun op => by
  cases op <;> unfold InRange <;> infer_instance

def runAll (ops : List BufferOp) (b : TerminalBuffer) : TerminalBuffer :=
  ops.foldl (fun b op => final (op.run.run b)) b

theorem run_keeps {op : BufferOp} (range : op.InRange totalRows) : Frame (Keeps (RingOf totalRows)) op.run := by
  cases op with
  | setChar column row codePoint style => exact setChar_frame column row codePoint style
  | blockSet sx sy w h codePoint style => exact blockSet_frame sx sy w h codePoint style
  | blockCopy sx sy w h dx dy => exact blockCopy_frame sx sy w h dx dy
  | scrollDownOneLine topMargin bottomMargin style => exact scrollDownOneLine_keeps topMargin bottomMargin style
  | clearTranscript => exact clearTranscript_keeps
  | resize newColumns newRows cursor style =>
    obtain ⟨columns, rows, most⟩ := range
    refine Frame.get_bind fun b holds => ?_
    rw [holds.2]
    exact Frame.bind (resize_keeps (by omega) rows most cursor style) (fun _ => Frame.pure _) b holds

theorem runAll_keeps {ops : List BufferOp} (range : ∀ op ∈ ops, op.InRange totalRows)
    (ring : RingOf totalRows b) : RingOf totalRows (runAll ops b) := by
  induction ops generalizing b with
  | nil => exact ring
  | cons op ops ih =>
    exact ih (fun other found => range other (List.mem_cons_of_mem _ found))
      (run_keeps (range op List.mem_cons_self) b ring)

end BufferOp

structure Intact (totalRows : Int) (b : TerminalBuffer) : Prop where
  size : b.mTotalRows = totalRows
  first : 0 ≤ b.mScreenFirstRow ∧ b.mScreenFirstRow < b.mTotalRows
  length : b.mTotalRows = b.mLines.length
  transcript : 0 ≤ b.mActiveTranscriptRows ∧ b.mActiveTranscriptRows ≤ b.mTotalRows - b.mScreenRows
  places : ∃ (index : Int → Int) (ref : Int → Nat),
    (∀ r, -b.mActiveTranscriptRows ≤ r → r < b.mScreenRows →
      (externalToInternalRow r).run b = .ok (index r) b ∧ 0 ≤ index r ∧ index r < b.mTotalRows ∧
      b.mLines[(index r).toNat]? = some (some (ref r)) ∧
      ∃ row, b.rows[ref r]? = some row ∧ (row.mColumns : Int) = b.mColumns) ∧
    Set.InjOn index (Set.Ico (-b.mActiveTranscriptRows) b.mScreenRows) ∧
    Set.InjOn ref (Set.Ico (-b.mActiveTranscriptRows) b.mScreenRows)

theorem Ring.intact (ring : b.Ring) (size : b.mTotalRows = totalRows) : b.Intact totalRows := by
  have length := ring.length
  have most := ring.active_le
  have positive : (0 : Int) < b.mLines.length := Int.natCast_pos.mpr ring.length_pos
  refine ⟨size, ⟨ring.first_nonneg, ring.first_lt⟩, length.symm, ⟨ring.active_nonneg, most⟩,
    slot b.mLines.length b.mScreenFirstRow, fun r => (b.lineRef r).getD 0, fun r lower upper => ?_, ?_, ?_⟩
  · obtain ⟨ref, found⟩ := ring.filled r lower upper
    simp only [ring.lineRef_eq_some.mpr found, Option.getD_some]
    exact ⟨ring.run_externalToInternalRow lower (by omega), slot_nonneg positive _ _,
      length ▸ slot_lt positive _ _, found, ring.look_ref found⟩
  · intro r inside r' inside' same
    rw [Set.mem_Ico] at inside inside'
    exact slot_inj (by omega) (by omega) same
  · intro r inside r' inside' same
    rw [Set.mem_Ico] at inside inside'
    obtain ⟨ref, found⟩ := ring.filled r inside.1 inside.2
    obtain ⟨ref', found'⟩ := ring.filled r' inside'.1 inside'.2
    simp only [ring.lineRef_eq_some.mpr found, ring.lineRef_eq_some.mpr found', Option.getD_some] at same
    subst same
    exact ring.look_inj (by omega) (by omega) found found'

/-- The ring stays intact in every run of calls on a main buffer, also after calls that throw. -/
theorem runAll_intact {b : TerminalBuffer} {ops : List BufferOp} (wide : 2 ≤ columns) (positive : 1 ≤ screenRows)
    (most : screenRows ≤ totalRows) (created : create columns totalRows screenRows = .ok b)
    (range : ∀ op ∈ ops, op.InRange totalRows) : (BufferOp.runAll ops b).Intact totalRows := by
  obtain ⟨ring, size⟩ := BufferOp.runAll_keeps range (create_ring (by omega) positive most created)
  exact ring.intact size

theorem runAll_intact_small : ∃ b, create 4 5 3 = .ok b ∧ (BufferOp.runAll
    [.setChar 1 0 97 0, .scrollDownOneLine 0 3 0, .blockCopy 0 0 2 2 1 1, .resize 2 2 (1, 1) 0, .clearTranscript,
      .resize 2 4 (0, 0) 0] b).Intact 5 := by
  obtain ⟨b, created⟩ := exists_of_isOk (show (create 4 5 3).isOk = true by decide +kernel)
  exact ⟨b, created, runAll_intact (by decide) (by decide) (by decide) created (by decide)⟩

end TerminalBuffer
