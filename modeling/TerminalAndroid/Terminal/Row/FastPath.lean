import TerminalAndroid.Exec.Returns
import TerminalAndroid.Exec.Stays
import TerminalAndroid.Terminal.Row.WellFormed

open Java Utf16 Exec Std.Do

set_option mvcgen.warning false

def RowRules.general : RowRules := ⟨toShort, false⟩

namespace TerminalRow

def PlainChar (c : Nat) : Prop := isHighSurrogate c = false ∧ c < 0x10000 ∧ WcWidth.width c = 1

section Scan

variable {used column : Int} {text : List Nat} (plain : ∀ c ∈ text, PlainChar c)

include plain

theorem wideStartLoop_plain {index : Nat} {currentColumn : Int} (stop : used ≤ index + text.length) :
    wideStartLoop used column text index currentColumn = .ok false := by
  induction text generalizing index currentColumn with
  | nil => exact wideStartLoop_end (by simpa using stop) _
  | cons c text ih =>
    obtain ⟨⟨high, -, one⟩, rest⟩ := List.forall_mem_cons.mp plain
    rw [List.length_cons] at stop
    unfold wideStartLoop
    simp only [high, one, Bool.false_eq_true, if_false]
    have next : wideStartLoop used column text (index + 1) (currentColumn + (1 : Nat)) = .ok false := ih rest (by omega)
    rw [next]
    simp

theorem skipCombining_plain {index : Nat} (nonempty : text ≠ []) : skipCombining used text index = .ok index := by
  cases text with
  | nil => exact absurd rfl nonempty
  | cons c text =>
    obtain ⟨⟨high, -, one⟩, -⟩ := List.forall_mem_cons.mp plain
    unfold skipCombining
    simp [high, one]

theorem findStartLoop_plain {offset index : Nat} {currentColumn : Int} (inside : offset < text.length) :
    findStartLoop used (currentColumn + offset) text currentColumn index = .ok (index + offset) := by
  induction text generalizing offset index currentColumn with
  | nil => exact absurd inside (Nat.not_lt_zero _)
  | cons c text ih =>
    obtain ⟨⟨high, -, one⟩, rest⟩ := List.forall_mem_cons.mp plain
    rw [List.length_cons] at inside
    unfold findStartLoop
    simp only [high, one, Bool.false_eq_true, if_false, Nat.zero_lt_one, if_true]
    cases offset with
    | zero =>
      rw [if_neg (by omega), if_pos (by omega), Nat.add_zero]
    | succ offset =>
      cases offset with
      | zero =>
        rw [if_pos rfl]
        exact skipCombining_plain rest (List.ne_nil_of_length_pos (by omega))
      | succ offset =>
        rw [if_neg (by omega), if_neg (by omega),
          show currentColumn + ((offset + 1 + 1 : Nat) : Int) = currentColumn + (1 : Nat) + (offset + 1 : Nat) by omega,
          ih rest (by omega), Nat.add_assoc, Nat.add_comm 1]

end Scan

def withFlag (row : TerminalRow) (flag : Bool) : TerminalRow := { row with mHasNonOneWidthOrSurrogateChars := flag }

def stored (row : TerminalRow) (column x : Nat) (style : Style) : TerminalRow :=
  { row with mText := row.mText.set column x, mStyle := row.mStyle.set column style }

structure Sized (row : TerminalRow) : Prop where
  styles : row.mStyle.length = row.mColumns
  capacity : row.mColumns ≤ row.mText.length

variable {row row' : TerminalRow} {column x fuel : Nat} {style : Style}

theorem run_java_plain (sized : row.Sized) (flag : row.mHasNonOneWidthOrSurrogateChars = false)
    (inside : column < row.mColumns) (plain : PlainChar x) :
    (setCharFuel .java (fuel + 1) column x style).run row = .ok () (row.stored column x style) := by
  have bound : ¬ ((column : Int) < 0 ∨ (row.mStyle.length : Int) ≤ column) := by
    rw [sized.styles]
    omega
  have fast : RowRules.java.fastPath = true ∧ row.mHasNonOneWidthOrSurrogateChars = false ∧
      ¬ (0x10000 ≤ x ∨ WcWidth.width x ≠ 1) := by
    obtain ⟨-, bmp, one⟩ := plain
    exact ⟨rfl, flag, by omega⟩
  have capacity := sized.capacity
  rw [setCharFuel]
  simp only [EStateM.run_bind, EStateM.run_get, bound, if_false, EStateM.run_set, if_pos fast,
    run_writeArray row.mText column x (show column < row.mText.length by omega), EStateM.run_modify, Int.toNat_natCast]
  rfl

theorem run_storeInColumn_plain {rules : RowRules} (sized : row.Sized) (chars : ∀ c ∈ row.mText, PlainChar c)
    (inside : column < row.mColumns) (plain : PlainChar x) {last : Int}
    (ends : (if column + 1 < row.mColumns then (column : Int) + 1 else row.mSpaceUsed) = last) :
    (storeInColumn rules column x).run row =
      (do
        replaceChars rules x column last (column + 1)
        adjustWidth rules column 1 1 (column + 1) : RowM Unit).run row := by
  have capacity := sized.capacity
  have start {c : Nat} (before : c < row.mColumns) : row.findStartOfColumn c = .ok (c : Int) := by
    have found := @findStartLoop_plain row.mSpaceUsed row.mText chars c 0 0 (by omega)
    rw [Int.zero_add] at found
    rw [findStartOfColumn, if_neg (by omega), found, Nat.zero_add]
    rfl
  have width : (widthAt row.mText column).run row = .ok 1 row := by
    have found : row.mText[column]? = some row.mText[column] := List.getElem?_eq_getElem (by omega)
    obtain ⟨high, -, one⟩ := chars row.mText[column] (List.getElem_mem _)
    rw [widthAt, EStateM.run_bind, run_readArray found]
    simp only [high, one, Bool.false_eq_true, if_false, EStateM.run_pure]
  have stop : (if (column : Int) + (1 : Nat) < row.mColumns then row.findStartOfColumn (column + (1 : Nat))
      else .ok row.mSpaceUsed) = .ok last := by
    rw [← ends]
    by_cases more : column + 1 < row.mColumns
    · rw [if_pos (by omega), if_pos more]
      exact start more
    · rw [if_neg (by omega), if_neg more]
  obtain ⟨-, bmp, one⟩ := plain
  have single : charCount x = 1 := by
    unfold charCount
    rw [if_neg (by omega)]
  rw [storeInColumn]
  simp only [EStateM.run_bind, EStateM.run_get, start inside, run_liftResult_ok, width, stop, one, single,
    add_sub_cancel]
  rfl

theorem not_fast_general (flag : Bool) (x : Nat) :
    ¬ (RowRules.general.fastPath = true ∧ flag = false ∧ ¬ (0x10000 ≤ x ∨ WcWidth.width x ≠ 1)) :=
  fun fast => Bool.noConfusion fast.1

theorem Sized.restyle (sized : row.Sized) (column : Nat) (style : Style) :
    ({ row with mStyle := row.mStyle.set column style }.withFlag true).Sized :=
  ⟨(List.length_set ..).trans sized.styles, sized.capacity⟩

theorem run_general_plain (sized : row.Sized) (chars : ∀ c ∈ row.mText, PlainChar c)
    (used : row.mSpaceUsed ≤ row.mText.length) (inside : column < row.mColumns) (plain : PlainChar x) :
    (setCharFuel .general (fuel + 1) column x style).run row =
      (storeInColumn .general column x).run ({ row with mStyle := row.mStyle.set column style }.withFlag true) := by
  have bound : ¬ ((column : Int) < 0 ∨ (row.mStyle.length : Int) ≤ column) := by
    rw [sized.styles]
    omega
  have wide (c : Int) : row.wideDisplayCharacterStartingAt c = .ok false :=
    wideStartLoop_plain chars (by simpa using used)
  have one : ¬ WcWidth.width x ≤ 0 ∧ ¬ WcWidth.width x = 2 := by
    rw [plain.2.2]
    decide
  rw [setCharFuel]
  simp only [EStateM.run_bind, EStateM.run_get, bound, if_false, EStateM.run_set, not_fast_general,
    EStateM.run_modify, Int.toNat_natCast, wide, ite_self, run_liftResult_ok, Bool.false_eq_true, one]
  rfl

theorem run_general_stored (sized : row.Sized) (chars : ∀ c ∈ row.mText, PlainChar c)
    (used : row.mSpaceUsed = row.mColumns) (short : row.mColumns ≤ 32767) (inside : column < row.mColumns)
    (plain : PlainChar x) :
    (setCharFuel .general (fuel + 1) column x style).run row = .ok () ((row.stored column x style).withFlag true) := by
  have capacity := sized.capacity
  have stop : (if column + 1 < row.mColumns then (column : Int) + 1 else row.mSpaceUsed) = column + 1 := by
    split <;> omega
  rw [run_general_plain sized chars (by omega) inside plain,
    run_storeInColumn_plain (sized.restyle column style) chars inside plain stop]
  have spaceUsed : toShort row.mSpaceUsed = row.mSpaceUsed := toShort_small (by omega) (by omega)
  simp only [withFlag, replaceChars, Int.sub_self, EStateM.run_bind, addSpaceUsed, storeChars, adjustWidth]
  simp [plain.2.1, RowRules.general, spaceUsed, stored,
    run_writeArray row.mText column x (show column < row.mText.length by omega)]

section Flag

variable {columnToSet : Int}

abbrev Flagged (row : TerminalRow) : Prop := row.mHasNonOneWidthOrSurrogateChars = true

@[spec]
theorem storeInColumn_flagged (rules : RowRules) (columnToSet : Int) (x : Nat) :
    Stays Flagged (storeInColumn rules columnToSet x) := by
  mvcgen [storeInColumn, replaceChars, adjustWidth, shiftRight, shiftLeft, addSpaceUsed, storeChars, widthAt,
    liftResult, readArray, writeArray, arraycopy]

theorem setCharFuel_flagged (rules : RowRules) (fuel : Nat) (columnToSet : Int) (x : Nat) (style : Style) :
    Stays Flagged (setCharFuel rules fuel columnToSet x style) := by
  induction fuel generalizing columnToSet x with
  | zero => mvcgen [setCharFuel]
  | succ fuel ih => mvcgen [setCharFuel, liftResult, writeArray, ih]

theorem run_general_withFlag (flag : Bool)
    (ran : (setCharFuel .general (fuel + 1) columnToSet x style).run row = .ok () row') :
    (setCharFuel .general (fuel + 1) columnToSet x style).run (row.withFlag flag) = .ok () row' := by
  by_cases outside : columnToSet < 0 ∨ (row.mStyle.length : Int) ≤ columnToSet
  · rw [setCharFuel] at ran
    simp [outside] at ran
  · have outside' : ¬ (columnToSet < 0 ∨ ((row.withFlag flag).mStyle.length : Int) ≤ columnToSet) := outside
    rw [setCharFuel] at ran ⊢
    simp only [EStateM.run_bind, EStateM.run_get, outside, outside', if_false, EStateM.run_set, not_fast_general,
      EStateM.run_modify] at ran ⊢
    exact ran

theorem run_bind_eq {α β : Type} {m n : RowM α} {f g : α → RowM β} (first : m.run row = n.run row)
    (rest : ∀ a t, m.run row = .ok a t → (f a).run t = (g a).run t) : (m >>= f).run row = (n >>= g).run row := by
  rw [EStateM.run_bind n, ← first]
  exact run_bind_congr rest

theorem run_clearingNext_eq {fuel : Nat}
    (same : ∀ columnToSet (t : TerminalRow), t.Flagged → (setCharFuel .java fuel columnToSet space style).run t =
      (setCharFuel .general fuel columnToSet space style).run t) (flagged : row.Flagged) :
    (storeClearingNext .java fuel columnToSet x style).run row =
      (storeClearingNext .general fuel columnToSet x style).run row := by
  unfold storeClearingNext
  apply run_bind_congr
  intro _ _ got
  cases got
  apply run_bind_congr
  intro overwriting t lifted
  generalize (if WcWidth.width x = 2 then row.wideDisplayCharacterStartingAt (columnToSet + 1) else .ok false) = wide
    at lifted
  cases wide with
  | error thrown => cases lifted
  | ok found =>
    cases lifted
    cases overwriting with
    | false => rfl
    | true => exact run_bind_eq (same _ _ flagged) fun _ _ _ => rfl

theorem run_java_eq_general (fuel : Nat) (columnToSet : Int) (x : Nat) (style : Style) (row : TerminalRow)
    (slow : row.Flagged ∨ 0x10000 ≤ x ∨ WcWidth.width x ≠ 1) :
    (setCharFuel .java fuel columnToSet x style).run row = (setCharFuel .general fuel columnToSet x style).run row := by
  induction fuel generalizing columnToSet x row with
  | zero => rfl
  | succ fuel ih =>
    have java : ¬ (RowRules.java.fastPath = true ∧ row.mHasNonOneWidthOrSurrogateChars = false ∧
        ¬ (0x10000 ≤ x ∨ WcWidth.width x ≠ 1)) := by
      rintro ⟨-, unset, fast⟩
      rcases slow with flagged | wide
      · rw [flagged] at unset
        cases unset
      · exact fast wide
    rw [setCharFuel, setCharFuel]
    by_cases outside : columnToSet < 0 ∨ (row.mStyle.length : Int) ≤ columnToSet
    · simp only [EStateM.run_bind, EStateM.run_get, outside, if_true, EStateM.run_throw]
    simp only [EStateM.run_bind, EStateM.run_get, outside, if_false, EStateM.run_set, java, not_fast_general,
      EStateM.run_modify]
    cases (if 0 < columnToSet then row.wideDisplayCharacterStartingAt (columnToSet - 1) else Except.ok false) with
    | error thrown => rfl
    | ok extra =>
      rw [run_liftResult_ok]
      dsimp only
      split
      · rfl
      cases extra with
      | false => exact run_clearingNext_eq (fun _ t flagged => ih _ _ t (Or.inl flagged)) rfl
      | true =>
        apply run_bind_eq (ih _ _ _ (Or.inl rfl))
        intro _ t first
        have flagged : t.Flagged := stays_iff.mp (setCharFuel_flagged .java fuel _ _ style) _ _ _ rfl first
        exact run_clearingNext_eq (fun _ t flagged => ih _ _ t (Or.inl flagged)) flagged

end Flag

structure Neat (row : TerminalRow) : Prop extends row.Sized where
  short : row.mColumns ≤ 32767
  plain : row.mHasNonOneWidthOrSurrogateChars = false → (∀ c ∈ row.mText, PlainChar c) ∧ row.mSpaceUsed = row.mColumns

def UpToFlag (row other : TerminalRow) : Prop := ∃ flag, other = row.withFlag flag

theorem UpToFlag.refl (row : TerminalRow) : row.UpToFlag row := ⟨row.mHasNonOneWidthOrSurrogateChars, rfl⟩

theorem Neat.of_shape (neat : row.Neat) (shape : SameShape row row') (flagged : row'.Flagged) : row'.Neat where
  styles := by rw [shape.styles, neat.styles, shape.columns]
  capacity := shape.columns ▸ neat.capacity.trans shape.capacity
  short := shape.columns ▸ neat.short
  plain := fun unset => by rw [flagged] at unset; cases unset

theorem plainChar_of_scalar (scalar : x.isValidChar) (bmp : x < 0x10000) (one : WcWidth.width x = 1) : PlainChar x :=
  ⟨isHighSurrogate_bmp scalar bmp, bmp, one⟩

theorem plainChar_space : PlainChar space := ⟨rfl, by decide, space_width⟩

theorem setChar_alike {columnToSet : Int} {other : TerminalRow} (neat : row.Neat) (alike : row.UpToFlag other)
    (safe : row.Flagged ∨ (x < 0x10000 → WcWidth.width x = 1 → PlainChar x))
    (ran : (setChar .java columnToSet x style).run row = .ok () row') :
    (∃ other', (setChar .general columnToSet x style).run other = .ok () other' ∧ row'.UpToFlag other') ∧ row'.Neat ∧
      (row.Flagged → row'.Flagged) := by
  obtain ⟨flag, rfl⟩ := alike
  have shape : SameShape row row' := by
    have framed := setChar_frame .java columnToSet x style row
    rw [ran] at framed
    exact framed
  by_cases slow : row.Flagged ∨ 0x10000 ≤ x ∨ WcWidth.width x ≠ 1
  · have general : (setChar .general columnToSet x style).run row = .ok () row' :=
      (run_java_eq_general 3 columnToSet x style row slow).symm.trans ran
    have flagged : row'.Flagged :=
      stays_iff.mp (setCharFuel_flagged .general 3 columnToSet x style) _ _ _ rfl (run_general_withFlag true general)
    exact ⟨⟨row', run_general_withFlag flag general, UpToFlag.refl row'⟩,
      neat.of_shape shape flagged, fun _ => flagged⟩
  · rw [not_or, not_or, not_not] at slow
    obtain ⟨unset, bmp, one⟩ := slow
    have unset : row.mHasNonOneWidthOrSurrogateChars = false := Bool.eq_false_iff.mpr unset
    obtain ⟨chars, used⟩ := neat.plain unset
    have plain : PlainChar x := (safe.resolve_left (by rw [Flagged, unset]; decide)) (by omega) one
    by_cases outside : columnToSet < 0 ∨ (row.mStyle.length : Int) ≤ columnToSet
    · rw [run_setChar_outside outside] at ran
      cases ran
    obtain ⟨column, rfl⟩ := Int.eq_ofNat_of_zero_le (show 0 ≤ columnToSet by omega)
    have inside : column < row.mColumns := by
      rw [← neat.styles]
      omega
    have general : (setChar .general column x style).run row = .ok () ((row.stored column x style).withFlag true) :=
      run_general_stored neat.toSized chars used neat.short inside plain
    have stored : (setChar .java column x style).run row = .ok () (row.stored column x style) :=
      run_java_plain neat.toSized unset inside plain
    rw [stored] at ran
    cases ran
    apply And.intro ⟨_, run_general_withFlag flag general, true, rfl⟩
    refine ⟨⟨⟨?_, ?_⟩, neat.short, fun _ => ⟨?_, used⟩⟩, fun flagged => flagged⟩
    · exact (List.length_set ..).trans neat.styles
    · exact le_of_le_of_eq neat.capacity (List.length_set ..).symm
    · intro c member
      rcases List.mem_or_eq_of_mem_set member with old | rfl
      · exact chars c old
      · exact plain

section Copy

variable {line line' other : TerminalRow} {same : Bool}

theorem readArray_returns {α : Type} {array : List α} {index : Int} {a : α} {t : TerminalRow}
    (read : (readArray array index : RowM α).run row = .ok a t) :
    t = row ∧ ∀ s : TerminalRow, (readArray array index : RowM α).run s = .ok a s := by
  unfold readArray at read ⊢
  split at read
  · split at read
    · cases read
      exact ⟨rfl, fun _ => by rw [if_pos ‹_›]; rfl⟩
    · cases read
  · cases read

theorem liftResult_returns {α : Type} {result : Except Throwable α} {a : α} {t : TerminalRow}
    (lifted : (liftResult result : RowM α).run row = .ok a t) : t = row ∧ result = .ok a := by
  cases result with
  | ok b =>
    cases lifted
    exact ⟨rfl, rfl⟩
  | error thrown => cases lifted

theorem copyStep_alike (styles : line'.mStyle = line.mStyle) {source destination : Int} {codePoint : Nat}
    {java general : RowM Unit} (neat : row.Neat) (alike : row.UpToFlag other)
    (safe : row.Flagged ∨ (codePoint < 0x10000 → WcWidth.width codePoint = 1 → PlainChar codePoint))
    (rest : ∀ t t', t.Neat → t.UpToFlag t' → (row.Flagged → t.Flagged) → java.run t = .ok () row' →
      (∃ other', general.run t' = .ok () other' ∧ row'.UpToFlag other') ∧ row'.Neat)
    (ran : (do
      let row ← get
      let style ← getStyle (if same then row else line) source
      setChar .java destination codePoint style
      java : RowM Unit).run row = .ok () row') :
    (∃ other', (do
      let row ← get
      let style ← getStyle (if same then row else line') source
      setChar .general destination codePoint style
      general : RowM Unit).run other = .ok () other' ∧ row'.UpToFlag other') ∧ row'.Neat := by
  obtain ⟨flag, rfl⟩ := alike
  have source' : (if same then row.withFlag flag else line').mStyle = (if same then row else line).mStyle := by
    cases same with
    | false => exact styles
    | true => rfl
  obtain ⟨_, _, got, reading⟩ := bind_inv ran
  cases got
  obtain ⟨style, s, read, setting⟩ := bind_inv reading
  obtain ⟨unchanged, found⟩ := readArray_returns read
  subst unchanged
  obtain ⟨_, t, set, last⟩ := bind_inv setting
  obtain ⟨⟨t', set', alike⟩, neat', kept⟩ := setChar_alike neat ⟨flag, rfl⟩ safe set
  obtain ⟨⟨other', ran', alike'⟩, neat''⟩ := rest t t' neat' alike kept last
  refine ⟨⟨other', ?_, alike'⟩, neat''⟩
  have read' : (getStyle (if same then s.withFlag flag else line') source).run (s.withFlag flag) =
      .ok style (s.withFlag flag) := by
    rw [getStyle, source']
    exact found _
  exact (run_bind_of read').trans ((run_bind_of set').trans ran')

theorem copyLoop_alike (styles : line'.mStyle = line.mStyle) (x2 : Int) (chars : List Nat) (i : Nat) (second : Bool)
    (sourceX1 destinationX : Int) (width : Nat) (neat : row.Neat) (alike : row.UpToFlag other)
    (safe : row.Flagged ∨ ∀ c ∈ chars, PlainChar c)
    (ran : (copyLoop .java line same x2 chars i second sourceX1 destinationX width).run row = .ok () row') :
    (∃ other', (copyLoop .general line' same x2 chars i second sourceX1 destinationX width).run other = .ok () other' ∧
      row'.UpToFlag other') ∧ row'.Neat := by
  fun_induction copyLoop .java line same x2 chars i second sourceX1 destinationX width generalizing row other with
  | case1 i _ _ _ _ more => cases ran
  | case2 i _ _ _ _ stop =>
    cases ran
    rw [copyLoop, if_neg stop]
    exact ⟨⟨other, rfl, alike⟩, neat⟩
  | case3 => cases ran
  | case4 c i second sourceX1 destinationX width more high d chars codePoint w =>
    rename_i step ih
    have flagged : row.Flagged := by
      rcases safe with flagged | plain
      · exact flagged
      · rw [(plain c List.mem_cons_self).1] at high
        cases high
    rw [copyLoop, if_pos more, if_pos high]
    exact copyStep_alike styles neat alike (Or.inl flagged)
      (fun t t' neat alike kept ran => ih neat alike (Or.inl (kept flagged)) ran) ran
  | case5 c chars i second sourceX1 destinationX width more bmp codePoint w =>
    rename_i step ih
    rw [copyLoop.eq_def]
    simp only [if_pos more, if_neg bmp]
    apply copyStep_alike styles neat alike _ _ ran
    · rcases safe with flagged | plain
      · exact Or.inl flagged
      · apply Or.inr
        intro _ _
        change PlainChar (if second then space else c)
        cases second with
        | false => exact plain c List.mem_cons_self
        | true => exact plainChar_space
    · intro t t' neat' alike' kept ran
      exact ih neat' alike' (safe.imp kept fun plain c member => plain c (List.mem_cons_of_mem _ member)) ran
  | case6 c chars i second sourceX1 destinationX width stop =>
    cases ran
    rw [copyLoop.eq_def]
    simp only [if_neg stop]
    exact ⟨⟨other, rfl, alike⟩, neat⟩

theorem copyInterval_alike {sourceX1 sourceX2 destinationX : Int} (source : line.Neat)
    (sourceAlike : line.UpToFlag line') (neat : row.Neat) (alike : row.UpToFlag other)
    (ran : (copyInterval .java line same sourceX1 sourceX2 destinationX).run row = .ok () row') :
    (∃ other', (copyInterval .general line' same sourceX1 sourceX2 destinationX).run other = .ok () other' ∧
      row'.UpToFlag other') ∧ row'.Neat := by
  obtain ⟨flag, rfl⟩ := alike
  obtain ⟨flag', rfl⟩ := sourceAlike
  obtain ⟨_, _, modified, afterFlag⟩ := bind_inv ran
  cases modified
  obtain ⟨x1, s, start, afterStart⟩ := bind_inv afterFlag
  obtain ⟨same₁, start'⟩ := liftResult_returns start
  subst same₁
  obtain ⟨x2, s, stop, afterStop⟩ := bind_inv afterStart
  obtain ⟨same₂, stop'⟩ := liftResult_returns stop
  subst same₂
  obtain ⟨second, s, half, last⟩ := bind_inv afterStop
  obtain ⟨same₃, half'⟩ := liftResult_returns half
  subst same₃
  let both := row.mHasNonOneWidthOrSurrogateChars || line.mHasNonOneWidthOrSurrogateChars
  have marked : (row.withFlag both).Neat := by
    refine ⟨⟨neat.styles, neat.capacity⟩, neat.short, fun unset => ?_⟩
    exact neat.plain (Bool.or_eq_false_iff.mp unset).1
  have safe : (row.withFlag both).Flagged ∨ ∀ c ∈ line.mText.drop x1.toNat, PlainChar c := by
    cases flagged : line.mHasNonOneWidthOrSurrogateChars with
    | true => exact Or.inl (Bool.or_eq_true_iff.mpr (Or.inr flagged))
    | false => exact Or.inr fun c member => (source.plain flagged).1 c (List.mem_of_mem_drop member)
  have styles : (line.withFlag flag').mStyle = line.mStyle := rfl
  obtain ⟨⟨other', ran', alike'⟩, neat'⟩ := copyLoop_alike styles x2 _ _ second sourceX1 destinationX 0 marked
    ⟨flag || flag', rfl⟩ safe last
  refine ⟨⟨other', ?_, alike'⟩, neat'⟩
  have start'' : (line.withFlag flag').findStartOfColumn sourceX1 = .ok x1 := start'
  have stop'' : (line.withFlag flag').findStartOfColumn sourceX2 = .ok x2 := stop'
  have half'' : (if 0 < sourceX1 then (line.withFlag flag').wideDisplayCharacterStartingAt (sourceX1 - 1)
      else .ok false) = .ok second := half'
  rw [copyInterval, start'', stop'', half'']
  exact ran'

end Copy

theorem cleared_sized (sized : row.Sized) (style : Style) : (row.cleared .java style).Sized where
  styles := (List.length_replicate ..).trans sized.styles
  capacity := le_of_le_of_eq sized.capacity (List.length_replicate ..).symm

theorem cleared_plain (style : Style) : ∀ c ∈ (row.cleared .java style).mText, PlainChar c := by
  intro c member
  rw [List.eq_of_mem_replicate member]
  exact plainChar_space

theorem cleared_neat (sized : row.Sized) (short : row.mColumns ≤ 32767) (style : Style) :
    (row.cleared .java style).Neat where
  toSized := cleared_sized sized style
  short := short
  plain := by
    intro _
    apply And.intro (cleared_plain style)
    simp only [cleared, RowRules.java]
    exact toShort_small (by omega) (by omega)

theorem cleared_alike {other : TerminalRow} (alike : row.UpToFlag other) (style : Style) :
    (row.cleared .java style).UpToFlag (other.cleared .general style) := by
  obtain ⟨flag, rfl⟩ := alike
  apply Exists.intro false
  simp only [cleared, withFlag, RowRules.java, RowRules.general]

theorem create_sized {columns : Nat} (upper : columns ≤ 32768) :
    TerminalRow.Sized {
      mColumns := columns
      mText := List.replicate (spareCapacity columns) 0
      mSpaceUsed := 0
      mLineWrap := false
      mStyle := List.replicate columns 0
      mHasNonOneWidthOrSurrogateChars := false } where
  styles := List.length_replicate ..
  capacity := le_of_le_of_eq (le_spareCapacity upper) (List.length_replicate ..).symm

end TerminalRow

inductive RowCall
  | clear (target : Nat) (style : Style)
  | setChar (target : Nat) (columnToSet : Int) (codePoint : Nat) (style : Style)
  | copyInterval (target source : Nat) (sourceX1 sourceX2 destinationX : Int)

namespace RowCall

abbrev Rows := Nat → TerminalRow

def on (rows : Rows) (target : Nat) (m : RowM Unit) : Except Throwable Rows :=
  match m.run (rows target) with
  | .ok _ row => .ok (Function.update rows target row)
  | .error thrown _ => .error thrown

def run (rules : RowRules) (rows : Rows) : RowCall → Except Throwable Rows
  | clear target style => on rows target ((RowOp.clear style).run rules)
  | setChar target columnToSet codePoint style => on rows target ((RowOp.setChar columnToSet codePoint style).run rules)
  | copyInterval target source sourceX1 sourceX2 destinationX =>
    let line := if source = target then none else some (rows source)
    on rows target ((RowOp.copyInterval line sourceX1 sourceX2 destinationX).run rules)

def runAll (rules : RowRules) : Rows → List RowCall → Except Throwable Rows
  | rows, [] => .ok rows
  | rows, call :: calls => do runAll rules (← call.run rules rows) calls

def Scalar : RowCall → Prop
  | setChar _ _ codePoint _ => codePoint.isValidChar
  | _ => True

def UpToFlag (rows others : Rows) : Prop := ∀ i, (rows i).Neat ∧ (rows i).UpToFlag (others i)

variable {rows rows' others : Rows}

theorem on_alike {target : Nat} {java general : RowM Unit} (alike : UpToFlag rows others)
    (simulates : ∀ row', java.run (rows target) = .ok () row' →
      (∃ other', general.run (others target) = .ok () other' ∧ row'.UpToFlag other') ∧ row'.Neat)
    (ran : on rows target java = .ok rows') :
    ∃ others', on others target general = .ok others' ∧ UpToFlag rows' others' := by
  unfold on at ran
  split at ran
  next row' returned =>
    cases ran
    obtain ⟨⟨other', general', same⟩, neat⟩ := simulates row' returned
    refine ⟨Function.update others target other', by rw [on, general'], fun i => ?_⟩
    by_cases here : i = target
    · subst here
      simpa using ⟨neat, same⟩
    · simpa [here] using alike i
  · cases ran

theorem run_alike {call : RowCall} (alike : UpToFlag rows others) (scalar : call.Scalar)
    (ran : call.run .java rows = .ok rows') :
    ∃ others', call.run .general others = .ok others' ∧ UpToFlag rows' others' := by
  cases call with
  | clear target style =>
    rw [run] at ran ⊢
    apply on_alike alike _ ran
    intro row' returned
    cases returned
    exact ⟨⟨_, rfl, TerminalRow.cleared_alike (alike target).2 style⟩,
      TerminalRow.cleared_neat (alike target).1.toSized (alike target).1.short style⟩
  | setChar target columnToSet codePoint style =>
    rw [run] at ran ⊢
    apply on_alike alike _ ran
    intro row' returned
    have sim := TerminalRow.setChar_alike (alike target).1 (alike target).2
      (Or.inr (TerminalRow.plainChar_of_scalar scalar)) returned
    exact ⟨sim.1, sim.2.1⟩
  | copyInterval target source sourceX1 sourceX2 destinationX =>
    rw [run] at ran ⊢
    apply on_alike alike _ ran
    intro row' returned
    by_cases here : source = target
    · rw [if_pos here] at returned ⊢
      exact TerminalRow.copyInterval_alike (alike target).1 (alike target).2 (alike target).1 (alike target).2 returned
    · rw [if_neg here] at returned ⊢
      exact TerminalRow.copyInterval_alike (alike source).1 (alike source).2 (alike target).1 (alike target).2 returned

theorem runAll_alike {calls : List RowCall} (alike : UpToFlag rows others) (scalars : ∀ call ∈ calls, call.Scalar)
    (ran : runAll .java rows calls = .ok rows') :
    ∃ others', runAll .general others calls = .ok others' ∧ UpToFlag rows' others' := by
  induction calls generalizing rows others with
  | nil =>
    cases ran
    exact ⟨others, rfl, alike⟩
  | cons call calls ih =>
    rw [List.forall_mem_cons] at scalars
    rw [runAll] at ran ⊢
    cases first : call.run .java rows with
    | error thrown =>
      rw [first] at ran
      cases ran
    | ok next =>
      rw [first] at ran
      obtain ⟨others', first', alike'⟩ := run_alike alike scalars.1 first
      rw [first']
      exact ih alike' scalars.2 ran

end RowCall

/-- The fast path is only an optimisation on rows of at most 32767 columns. -/
theorem fastPath_optimises (columns : Nat → Nat) (short : ∀ i, columns i ≤ 32767) (styles : Nat → Style)
    (calls : List RowCall) (scalars : ∀ call ∈ calls, call.Scalar) (rows : RowCall.Rows)
    (ran : RowCall.runAll .java (fun i => .create (columns i) (styles i)) calls = .ok rows) :
    ∃ rows', RowCall.runAll .general (fun i => .create (columns i) (styles i)) calls = .ok rows' ∧
      ∀ i, (rows' i).usedText = (rows i).usedText ∧ (rows' i).mStyle = (rows i).mStyle ∧
        (rows' i).mSpaceUsed = (rows i).mSpaceUsed := by
  have start : RowCall.UpToFlag (fun i => .create (columns i) (styles i)) (fun i => .create (columns i) (styles i)) := by
    intro i
    have sized := TerminalRow.create_sized (Nat.le_succ_of_le (short i))
    exact ⟨TerminalRow.cleared_neat sized (short i) (styles i), TerminalRow.UpToFlag.refl _⟩
  obtain ⟨rows', ran', alike⟩ := RowCall.runAll_alike start scalars ran
  refine ⟨rows', ran', fun i => ?_⟩
  obtain ⟨flag, same⟩ := (alike i).2
  rw [same]
  exact ⟨rfl, rfl, rfl⟩

theorem fastPath_optimises_wide : ∃ rows', RowCall.runAll .general (fun _ => .create 3 0)
    [.setChar 0 0 0x61 7, .setChar 1 1 0x6797 7, .copyInterval 0 1 1 3 1] = .ok rows' := by
  obtain ⟨rows, ran⟩ := exists_of_isOk (show (RowCall.runAll .java (fun _ => .create 3 0)
    [.setChar 0 0 0x61 7, .setChar 1 1 0x6797 7, .copyInterval 0 1 1 3 1]).isOk = true by decide +kernel)
  obtain ⟨rows', ran', -⟩ := fastPath_optimises (fun _ => 3) (fun _ => by decide) (fun _ => 0) _
    (by simp [RowCall.Scalar, Nat.isValidChar]) rows ran
  exact ⟨rows', ran'⟩

namespace TerminalRow

theorem run_general_negative {row : TerminalRow} {x last : Nat} (sized : row.Sized)
    (chars : ∀ c ∈ row.mText, PlainChar c) (columns : row.mColumns = last + 1)
    (negative : row.mSpaceUsed < 0) (plain : PlainChar x) (style : Style) :
    ∃ t, (setChar .general last x style).run row = .error .indexOutOfBounds t := by
  have stop : (if last + 1 < row.mColumns then (last : Int) + 1 else row.mSpaceUsed) = row.mSpaceUsed :=
    if_neg (by omega)
  have inside : last < row.mColumns := by omega
  rw [setChar, run_general_plain sized chars (by omega) inside plain,
    run_storeInColumn_plain (sized.restyle last style) chars inside plain stop]
  have capacity := sized.capacity
  have fits : ¬ (row.mText.length : Int) < row.mSpaceUsed + (last + 1 - row.mSpaceUsed) := by omega
  have ahead : 0 < (last : Int) + 1 - row.mSpaceUsed := by omega
  simp only [withFlag, replaceChars, EStateM.run_bind, ahead, fits, shiftRight, EStateM.run_get, arraycopy, negative,
    true_or, if_true, if_false]
  exact ⟨_, rfl⟩

end TerminalRow

theorem isOk_of_last {last : Nat} (lower : 32768 ≤ last + 1) (upper : last + 1 ≤ 32768) (style : Style) :
    (RowCall.runAll .java (fun _ => .create (last + 1) 0) [.setChar 0 last 0x61 style]).isOk = true ∧
      (RowCall.runAll .general (fun _ => .create (last + 1) 0) [.setChar 0 last 0x61 style]).isOk = false := by
  have sized : (TerminalRow.create (last + 1) 0).Sized := TerminalRow.cleared_sized (TerminalRow.create_sized upper) 0
  have chars : ∀ c ∈ (TerminalRow.create (last + 1) 0).mText, TerminalRow.PlainChar c := TerminalRow.cleared_plain 0
  have plain : TerminalRow.PlainChar 0x61 := by
    unfold TerminalRow.PlainChar
    decide
  have columns : (TerminalRow.create (last + 1) 0).mColumns = last + 1 := rfl
  have flag : (TerminalRow.create (last + 1) 0).mHasNonOneWidthOrSurrogateChars = false := rfl
  have negative : (TerminalRow.create (last + 1) 0).mSpaceUsed < 0 := by
    simp only [TerminalRow.create, TerminalRow.cleared, RowRules.java, toShort, Int.bmod]
    omega
  obtain ⟨t, thrown⟩ := TerminalRow.run_general_negative sized chars columns negative plain style
  have stored : (TerminalRow.setChar .java last 0x61 style).run (.create (last + 1) 0) = .ok () _ :=
    TerminalRow.run_java_plain sized flag (by omega) plain
  constructor
  · simp only [RowCall.runAll, RowCall.run, RowCall.on, RowOp.run, stored]
    rfl
  · simp only [RowCall.runAll, RowCall.run, RowCall.on, RowOp.run, thrown]
    rfl

/-- In the last of 32768 columns the general path takes `(short) 32768` for the end of the column. -/
theorem fastPath_widest :
    (RowCall.runAll .java (fun _ => .create 32768 0) [.setChar 0 (32767 : Nat) 0x61 0]).isOk = true ∧
      (RowCall.runAll .general (fun _ => .create 32768 0) [.setChar 0 (32767 : Nat) 0x61 0]).isOk = false :=
  isOk_of_last (Nat.le_refl 32768) (Nat.le_refl 32768) 0
