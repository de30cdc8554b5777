import TerminalAndroid.Terminal.Buffer.Picture

open Java Exec Circular

namespace TerminalRow

variable {row : TerminalRow}

theorem Good.cleared (good : row.Good) (style : Style) :
    (row.cleared .java style).Good ∧ (row.cleared .java style).Narrow := by
  obtain ⟨cells, holds⟩ := good.stored
  have cleared := cleared_holds row RowRules.java_exact good.upper good.capacity holds.styles style
  refine ⟨good.update cleared (cleared_shape _ _ _), cleared.narrow_iff.mpr fun cell blank => ?_⟩
  rw [List.eq_of_mem_replicate blank]
  exact Cell.blank_width

theorem Holds.wrapped {cells : List Cell} (holds : row.Holds cells) (wrap : Bool) :
    ({ row with mLineWrap := wrap } : TerminalRow).Holds cells := by
  obtain ⟨spare, stored⟩ := holds.stored
  refine ⟨⟨spare, ?_⟩, holds.valid, holds.width, holds.styles, holds.narrow⟩
  simp only [withCells, mk.injEq, and_true, true_and]
  exact ⟨congrArg mText stored, congrArg mSpaceUsed stored⟩

theorem Good.wrapped (good : row.Good) (wrap : Bool) : ({ row with mLineWrap := wrap } : TerminalRow).Good := by
  obtain ⟨cells, holds⟩ := good.stored
  exact { good with stored := ⟨cells, holds.wrapped wrap⟩ }

end TerminalRow

namespace TerminalBuffer

variable {b b' b'' : TerminalBuffer} {top bottom : Int} {style : Style}

theorem Formed.lineToTouch_good (formed : b.Formed) (r : Int) : (b.lineToTouch r).Good := by
  have lower := formed.lower
  have upper := formed.upper
  unfold lineToTouch
  cases found : b.shown r with
  | none => exact TerminalRow.create_good (by omega) (by omega) 0
  | some row => exact formed.good found

theorem Formed.lineToTouch_columns (formed : b.Formed) (r : Int) : ((b.lineToTouch r).mColumns : Int) = b.mColumns := by
  unfold lineToTouch
  cases found : b.shown r with
  | none =>
    have lower := formed.lower
    exact Int.toNat_of_nonneg (by omega)
  | some row => exact formed.shown_width found

theorem Formed.scrolled (formed : b.Formed) (scrolled : Scrolled b b' top bottom style) : b'.Formed := by
  refine scrolled.ring.formed (scrolled.columns ▸ formed.lower) (scrolled.columns ▸ formed.upper)
    (b.mScreenRows - b.mTotalRows) fun r row lower upper found => ?_
  rw [scrolled.totalRows] at upper
  by_cases last : r = bottom - 1
  · rw [last, scrolled.cleared] at found
    cases found
    exact ((formed.lineToTouch_good _).cleared style).1
  · rw [scrolled.kept r lower (by omega) last] at found
    exact formed.good found

theorem Scrolled.screen (scrolled : Scrolled b b' top bottom style) (less : top < bottom)
    (most : b.mScreenRows ≤ b.mTotalRows) {r : Int} (lower : 0 ≤ r) (upper : r < b.mScreenRows) (other : r ≠ bottom - 1) :
    b'.shown r = b.shown (if top ≤ r ∧ r < bottom then r + 1 else r) := by
  rw [scrolled.kept r (by omega) upper other]
  unfold scrollSource
  congr 1
  split_ifs <;> omega

def scrolledTo (top bottom r : Int) : Int :=
  if r < 0 then r - 1 else if r < top ∨ bottom ≤ r then r else if r = top then -1 else r - 1

theorem Scrolled.shown_scrolledTo (scrolled : Scrolled b b' top bottom style) (top_nonneg : 0 ≤ top) (less : top < bottom)
    {r : Int} (lower : b.mScreenRows - b.mTotalRows ≤ scrolledTo top bottom r) (upper : r < b.mScreenRows) :
    b'.shown (scrolledTo top bottom r) = b.shown r := by
  have place : scrolledTo top bottom r < b.mScreenRows ∧ scrolledTo top bottom r ≠ bottom - 1 := by
    unfold scrolledTo at lower ⊢
    split_ifs at lower ⊢ <;> omega
  rw [scrolled.kept _ lower place.1 place.2]
  congr 1
  unfold scrollSource scrolledTo
  split_ifs <;> omega

theorem Formed.run_scrollDownOneLine (formed : b.Formed) (top_nonneg : 0 ≤ top) (less : top < bottom)
    (bottom_le : bottom ≤ b.mScreenRows) (style : Style) :
    Ends (fun _ b' => b'.Formed ∧ Scrolled b b' top bottom style) (scrollDownOneLine top bottom style) b := by
  obtain ⟨b', ran, scrolled⟩ := exists_scrolled top_nonneg less bottom_le formed.toRing style
  exact ⟨(), b', ran, formed.scrolled scrolled, scrolled⟩

structure KeepsOutside (area : Int → Int → Prop) (b b' : TerminalBuffer) : Prop where
  formed : b'.Formed
  narrow : b'.Narrow
  screenRows : b'.mScreenRows = b.mScreenRows
  columns : b'.mColumns = b.mColumns
  same : ∀ r c, 0 ≤ r → r < b.mScreenRows → 0 ≤ c → c < b.mColumns → ¬ area r c → b'.picture.SameAt b.picture r c

namespace KeepsOutside

variable {area : Int → Int → Prop}

theorem refl (formed : b.Formed) (narrow : b.Narrow) : KeepsOutside area b b :=
  ⟨formed, narrow, rfl, rfl, fun _ _ _ _ _ _ _ => ⟨rfl, rfl⟩⟩

theorem trans (first : KeepsOutside area b b') (second : KeepsOutside area b' b'') : KeepsOutside area b b'' := by
  refine ⟨second.formed, second.narrow, second.screenRows.trans first.screenRows, second.columns.trans first.columns, ?_⟩
  intro r c lower upper left right outside
  exact (second.same r c lower (first.screenRows ▸ upper) left (first.columns ▸ right) outside).trans
    (first.same r c lower upper left right outside)

end KeepsOutside

theorem Paints.keepsOutside {area : Int → Int → Prop} {p : Picture} (formed : b.Formed) (paints : Paints b b' p)
    (same : ∀ r c, ¬ area r c → p.SameAt b.picture r c) : KeepsOutside area b b' := by
  have active := formed.active_nonneg
  refine ⟨paints.formed, paints.narrow, paints.screenRows, paints.columns, fun r c lower upper left right outside => ?_⟩
  exact (paints.shows r c (by omega) upper left right).trans (same r c outside)

theorem Formed.scrolled_keeps (formed : b.Formed) (narrow : b.Narrow) (scrolled : Scrolled b b' top bottom style)
    (less : top < bottom) (bottom_le : bottom ≤ b.mScreenRows) : KeepsOutside (fun r _ => top ≤ r ∧ r < bottom) b b' := by
  have most := formed.screen_le
  refine ⟨formed.scrolled scrolled, ?_, scrolled.screenRows, scrolled.columns, fun r c lower upper _ _ outside => ?_⟩
  · intro r row lower upper found
    rw [scrolled.screenRows] at upper
    by_cases last : r = bottom - 1
    · rw [last, scrolled.cleared] at found
      cases found
      exact ((formed.lineToTouch_good _).cleared style).2
    · rw [scrolled.screen less most lower upper last] at found
      exact narrow _ row (by split <;> omega) (by split <;> omega) found
  · have kept := scrolled.screen less most lower upper (by omega)
    rw [if_neg outside] at kept
    exact picture_sameAt kept c

theorem Formed.run_setLineWrap (formed : b.Formed) {s : Int} (lower : 0 ≤ s) (upper : s < b.mScreenRows) :
    Ends (fun _ => Repainted (fun r old new => new = { old with mLineWrap := old.mLineWrap || decide (r = s) }) b)
      (setLineWrap s) b := by
  obtain ⟨row, found⟩ := formed.exists_shown lower upper
  have good := formed.good found
  have set : (modify fun line => { line with mLineWrap := true } : RowM Unit).run row =
      .ok () { row with mLineWrap := true } := rfl
  obtain ⟨b', ran, painted⟩ := formed.run_lineAt lower upper found set rfl (good.wrapped true)
  refine ⟨(), b', ran, painted.mono ?_⟩
  rintro r old new - - - - changed
  unfold RowChange at changed
  split at changed
  next here =>
    obtain ⟨rfl, rfl⟩ := changed
    simp [here]
  next other =>
    rw [changed]
    simp [other]

theorem Repainted.wrapped_keeps {area : Int → Int → Prop} {flag : Int → TerminalRow → Bool} (formed : b.Formed)
    (narrow : b.Narrow)
    (painted : Repainted (fun r old new => new = { old with mLineWrap := flag r old }) b b') : KeepsOutside area b b' := by
  have paints : Paints b b' b.picture := by
    refine painted.paints formed ?_ fun _ _ _ => ⟨rfl, rfl⟩
    rintro r old new lower upper found rfl
    refine ⟨narrow r old lower upper found, fun c => ?_⟩
    rw [picture_text found, picture_style found]
    exact ⟨rfl, rfl⟩
  exact paints.keepsOutside formed fun _ _ _ => ⟨rfl, rfl⟩

end TerminalBuffer
