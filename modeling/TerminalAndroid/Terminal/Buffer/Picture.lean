import TerminalAndroid.Terminal.Buffer.BlockCopy

open Java Exec Circular

section

variable {α : Type} (line : Int → α) (filler : α) (start stop k i : Int)

def opened : α := if i < start ∨ stop ≤ i then line i else if i < start + k then filler else line (i - k)

def closed : α := if i < start ∨ stop ≤ i then line i else if i < stop - k then line (i + k) else filler

def smeared : α := if i < start ∨ stop ≤ i then line i else if i < start + k then filler else line (start + (i - start) % k)

end

structure Picture where
  text : Int → Int → Option Cell
  style : Int → Int → Option Style

namespace Picture

variable (p : Picture)

def InBlock (x y w h r c : Int) : Prop := (y ≤ r ∧ r < y + h) ∧ x ≤ c ∧ c < x + w

instance (x y w h r c : Int) : Decidable (InBlock x y w h r c) := inferInstanceAs (Decidable (_ ∧ _))

def copy (sx sy w h dx dy : Int) : Picture where
  text r c := if InBlock dx dy w h r c then p.text (sy + (r - dy)) (sx + (c - dx)) else p.text r c
  style r c :=
    if InBlock dx dy w h r c then
      p.style (sy + (r - dy)) (sx + if dy = sy ∧ sx < dx then (c - dx) % (dx - sx) else c - dx)
    else p.style r c

def fill (sx sy w h : Int) (cell : Cell) (style : Style) : Picture where
  text r c := if InBlock sx sy w h r c then some cell else p.text r c
  style r c := if InBlock sx sy w h r c then some style else p.style r c

def SameAt (p q : Picture) (r c : Int) : Prop := p.text r c = q.text r c ∧ p.style r c = q.style r c

variable {p}

theorem copy_outside {sx sy w h dx dy r c : Int} (outside : ¬ InBlock dx dy w h r c) :
    (p.copy sx sy w h dx dy).SameAt p r c := ⟨if_neg outside, if_neg outside⟩

theorem fill_outside {sx sy w h r c : Int} (outside : ¬ InBlock sx sy w h r c) (cell : Cell) (style : Style) :
    (p.fill sx sy w h cell style).SameAt p r c := ⟨if_neg outside, if_neg outside⟩

theorem SameAt.symm {p q : Picture} {r c : Int} (same : p.SameAt q r c) : q.SameAt p r c :=
  ⟨same.1.symm, same.2.symm⟩

theorem SameAt.trans {p q s : Picture} {r c : Int} (first : p.SameAt q r c) (second : q.SameAt s r c) : p.SameAt s r c :=
  ⟨first.1.trans second.1, first.2.trans second.2⟩

section

variable {p : Picture} {start stop k y h columns r c : Int} {cell : Cell} {style : Style} (count : 0 < k)
  (room : k ≤ stop - start)
include count room

theorem insertColumns_text :
    ((p.copy start y (stop - start - k) h (start + k) y).fill start y k h cell style).text r c =
      if y ≤ r ∧ r < y + h then opened (p.text r) (some cell) start stop k c else p.text r c := by
  have row : y + (r - y) = r := by omega
  have column : start + (c - (start + k)) = c - k := by omega
  simp only [fill, copy, InBlock, opened, row, column]
  split_ifs <;> first | rfl | omega

theorem insertColumns_style :
    ((p.copy start y (stop - start - k) h (start + k) y).fill start y k h cell style).style r c =
      if y ≤ r ∧ r < y + h then smeared (p.style r) (some style) start stop k c else p.style r c := by
  have row : y + (r - y) = r := by omega
  have column : (c - (start + k)) % (start + k - start) = (c - start) % k := by
    rw [add_sub_cancel_left, ← sub_sub, Int.sub_emod_right]
  have right : start < start + k := by omega
  simp only [fill, copy, InBlock, smeared, row, column, right, and_self, if_true]
  split_ifs <;> first | rfl | omega

theorem deleteColumns_text :
    ((p.copy (start + k) y (stop - start - k) h start y).fill (start + (stop - start - k)) y k h cell style).text r c =
      if y ≤ r ∧ r < y + h then closed (p.text r) (some cell) start stop k c else p.text r c := by
  have row : y + (r - y) = r := by omega
  have column : start + k + (c - start) = c + k := by omega
  simp only [fill, copy, InBlock, closed, row, column]
  split_ifs <;> first | rfl | omega

theorem deleteColumns_style :
    ((p.copy (start + k) y (stop - start - k) h start y).fill (start + (stop - start - k)) y k h cell style).style r c =
      if y ≤ r ∧ r < y + h then closed (p.style r) (some style) start stop k c else p.style r c := by
  have row : y + (r - y) = r := by omega
  have column : start + k + (c - start) = c + k := by omega
  have left : ¬ start + k < start := by omega
  simp only [fill, copy, InBlock, closed, row, column, left, and_false, if_false]
  split_ifs <;> first | rfl | omega

theorem insertColumns_sameAt_iff :
    ((p.copy start y (stop - start - k) h (start + k) y).fill start y k h cell style).SameAt p r c ↔
      (y ≤ r ∧ r < y + h → start ≤ c → c < stop →
        if c < start + k then p.text r c = some cell ∧ p.style r c = some style
        else p.text r c = p.text r (c - k) ∧ p.style r c = p.style r (start + (c - start) % k)) := by
  rw [SameAt, insertColumns_text count room, insertColumns_style count room]
  unfold opened smeared
  grind

theorem deleteColumns_sameAt_iff :
    ((p.copy (start + k) y (stop - start - k) h start y).fill (start + (stop - start - k)) y k h cell
      style).SameAt p r c ↔
      (y ≤ r ∧ r < y + h → start ≤ c → c < stop →
        if c < stop - k then p.text r c = p.text r (c + k) ∧ p.style r c = p.style r (c + k)
        else p.text r c = some cell ∧ p.style r c = some style) := by
  rw [SameAt, deleteColumns_text count room, deleteColumns_style count room]
  unfold closed
  grind

omit room in
theorem takeColumns_sameAt_iff :
    (p.copy (start + k) y (stop - start - k) h start y).SameAt p r c ↔
      (y ≤ r ∧ r < y + h → start ≤ c → c < stop - k →
        p.text r c = p.text r (c + k) ∧ p.style r c = p.style r (c + k)) := by
  have row : y + (r - y) = r := by omega
  have column : start + k + (c - start) = c + k := by omega
  have left : ¬ start + k < start := by omega
  simp only [SameAt, copy, InBlock, row, column, left, and_false, if_false]
  grind

variable (least : 0 ≤ c) (most : c < columns)
include least most

theorem insertLines_sameAt :
    ((p.copy 0 start columns (stop - start - k) 0 (start + k)).fill 0 start columns k cell style).text r c =
      opened (p.text · c) (some cell) start stop k r ∧
    ((p.copy 0 start columns (stop - start - k) 0 (start + k)).fill 0 start columns k cell style).style r c =
      opened (p.style · c) (some style) start stop k r := by
  have row : start + (r - (start + k)) = r - k := by omega
  simp only [fill, copy, InBlock, opened, row, Int.sub_zero, Int.zero_add, lt_self_iff_false, and_false, if_false]
  constructor <;> split_ifs <;> first | rfl | omega

theorem deleteLines_sameAt :
    ((p.copy 0 (start + k) columns (stop - start - k) 0 start).fill 0 (start + (stop - start - k)) columns k cell
      style).text r c = closed (p.text · c) (some cell) start stop k r ∧
    ((p.copy 0 (start + k) columns (stop - start - k) 0 start).fill 0 (start + (stop - start - k)) columns k cell
      style).style r c = closed (p.style · c) (some style) start stop k r := by
  have row : start + k + (r - start) = r + k := by omega
  simp only [fill, copy, InBlock, closed, row, Int.sub_zero, Int.zero_add, lt_self_iff_false, and_false, if_false]
  constructor <;> split_ifs <;> first | rfl | omega

theorem insertLines_sameAt_iff :
    ((p.copy 0 start columns (stop - start - k) 0 (start + k)).fill 0 start columns k cell style).SameAt p r c ↔
      (start ≤ r → r < stop →
        if r < start + k then p.text r c = some cell ∧ p.style r c = some style
        else p.text r c = p.text (r - k) c ∧ p.style r c = p.style (r - k) c) := by
  obtain ⟨text, style⟩ := @insertLines_sameAt p start stop k columns r c cell style count room least most
  rw [SameAt, text, style]
  unfold opened
  grind

theorem deleteLines_sameAt_iff :
    ((p.copy 0 (start + k) columns (stop - start - k) 0 start).fill 0 (start + (stop - start - k)) columns k cell
      style).SameAt p r c ↔
      (start ≤ r → r < stop →
        if r < stop - k then p.text r c = p.text (r + k) c ∧ p.style r c = p.style (r + k) c
        else p.text r c = some cell ∧ p.style r c = some style) := by
  obtain ⟨text, style⟩ := @deleteLines_sameAt p start stop k columns r c cell style count room least most
  rw [SameAt, text, style]
  unfold closed
  grind

end

end Picture

namespace TerminalBuffer

variable {b b' b'' : TerminalBuffer} {p q : Picture}

def picture (b : TerminalBuffer) : Picture where
  text r c := (cellAt (b.cellsOf r) c.toNat).map Prod.fst
  style r c := (b.shown r).bind (·.mStyle[c.toNat]?)

def Narrow (b : TerminalBuffer) : Prop := ∀ r row, 0 ≤ r → r < b.mScreenRows → b.shown r = some row → row.Narrow

structure Paints (b b' : TerminalBuffer) (p : Picture) : Prop where
  formed : b'.Formed
  narrow : b'.Narrow
  screenRows : b'.mScreenRows = b.mScreenRows
  columns : b'.mColumns = b.mColumns
  active : b'.mActiveTranscriptRows = b.mActiveTranscriptRows
  shows : ∀ r c, -b.mActiveTranscriptRows ≤ r → r < b.mScreenRows → 0 ≤ c → c < b.mColumns → b'.picture.SameAt p r c

theorem picture_text {r : Int} {row : TerminalRow} (found : b.shown r = some row) (c : Int) :
    b.picture.text r c = (cellAt row.cells c.toNat).map Prod.fst := by
  show (cellAt (b.cellsOf r) c.toNat).map Prod.fst = _
  rw [cellsOf_of_shown found]

theorem picture_style {r : Int} {row : TerminalRow} (found : b.shown r = some row) (c : Int) :
    b.picture.style r c = row.mStyle[c.toNat]? := by
  show (b.shown r).bind (·.mStyle[c.toNat]?) = _
  rw [found, Option.bind_some]

theorem picture_sameAt {r s : Int} (same : b'.shown r = b.shown s) (c : Int) :
    b'.picture.text r c = b.picture.text s c ∧ b'.picture.style r c = b.picture.style s c := by
  constructor
  · show (cellAt (b'.cellsOf r) c.toNat).map Prod.fst = (cellAt (b.cellsOf s) c.toNat).map Prod.fst
    rw [cellsOf, cellsOf, same]
  · show (b'.shown r).bind _ = (b.shown s).bind _
    rw [same]

theorem BlockSet.kept {sx sy w h r : Int} {x : Nat} {style : Style} {old new : TerminalRow}
    (changed : BlockSet sx sy w h x style r old new) (outside : w ≤ 0 ∨ ¬ (sy ≤ r ∧ r < sy + h)) : new = old := by
  unfold BlockSet at changed
  split at changed
  next inside =>
    rw [show w.toNat = 0 by omega] at changed
    cases changed
    rfl
  · exact changed

theorem Repainted.paints {rows : Int → TerminalRow → TerminalRow → Prop} (painted : Repainted rows b b') (formed : b.Formed)
    (row : ∀ r old new, 0 ≤ r → r < b.mScreenRows → b.shown r = some old → rows r old new → new.Narrow ∧
      ∀ c : Nat, (cellAt new.cells c).map Prod.fst = p.text r c ∧ new.mStyle[c]? = p.style r c)
    (above : ∀ r c, r < 0 → b.picture.SameAt p r c) : Paints b b' p := by
  have active := formed.active_le
  have shown : ∀ r, 0 ≤ r → r < b.mScreenRows → ∃ new, b'.shown r = some new ∧ new.Narrow ∧
      ∀ c : Nat, (cellAt new.cells c).map Prod.fst = p.text r c ∧ new.mStyle[c]? = p.style r c := by
    intro r lower upper
    obtain ⟨old, found⟩ := formed.exists_shown lower upper
    obtain ⟨new, found', changed⟩ := painted.screen r old lower upper found
    exact ⟨new, found', row r old new lower upper found changed⟩
  refine ⟨painted.formed, ?_, painted.screenRows, painted.columns, painted.active, ?_⟩
  · intro r new lower upper found
    obtain ⟨new', found', narrow, -⟩ := shown r lower (painted.screenRows ▸ upper)
    rw [found'] at found
    cases found
    exact narrow
  · intro r c lower upper left right
    rcases Int.lt_or_le r 0 with negative | nonneg
    · exact Picture.SameAt.trans (picture_sameAt (painted.transcript r (by omega) negative) c) (above r c negative)
    · obtain ⟨new, found, -, cells⟩ := shown r nonneg upper
      lift c to Nat using left
      rw [Picture.SameAt, picture_text found, picture_style found]
      exact cells c

theorem Paints.refl (formed : b.Formed) (narrow : b.Narrow) : Paints b b b.picture :=
  ⟨formed, narrow, rfl, rfl, rfl, fun _ _ _ _ _ _ => ⟨rfl, rfl⟩⟩

theorem Paints.mono (paints : Paints b b' p)
    (same : ∀ r c, -b.mActiveTranscriptRows ≤ r → r < b.mScreenRows → 0 ≤ c → c < b.mColumns → p.SameAt q r c) :
    Paints b b' q :=
  { paints with shows := fun r c lower upper left right =>
      (paints.shows r c lower upper left right).trans (same r c lower upper left right) }

theorem toNat_styleColumn {sx sy dx dy c : Nat} (least : dx ≤ c) :
    ((sx : Int) + if (dy : Int) = sy ∧ (sx : Int) < dx then ((c : Int) - dx) % (dx - sx) else c - dx).toNat =
      sx + if decide ((dy : Int) = sy) = true ∧ sx < dx then (c - dx) % (dx - sx) else c - dx := by
  simp only [decide_eq_true_eq]
  by_cases right : (dy : Int) = sy ∧ sx < dx
  · rw [if_pos (by omega), if_pos right, ← Int.ofNat_sub least, ← Int.ofNat_sub right.2.le, ← Int.natCast_mod]
    omega
  · rw [if_neg (by omega), if_neg right]
    omega

theorem Paints.fill {x y w h : Int} {cell : Cell} {style : Style} (first : Paints b b' p)
    (second : Paints b' b'' (b'.picture.fill x y w h cell style)) : Paints b b'' (p.fill x y w h cell style) := by
  refine ⟨second.formed, second.narrow, second.screenRows.trans first.screenRows, second.columns.trans first.columns,
    second.active.trans first.active, fun r c lower upper left right => ?_⟩
  obtain ⟨text, style⟩ := first.shows r c lower upper left right
  refine Picture.SameAt.trans (second.shows r c (first.active ▸ lower) (first.screenRows ▸ upper) left
    (first.columns ▸ right)) ⟨?_, ?_⟩
  · simp only [Picture.fill, text]
  · simp only [Picture.fill, style]

section

variable (formed : b.Formed) (narrow : b.Narrow)
include formed narrow

theorem Formed.paints_blockCopy {sx sy w h dx dy : Int} (left : 0 ≤ sx) (top : 0 ≤ sy) (width : 0 ≤ w) (height : 0 ≤ h)
    (left' : 0 ≤ dx) (top' : 0 ≤ dy) (right : sx + w ≤ b.mColumns) (bottom : sy + h ≤ b.mScreenRows)
    (right' : dx + w ≤ b.mColumns) (bottom' : dy + h ≤ b.mScreenRows) :
    Ends (fun _ b' => Paints b b' (b.picture.copy sx sy w h dx dy)) (blockCopy sx sy w h dx dy) b := by
  lift sx to Nat using left
  lift sy to Nat using top
  lift w to Nat using width
  lift h to Nat using height
  lift dx to Nat using left'
  lift dy to Nat using top'
  rcases Nat.eq_zero_or_pos w with rfl | positive
  · have none : ∀ r c, ¬ Picture.InBlock dx dy (0 : Nat) h r c := by
      unfold Picture.InBlock
      omega
    exact ⟨(), b, rfl, (Paints.refl formed narrow).mono fun r c _ _ _ _ => (Picture.copy_outside (none r c)).symm⟩
  refine (formed.run_blockCopy positive right bottom right' bottom').mono fun _ b' painted => ?_
  refine painted.paints formed ?_ ?_
  · rintro r old new lower upper found ⟨copied, kept⟩
    have own := narrow r old lower upper found
    by_cases inside : (dy : Int) ≤ r ∧ r < dy + h
    · obtain ⟨line, source, cells, foundLine, interval⟩ := copied (by omega)
      have lineNarrow := narrow _ line (by omega) (by omega) foundLine
      refine ⟨interval.narrow_after lineNarrow own, fun c => ?_⟩
      rw [interval.cellAt_narrow lineNarrow own, interval.styles_narrow lineNarrow own]
      by_cases within : dx ≤ c ∧ c < dx + w
      · have block : Picture.InBlock dx dy w h r c := ⟨inside, by omega⟩
        simp only [Picture.copy, if_pos block, if_pos within, picture_text foundLine, picture_style foundLine,
          toNat_styleColumn within.1, show ((sx : Int) + (c - dx)).toNat = sx + (c - dx) by omega, and_self]
      · obtain ⟨text, style⟩ := @Picture.copy_outside b.picture sx sy w h dx dy r c fun block => within (by
          have := block.2
          omega)
        rw [if_neg within, if_neg within, text, style, picture_text found, picture_style found]
        exact ⟨rfl, rfl⟩
    · rw [kept (by omega)]
      refine ⟨own, fun c => ?_⟩
      obtain ⟨text, style⟩ := @Picture.copy_outside b.picture sx sy w h dx dy r c fun block => inside block.1
      rw [text, style, picture_text found, picture_style found]
      exact ⟨rfl, rfl⟩
  · intro r c negative
    exact (Picture.copy_outside fun block => by
      have := block.1
      omega).symm

theorem Formed.paints_blockSet {x : Nat} (scalar : x.isValidChar) (one : WcWidth.width x = 1) {sx sy w h : Int}
    (left : 0 ≤ sx) (right : sx + w ≤ b.mColumns) (top : 0 ≤ sy) (bottom : sy + h ≤ b.mScreenRows) (style : Style) :
    Ends (fun _ b' => Paints b b' (b.picture.fill sx sy w h (.bare x) style)) (blockSet sx sy w h x style) b := by
  refine (formed.run_blockSet scalar (by omega) left right top bottom style).mono fun _ b' painted => ?_
  refine painted.paints formed ?_ ?_
  · intro r old new lower upper found changed
    have own := narrow r old lower upper found
    by_cases inside : 0 < w ∧ sy ≤ r ∧ r < sy + h
    · rw [BlockSet, if_pos inside.2] at changed
      obtain ⟨cells, holds⟩ := (formed.good found).stored
      have set := changed.columnsSet (formed.good found) holds scalar one
      have width := formed.shown_width found
      have room : sx.toNat + w.toNat ≤ old.mColumns := by omega
      refine ⟨set.narrow_after holds own one room, fun c => ?_⟩
      rw [set.cellAt_narrow holds own one room, set.styles_narrow holds own]
      by_cases within : sx.toNat ≤ c ∧ c < sx.toNat + w.toNat
      · have block : Picture.InBlock sx sy w h r c := ⟨inside.2, by omega⟩
        simp only [Picture.fill, if_pos block, if_pos within, Option.map_some, and_self]
      · have outside : ¬ Picture.InBlock sx sy w h r c := fun block => within (by
          have := block.2
          omega)
        obtain ⟨text, style⟩ := @Picture.fill_outside b.picture sx sy w h r c outside (.bare x) style
        rw [if_neg within, if_neg within, text, style, picture_text found, picture_style found]
        exact ⟨rfl, rfl⟩
    · obtain rfl := changed.kept (by omega)
      refine ⟨own, fun c => ?_⟩
      have outside : ¬ Picture.InBlock sx sy w h r c := fun block => inside ⟨by have := block.2; omega, block.1⟩
      obtain ⟨text, style⟩ := @Picture.fill_outside b.picture sx sy w h r c outside (.bare x) style
      rw [text, style, picture_text found, picture_style found]
      exact ⟨rfl, rfl⟩
  · intro r c negative
    exact (Picture.fill_outside (fun block => by
      have := block.1
      omega) _ _).symm

end

theorem freshLines_narrow (b : TerminalBuffer) {newColumns newRows newTotalRows : Int} (upper : newColumns ≤ 1023)
    (positive : 1 ≤ newTotalRows) (style : Style) : (b.freshLines newColumns newRows newTotalRows style).Narrow := by
  intro r row _ _ found
  rw [freshLines, canvas_shown (by simp; omega)] at found
  have member := List.mem_of_getElem? found
  have holds := TerminalRow.create_holds (show newColumns.toNat ≤ 1023 by omega) style
  rw [List.eq_of_mem_replicate member, holds.narrow_iff]
  intro cell blank
  rw [List.eq_of_mem_replicate blank]
  exact Cell.blank_width

def filledWith (columns rows : Nat) (x : Nat) (style : Style) : TerminalBuffer :=
  final ((blockSet 0 0 columns rows x style).run ((allocated columns rows rows).freshLines columns rows rows 0))

theorem filledWith_paints {columns rows x : Nat} (lower : 2 ≤ columns) (upper : columns ≤ 1023) (positive : 1 ≤ rows)
    (scalar : x.isValidChar) (one : WcWidth.width x = 1) (style : Style) :
    ∃ p, Paints ((allocated columns rows rows).freshLines columns rows rows 0) (filledWith columns rows x style) p := by
  have formed := freshLines_formed (allocated columns rows rows) (show (2 : Int) ≤ columns by omega) (by omega)
    (show (1 : Int) ≤ rows by omega) (Int.le_refl _) 0
  have narrow := @freshLines_narrow (allocated columns rows rows) columns rows rows (by omega) (by omega) 0
  have ends := @Formed.paints_blockSet _ formed narrow x scalar one 0 0 columns rows (Int.le_refl 0)
    (by rw [Int.zero_add]; exact Int.le_refl _) (Int.le_refl 0) (by rw [Int.zero_add]; exact Int.le_refl _) style
  obtain ⟨⟨⟩, b', ran, paints⟩ := ends
  rw [filledWith, ran]
  exact ⟨_, paints⟩

end TerminalBuffer
