import TerminalAndroid.Terminal.Buffer.Scrolling
import TerminalAndroid.Terminal.Buffer.Size

open Java Exec Circular

structure TerminalRow.Alike (row row' : TerminalRow) : Prop where
  cells : row'.cells = row.cells
  styles : row'.mStyle = row.mStyle
  columns : row'.mColumns = row.mColumns

namespace TerminalRow.Alike

variable {row row' line line' out out' : TerminalRow}

theorem refl (row : TerminalRow) : row.Alike row := ⟨rfl, rfl, rfl⟩

theorem wrapped (row : TerminalRow) (wrap : Bool) : row.Alike { row with mLineWrap := wrap } := ⟨rfl, rfl, rfl⟩

theorem cleared (good : row.Good) (good' : row'.Good) (columns : row'.mColumns = row.mColumns) (style : Style) :
    (row.cleared .java style).Alike (row'.cleared .java style) := by
  obtain ⟨cells, holds⟩ := good.stored
  obtain ⟨cells', holds'⟩ := good'.stored
  have blank := cleared_holds row RowRules.java_exact good.upper good.capacity holds.styles style
  have blank' := cleared_holds row' RowRules.java_exact good'.upper good'.capacity holds'.styles style
  refine ⟨?_, ?_, columns⟩
  · rw [blank.cells_eq, blank'.cells_eq, columns]
  · show List.replicate row'.mStyle.length style = List.replicate row.mStyle.length style
    rw [holds.styles, holds'.styles, columns]

theorem copied {same : Bool} {source cells source' cells' : List Cell} {sx w dx : Nat} (lines : line.Alike line')
    (rows : row.Alike row') (run : IntervalCopied same line row out source cells sx w dx)
    (run' : IntervalCopied same line' row' out' source' cells' sx w dx) : out.Alike out' := by
  have sources : source' = source := by
    rw [← run.lineHolds.cells_eq, ← run'.lineHolds.cells_eq, lines.cells]
  have targets : cells' = cells := by
    rw [← run.holds.cells_eq, ← run'.holds.cells_eq, rows.cells]
  subst sources targets
  refine ⟨?_, ?_, ?_⟩
  · rw [run.cells_eq, run'.cells_eq]
  · rw [run.copied.exact, run'.copied.exact, lines.styles, rows.styles]
  · rw [run.copied.rewritten.shape.columns, run'.copied.rewritten.shape.columns, rows.columns]

theorem set {x column count : Nat} {style : Style} (rows : row.Alike row') (good : row.Good) (good' : row'.Good)
    (scalar : x.isValidChar) (one : WcWidth.width x = 1) (run : SetRun x style column count row out)
    (run' : SetRun x style column count row' out') : out.Alike out' := by
  obtain ⟨cells, holds⟩ := good.stored
  obtain ⟨cells', holds'⟩ := good'.stored
  have same : cells' = cells := by rw [← holds.cells_eq, ← holds'.cells_eq, rows.cells]
  subst same
  have set := run.columnsSet good holds scalar one
  have set' := run'.columnsSet good' holds' scalar one
  refine ⟨?_, ?_, ?_⟩
  · rw [set.rewritten.holds.cells_eq, set'.rewritten.holds.cells_eq]
  · ext1 c
    rw [set.styles, set'.styles, rows.styles]
  · rw [set.rewritten.shape.columns, set'.rewritten.shape.columns, rows.columns]

end TerminalRow.Alike

namespace TerminalBuffer

variable {b b' c c' : TerminalBuffer}

structure Alike (b b' : TerminalBuffer) : Prop where
  formed : b.Formed
  formed' : b'.Formed
  totalRows : b'.mTotalRows = b.mTotalRows
  screenRows : b'.mScreenRows = b.mScreenRows
  columns : b'.mColumns = b.mColumns
  active : b'.mActiveTranscriptRows = b.mActiveTranscriptRows
  rows : ∀ r row row', -b.mActiveTranscriptRows ≤ r → r < b.mScreenRows → b.shown r = some row → b'.shown r = some row' →
    row.Alike row'

def RunsAlike (m : BufferM Unit) (b b' : TerminalBuffer) : Prop :=
  ∃ c c', m.run b = .ok () c ∧ m.run b' = .ok () c' ∧ SameSize b c ∧ c.Alike c'

theorem RunsAlike.bind {m n : BufferM Unit} (first : RunsAlike m b b')
    (second : ∀ c c', SameSize b c → c.Alike c' → RunsAlike n c c') : RunsAlike (do m; n) b b' := by
  obtain ⟨c, c', ran, ran', size, alike⟩ := first
  obtain ⟨d, d', ranRest, ranRest', size', final⟩ := second c c' size alike
  exact ⟨d, d', (run_bind_of ran).trans ranRest, (run_bind_of ran').trans ranRest', IsTrans.trans _ _ _ size size', final⟩

theorem Repainted.sameSize {P : Int → TerminalRow → TerminalRow → Prop} (painted : Repainted P b c) : SameSize b c :=
  ⟨painted.columns, painted.screenRows, painted.totalRows⟩

namespace Alike

theorem wrapped {flag : Int → TerminalRow → Bool} (formed : b.Formed)
    (painted : Repainted (fun r old new => new = { old with mLineWrap := flag r old }) b b') : b.Alike b' := by
  refine ⟨formed, painted.formed, painted.totalRows, painted.screenRows, painted.columns, painted.active, ?_⟩
  intro r row row' lower upper found found'
  rcases Int.lt_or_le r 0 with negative | nonneg
  · have most := formed.active_le
    rw [painted.transcript r (by omega) negative, found] at found'
    cases found'
    exact .refl row
  · obtain ⟨new, shown, rfl⟩ := painted.screen r row nonneg upper found
    rw [shown] at found'
    cases found'
    exact .wrapped row _

variable (alike : b.Alike b')
include alike

theorem repainted {P P' : Int → TerminalRow → TerminalRow → Prop} (painted : Repainted P b c)
    (painted' : Repainted P' b' c')
    (step : ∀ r row row' out out', 0 ≤ r → r < b.mScreenRows → b.shown r = some row → b'.shown r = some row' →
      row.Alike row' → P r row out → P' r row' out' → out.Alike out') : c.Alike c' := by
  have most := alike.formed.active_le
  refine ⟨painted.formed, painted'.formed, ?_, ?_, ?_, ?_, ?_⟩
  · rw [painted.totalRows, painted'.totalRows, alike.totalRows]
  · rw [painted.screenRows, painted'.screenRows, alike.screenRows]
  · rw [painted.columns, painted'.columns, alike.columns]
  · rw [painted.active, painted'.active, alike.active]
  intro r out out' lower upper found found'
  rw [painted.active] at lower
  rw [painted.screenRows] at upper
  rcases Int.lt_or_le r 0 with negative | nonneg
  · rw [painted.transcript r (by omega) negative] at found
    rw [painted'.transcript r (by rw [alike.screenRows, alike.totalRows]; omega) negative] at found'
    exact alike.rows r out out' lower upper found found'
  · have upper' : r < b'.mScreenRows := alike.screenRows ▸ upper
    obtain ⟨row, shown⟩ := alike.formed.exists_shown nonneg upper
    obtain ⟨row', shown'⟩ := alike.formed'.exists_shown nonneg upper'
    obtain ⟨new, shownNew, made⟩ := painted.screen r row nonneg upper shown
    obtain ⟨new', shownNew', made'⟩ := painted'.screen r row' nonneg upper' shown'
    rw [found] at shownNew
    rw [found'] at shownNew'
    cases shownNew
    cases shownNew'
    exact step r row row' out out' nonneg upper shown shown' (alike.rows r row row' lower upper shown shown') made made'

theorem run_blockSet {sx sy w h : Int} {x : Nat} (scalar : x.isValidChar) (one : WcWidth.width x = 1) (left : 0 ≤ sx)
    (right : sx + w ≤ b.mColumns) (top : 0 ≤ sy) (bottom : sy + h ≤ b.mScreenRows) (style : Style) :
    RunsAlike (blockSet sx sy w h x style) b b' := by
  obtain ⟨⟨⟩, c, ran, painted⟩ := alike.formed.run_blockSet scalar (by omega) left right top bottom style
  obtain ⟨⟨⟩, c', ran', painted'⟩ := alike.formed'.run_blockSet scalar (by omega) left (by rw [alike.columns]; exact right)
    top (by rw [alike.screenRows]; exact bottom) style
  refine ⟨c, c', ran, ran', painted.sameSize, alike.repainted painted painted' ?_⟩
  intro r row row' out out' lower upper found found' rows set set'
  unfold BlockSet at set set'
  split at set
  next inside =>
    rw [if_pos inside] at set'
    exact rows.set (alike.formed.good found) (alike.formed'.good found') scalar one set set'
  next outside =>
    rw [if_neg outside] at set'
    rw [set, set']
    exact rows

theorem run_blockCopy {sx sy w h dx dy : Int} (left : 0 ≤ sx) (top : 0 ≤ sy) (width : 0 < w) (height : 0 ≤ h)
    (left' : 0 ≤ dx) (top' : 0 ≤ dy) (right : sx + w ≤ b.mColumns) (bottom : sy + h ≤ b.mScreenRows)
    (right' : dx + w ≤ b.mColumns) (bottom' : dy + h ≤ b.mScreenRows) :
    RunsAlike (blockCopy sx sy w h dx dy) b b' := by
  lift sx to Nat using left
  lift sy to Nat using top
  lift w to Nat using width.le
  lift h to Nat using height
  lift dx to Nat using left'
  lift dy to Nat using top'
  have positive : 0 < w := by omega
  obtain ⟨⟨⟩, c, ran, painted⟩ := alike.formed.run_blockCopy positive right bottom right' bottom'
  rw [← alike.columns] at right right'
  rw [← alike.screenRows] at bottom bottom'
  obtain ⟨⟨⟩, c', ran', painted'⟩ := alike.formed'.run_blockCopy positive right bottom right' bottom'
  rw [alike.screenRows] at bottom
  have active := alike.formed.active_nonneg
  refine ⟨c, c', ran, ran', painted.sameSize, alike.repainted painted painted' ?_⟩
  intro r row row' out out' lower upper found found' rows copied copied'
  by_cases inside : 0 ≤ r - dy ∧ r - dy < h
  · obtain ⟨line, source, cells, foundLine, run⟩ := copied.1 inside
    obtain ⟨line', source', cells', foundLine', run'⟩ := copied'.1 inside
    exact .copied (alike.rows _ line line' (by omega) (by omega) foundLine foundLine') rows run run'
  · rw [copied.2 inside, copied'.2 inside]
    exact rows

theorem scrolled {top bottom : Int} {style : Style} (top_nonneg : 0 ≤ top) (less : top < bottom)
    (bottom_le : bottom ≤ b.mScreenRows) (scrolled : Scrolled b c top bottom style)
    (scrolled' : Scrolled b' c' top bottom style) : c.Alike c' := by
  have source : ∀ k, scrollSource b' top bottom k = scrollSource b top bottom k := by
    intro k
    unfold scrollSource
    rw [alike.screenRows, alike.totalRows]
  have most := alike.formed.active_le
  have nonneg := alike.formed.active_nonneg
  refine ⟨alike.formed.scrolled scrolled, alike.formed'.scrolled scrolled', ?_, ?_, ?_, ?_, ?_⟩
  · rw [scrolled.totalRows, scrolled'.totalRows, alike.totalRows]
  · rw [scrolled.screenRows, scrolled'.screenRows, alike.screenRows]
  · rw [scrolled.columns, scrolled'.columns, alike.columns]
  · rw [scrolled.active, scrolled'.active, alike.active, alike.totalRows, alike.screenRows]
  intro r out out' lower upper found found'
  rw [scrolled.screenRows] at upper
  by_cases last : r = bottom - 1
  · subst last
    rw [scrolled.cleared] at found
    rw [scrolled'.cleared, source] at found'
    cases found
    cases found'
    have columns := alike.formed.lineToTouch_columns (scrollSource b top bottom bottom)
    have columns' := alike.formed'.lineToTouch_columns (scrollSource b top bottom bottom)
    rw [alike.columns] at columns'
    exact .cleared (alike.formed.lineToTouch_good _) (alike.formed'.lineToTouch_good _) (by omega) style
  · have range : -b.mActiveTranscriptRows - 1 ≤ r ∧ b.mScreenRows - b.mTotalRows ≤ r := by
      rw [scrolled.active] at lower
      split at lower <;> omega
    rw [scrolled.kept r range.2 upper last] at found
    rw [scrolled'.kept r (by rw [alike.screenRows, alike.totalRows]; exact range.2)
      (by rw [alike.screenRows]; exact upper) last, source] at found'
    refine alike.rows _ out out' ?_ ?_ found found' <;> unfold scrollSource <;> split_ifs <;> omega

theorem run_scrollDownOneLine {top bottom : Int} (top_nonneg : 0 ≤ top) (less : top < bottom)
    (bottom_le : bottom ≤ b.mScreenRows) (style : Style) : RunsAlike (scrollDownOneLine top bottom style) b b' := by
  obtain ⟨⟨⟩, c, ran, -, scrolled⟩ := alike.formed.run_scrollDownOneLine top_nonneg less bottom_le style
  obtain ⟨⟨⟩, c', ran', -, scrolled'⟩ := alike.formed'.run_scrollDownOneLine top_nonneg less
    (by rw [alike.screenRows]; exact bottom_le) style
  exact ⟨c, c', ran, ran', ⟨scrolled.columns, scrolled.screenRows, scrolled.totalRows⟩,
    alike.scrolled top_nonneg less bottom_le scrolled scrolled'⟩

end Alike

end TerminalBuffer
