import TerminalAndroid.Exec.Returns
import TerminalAndroid.Terminal.Buffer.Selection

open Java Utf16 Exec TerminalRow

namespace TerminalRenderer

structure Look where
  style : Style
  insideCursor : Bool
  insideSelection : Bool
  deriving DecidableEq, Repr

structure Run where
  startColumn : Int
  runWidthColumns : Int
  startCharIndex : Int
  runWidthChars : Int
  look : Look
  deriving DecidableEq, Repr

structure LastRun where
  look : Look
  startColumn : Int
  startIndex : Nat
  fontWidthMismatch : Bool

/-- The cursor and the selection on one row, and whether the measured width of the code point at an index differs from
    the one `wcwidth` expects. -/
structure RowView where
  cursorX : Int
  selx1 : Int
  selx2 : Int
  fontWidthMismatch : Nat → Bool

def RowView.look (view : RowView) (style : Style) (column : Int) (codePointWcWidth : Nat) : Look where
  style := style
  insideCursor := view.cursorX = column || (codePointWcWidth = 2 && view.cursorX = column + 1)
  insideSelection := view.selx1 ≤ column && column ≤ view.selx2

def LastRun.drawn (last : LastRun) (column : Int) (index : Nat) : Run where
  startColumn := last.startColumn
  runWidthColumns := column - last.startColumn
  startCharIndex := last.startIndex
  runWidthChars := index - last.startIndex
  look := last.look

def renderLoop (row : TerminalRow) (view : RowView) (columns : Int) : Nat → Int → Nat → LastRun → RowM (List Run)
  | 0, _, _, _ => throw .indexOutOfBounds
  | fuel + 1, column, currentCharIndex, last =>
    if column < columns then do
      let charAtIndex ← readArray row.mText currentCharIndex
      let codePoint ← (if isHighSurrogate charAtIndex then do
          let low ← readArray row.mText (currentCharIndex + 1)
          pure (toCodePoint charAtIndex low)
        else pure charAtIndex)
      let codePointWcWidth := WcWidth.width codePoint
      let behind := currentCharIndex + if isHighSurrogate charAtIndex then 2 else 1
      let style ← getStyle row column
      let now : LastRun := ⟨view.look style column codePointWcWidth, column, currentCharIndex,
        view.fontWidthMismatch currentCharIndex⟩
      -- the combining characters are eaten
      let next ← liftResult (skipCombining row.mSpaceUsed (row.mText.drop behind) behind)
      if now.look ≠ last.look ∨ now.fontWidthMismatch ∨ last.fontWidthMismatch then do
        let runs ← renderLoop row view columns fuel (column + codePointWcWidth) next now
        pure (if column = 0 then runs else last.drawn column currentCharIndex :: runs)
      else renderLoop row view columns fuel (column + codePointWcWidth) next last
    else pure [last.drawn columns currentCharIndex]

def renderRow (row : TerminalRow) (view : RowView) (columns : Int) : RowM (List Run) :=
  renderLoop row view columns (row.mText.length + 1) 0 0 ⟨⟨0, false, false⟩, -1, 0, false⟩

def Tiles (toColumn toChar : Int) : Int → Int → List Run → Prop
  | column, char, [] => column = toColumn ∧ char = toChar
  | column, char, run :: runs => run.startColumn = column ∧ run.startCharIndex = char ∧ 0 < run.runWidthColumns ∧
    0 < run.runWidthChars ∧ Tiles toColumn toChar (column + run.runWidthColumns) (char + run.runWidthChars) runs

def Uniform (row : TerminalRow) (view : RowView) (run : Run) : Prop :=
  ∀ front cell back, row.cells = front ++ cell :: back → run.startCharIndex ≤ (cellsText front).length →
    (cellsText front).length < run.startCharIndex + run.runWidthChars →
    ∃ style, row.mStyle[cellsWidth front]? = some style ∧ run.look = view.look style (cellsWidth front) cell.width

/-- The first character has the attributes with which the variables of the loop start. -/
def StartsPlain (row : TerminalRow) (view : RowView) : Prop :=
  ∃ cell cells, row.cells = cell :: cells ∧ row.mStyle[0]? = some 0 ∧ view.look 0 0 cell.width = ⟨0, false, false⟩ ∧
    view.fontWidthMismatch 0 = false

section Loop

variable {row : TerminalRow} {view : RowView} {pre mid post : List Cell} {cell : Cell} {last : LastRun}

theorem cells_between {front back : List Cell} (same : pre ++ mid ++ post = front ++ cell :: back)
    (lower : (cellsText pre).length ≤ (cellsText front).length)
    (upper : (cellsText front).length < (cellsText (pre ++ mid)).length) :
    ∃ inner outer, front = pre ++ inner ∧ mid = inner ++ cell :: outer := by
  rw [List.append_assoc, List.append_eq_append_iff] at same
  have inside {inner : List Cell} (place : front = pre ++ inner) (rest : mid ++ post = inner ++ cell :: back) :
      ∃ inner outer, front = pre ++ inner ∧ mid = inner ++ cell :: outer := by
    rw [List.append_eq_append_iff] at rest
    rcases rest with ⟨more, rfl, -⟩ | ⟨more, rfl, cells⟩
    · rw [place] at upper
      simp only [cellsText_append, List.length_append] at upper
      omega
    · cases more with
      | nil =>
        rw [place] at upper
        simp only [List.append_nil, Nat.lt_irrefl] at upper
      | cons first more =>
        rw [List.cons_append, List.cons.injEq] at cells
        exact ⟨inner, more, place, by rw [cells.1]⟩
  rcases same with ⟨inner, place, rest⟩ | ⟨more, rfl, rest⟩
  · exact inside place rest
  · cases more with
    | nil => exact @inside [] (by simp) rest.symm
    | cons first more =>
      have positive := first.chars_length_pos
      simp only [cellsText_append, cellsText_cons, List.length_append] at lower
      omega

def entered (view : RowView) (style : Style) (pre : List Cell) (cell : Cell) : LastRun where
  look := view.look style (cellsWidth pre) cell.width
  startColumn := cellsWidth pre
  startIndex := (cellsText pre).length
  fontWidthMismatch := view.fontWidthMismatch (cellsText pre).length

theorem run_renderLoop_cell (holds : row.Holds (pre ++ cell :: post)) {style : Style}
    (found : row.mStyle[cellsWidth pre]? = some style) (fuel : Nat) (last : LastRun) :
    (renderLoop row view row.mColumns (fuel + 1) (cellsWidth pre : Nat) (cellsText pre).length last).run row =
      (if (entered view style pre cell).look ≠ last.look ∨ (entered view style pre cell).fontWidthMismatch ∨
          last.fontWidthMismatch then do
        let runs ← renderLoop row view row.mColumns fuel (cellsWidth (pre ++ [cell]) : Nat)
          (cellsText (pre ++ [cell])).length (entered view style pre cell)
        pure (if ((cellsWidth pre : Nat) : Int) = 0 then runs
          else last.drawn (cellsWidth pre : Nat) (cellsText pre).length :: runs)
      else renderLoop row view row.mColumns fuel (cellsWidth (pre ++ [cell]) : Nat) (cellsText (pre ++ [cell])).length last :
        RowM (List Run)).run row := by
  obtain ⟨spare, text⟩ := holds.text
  have valid := holds.valid cell (by simp)
  have scalar := valid.base_scalar
  have width := holds.width
  have positive := valid.base
  rw [cellsWidth_append, cellsWidth_cons] at width
  have split : row.mText = cellsText pre ++ (toChars cell.base ++
      (cell.marks.flatMap toChars ++ (cellsText post ++ spare))) := by
    simp [text, Cell.chars_eq]
  have skipped : skipCombining row.mSpaceUsed (row.mText.drop ((cellsText pre).length + charCount cell.base))
      ((cellsText pre).length + charCount cell.base) = .ok (cellsText (pre ++ [cell])).length := by
    have used := holds.used
    simp only [cellsText_append, cellsText_cons, Cell.chars_eq, List.length_append, toChars_length] at used
    have behind : row.mText.drop ((cellsText pre).length + charCount cell.base) =
        cell.marks.flatMap toChars ++ (cellsText post ++ spare) := by
      rw [split, ← List.append_assoc, ← toChars_length, ← List.length_append, List.drop_left]
    rw [behind, skipCombining_marks valid.mark_scalars valid.marks _ _ (by omega),
      skipCombining_cells (fun c member => holds.valid c (by simp [member])) spare _ (by omega)]
    simp only [cellsText_append, cellsText_cons, cellsText_nil, Cell.chars_eq, List.length_append, toChars_length,
      List.append_nil, Nat.add_assoc]
  have style_read : (getStyle row (cellsWidth pre : Nat)).run row = .ok style row := run_readArray found row
  have next : ((cellsWidth pre : Nat) : Int) + WcWidth.width cell.base = (cellsWidth (pre ++ [cell]) : Nat) := by
    rw [cellsWidth_append, cellsWidth_cons, cellsWidth_nil]
    rfl
  rw [renderLoop, if_pos (by omega)]
  by_cases supplementary : 0x10000 ≤ cell.base
  · rw [charCount, if_pos supplementary] at skipped
    rw [toChars_supplementary supplementary] at split
    have high : row.mText[(cellsText pre).length]? = some (highSurrogate cell.base) := by simp [split]
    have low : row.mText[(cellsText pre).length + 1]? = some (lowSurrogate cell.base) := by simp [split]
    have succ : ((cellsText pre).length : Int) + 1 = (((cellsText pre).length + 1 : Nat) : Int) := by simp
    simp only [EStateM.run_bind, run_readArray high, succ, run_readArray low,
      isHighSurrogate_highSurrogate scalar supplementary, if_true, EStateM.run_pure,
      toCodePoint_surrogates scalar supplementary, style_read, skipped, run_liftResult_ok, next]
    rfl
  · have bmp : cell.base < 0x10000 := by omega
    rw [charCount, if_neg supplementary] at skipped
    rw [toChars_bmp bmp] at split
    have here : row.mText[(cellsText pre).length]? = some cell.base := by simp [split]
    simp only [EStateM.run_bind, run_readArray here, isHighSurrogate_bmp scalar bmp, Bool.false_eq_true, if_false,
      EStateM.run_pure, style_read, skipped, run_liftResult_ok, next]
    rfl

structure Pending (row : TerminalRow) (view : RowView) (pre mid : List Cell) (last : LastRun) : Prop where
  nonempty : mid ≠ []
  index : last.startIndex = (cellsText pre).length
  looks : ∀ front cell back, mid = front ++ cell :: back →
    ∃ style, row.mStyle[cellsWidth (pre ++ front)]? = some style ∧ last.look = view.look style (cellsWidth (pre ++ front) : Nat) cell.width

theorem Pending.singleton {style : Style} (found : row.mStyle[cellsWidth pre]? = some style)
    (index : last.startIndex = (cellsText pre).length) (same : last.look = view.look style (cellsWidth pre : Nat) cell.width) :
    Pending row view pre [cell] last := by
  refine ⟨List.cons_ne_nil _ _, index, fun front other back split => ?_⟩
  obtain ⟨rfl, single⟩ | ⟨-, single⟩ := List.singleton_eq_append_iff.mp split
  · obtain ⟨rfl, -⟩ := List.cons.inj single
    rw [List.append_nil]
    exact ⟨style, found, same⟩
  · cases single

theorem Pending.append {style : Style} (pending : Pending row view pre mid last)
    (found : row.mStyle[cellsWidth (pre ++ mid)]? = some style)
    (same : last.look = view.look style (cellsWidth (pre ++ mid) : Nat) cell.width) :
    Pending row view pre (mid ++ [cell]) last := by
  refine ⟨by simp, pending.index, fun front other back split => ?_⟩
  rw [List.append_eq_append_iff] at split
  rcases split with ⟨more, rfl, rest⟩ | ⟨more, rfl, rest⟩
  · obtain ⟨rfl, same'⟩ | ⟨-, same'⟩ := List.singleton_eq_append_iff.mp rest
    · obtain ⟨rfl, -⟩ := List.cons.inj same'
      rw [List.append_nil]
      exact ⟨style, found, same⟩
    · cases same'
  · cases more with
    | nil =>
      obtain ⟨rfl, -⟩ := List.cons.inj rest
      rw [List.append_nil] at found same
      exact ⟨style, found, same⟩
    | cons first more =>
      obtain ⟨rfl, -⟩ := List.cons.inj rest
      exact pending.looks front _ more rfl

theorem Pending.uniform (pending : Pending row view pre mid last) (holds : row.Holds (pre ++ mid ++ post)) (column : Int) :
    Uniform row view (last.drawn column (cellsText (pre ++ mid)).length) := by
  intro front cell back split lower upper
  rw [holds.cells_eq] at split
  simp only [LastRun.drawn, pending.index] at lower upper ⊢
  obtain ⟨inner, outer, rfl, inside⟩ := cells_between split (by omega) (by omega)
  exact pending.looks inner cell outer inside

theorem Pending.width_lt (pending : Pending row view pre mid last) (holds : row.Holds (pre ++ mid ++ post)) :
    cellsWidth pre < cellsWidth (pre ++ mid) ∧ (cellsText pre).length < (cellsText (pre ++ mid)).length := by
  obtain ⟨cell, rest, rfl⟩ := List.exists_cons_of_ne_nil pending.nonempty
  have positive := (holds.valid cell (by simp)).base
  have some := cell.chars_length_pos
  simp only [cellsWidth_append, cellsWidth_cons, cellsText_append, cellsText_cons, List.length_append]
  omega

theorem Pending.run_renderLoop (pending : Pending row view pre mid last) (holds : row.Holds (pre ++ mid ++ post)) {fuel : Nat}
    (enough : post.length < fuel) :
    ∃ run runs, (renderLoop row view row.mColumns fuel (cellsWidth (pre ++ mid) : Nat) (cellsText (pre ++ mid)).length last).run row =
        .ok (run :: runs) row ∧ run.startColumn = last.startColumn ∧
      (last.startColumn = cellsWidth pre →
        Tiles row.mColumns row.mSpaceUsed (cellsWidth pre : Nat) (cellsText pre).length (run :: runs)) ∧
      ∀ r ∈ run :: runs, Uniform row view r := by
  obtain ⟨fuel, rfl⟩ : ∃ rest, fuel = rest + 1 := ⟨fuel - 1, by omega⟩
  have longer := pending.width_lt holds
  induction post generalizing mid pre last fuel with
  | nil =>
    have width := holds.width
    have used := holds.used
    rw [List.append_nil] at width used
    refine ⟨last.drawn row.mColumns (cellsText (pre ++ mid)).length, [], ?_, rfl, fun start => ?_, ?_⟩
    · rw [renderLoop, if_neg (by omega), EStateM.run_pure]
    · have index := pending.index
      refine ⟨start, congrArg Nat.cast index, ?_, ?_, ?_, ?_⟩ <;> simp only [LastRun.drawn] <;> omega
    · rintro r member
      rw [List.mem_singleton.mp member]
      exact pending.uniform holds _
  | cons cell post ih =>
    obtain ⟨rest, rfl⟩ : ∃ rest, fuel = rest + 1 := ⟨fuel - 1, by simp only [List.length_cons] at enough; omega⟩
    have inside : cellsWidth (pre ++ mid) < row.mStyle.length := by
      have width := holds.width
      have positive := (holds.valid cell (by simp)).base
      rw [cellsWidth_append, cellsWidth_cons] at width
      rw [holds.styles]
      omega
    have found := List.getElem?_eq_getElem inside
    have shorter : post.length < rest + 1 := by
      rw [List.length_cons] at enough
      omega
    rw [run_renderLoop_cell holds found]
    by_cases changes : (entered view row.mStyle[cellsWidth (pre ++ mid)] (pre ++ mid) cell).look ≠ last.look ∨
        (entered view row.mStyle[cellsWidth (pre ++ mid)] (pre ++ mid) cell).fontWidthMismatch ∨ last.fontWidthMismatch
    · -- the pending run is drawn and the cell starts a new one
      rw [if_pos changes]
      have started : Pending row view (pre ++ mid) [cell] (entered view row.mStyle[cellsWidth (pre ++ mid)] (pre ++ mid) cell) :=
        Pending.singleton found rfl rfl
      have holds' : row.Holds (pre ++ mid ++ [cell] ++ post) := by simpa using holds
      obtain ⟨run, runs, ran, -, tiles, uniform⟩ := ih started holds' rest shorter (started.width_lt holds')
      refine ⟨last.drawn (cellsWidth (pre ++ mid) : Nat) (cellsText (pre ++ mid)).length, run :: runs, ?_, rfl, fun start => ?_, ?_⟩
      · rw [run_bind_of ran, if_neg (by omega), EStateM.run_pure]
      · have index := pending.index
        have behind : cellsWidth pre + (last.drawn (cellsWidth (pre ++ mid) : Nat) (cellsText (pre ++ mid)).length).runWidthColumns =
            (cellsWidth (pre ++ mid) : Nat) := by
          simp only [LastRun.drawn]
          omega
        have behind' : (cellsText pre).length + (last.drawn (cellsWidth (pre ++ mid) : Nat)
            (cellsText (pre ++ mid)).length).runWidthChars = (cellsText (pre ++ mid)).length := by
          simp only [LastRun.drawn]
          omega
        refine ⟨start, congrArg Nat.cast index, ?_, ?_, ?_⟩
        · simp only [LastRun.drawn]
          omega
        · simp only [LastRun.drawn]
          omega
        · rw [behind, behind']
          exact tiles rfl
      · exact List.forall_mem_cons.mpr ⟨pending.uniform holds _, uniform⟩
    · -- the cell joins the pending run
      rw [if_neg changes, List.append_assoc pre mid]
      have same : last.look = view.look row.mStyle[cellsWidth (pre ++ mid)] (cellsWidth (pre ++ mid) : Nat) cell.width := by
        by_contra other
        exact changes (Or.inl (Ne.symm other))
      have joined := pending.append found same
      have holds' : row.Holds (pre ++ (mid ++ [cell]) ++ post) := by simpa using holds
      exact ih joined holds' rest shorter (joined.width_lt holds')

end Loop

theorem length_le_cellsText (cells : List Cell) : cells.length ≤ (cellsText cells).length := by
  induction cells with
  | nil => simp
  | cons cell cells ih =>
    have some := cell.chars_length_pos
    rw [List.length_cons, cellsText_cons, List.length_append]
    omega

/-- The runs of a row tile its columns and its chars, and are drawn with the attributes of their characters, exactly if
    its first character does not have the attributes with which the loop starts. -/
theorem renderRow_tiles_iff (row : TerminalRow) (formed : row.WellFormed) (view : RowView) :
    (∃ runs, (renderRow row view row.mColumns).run row = .ok runs row ∧ Tiles row.mColumns row.mSpaceUsed 0 0 runs ∧
      ∀ run ∈ runs, Uniform row view run) ↔ ¬ StartsPlain row view := by
  obtain ⟨cells, holds⟩ := formed.holds
  have same := holds.cells_eq
  cases cells with
  | nil =>
    obtain ⟨x, rest, first, -⟩ := formed.first
    rw [holds.usedText] at first
    cases first
  | cons cell post =>
    have inside : 0 < row.mStyle.length := by
      have width := holds.width
      have positive := (holds.valid cell (by simp)).base
      rw [cellsWidth_cons] at width
      rw [holds.styles]
      omega
    have found : row.mStyle[cellsWidth []]? = some row.mStyle[0] := List.getElem?_eq_getElem inside
    have enough : post.length < row.mText.length := by
      obtain ⟨spare, text⟩ := holds.text
      have cells := length_le_cellsText (cell :: post)
      rw [text, List.length_append]
      rw [List.length_cons] at cells
      omega
    have turn : (renderRow row view row.mColumns).run row = _ :=
      @run_renderLoop_cell row view [] post cell holds _ found row.mText.length ⟨⟨0, false, false⟩, -1, 0, false⟩
    have plain_iff : StartsPlain row view ↔ ¬ ((entered view row.mStyle[0] [] cell).look ≠ ⟨0, false, false⟩ ∨
        (entered view row.mStyle[0] [] cell).fontWidthMismatch ∨ false) := by
      constructor
      · rintro ⟨cell', cells', split, style, look, mismatch⟩
        obtain ⟨rfl, rfl⟩ := List.cons.inj (same.symm.trans split)
        have zero : row.mStyle[0] = 0 := Option.some.inj (found.symm.trans style)
        rintro (other | other | other)
        · exact other (by rw [zero]; exact look)
        · exact Bool.false_ne_true (mismatch.symm.trans other)
        · exact Bool.false_ne_true other
      · intro unchanged
        simp only [ne_eq, not_or, not_not, Bool.not_eq_true] at unchanged
        have zero : row.mStyle[0] = 0 := congrArg Look.style unchanged.1
        refine ⟨cell, post, same, zero ▸ found, ?_, unchanged.2.1⟩
        rw [← unchanged.1, zero]
        rfl
    by_cases plain : StartsPlain row view
    · -- the first run keeps the start column of the loop's variables
      have unchanged := plain_iff.mp plain
      simp only [ne_eq, not_or, not_not] at unchanged
      have pending : Pending row view [] [cell] ⟨⟨0, false, false⟩, -1, 0, false⟩ :=
        Pending.singleton found rfl unchanged.1.symm
      obtain ⟨run, runs, ran, start, -⟩ := pending.run_renderLoop holds enough
      rw [if_neg (plain_iff.mp plain)] at turn
      refine iff_of_false ?_ (not_not.mpr plain)
      rintro ⟨runs', ran', tiles, -⟩
      obtain ⟨rfl, -⟩ := EStateM.Result.ok.inj ((turn.trans ran).symm.trans ran')
      exact absurd (start.symm.trans tiles.1) (by decide)
    · have pending : Pending row view [] [cell] (entered view row.mStyle[0] [] cell) := Pending.singleton found rfl rfl
      obtain ⟨run, runs, ran, -, tiles, uniform⟩ := pending.run_renderLoop holds enough
      rw [if_pos (by rwa [plain_iff, not_not] at plain), run_bind_of ran] at turn
      exact iff_of_true ⟨run :: runs, turn, tiles rfl, uniform⟩ plain

def lettersRow (style : Style) : TerminalRow := ⟨2, [97, 98], 2, false, [style, style], false⟩

theorem lettersRow_holds (style : Style) : (lettersRow style).Holds [.bare 97, .bare 98] where
  stored := ⟨[], rfl⟩
  valid := by decide
  width := show cellsWidth [.bare 97, .bare 98] = 2 by decide
  styles := rfl
  narrow := fun _ => by decide

theorem lettersRow_wellFormed (style : Style) : (lettersRow style).WellFormed :=
  (lettersRow_holds style).wellFormed Nat.zero_lt_two (Nat.le_refl 2)

theorem renderRow_tiles_iff_normal :
    ∃ runs, (renderRow (lettersRow TextStyle.normal) ⟨1, -1, -1, fun _ => false⟩ 2).run (lettersRow TextStyle.normal) =
        .ok runs (lettersRow TextStyle.normal) ∧ Tiles 2 2 0 0 runs ∧
      ∀ run ∈ runs, Uniform (lettersRow TextStyle.normal) ⟨1, -1, -1, fun _ => false⟩ run := by
  refine (renderRow_tiles_iff _ (lettersRow_wellFormed _) _).mpr ?_
  rintro ⟨cell, cells, -, style, -⟩
  exact absurd style (by decide)

/-- Black on black at the left edge: the run starts left of the screen. -/
theorem renderRow_starts_outside :
    TextStyle.encode 0 0 0 = 0 ∧ (lettersRow (TextStyle.encode 0 0 0)).WellFormed ∧
    (renderRow (lettersRow (TextStyle.encode 0 0 0)) ⟨-1, -1, -1, fun _ => false⟩ 2).run (lettersRow (TextStyle.encode 0 0 0)) =
      .ok [⟨-1, 3, 0, 2, ⟨0, false, false⟩⟩] (lettersRow (TextStyle.encode 0 0 0)) :=
  ⟨by decide, lettersRow_wellFormed _, by decide⟩

end TerminalRenderer
