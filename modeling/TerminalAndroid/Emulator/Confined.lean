import TerminalAndroid.Emulator.Editing
import TerminalAndroid.Terminal.Buffer.Scrolling

open Java Exec

theorem TerminalBuffer.KeepsOutside.reformed {b b' : TerminalBuffer} {area : Int → Int → Prop}
    (keeps : KeepsOutside area b b') : Reformed b b' := ⟨keeps.formed, keeps.screenRows, keeps.columns⟩

theorem TerminalBuffer.KeepsOutside.mono {b b' : TerminalBuffer} {area area' : Int → Int → Prop}
    (keeps : KeepsOutside area b b') (larger : ∀ r c, 0 ≤ c → c < b.mColumns → area r c → area' r c) :
    KeepsOutside area' b b' :=
  { keeps with same := fun r c lower upper left right outside =>
      keeps.same r c lower upper left right fun inside => outside (larger r c left right inside) }

namespace TerminalEmulator

open TerminalBuffer (KeepsOutside)

variable {e e' e'' : TerminalEmulator} {host : Host}

def ScrollsWithin (e e' : TerminalEmulator) : Prop :=
  ∃ count buffer, e' = ({ e with mScrollCounter := count } : TerminalEmulator).drawn buffer ∧
    KeepsOutside e.Within e.screen buffer

theorem within_drawn (e : TerminalEmulator) (buffer : TerminalBuffer) (r c : Int) :
    (e.drawn buffer).Within r c ↔ e.Within r c := by
  simp only [TerminalCore.Within, drawn, TerminalCore.withScreen_mTopMargin, TerminalCore.withScreen_mBottomMargin,
    TerminalCore.withScreen_mLeftMargin, TerminalCore.withScreen_mRightMargin]

namespace ScrollsWithin

theorem refl (ready : e.Ready) (narrow : e.screen.Narrow) : ScrollsWithin e e := by
  refine ⟨e.mScrollCounter, e.screen, ?_, KeepsOutside.refl ready.formed narrow⟩
  unfold drawn TerminalCore.withScreen TerminalCore.screen
  cases shown : e.mScreen <;> simp only [← shown]

theorem trans (first : ScrollsWithin e e') (second : ScrollsWithin e' e'') : ScrollsWithin e e'' := by
  obtain ⟨count, buffer, rfl, keeps⟩ := first
  obtain ⟨count', buffer', rfl, keeps'⟩ := second
  have area : (({ e with mScrollCounter := count } : TerminalEmulator).drawn buffer).Within = e.Within := by
    funext r c
    exact propext (within_drawn _ buffer r c)
  rw [drawn_screen, area] at keeps'
  exact ⟨count', buffer', drawn_drawn { e with mScrollCounter := count' } buffer buffer', keeps.trans keeps'⟩

theorem ready (within : ScrollsWithin e e') (ready : e.Ready) : e'.Ready := by
  obtain ⟨count, buffer, rfl, keeps⟩ := within
  have ready' : ({ e with mScrollCounter := count } : TerminalEmulator).Ready := { ready with }
  exact ready'.drawn keeps.reformed

theorem narrow (within : ScrollsWithin e e') : e'.screen.Narrow := by
  obtain ⟨count, buffer, rfl, keeps⟩ := within
  rw [drawn_screen]
  exact keeps.narrow

end ScrollsWithin

theorem Draws.within {p : Picture} {count : Int} (draws : Draws p { e with mScrollCounter := count } e') (ready : e.Ready)
    (same : ∀ r c, ¬ e.Within r c → p.SameAt e.screen.picture r c) : ScrollsWithin e e' := by
  obtain ⟨buffer, rfl, paints⟩ := draws
  exact ⟨count, buffer, rfl, paints.keepsOutside ready.formed same⟩

theorem scrollDownOneLine_within (ready : e.Ready) (narrow : e.screen.Narrow) :
    Ends (fun _ => ScrollsWithin e) scrollDownOneLine e := by
  obtain ⟨-, top, height, bottom, left, width, right, columns, rows, -⟩ := id ready
  have ready₁ : ({ e with mScrollCounter := e.mScrollCounter + 1 } : TerminalEmulator).Ready := { ready with }
  refine Ends.modify_bind (Ends.get_bind (Ends.ite (fun side => ?_) fun edges => ?_))
  · refine (draws_copy_set ready₁ narrow ?_ ?_ ?_ _).mono fun _ e' draws => draws.within ready fun r c outside => ?_
    · unfold TerminalCore.Contains
      dsimp only
      omega
    · unfold TerminalCore.Contains
      dsimp only
      omega
    · unfold TerminalCore.Contains
      dsimp only
      omega
    · unfold TerminalCore.Within at outside
      refine (Picture.fill_outside ?_ _ _).trans (Picture.copy_outside ?_) <;>
        unfold Picture.InBlock <;> dsimp only <;> omega
  · have scroll := ready.formed.run_scrollDownOneLine top (show e.mTopMargin < e.mBottomMargin by omega)
      (by rw [rows]; exact bottom) e.getStyle
    refine (ends_onScreen (e := { e with mScrollCounter := e.mScrollCounter + 1 }) scroll).mono ?_
    rintro - - ⟨buffer, rfl, formed, scrolled⟩
    refine ⟨e.mScrollCounter + 1, buffer, rfl, ?_⟩
    refine (ready.formed.scrolled_keeps narrow scrolled (by omega) (by omega)).mono fun r c lower upper inside => ?_
    exact ⟨inside, by dsimp only at edges; omega⟩

theorem scrollUp_within (ready : e.Ready) (narrow : e.screen.Narrow) (count : Nat) :
    Ends (fun _ => ScrollsWithin e) (scrollUp count) e := by
  induction count generalizing e with
  | zero => exact Ends.pure (ScrollsWithin.refl ready narrow)
  | succ count ih =>
    refine Ends.bind (scrollDownOneLine_within ready narrow) fun _ e₁ first => ?_
    exact (ih (first.ready ready) first.narrow).mono fun _ e₂ second => first.trans second

theorem scrollDown_within (ready : e.Ready) (narrow : e.screen.Narrow) : Ends (fun _ => ScrollsWithin e) scrollDown e := by
  obtain ⟨-, top, height, bottom, left, width, right, columns, rows, -⟩ := id ready
  have positive := e.getArg0_pos
  refine Ends.get_bind ((draws_copy_clear ready narrow ?_ ?_ ?_).mono fun _ e' draws =>
    draws.within ready fun r c outside => ?_)
  · unfold TerminalCore.Contains
    omega
  · unfold TerminalCore.Contains
    omega
  · unfold TerminalCore.Contains
    omega
  · unfold TerminalCore.Within at outside
    refine (Picture.fill_outside ?_ _ _).trans (Picture.copy_outside ?_) <;> unfold Picture.InBlock <;> omega

def KeepsMargins (e e' : TerminalEmulator) : Prop := KeepsOutside e.Within e.screen e'.screen

theorem ScrollsWithin.confined (within : ScrollsWithin e e') : KeepsMargins e e' := by
  obtain ⟨count, buffer, rfl, keeps⟩ := within
  rw [KeepsMargins, drawn_screen]
  exact keeps

theorem doLinefeed_confined (ready : e.Ready) (narrow : e.screen.Narrow) : Ends (fun _ => KeepsMargins e) doLinefeed e := by
  have still : KeepsOutside e.Within e.screen e.screen := KeepsOutside.refl ready.formed narrow
  refine Ends.get_bind (Ends.ite (fun _ => Ends.ite (fun _ => Ends.set still) fun _ => Ends.pure still) fun _ =>
    Ends.ite (fun _ => ?_) fun _ => Ends.set still)
  exact Ends.bind (scrollDownOneLine_within ready narrow) fun _ e₁ within => Ends.modify within.confined

theorem reverseIndex_confined (ready : e.Ready) (narrow : e.screen.Narrow) : Ends (fun _ => KeepsMargins e) reverseIndex e := by
  obtain ⟨-, top, height, bottom, left, width, right, columns, rows, -⟩ := id ready
  have still : KeepsOutside e.Within e.screen e.screen := KeepsOutside.refl ready.formed narrow
  refine Ends.get_bind (Ends.ite (fun _ => ?_) fun _ => Ends.set still)
  refine (draws_copy_clear ready narrow ?_ ?_ ?_).mono fun _ e' draws =>
    (draws.within ready fun r c outside => ?_).confined
  · unfold TerminalCore.Contains
    omega
  · unfold TerminalCore.Contains
    omega
  · unfold TerminalCore.Contains
    omega
  · unfold TerminalCore.Within at outside
    refine (Picture.fill_outside ?_ _ _).trans (Picture.copy_outside ?_) <;> unfold Picture.InBlock <;> omega

theorem wrapLine_confined (ready : e.Ready) (narrow : e.screen.Narrow) : Ends (fun _ => KeepsMargins e) wrapLine e := by
  obtain ⟨row, col⟩ := ready.toOnScreen
  have wrap := ready.formed.run_setLineWrap row.1 (by rw [ready.screenRows]; exact row.2)
  refine Ends.get_bind (Ends.bind (ends_onScreen wrap) ?_)
  rintro - - ⟨buffer, rfl, painted⟩
  have first : KeepsOutside e.Within e.screen buffer := painted.wrapped_keeps ready.formed narrow
  have ready₁ := ready.drawn first.reformed
  refine Ends.modify_bind (Ends.ite (fun _ => Ends.modify ?_) fun _ => ?_)
  · show KeepsOutside e.Within e.screen (e.drawn buffer).screen
    rw [drawn_screen]
    exact first
  · have ready₂ : ({ e.drawn buffer with mCursorCol := (e.drawn buffer).mLeftMargin } : TerminalEmulator).Ready := by
      have left := ready₁.left
      have width := ready₁.width
      have right := ready₁.right
      exact { ready₁ with col := ⟨left, show (e.drawn buffer).mLeftMargin < (e.drawn buffer).mColumns by omega⟩ }
    have narrow₂ : ({ e.drawn buffer with mCursorCol := (e.drawn buffer).mLeftMargin } : TerminalEmulator).screen.Narrow := by
      show (e.drawn buffer).screen.Narrow
      rw [drawn_screen]
      exact first.narrow
    refine (scrollDownOneLine_within ready₂ narrow₂).mono fun _ e₂ within => ?_
    have second : KeepsOutside (e.drawn buffer).Within (e.drawn buffer).screen e₂.screen := within.confined
    rw [drawn_screen] at second
    exact first.trans (second.mono fun r c _ _ inside => (within_drawn e buffer r c).mp inside)

end TerminalEmulator

inductive RegionOp
  | edit (op : Edit)
  | scrollUp
  | scrollDown
  | lineFeed
  | reverseIndex
  | autoWrap
  deriving DecidableEq, Repr

namespace RegionOp

open TerminalEmulator
open TerminalBuffer (KeepsOutside)

variable {e e' : TerminalEmulator} {host : Host}

def run (host : Host) : RegionOp → EmulatorM Unit
  | edit op => processCodePoint host op.sequence.2
  | scrollUp => processCodePoint host 'S'.toNat
  | scrollDown => processCodePoint host 'T'.toNat
  | lineFeed => processCodePoint host 10
  | reverseIndex => processCodePoint host 'M'.toNat
  | autoWrap => wrapLine

def Received (e : TerminalEmulator) : RegionOp → Prop
  | edit op => e.mEscapeState = op.sequence.1
  | scrollUp | scrollDown => e.mEscapeState = .csi
  | lineFeed => ¬ e.Ignoring
  | reverseIndex => e.mEscapeState = .esc
  | autoWrap => True

/-- The cells outside of the margins that an operation moves or blanks show the same before. -/
def Harmless (e : TerminalEmulator) (op : RegionOp) : Prop :=
  let p := e.screen.picture
  let row := e.mCursorRow
  let col := e.mCursorCol
  let blank (r c : Int) : Prop := p.text r c = some .blank ∧ p.style r c = some e.getStyle
  let same (r c s d : Int) : Prop := p.text r c = p.text s d ∧ p.style r c = p.style s d
  let smeared (r c k : Int) : Prop := p.text r c = p.text r (c - k) ∧ p.style r c = p.style r (col + (c - col) % k)
  match op with
  | edit .insertCharacters =>
    let k := Edit.insertCharacters.count e
    ∀ c, e.mRightMargin ≤ c → c < e.mColumns → if c < col + k then blank row c else smeared row c k
  | edit .deleteCharacters =>
    let k := Edit.deleteCharacters.count e
    ∀ c, e.mRightMargin ≤ c → c < e.mColumns → if c < e.mColumns - k then same row c row (c + k) else blank row c
  | edit .insertLines =>
    let k := Edit.insertLines.count e
    ∀ r c, row ≤ r → r < e.mBottomMargin → 0 ≤ c → c < e.mColumns → c < e.mLeftMargin ∨ e.mRightMargin ≤ c →
      if r < row + k then blank r c else same r c (r - k) c
  | edit .deleteLines =>
    let k := Edit.deleteLines.count e
    ∀ r c, row ≤ r → r < e.mBottomMargin → 0 ≤ c → c < e.mColumns → c < e.mLeftMargin ∨ e.mRightMargin ≤ c →
      if r < e.mBottomMargin - k then same r c (r + k) c else blank r c
  | edit .insertColumns =>
    let k := Edit.insertColumns.count e
    ∀ r c, 0 ≤ r → r < e.mRows → r < e.mTopMargin ∨ e.mBottomMargin ≤ r → col ≤ c → c < e.mRightMargin →
      if c < col + k then blank r c else smeared r c k
  | edit .deleteColumns =>
    let k := Edit.deleteColumns.count e
    ∀ r c, 0 ≤ r → r < e.mRows → r < e.mTopMargin ∨ e.mBottomMargin ≤ r → col ≤ c → c < e.mRightMargin - k →
      same r c r (c + k)
  | _ => True

/-- No cell of the screen outside of the margins shows something else. -/
def Spares (e e' : TerminalEmulator) : Prop :=
  ∀ r c, 0 ≤ r → r < e.mRows → 0 ≤ c → c < e.mColumns → ¬ e.Within r c →
    e'.screen.picture.SameAt e.screen.picture r c

theorem spares_of_confined (ready : e.Ready) (confined : KeepsMargins e e') : Spares e e' := by
  intro r c lower upper left right outside
  have active := ready.formed.active_nonneg
  rw [← ready.screenRows] at upper
  rw [← ready.screenColumns] at right
  exact confined.same r c (by omega) upper left right outside

theorem picture_sameAt_iff (op : Edit) (ready : e.Ready) (inside : e.Within e.mCursorRow e.mCursorCol) :
    (∀ r c, 0 ≤ r → r < e.mRows → 0 ≤ c → c < e.mColumns → ¬ e.Within r c →
      (op.picture e).SameAt e.screen.picture r c) ↔ (edit op).Harmless e := by
  obtain ⟨⟨top, bottom⟩, left, right⟩ := inside
  obtain ⟨row, col⟩ := ready.toOnScreen
  have least := ready.left
  have most := ready.right
  have highest := ready.top
  have lowest := ready.bottom
  have room : 0 < op.room e := by cases op <;> simp only [Edit.room] <;> omega
  obtain ⟨one, limit⟩ := op.count_range room
  unfold TerminalCore.Within Harmless
  cases op <;> simp only [Edit.room] at limit <;> simp only [Edit.picture, Edit.room]
  case insertCharacters =>
    simp only [Picture.insertColumns_sameAt_iff one limit]
    constructor
    · intro same c behind last
      exact same e.mCursorRow c row.1 row.2 (by omega) last (by omega) (by omega) (by omega) last
    · intro harmless r c _ _ _ last outside on begun _
      obtain rfl : r = e.mCursorRow := by omega
      exact harmless c (by omega) last
  case deleteCharacters =>
    simp only [Picture.deleteColumns_sameAt_iff one limit]
    constructor
    · intro same c behind last
      exact same e.mCursorRow c row.1 row.2 (by omega) last (by omega) (by omega) (by omega) last
    · intro harmless r c _ _ _ last outside on begun _
      obtain rfl : r = e.mCursorRow := by omega
      exact harmless c (by omega) last
  case insertLines =>
    constructor
    · intro same r c under above start last beside
      exact (Picture.insertLines_sameAt_iff one limit start last).mp
        (same r c (by omega) (by omega) start last (by omega)) under above
    · intro harmless r c _ _ start last outside
      rw [Picture.insertLines_sameAt_iff one limit start last]
      intro under above
      exact harmless r c under above start last (by omega)
  case deleteLines =>
    constructor
    · intro same r c under above start last beside
      exact (Picture.deleteLines_sameAt_iff one limit start last).mp
        (same r c (by omega) (by omega) start last (by omega)) under above
    · intro harmless r c _ _ start last outside
      rw [Picture.deleteLines_sameAt_iff one limit start last]
      intro under above
      exact harmless r c under above start last (by omega)
  case insertColumns =>
    simp only [Picture.insertColumns_sameAt_iff one limit]
    constructor
    · intro same r c lower upper beside begun last
      exact same r c lower upper (by omega) (by omega) (by omega) (by omega) begun last
    · intro harmless r c lower upper _ _ outside _ begun last
      exact harmless r c lower upper (by omega) begun last
  case deleteColumns =>
    simp only [Picture.takeColumns_sameAt_iff one]
    constructor
    · intro same r c lower upper beside begun last
      exact same r c lower upper (by omega) (by omega) (by omega) (by omega) begun last
    · intro harmless r c lower upper _ _ outside _ begun last
      exact harmless r c lower upper (by omega) begun last

theorem ends_edit (host : Host) (op : Edit) (ready : e.Ready) (narrow : e.screen.Narrow)
    (inside : e.Within e.mCursorRow e.mCursorCol) (received : e.mEscapeState = op.sequence.1) :
    Ends (fun _ e' => Spares e e' ↔ (edit op).Harmless e) (processCodePoint host op.sequence.2) e := by
  obtain ⟨⟨top, bottom⟩, left, right⟩ := id inside
  obtain ⟨row, col⟩ := ready.toOnScreen
  have most := ready.right
  have room : 0 < op.room e := by cases op <;> simp only [Edit.room] <;> omega
  have paints := @Edit.ends_run { e with mContinueSequence := false } op { ready with } narrow room
  refine (@Edit.ends_sequence e host op (fun c => TerminalBuffer.Paints e.screen c.screen (op.picture e)) received
    paints).mono fun _ e' paints => ?_
  rw [← picture_sameAt_iff op ready inside]
  have active := ready.formed.active_nonneg
  have shows : ∀ r c, 0 ≤ r → r < e.mRows → 0 ≤ c → c < e.mColumns → e'.screen.picture.SameAt (op.picture e) r c := by
    intro r c lower upper start last
    rw [← ready.screenRows] at upper
    rw [← ready.screenColumns] at last
    exact paints.shows r c (by omega) upper start last
  constructor
  · intro spares r c lower upper start last outside
    exact (shows r c lower upper start last).symm.trans (spares r c lower upper start last outside)
  · intro same r c lower upper start last outside
    exact (shows r c lower upper start last).trans (same r c lower upper start last outside)

theorem ends_run (host : Host) (op : RegionOp) (ready : e.Ready) (narrow : e.screen.Narrow)
    (inside : e.Within e.mCursorRow e.mCursorCol) (received : op.Received e) :
    Ends (fun _ e' => Spares e e' ↔ op.Harmless e) (op.run host) e := by
  have ready' : ({ e with mContinueSequence := false } : TerminalEmulator).Ready := { ready with }
  have holds : ∀ {m : EmulatorM Unit}, Ends (fun _ e' => KeepsOutside e.Within e.screen e'.toTerminalCore.screen) m e →
      Ends (fun _ e' => Spares e e' ↔ True) m e :=
    fun ends => ends.mono fun _ e' keeps => iff_of_true (spares_of_confined ready keeps) trivial
  cases op with
  | edit op => exact ends_edit host op ready narrow inside received
  | scrollUp =>
    have final : doCsi 'S'.toNat = (do let e ← get; TerminalEmulator.scrollUp (e.getArg0 1).toNat) := rfl
    refine holds (ends_csi (P := fun c => KeepsOutside _ _ c.screen) received (by decide) final (Ends.get_bind ?_))
    exact (scrollUp_within ready' narrow _).mono fun _ e' within => within.confined
  | scrollDown =>
    have final : doCsi 'T'.toNat = (do
        let e ← get
        if e.mArgIndex = 0 then TerminalEmulator.scrollDown else set e.unknownSequence) := rfl
    refine holds (ends_csi (P := fun c => KeepsOutside _ _ c.screen) received (by decide) final
      (Ends.get_bind (Ends.ite (fun _ => ?_) fun _ => Ends.set ?_)))
    · exact (scrollDown_within ready' narrow).mono fun _ e' within => within.confined
    · exact KeepsOutside.refl ready.formed narrow
  | lineFeed => exact holds (Ends.congr (run_processCodePoint_feed received) (doLinefeed_confined ready narrow))
  | reverseIndex =>
    exact holds (ends_esc (P := fun c => KeepsOutside _ _ c.screen) received (by decide) rfl
      (reverseIndex_confined ready' narrow))
  | autoWrap => exact holds (wrapLine_confined ready narrow)

/-- An operation between the margins leaves the other cells alone just when those it takes along, beyond the right margin,
    beside the side margins or above and below the scroll region, happen to be as it makes them. -/
theorem region_spares_iff (host : Host) (op : RegionOp) (e : TerminalEmulator) (ready : e.Ready)
    (narrow : e.screen.Narrow) (inside : e.Within e.mCursorRow e.mCursorCol) (received : op.Received e) :
    ∃ e', (op.run host).run e = .ok () e' ∧ (Spares e e' ↔ op.Harmless e) := by
  obtain ⟨⟨⟩, e', ran, iff⟩ := ends_run host op ready narrow inside received
  exact ⟨e', ran, iff⟩

def betweenSides (e : TerminalEmulator) : TerminalEmulator :=
  { e with
    mLeftMargin := 1, mRightMargin := 3, mCursorCol := 1, mEscapeState := .csi
    mCurrentDecSetFlags := decsetBitLeftrightMarginMode }

theorem betweenSides_ready (ready : e.Ready) (columns : e.mColumns = 4) : (betweenSides e).Ready := by
  refine { ready with col := ⟨?_, ?_⟩, left := ?_, width := ?_, right := ?_ } <;>
    simp only [betweenSides, columns] <;> decide

theorem betweenSides_screen : (betweenSides e).screen = e.screen := rfl

def betweenMargins : TerminalEmulator := betweenSides (.filledWith 4 2 120)

theorem betweenMargins_ready : betweenMargins.Ready ∧ betweenMargins.screen.Narrow ∧
    betweenMargins.Within betweenMargins.mCursorRow betweenMargins.mCursorCol := by
  have ready := @filledWith_ready 4 2 120 (by decide) (by decide) (by decide) (by decide) (by decide)
  have narrow := @filledWith_narrow 4 2 120 (by decide) (by decide) (by decide) (by decide) (by decide)
  refine ⟨betweenSides_ready ready rfl, ?_, ?_⟩
  · rw [betweenMargins, betweenSides_screen]
    exact narrow
  · unfold TerminalCore.Within
    decide

theorem region_spares_iff_scrollUp : ∃ e', (scrollUp.run plainHost).run betweenMargins = .ok () e' ∧
    Spares betweenMargins e' := by
  obtain ⟨ready, narrow, inside⟩ := betweenMargins_ready
  obtain ⟨e', ran, iff⟩ := region_spares_iff plainHost scrollUp betweenMargins ready narrow inside rfl
  exact ⟨e', ran, iff.mpr trivial⟩

/-- IL between the side margins blanks the cells beside them too. -/
theorem insertLines_blanks_margins : betweenMargins.Ready ∧ betweenMargins.screen.Narrow ∧
    betweenMargins.Within betweenMargins.mCursorRow betweenMargins.mCursorCol ∧
    (edit .insertLines).Received betweenMargins ∧
    ∃ e', ((edit .insertLines).run plainHost).run betweenMargins = .ok () e' ∧ ¬ Spares betweenMargins e' := by
  obtain ⟨ready, narrow, inside⟩ := betweenMargins_ready
  obtain ⟨⟨⟩, e', ran, iff⟩ := ends_run plainHost (edit .insertLines) ready narrow inside rfl
  refine ⟨ready, narrow, inside, rfl, e', ran, fun spares => ?_⟩
  have blank := iff.mp spares 0 0 (by decide) (by decide) (by decide) (by decide) (by decide)
  rw [if_pos (by decide)] at blank
  exact absurd blank.1 (by decide +kernel)

end RegionOp
