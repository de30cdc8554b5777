import TerminalAndroid.Emulator.AutoWrap
import TerminalAndroid.Exec.Machine
import TerminalAndroid.View.TextSelection

open Java Exec TextSelection

namespace TextSelection

structure Handles extends Selection where
  mTopRow : Int
  deriving DecidableEq, Repr

def pageOf (columns screenRows : Nat) (lines : List (List Cell)) : TerminalBuffer :=
  TerminalBuffer.canvas [] (lines.map (TerminalBuffer.rowOf · false)) columns screenRows (lines.length - screenRows : Nat)
    (lines.length - screenRows : Nat)

theorem pageOf_ring {columns screenRows : Nat} {lines : List (List Cell)} (positive : 0 < columns)
    (some : 1 ≤ screenRows) (most : screenRows ≤ lines.length) (width : ∀ cells ∈ lines, cellsWidth cells = columns) :
    (pageOf columns screenRows lines).Ring := by
  have length : (lines.map (TerminalBuffer.rowOf · false)).length = lines.length := List.length_map _
  apply (TerminalBuffer.canvas_sized (by omega) (by omega) (by omega) (by omega) (by omega) (by omega)).canvas_ring
  intro row member
  obtain ⟨cells, inside, rfl⟩ := List.mem_map.mp member
  exact congrArg Nat.cast (width cells inside)

end TextSelection

namespace TerminalView

structure SelectionView extends Handles where
  mEmulator : TerminalEmulator
  mIsSelectingText : Bool
  mShowStartTime : Int
  autoScrollDisabled : Bool

namespace SelectionView

variable (v : SelectionView)

def rowsInHistory : Int := v.mEmulator.screen.mActiveTranscriptRows

def hide (now : Int) : SelectionView :=
  if v.mIsSelectingText = false then v
  else if now - v.mShowStartTime < 300 then v
  else { v with mSelX1 := -1, mSelY1 := -1, mSelX2 := -1, mSelY2 := -1, mIsSelectingText := false }

def withTopRow (row : Int) : SelectionView := { v with mTopRow := row }

def decrementYTextSelectionCursors (decrement : Int) : SelectionView :=
  { v with mSelY1 := v.mSelY1 - decrement, mSelY2 := v.mSelY2 - decrement }

def clampTopRow : SelectionView :=
  if v.mTopRow < -v.rowsInHistory then v.withTopRow (-v.rowsInHistory) else v

/-- The part of `onScreenUpdated` for a view that does not scroll by itself, and `skipScrolling` after it. -/
def followSelection (now : Int) (skipScrolling : Bool) : SelectionView × Bool :=
  if v.mIsSelectingText || v.autoScrollDisabled then
    let rowShift := v.mEmulator.mScrollCounter
    if v.rowsInHistory < -v.mTopRow + rowShift then
      -- the end of the history is hit: abort text selection
      let v := if v.mIsSelectingText then v.hide now else v
      if v.autoScrollDisabled then (v.withTopRow (-v.rowsInHistory), true) else (v, skipScrolling)
    else ((v.withTopRow (v.mTopRow - rowShift)).decrementYTextSelectionCursors rowShift, true)
  else (v, skipScrolling)

def clearScrollCounter : SelectionView := { v with mEmulator := { v.mEmulator with mScrollCounter := 0 } }

def onScreenUpdated (now : Int) (skipScrolling : Bool) : SelectionView :=
  let (v, skipScrolling) := v.clampTopRow.followSelection now skipScrolling
  let v := if !skipScrolling && v.mTopRow ≠ 0 then v.withTopRow 0 else v
  v.clearScrollCounter

end SelectionView

inductive ScreenEvent where
  | write (emulator : TerminalEmulator)
  | lineFeed
  | updated (now : Int) (skipScrolling : Bool)

def step (v : SelectionView) : ScreenEvent → Option SelectionView
  | .write emulator => some { v with mEmulator := emulator }
  | .lineFeed =>
    match TerminalEmulator.scrollDownOneLine.run v.mEmulator with
    | .ok () emulator => some { v with mEmulator := emulator }
    | .error _ _ => none
  | .updated now skipScrolling => some (v.onScreenUpdated now skipScrolling)

structure WritesBelow (last : Int) (e e' : TerminalEmulator) : Prop where
  ring : e'.screen.Ring
  counter : e'.mScrollCounter = e.mScrollCounter
  totalRows : e'.screen.mTotalRows = e.screen.mTotalRows
  screenRows : e'.screen.mScreenRows = e.screen.mScreenRows
  active : e'.screen.mActiveTranscriptRows = e.screen.mActiveTranscriptRows
  same : ∀ r, e.screen.mScreenRows - e.screen.mTotalRows ≤ r → r ≤ last → e'.screen.shown r = e.screen.shown r

/-- The output writes below the selection, which has moved up with every line scrolled since the last update, and
scrolls regions that start at the top row. -/
def SparesSelection (v : SelectionView) : ScreenEvent → Prop
  | .write emulator => WritesBelow (v.mSelY2 - v.mEmulator.mScrollCounter) v.mEmulator emulator
  | .lineFeed => v.mEmulator.mTopMargin = 0
  | .updated _ _ => True

/-- The view follows an active selection: whole lines are scrolled and all selected rows are among them; when the view
moves up, the first selected row is still in the history; and when text selection is aborted, it has been shown for a
while. -/
def Follows (v : SelectionView) (event : ScreenEvent) : Prop :=
  v.mIsSelectingText = true →
    match event with
    | .write _ => True
    | .lineFeed =>
      v.mEmulator.mLeftMargin = 0 ∧ v.mEmulator.mRightMargin = v.mEmulator.mColumns ∧
        v.mSelY2 - v.mEmulator.mScrollCounter < v.mEmulator.mBottomMargin
    | .updated now _ =>
      if v.rowsInHistory < -v.clampTopRow.mTopRow + v.mEmulator.mScrollCounter then 300 ≤ now - v.mShowStartTime
      else -v.mSelY1 + v.mEmulator.mScrollCounter ≤ v.rowsInHistory

section Update

variable {v v' : SelectionView} {now : Int} {skipScrolling : Bool}

theorem clampTopRow_same (v : SelectionView) :
    v.clampTopRow.mEmulator = v.mEmulator ∧ v.clampTopRow.mIsSelectingText = v.mIsSelectingText ∧
      v.clampTopRow.mShowStartTime = v.mShowStartTime ∧ v.clampTopRow.mSelY1 = v.mSelY1 ∧
      v.clampTopRow.mSelY2 = v.mSelY2 := by
  unfold SelectionView.clampTopRow SelectionView.withTopRow
  split <;> exact ⟨rfl, rfl, rfl, rfl, rfl⟩

theorem onScreenUpdated_same (v : SelectionView) (now : Int) (skipScrolling : Bool) :
    let followed := (v.clampTopRow.followSelection now skipScrolling).1
    let after := v.onScreenUpdated now skipScrolling
    after.mIsSelectingText = followed.mIsSelectingText ∧ after.mSelY1 = followed.mSelY1 ∧ after.mSelY2 = followed.mSelY2 ∧
      after.mEmulator = { followed.mEmulator with mScrollCounter := 0 } := by
  unfold SelectionView.onScreenUpdated
  dsimp only
  split <;> exact ⟨rfl, rfl, rfl, rfl⟩

theorem followSelection_aborts (selecting : v.mIsSelectingText = true)
    (end_hit : v.rowsInHistory < -v.mTopRow + v.mEmulator.mScrollCounter) (shown : 300 ≤ now - v.mShowStartTime) :
    (v.followSelection now skipScrolling).1.mIsSelectingText = false := by
  have hidden : (v.hide now).mIsSelectingText = false := by
    rw [SelectionView.hide, if_neg (by simp [selecting]), if_neg (by omega)]
  unfold SelectionView.followSelection
  dsimp only
  rw [if_pos (by simp [selecting]), if_pos end_hit, if_pos selecting]
  split
  · exact hidden
  · exact hidden

theorem selecting_of_followed (still : (v.followSelection now skipScrolling).1.mIsSelectingText = true) :
    v.mIsSelectingText = true := by
  cases selecting : v.mIsSelectingText with
  | true => rfl
  | false =>
    have same : (v.followSelection now skipScrolling).1.mIsSelectingText = v.mIsSelectingText := by
      unfold SelectionView.followSelection
      dsimp only
      rw [selecting]
      split
      · split
        · simp only [Bool.false_eq_true, if_false]
          split <;> exact selecting
        · exact selecting
      · exact selecting
    rw [same, selecting] at still
    cases still

theorem followSelection_follows (selecting : v.mIsSelectingText = true)
    (inside : ¬ v.rowsInHistory < -v.mTopRow + v.mEmulator.mScrollCounter) :
    (v.followSelection now skipScrolling).1 = (v.withTopRow (v.mTopRow - v.mEmulator.mScrollCounter)).decrementYTextSelectionCursors
      v.mEmulator.mScrollCounter := by
  unfold SelectionView.followSelection
  dsimp only
  rw [if_pos (by simp [selecting]), if_neg inside]

end Update

section Scroll

variable {e e' : TerminalEmulator}

theorem region_of_run {b b' : TerminalBuffer} {top bottom : Int} {style : Style}
    (ran : (TerminalBuffer.scrollDownOneLine top bottom style).run b = .ok () b') :
    0 ≤ top ∧ top < bottom ∧ bottom ≤ b.mScreenRows := by
  by_contra outside
  unfold TerminalBuffer.scrollDownOneLine at ran
  simp only [EStateM.run_bind, EStateM.run_get] at ran
  rw [if_pos (by omega)] at ran
  cases ran

theorem scrolled_of_run (ran : TerminalEmulator.scrollDownOneLine.run e = .ok () e') (ring : e.screen.Ring)
    (left : e.mLeftMargin = 0) (right : e.mRightMargin = e.mColumns) :
    0 ≤ e.mTopMargin ∧ e.mTopMargin < e.mBottomMargin ∧ e'.mScrollCounter = e.mScrollCounter + 1 ∧
      TerminalBuffer.Scrolled e.screen e'.screen e.mTopMargin e.mBottomMargin e.getStyle := by
  have plain : e.scrollRegion = TerminalBuffer.scrollDownOneLine e.mTopMargin e.mBottomMargin e.getStyle :=
    if_neg (by omega)
  rw [TerminalEmulator.run_scrollDownOneLine, plain] at ran
  obtain ⟨b, inner, rfl⟩ := zoom_inv ran
  obtain ⟨top, less, bottom⟩ := region_of_run inner
  obtain ⟨b', ran', scrolled⟩ := TerminalBuffer.exists_scrolled top less bottom ring e.getStyle
  obtain rfl : b = b' := by
    have same := inner.symm.trans ran'
    injection same
  refine ⟨top, less, rfl, ?_⟩
  change TerminalBuffer.Scrolled e.screen
    (({ e with mScrollCounter := e.mScrollCounter + 1 } : TerminalEmulator).drawn b).screen _ _ _
  rw [TerminalEmulator.drawn_screen]
  exact scrolled

end Scroll

structure Shows (rows : Nat → Option TerminalRow) (height : Nat) (e : TerminalEmulator) (y1 y2 : Int) : Prop where
  ring : e.screen.Ring
  counter : 0 ≤ e.mScrollCounter
  tall : y2 = y1 + height
  bottom : y2 - e.mScrollCounter < e.screen.mScreenRows
  same : ∀ i : Nat, i ≤ height → e.screen.mScreenRows - e.screen.mTotalRows ≤ y1 + i - e.mScrollCounter →
    e.screen.shown (y1 + i - e.mScrollCounter) = rows i
  inside : e.mScrollCounter = 0 → -e.screen.mActiveTranscriptRows ≤ y1

namespace Shows

variable {rows : Nat → Option TerminalRow} {height : Nat} {e e' : TerminalEmulator} {y1 y2 : Int}

theorem write (shows : Shows rows height e y1 y2) (writes : WritesBelow (y2 - e.mScrollCounter) e e') :
    Shows rows height e' y1 y2 where
  ring := writes.ring
  counter := writes.counter ▸ shows.counter
  tall := shows.tall
  bottom := by
    rw [writes.counter, writes.screenRows]
    exact shows.bottom
  same := by
    intro i small lower
    rw [writes.counter, writes.screenRows, writes.totalRows] at lower
    have tall := shows.tall
    rw [writes.counter, writes.same _ lower (by omega)]
    exact shows.same i small lower
  inside := by
    rw [writes.counter, writes.active]
    exact shows.inside

theorem lineFeed (shows : Shows rows height e y1 y2) (ran : TerminalEmulator.scrollDownOneLine.run e = .ok () e')
    (top : e.mTopMargin = 0) (left : e.mLeftMargin = 0) (right : e.mRightMargin = e.mColumns)
    (last : y2 - e.mScrollCounter < e.mBottomMargin) : Shows rows height e' y1 y2 := by
  obtain ⟨_, less, counter, scrolled⟩ := scrolled_of_run ran shows.ring left right
  rw [top] at less scrolled
  have nonneg := shows.counter
  have bottom := shows.bottom
  have tall := shows.tall
  refine ⟨scrolled.ring, by omega, tall, ?_, ?_, by omega⟩
  · rw [counter, scrolled.screenRows]
    omega
  · intro i small lower
    rw [counter, scrolled.screenRows, scrolled.totalRows] at lower
    -- every selected row is above the bottom margin and moves up by one
    have moves : TerminalBuffer.scrolledTo 0 e.mBottomMargin (y1 + i - e.mScrollCounter) =
        y1 + i - e'.mScrollCounter := by
      rw [counter]
      unfold TerminalBuffer.scrolledTo
      split_ifs <;> omega
    have moved := scrolled.shown_scrolledTo (Int.le_refl 0) less (r := y1 + i - e.mScrollCounter)
      (by rw [moves, counter]; exact lower) (by omega)
    rw [moves] at moved
    rw [moved]
    exact shows.same i small (by omega)

theorem followed (shows : Shows rows height e y1 y2) (inside : -y1 + e.mScrollCounter ≤ e.screen.mActiveTranscriptRows) :
    Shows rows height { e with mScrollCounter := 0 } (y1 - e.mScrollCounter) (y2 - e.mScrollCounter) where
  ring := shows.ring
  counter := Int.le_refl 0
  tall := by
    have tall := shows.tall
    omega
  bottom := by
    have bottom := shows.bottom
    change y2 - e.mScrollCounter - 0 < e.screen.mScreenRows
    omega
  same := by
    intro i small lower
    have place : y1 - e.mScrollCounter + i - 0 = y1 + i - e.mScrollCounter := by omega
    change e.screen.mScreenRows - e.screen.mTotalRows ≤ y1 - e.mScrollCounter + i - 0 at lower
    change e.screen.shown (y1 - e.mScrollCounter + i - 0) = rows i
    rw [place] at lower ⊢
    exact shows.same i small lower
  inside := by
    intro _
    change -e.screen.mActiveTranscriptRows ≤ y1 - e.mScrollCounter
    omega

end Shows

section Run

variable {rows : Nat → Option TerminalRow} {height : Nat} {v v' : SelectionView}

def Showing (rows : Nat → Option TerminalRow) (height : Nat) (v : SelectionView) : Prop :=
  v.mIsSelectingText = true → Shows rows height v.mEmulator v.mSelY1 v.mSelY2

theorem Showing.updated (showing : Showing rows height v) (now : Int) (skipScrolling : Bool)
    (follows : Follows v (.updated now skipScrolling)) : Showing rows height (v.onScreenUpdated now skipScrolling) := by
  obtain ⟨emulator, active, start, first, last⟩ := clampTopRow_same v
  obtain ⟨activeAfter, firstAfter, lastAfter, emulatorAfter⟩ := onScreenUpdated_same v now skipScrolling
  have history : v.clampTopRow.rowsInHistory = v.rowsInHistory := by
    rw [SelectionView.rowsInHistory, emulator]
    rfl
  intro still
  have selecting : v.mIsSelectingText = true := by
    rw [activeAfter] at still
    rw [← active]
    exact selecting_of_followed still
  have follows := follows selecting
  dsimp only at follows
  split at follows
  · next hit =>
    rw [activeAfter, followSelection_aborts (active.trans selecting) (by rw [history, emulator]; exact hit)
      (by rw [start]; exact follows)] at still
    cases still
  · next inside =>
    have followed := @followSelection_follows v.clampTopRow now skipScrolling (active.trans selecting)
      (by rw [history, emulator]; exact inside)
    rw [followed] at firstAfter lastAfter emulatorAfter
    have shows := (showing selecting).followed follows
    rw [firstAfter, lastAfter, emulatorAfter]
    change Shows rows height { v.clampTopRow.mEmulator with mScrollCounter := 0 }
      (v.clampTopRow.mSelY1 - v.clampTopRow.mEmulator.mScrollCounter)
      (v.clampTopRow.mSelY2 - v.clampTopRow.mEmulator.mScrollCounter)
    rw [emulator, first, last]
    exact shows

theorem Showing.step (event : ScreenEvent) (showing : Showing rows height v) (spares : SparesSelection v event)
    (follows : Follows v event) (stepped : step v event = some v') : Showing rows height v' := by
  cases event with
  | write emulator =>
    cases stepped
    intro selecting
    exact (showing selecting).write spares
  | lineFeed =>
    unfold TerminalView.step at stepped
    dsimp only at stepped
    split at stepped
    · next emulator ran =>
      cases stepped
      intro selecting
      obtain ⟨left, right, last⟩ := follows selecting
      exact (showing selecting).lineFeed ran spares left right last
    · cases stepped
  | updated now skipScrolling =>
    cases stepped
    exact showing.updated now skipScrolling follows

structure Selects (v : SelectionView) : Prop where
  ring : v.mEmulator.screen.Ring
  counter : v.mEmulator.mScrollCounter = 0
  first : -v.rowsInHistory ≤ v.mSelY1
  order : v.mSelY1 ≤ v.mSelY2
  last : v.mSelY2 < v.mEmulator.screen.mScreenRows

theorem Selects.shows (selects : Selects v) :
    Shows (fun i => v.mEmulator.screen.shown (v.mSelY1 + i)) (v.mSelY2 - v.mSelY1).toNat v.mEmulator v.mSelY1 v.mSelY2 where
  ring := selects.ring
  counter := Int.le_of_eq selects.counter.symm
  tall := by
    have order := selects.order
    omega
  bottom := by
    have last := selects.last
    rw [selects.counter]
    omega
  same := by
    intro i _ _
    rw [selects.counter, Int.sub_zero]
  inside _ := selects.first

/-- In every run of output that spares the selection and that the view follows, an active selection shows the rows it
showed before, once the screen has been updated. -/
theorem selection_shows_same_rows {events : List ScreenEvent} (selects : Selects v)
    (meets : Machine.Meets step (fun v event => SparesSelection v event ∧ Follows v event) v events)
    (ran : Machine.run step v events = some v') (selecting : v'.mIsSelectingText = true)
    (accounted : v'.mEmulator.mScrollCounter = 0) :
    v'.mSelY2 - v'.mSelY1 = v.mSelY2 - v.mSelY1 ∧ -v'.rowsInHistory ≤ v'.mSelY1 ∧
      ∀ i : Nat, v.mSelY1 + i ≤ v.mSelY2 →
        v'.mEmulator.screen.shown (v'.mSelY1 + i) = v.mEmulator.screen.shown (v.mSelY1 + i) := by
  have shows := Machine.keeps (P := Showing _ _)
    (fun _ event _ showing allowed stepped => showing.step event allowed.1 allowed.2 stepped)
    (fun _ => selects.shows) meets ran selecting
  have order := selects.order
  have tall := shows.tall
  have inside := shows.inside accounted
  refine ⟨by omega, inside, fun i small => ?_⟩
  have active := shows.ring.active_le
  have same := shows.same i (by omega) (by rw [accounted]; omega)
  rw [accounted, Int.sub_zero] at same
  exact same

end Run

section Page

def paged (row : Int) : SelectionView where
  mEmulator :=
    let page := pageOf 2 2 [[97, 97].map .bare, [98, 98].map .bare, [99, 99].map .bare]
    { TerminalEmulator.allocated TerminalEmulator.plainHost 2 2 1 1 page page with mBottomMargin := 2, mRightMargin := 2 }
  mSelX1 := 0
  mSelY1 := row
  mSelX2 := 1
  mSelY2 := row
  mTopRow := 0
  mIsSelectingText := true
  mShowStartTime := 0
  autoScrollDisabled := false

theorem paged_selects {row : Int} (lower : -1 ≤ row) (upper : row < 2) : Selects (paged row) where
  ring := pageOf_ring (by decide) (by decide) (by decide) (by decide)
  counter := rfl
  first := lower
  order := Int.le_refl row
  last := upper

theorem selection_shows_same_rows_paged : ∃ v', Machine.run step (paged 1) [.lineFeed, .updated 1000 false] = some v' ∧
    v'.mSelY1 = 0 ∧ v'.mEmulator.screen.shown 0 = (paged 1).mEmulator.screen.shown 1 := by
  have fed : (leftState (TerminalEmulator.scrollDownOneLine.run (paged 1).mEmulator)).map
      (fun e => decide (e.mScrollCounter = 1 ∧ e.screen.mActiveTranscriptRows = 1)) = some true := by decide
  obtain ⟨⟨⟩, e, ran, facts⟩ := exists_of_leftState fed
  obtain ⟨counter, active⟩ := of_decide_eq_true facts
  have scrolled : step (paged 1) .lineFeed = some { paged 1 with mEmulator := e } := by
    unfold step
    dsimp only
    rw [ran]
  have follows : Follows { paged 1 with mEmulator := e } (.updated 1000 false) := by
    intro _
    have history : SelectionView.rowsInHistory { paged 1 with mEmulator := e } = 1 := active
    have top : (SelectionView.clampTopRow { paged 1 with mEmulator := e }).mTopRow = 0 := by
      rw [SelectionView.clampTopRow, history]
      rfl
    dsimp only
    rw [history, top, counter]
    decide
  have meets : Machine.Meets step (fun v event => SparesSelection v event ∧ Follows v event) (paged 1)
      [.lineFeed, .updated 1000 false] :=
    (Machine.meets_cons_iff scrolled).mpr
      ⟨⟨rfl, fun _ => ⟨rfl, rfl, (by decide : (1 : Int) - 0 < 2)⟩⟩, ⟨trivial, follows⟩, trivial⟩
  have ended : (Machine.run step (paged 1) [.lineFeed, .updated 1000 false]).map (fun v =>
      decide (v.mIsSelectingText = true ∧ v.mEmulator.mScrollCounter = 0 ∧ v.mSelY1 = 0)) = some true := by decide
  obtain ⟨v', ran', state⟩ := Option.map_eq_some_iff.mp ended
  obtain ⟨selecting, accounted, first⟩ := of_decide_eq_true state
  have same := selection_shows_same_rows (paged_selects (by decide) (by decide)) meets ran' selecting accounted
  have row := same.2.2 0 (Int.le_refl 1)
  rw [first] at row
  exact ⟨v', ran', first, row⟩

/-- The history is full and the selected row is its first one: the next line feed drops the row, but the view, which
shows the end of the screen, moves the selection above the history. -/
theorem selection_leaves_history : Selects (paged (-1)) ∧
    Machine.Meets step SparesSelection (paged (-1)) [.lineFeed, .updated 1000 false] ∧
    (Machine.run step (paged (-1)) [.lineFeed, .updated 1000 false]).map (fun v => decide (v.mIsSelectingText = true ∧
      v.mSelY1 = -2 ∧ v.rowsInHistory = 1 ∧ (v.mEmulator.screen.shown v.mSelY1).map (·.mText.take 2) = some [32, 32] ∧
      ((paged (-1)).mEmulator.screen.shown (-1)).map (·.mText.take 2) = some [97, 97])) = some true := by
  refine ⟨paged_selects (by decide) (by decide), ⟨rfl, ?_⟩, by decide +kernel⟩
  split
  · trivial
  · exact ⟨trivial, trivial⟩

end Page

end TerminalView
