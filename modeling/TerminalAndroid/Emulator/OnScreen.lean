import TerminalAndroid.Emulator.Valid

open Java Exec

namespace TerminalCore

structure OnScreen (c : TerminalCore) : Prop where
  row : 0 ≤ c.mCursorRow ∧ c.mCursorRow < c.mRows
  col : 0 ≤ c.mCursorCol ∧ c.mCursorCol < c.mColumns

structure Switchable (c : TerminalCore) : Prop where
  main : 1 ≤ c.mMainBuffer.mColumns ∧ 1 ≤ c.mMainBuffer.mScreenRows
  alt : c.mAltBuffer.mTotalRows = c.mAltBuffer.mScreenRows
  savedRow : c.mScreen = .alt →
    0 ≤ c.mSavedStateMain.mSavedCursorRow ∧ c.mSavedStateMain.mSavedCursorRow < c.mMainBuffer.mScreenRows
  savedCol : c.mScreen = .alt →
    0 ≤ c.mSavedStateMain.mSavedCursorCol ∧ c.mSavedStateMain.mSavedCursorCol < c.mMainBuffer.mColumns

structure Placed (c : TerminalCore) : Prop extends Valid c, OnScreen c, Switchable c

variable {c : TerminalCore}

theorem OnScreen.withScreen (inside : c.OnScreen) (buffer : TerminalBuffer) : (c.withScreen buffer).OnScreen := by
  unfold TerminalCore.withScreen
  split <;> exact { inside with }

variable {buffer : TerminalBuffer}

theorem Switchable.withScreen (switchable : c.Switchable)
    (same : TerminalBuffer.SameSize c.screen buffer) : (c.withScreen buffer).Switchable := by
  unfold TerminalCore.withScreen
  unfold screen at same
  split
  next main =>
    rw [main] at same
    have never : c.mScreen ≠ .alt := by rw [main]; nofun
    exact {
      main := by dsimp only; rw [same.columns, same.screenRows]; exact switchable.main
      alt := switchable.alt
      savedRow := fun alt => absurd alt never
      savedCol := fun alt => absurd alt never }
  next alt =>
    rw [alt] at same
    exact { switchable with alt := by dsimp only; rw [same.totalRows, same.screenRows]; exact switchable.alt }

theorem Placed.withScreen (placed : c.Placed)
    (same : TerminalBuffer.SameSize c.screen buffer) : (c.withScreen buffer).Placed :=
  { placed.toValid.withScreen same, placed.toOnScreen.withScreen buffer, placed.toSwitchable.withScreen same with }

theorem Placed.withMain (placed : c.Placed)
    (same : TerminalBuffer.SameSize c.mMainBuffer buffer) : ({ c with mMainBuffer := buffer } : TerminalCore).Placed :=
  { placed.toValid.withMain same, placed.toOnScreen with
    main := by dsimp only; rw [same.columns, same.screenRows]; exact placed.main
    alt := placed.alt
    savedRow := fun alt => by dsimp only; rw [same.screenRows]; exact placed.savedRow alt
    savedCol := fun alt => by dsimp only; rw [same.columns]; exact placed.savedCol alt }

theorem Placed.withSavedState (placed : c.Placed) (state : SavedScreenState) : (c.withSavedState state).Placed := by
  unfold TerminalCore.withSavedState
  split
  next main =>
    have never : c.mScreen ≠ .alt := by rw [main]; nofun
    exact { placed with
      savedRow := fun alt => absurd alt never
      savedCol := fun alt => absurd alt never }
  next => exact { placed with }

theorem Switchable.resized (switchable : c.Switchable) (bounded : c.Bounded) {totalRows : Int}
    (resized : TerminalBuffer.Resized c.mColumns c.mRows totalRows buffer)
    (total : c.mScreen = .alt → totalRows = c.mRows) : (c.withScreen buffer).Switchable := by
  have rows := bounded.rows
  have columns := bounded.columns
  unfold TerminalCore.withScreen
  split
  next main =>
    have never : c.mScreen ≠ .alt := by rw [main]; nofun
    exact {
      main := by dsimp only; rw [resized.columns, resized.screenRows]; omega
      alt := switchable.alt
      savedRow := fun alt => absurd alt never
      savedCol := fun alt => absurd alt never }
  next alt => exact { switchable with alt := by dsimp only; rw [resized.totalRows, resized.screenRows, total alt] }

theorem Position.onScreen {row col : Int} (place : c.Position row col) (rows : 2 ≤ c.mRows) (columns : 2 ≤ c.mColumns)
    (about : Bool) : (c.moved row col about).OnScreen := by
  obtain ⟨x, y, top, bottom, left, right, -, rfl, rfl⟩ := place
  exact ⟨by dsimp only [moved]; omega, by dsimp only [moved]; omega⟩

theorem Moves.onScreen {permits : Label → Prop} {row col : Int} {about : Bool} (move : Moves permits c row col about)
    (bounded : c.Bounded) (inside : c.OnScreen) : (c.moved row col about).OnScreen := by
  have rows := bounded.rows
  have columns := bounded.columns
  have top := bounded.top
  have height := bounded.height
  have bottom := bounded.bottom
  have left := bounded.left
  have width := bounded.width
  have right := bounded.right
  obtain ⟨row₀, col₀⟩ := inside
  suffices (0 ≤ row ∧ row < c.mRows) ∧ 0 ≤ col ∧ col < c.mColumns from ⟨this.1, this.2⟩
  cases move with
  | position place =>
    have placed := place.onScreen rows columns false
    exact ⟨placed.row, placed.col⟩
  | tab col about stop kept => omega
  | backTab col stop =>
    rcases stop with rfl | ⟨i, lower, upper, rfl⟩ <;> omega
  | _ => omega

end TerminalCore

namespace TerminalEmulator

open TerminalCore

variable {host : Host} {permits : Label → Prop} {e e' : TerminalEmulator}

theorem FitsScreen.placed (fits : FitsScreen e e') (bounded : e.Bounded) (switchable : e.Switchable)
    (col : 0 ≤ e.mCursorCol ∧ (e.mCursorCol < e.mColumns ∨ e.mCursorCol < e.screen.mColumns))
    (row : 0 ≤ e.mCursorRow ∧ (e.mCursorRow < e.screen.mScreenRows ∨ (e.mScreen = .alt ∧ e.mCursorRow < e.mRows))) :
    e'.Placed := by
  have valid := fits.valid bounded
  obtain ⟨cursor, buffer, ran, rfl⟩ := fits
  have rows := bounded.rows
  have columns := bounded.columns
  obtain ⟨resized, bound⟩ := TerminalBuffer.resize_resized (by omega) (by omega) ran
  have inside := bound col.1 col.2 row.1 (by
    rcases row.2 with inside | ⟨alt, below⟩
    · exact Or.inl inside
    · have total := switchable.alt
      unfold screen
      rw [alt]
      dsimp only
      omega)
  have switchable' := switchable.resized bounded resized fun alt => if_pos alt
  rw [← withScreen_mColumns e.toTerminalCore buffer, ← withScreen_mRows e.toTerminalCore buffer] at inside
  exact { valid, switchable' with row := inside.2, col := inside.1 }

theorem restoreCursor_onScreen (bounded : e.Bounded) : e.restoreCursor.OnScreen := by
  have rows := bounded.rows
  have columns := bounded.columns
  refine ⟨?_, ?_⟩
  · show 0 ≤ max 0 (min _ (e.mRows - 1)) ∧ max 0 (min _ (e.mRows - 1)) < e.mRows
    omega
  · show 0 ≤ max 0 (min _ (e.mColumns - 1)) ∧ max 0 (min _ (e.mColumns - 1)) < e.mColumns
    omega

theorem Switched.placed {setting : Bool} (switched : Switched e setting e') (placed : e.Placed) : e'.Placed := by
  cases switched with
  | stays same => exact placed
  | @toAlt t _ from_main fitted cleared =>
    have shown : e.screen = e.mMainBuffer := by
      unfold screen
      rw [from_main]
    have width := placed.screenColumns
    have height := placed.screenRows
    rw [shown] at width height
    rw [saveCursor_of_main from_main] at fitted
    have fit : t.Placed := by
      rcases fitted with ⟨current, rfl⟩ | ⟨-, fits⟩
      · have current := not_not.mp current
        exact { placed with
          screenColumns := current.1
          screenRows := current.2
          savedRow := fun _ => by dsimp only; rw [height]; exact placed.row
          savedCol := fun _ => by dsimp only; rw [width]; exact placed.col }
      · refine fits.placed ?_ ?_ ⟨placed.col.1, Or.inl placed.col.2⟩ ⟨placed.row.1, Or.inr ⟨rfl, placed.row.2⟩⟩
        · exact { placed.toBounded with }
        · exact { placed.toSwitchable with
            savedRow := fun _ => by dsimp only; rw [height]; exact placed.row
            savedCol := fun _ => by dsimp only; rw [width]; exact placed.col }
    obtain ⟨buffer, ran, same⟩ := onScreen_inv cleared
    rw [same]
    exact fit.withScreen ((Drawing.blockSet ..).sameSize_of_run ran)
  | toMain from_alt fitted =>
    have bounded : ({ e with mScreen := .main } : TerminalEmulator).Bounded := { placed.toBounded with }
    have never : Screen.main ≠ Screen.alt := nofun
    rcases fitted with ⟨current, rfl⟩ | ⟨-, fits⟩
    · have current := not_not.mp current
      exact { restoreCursor_bounded bounded, restoreCursor_onScreen bounded with
        screenColumns := current.1
        screenRows := current.2
        main := placed.main
        alt := placed.alt
        savedRow := fun alt => absurd alt never
        savedCol := fun alt => absurd alt never }
    · refine fits.placed ?_ ?_ ?_ ?_
      · exact { restoreCursor_bounded bounded with }
      · exact {
          main := placed.main
          alt := placed.alt
          savedRow := fun alt => absurd alt never
          savedCol := fun alt => absurd alt never }
      · exact ⟨(placed.savedCol from_alt).1, Or.inr (placed.savedCol from_alt).2⟩
      · exact ⟨(placed.savedRow from_alt).1, Or.inl (placed.savedRow from_alt).2⟩

theorem Effect.placed {c c' : TerminalCore} (effect : Effect permits c c') (never : ¬ permits .backspace)
    (placed : c.Placed) : c'.Placed := by
  have valid := Effect.valid effect placed.toValid
  have rows := placed.rows
  have columns := placed.columns
  cases effect with
  | draws drawing ran => exact placed.withScreen (drawing.sameSize_of_run ran)
  | moves move => exact { valid, move.onScreen placed.toBounded placed.toOnScreen, placed.toSwitchable with }
  | backspaces permitted => exact absurd permitted never
  | clearsTranscript permitted ran => exact placed.withMain (clearTranscript_sameSize ran)
  | saves => exact placed.withSavedState _
  | setsOrigin _ set place | rowMargins _ _ _ set place | columnMargins _ _ _ _ set place =>
    subst set
    exact { valid, place.onScreen rows columns false, placed.toSwitchable with }
  | restores =>
    exact { valid, placed.toSwitchable with
      row := by dsimp only [moved]; omega
      col := by dsimp only [moved]; omega }
  | resetsSaved permitted flags_eq atOrigin saved =>
    have main := placed.main
    exact { valid, placed.toOnScreen with
      main := placed.main
      alt := placed.alt
      savedRow := fun _ => by dsimp only; omega
      savedCol := fun _ => by dsimp only; omega }
  | switches setting permitted ran => exact (switchScreen_inv ran).placed placed
  | _ => exact { valid, placed.toOnScreen, placed.toSwitchable with }

def BackspaceLeaves (e : TerminalEmulator) : Prop := e.mCursorCol = 0 ∧ 0 < e.mLeftMargin

theorem Steps.placed (steps : Steps permits e e') (never : ¬ permits .backspace) (placed : e.Placed) : e'.Placed :=
  steps.keeps (fun _ _ effect => Effect.placed effect never) placed

theorem backspace_off (ran : backspace.run e = .ok () e') (off : e.mLeftMargin ≠ e.mCursorCol) :
    e' = e.setCursorCol (e.mCursorCol - 1) := by
  obtain ⟨_, _, got, rest⟩ := bind_inv ran
  cases got
  rw [if_neg off] at rest
  cases rest
  rfl

theorem backspace_placed (placed : e.Placed) (ran : backspace.run e = .ok () e') (safe : ¬ e.BackspaceLeaves) :
    e'.Placed := by
  by_cases margin : e.mLeftMargin = e.mCursorCol
  · have steps : Steps (.jump = ·) e e' := backspace_steps (fun off => absurd margin off) (fun _ _ => rfl) () e' ran
    exact steps.placed nofun placed
  · have left := placed.left
    have col := placed.col
    rw [backspace_off ran margin]
    refine { placed with col := ?_ }
    show 0 ≤ e.mCursorCol - 1 ∧ e.mCursorCol - 1 < e.mColumns
    unfold BackspaceLeaves at safe
    omega

theorem backspace_leaves (ran : backspace.run e = .ok () e') (leaves : e.BackspaceLeaves) : ¬ e'.OnScreen := by
  obtain ⟨first, margin⟩ := leaves
  rw [backspace_off ran (by omega)]
  intro inside
  have col : 0 ≤ e.mCursorCol - 1 := inside.col.1
  omega

theorem processCodePoint_placed {codePoint : Nat} (other : codePoint ≠ 8 ∨ e.Ignoring) (placed : e.Placed)
    (ran : (processCodePoint host codePoint).run e = .ok () e') : e'.Placed := by
  refine (processCodePoint_steps host codePoint () e' ran).placed ?_ placed
  rintro ⟨outside, permitted⟩
  cases permitted with
  | backspace control => exact other.elim (fun ne => ne control) outside

theorem processCodePoint_backspace (outside : ¬ e.Ignoring) (ran : (processCodePoint host 8).run e = .ok () e') :
    backspace.run e = .ok () e' := by
  obtain ⟨_, _, got, rest⟩ := bind_inv ran
  cases got
  rw [if_neg fun apc => outside (Or.inl apc), if_neg fun apc => outside (Or.inr apc)] at rest
  exact rest

theorem placeCodePoint_safe {autoWrap : Bool} {codePoint : Nat} (wide : 0 < WcWidth.width codePoint) (placed : e.Placed)
    (ran : (placeCodePoint autoWrap codePoint).run e = .ok () e') : ¬ e'.BackspaceLeaves := by
  obtain ⟨_, _, got, rest⟩ := bind_inv ran
  cases got
  obtain ⟨_, t, inserted, rest⟩ := bind_inv rest
  obtain ⟨_, s, drawn, rest⟩ := bind_inv rest
  cases rest
  have first : Steps (fun _ => False) e t :=
    Leads.ite (fun _ => onScreen_steps (.blockCopy ..) e) (fun _ => Leads.pure ()) () t inserted
  have second : Steps (fun _ => False) t s := onScreen_steps (.setChar ..) t () s drawn
  have placed' := (first.trans second).placed id placed
  have col := placed'.col
  have width := placed'.width
  have right := placed'.left
  rintro ⟨zero, positive⟩
  change min (s.mCursorCol + WcWidth.width codePoint) (s.mRightMargin - 1) = 0 at zero
  change 0 < s.mLeftMargin at positive
  omega

theorem shownCodePoint_replacement (e : TerminalEmulator) :
    e.shownCodePoint unicodeReplacementChar = unicodeReplacementChar := by
  have drawn : lineDrawing unicodeReplacementChar = unicodeReplacementChar := by decide
  rw [shownCodePoint, drawn, ite_self]

theorem width_replacement : WcWidth.width unicodeReplacementChar = 1 := by decide +kernel

theorem emitCodePoint_safe (placed : e.Placed) (ran : (emitCodePoint unicodeReplacementChar).run e = .ok () e') :
    ¬ e'.BackspaceLeaves := by
  have width := width_replacement
  obtain ⟨_, t, modified, rest⟩ := bind_inv ran
  cases modified
  obtain ⟨_, _, got, rest⟩ := bind_inv rest
  cases got
  dsimp only at rest
  rw [shownCodePoint_replacement] at rest
  split at rest
  · obtain ⟨_, t, wrapped, rest⟩ := bind_inv rest
    refine placeCodePoint_safe (by omega) ?_ rest
    split at wrapped
    · have steps : Steps (.emit = ·) _ t.settled := wrapLine_steps rfl wrapped
      have settled := steps.placed nofun { placed with }
      exact { settled with }
    · cases wrapped
      exact { placed with }
  · split at rest
    next last => exact absurd last.2 (by omega)
    · refine placeCodePoint_safe (by omega) ?_ rest
      exact { placed with }

def Stays (e : TerminalEmulator) (byte : UInt8) : Prop :=
  ¬ (byte = 8 ∧ e.mUtf8ToFollow = 0 ∧ ¬ e.Ignoring ∧ e.BackspaceLeaves)

theorem processByte_placed {byte : UInt8} (decodes : e.decoder.Valid) (placed : e.Placed) (stays : e.Stays byte)
    (ran : (processByte host byte).run e = .ok () e') : e'.Placed := by
  have other : ∀ codePoint, codePoint ≠ 8 →
      Returns (Keeps fun e : TerminalEmulator => e.Placed) (processCodePoint host codePoint) :=
    fun codePoint ne e _ e' ran placed => processCodePoint_placed (Or.inl ne) placed ran
  have back : ∀ {t : TerminalEmulator}, byte.toNat = 8 → ¬ (¬ t.Ignoring ∧ t.BackspaceLeaves) →
      Leads (Keeps fun e : TerminalEmulator => e.Placed) (processCodePoint host byte.toNat) t := by
    intro t eight safe _ t' ran placed
    by_cases ignoring : t.Ignoring
    · exact processCodePoint_placed (Or.inr ignoring) placed ran
    · rw [eight] at ran
      exact backspace_placed placed (processCodePoint_backspace ignoring ran) fun leaves => safe ⟨ignoring, leaves⟩
  refine processByte_leads (R := Keeps fun e : TerminalEmulator => e.Placed) (fun e d placed => { placed with }) ?_
    (fun codePoint beyond => other codePoint (by omega)) decodes (fun _ idle => ?_) (fun _ _ t emitted => ?_) () e' ran placed
  · intro e _ e' ran
    exact (emitCodePoint_emits unicodeReplacementChar e () e' ran).placed nofun
  · by_cases eight : byte.toNat = 8
    · exact back eight fun leaves => stays ⟨UInt8.toNat_inj.mp eight, idle, leaves.1, leaves.2⟩
    · exact other _ eight e
  · by_cases eight : byte.toNat = 8
    · refine back eight fun leaves => emitCodePoint_safe ?_ emitted leaves.2
      exact { placed with }
    · exact other _ eight t

theorem processByte_leaves {byte : UInt8} (leaves : ¬ e.Stays byte) (ran : (processByte host byte).run e = .ok () e') :
    ¬ e'.OnScreen := by
  obtain ⟨rfl, idle, outside, leaves⟩ := not_not.mp leaves
  obtain ⟨_, _, got, rest⟩ := bind_inv ran
  cases got
  rw [if_neg (by omega)] at rest
  exact backspace_leaves (processCodePoint_backspace outside rest) leaves

theorem resize_placed {columns rows cellWidthPixels cellHeightPixels : Int} (placed : e.Placed)
    (ran : (resize columns rows cellWidthPixels cellHeightPixels).run e = .ok () e') : e'.Placed := by
  rcases resize_inv ran with quiet | ⟨wide, high, s, widened, fits⟩
  · exact quiet.symm ▸ placed
  · have bounded := widened.bounded wide high placed.toValid
    obtain ⟨stops, -, core⟩ := widened
    have width := placed.screenColumns
    have height := placed.screenRows
    have col := placed.col
    have row := placed.row
    refine fits.placed bounded ?_ ?_ ?_
    · rw [core]
      exact { placed.toSwitchable with }
    · rw [core]
      exact ⟨col.1, Or.inr (lt_of_lt_of_eq col.2 width.symm)⟩
    · rw [core]
      exact ⟨row.1, Or.inl (lt_of_lt_of_eq row.2 height.symm)⟩

theorem create_placed {columns rows cellWidthPixels cellHeightPixels : Int} {transcriptRows : Option Int}
    (wide : 2 ≤ columns) (high : 2 ≤ rows)
    (created : create host columns rows cellWidthPixels cellHeightPixels transcriptRows = .ok e) : e.Placed := by
  have valid := create_valid wide high created
  obtain ⟨mainBuffer, altBuffer, stops, savedMain, savedAlt, main, alt, -, core⟩ := create_core created
  have size := TerminalBuffer.create_sameSize main
  have size' := TerminalBuffer.create_sameSize alt
  have never : Screen.main ≠ Screen.alt := nofun
  rw [core] at valid ⊢
  exact { valid with
    row := ⟨Int.le_refl 0, by dsimp only; omega⟩
    col := ⟨Int.le_refl 0, by dsimp only; omega⟩
    main := by
      dsimp only
      rw [size.columns, size.screenRows]
      exact ⟨by show 1 ≤ columns; omega, by show 1 ≤ rows; omega⟩
    alt := size'.totalRows.trans size'.screenRows.symm
    savedRow := fun shown => absurd shown never
    savedCol := fun shown => absurd shown never }

/-- In every run in which no byte takes the cursor off the screen by a backspace it is on the screen, and such a
    backspace does take it off. -/
theorem reaches_onScreen (reached : Reaches host Stays e) :
    e.OnScreen ∧ ∀ byte e', (processByte host byte).run e = .ok () e' → (e'.OnScreen ↔ e.Stays byte) := by
  have placed : e.Placed := by
    induction reached with
    | create wide high created => exact create_placed wide high created
    | process reached stays ran ih => exact processByte_placed reached.decoder_valid ih stays ran
    | resize _ _ _ ran ih => exact resize_placed ih ran
  refine ⟨placed.toOnScreen, fun byte e' ran => ⟨fun inside => ?_, fun stays => ?_⟩⟩
  · exact not_not.mp fun leaves => processByte_leaves leaves ran inside
  · exact (processByte_placed reached.decoder_valid placed stays ran).toOnScreen

/-- `CSI ? 69 h`, `CSI 5 ; 9 s` and a backspace. -/
theorem backspace_leaves_screen : ∃ e, fed 10 4 [27, 91, 63, 54, 57, 104, 27, 91, 53, 59, 57, 115, 8] = .ok e ∧
    Reaches plainHost (fun _ _ => True) e ∧ ¬ e.OnScreen := by
  obtain ⟨e, ran⟩ := exists_of_isOk
    (show (fed 10 4 [27, 91, 63, 54, 57, 104, 27, 91, 53, 59, 57, 115, 8]).isOk = true by decide +kernel)
  have col : (fed 10 4 [27, 91, 63, 54, 57, 104, 27, 91, 53, 59, 57, 115, 8]).toOption.map (fun e => e.mCursorCol) =
      some (-1) := by decide +kernel
  rw [ran] at col
  have left : e.mCursorCol = -1 := Option.some.inj col
  exact ⟨e, ran, fed_reaches (by decide) (by decide) (fun _ _ _ => trivial) ran, fun inside => by
    have := inside.col
    omega⟩

theorem reaches_onScreen_margins : ∃ e, fed 10 4 [27, 91, 63, 54, 57, 104, 27, 91, 53, 59, 57, 115] = .ok e ∧
    e.OnScreen ∧ ∀ byte e', (processByte plainHost byte).run e = .ok () e' → (e'.OnScreen ↔ e.Stays byte) := by
  obtain ⟨e, ran⟩ := exists_of_isOk
    (show (fed 10 4 [27, 91, 63, 54, 57, 104, 27, 91, 53, 59, 57, 115]).isOk = true by decide +kernel)
  have noBackspace : ∀ byte ∈ ([27, 91, 63, 54, 57, 104, 27, 91, 53, 59, 57, 115] : List UInt8), byte ≠ 8 := by decide +kernel
  exact ⟨e, ran, reaches_onScreen (fed_reaches (by decide) (by decide)
    (fun byte inside e leaves => noBackspace byte inside leaves.1) ran)⟩

end TerminalEmulator
