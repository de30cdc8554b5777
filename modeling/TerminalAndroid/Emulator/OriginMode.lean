import TerminalAndroid.Emulator.Appended

open Java Exec

namespace TerminalCore

def Confined (c : TerminalCore) : Prop := c.Origin → c.Within c.mCursorRow c.mCursorCol

def SavedWithin (c : TerminalCore) (state : SavedScreenState) : Prop :=
  state.mSavedDecFlags &&& TerminalEmulator.decsetBitOriginMode ≠ 0 →
    c.Within (max 0 (min state.mSavedCursorRow (c.mRows - 1))) (max 0 (min state.mSavedCursorCol (c.mColumns - 1)))

instance (c : TerminalCore) (row col : Int) : Decidable (c.Within row col) := inferInstanceAs (Decidable (_ ∧ _))

instance (c : TerminalCore) : Decidable c.Confined := inferInstanceAs (Decidable (_ → _))

variable {permits : Label → Prop} {c c' : TerminalCore}

theorem Position.within {row col : Int} (place : c.Position row col) (bounded : c.Bounded) (origin : c.Origin) :
    c.Within row col := by
  obtain ⟨x, y, top, bottom, left, right, inside, rfl, rfl⟩ := place
  obtain ⟨rfl, rfl, rfl, rfl⟩ := inside origin
  have := bounded.top
  have := bounded.height
  have := bounded.bottom
  have := bounded.left
  have := bounded.width
  have := bounded.right
  unfold Within
  omega

theorem Moves.confined {row col : Int} {about : Bool} (move : Moves permits c row col about) (bounded : c.Bounded)
    (jump : ¬ permits .jump) (tab : ¬ permits .tab) (confined : c.Confined) : (c.moved row col about).Confined := by
  intro origin
  have origin : c.Origin := origin
  have inside := confined origin
  show c.Within row col
  have stays : (c.Leaves row col → permits .jump) → c.Within row col := fun permitted =>
    not_not.mp fun outside => jump (permitted ⟨origin, outside⟩)
  have height := bounded.height
  have width := bounded.width
  unfold Within at inside
  cases move with
  | position place => exact place.within bounded origin
  | rowCol row col permitted => exact stays permitted
  | up n positive permitted => exact stays permitted
  | down n positive permitted => exact stays permitted
  | toRow n permitted => exact stays permitted
  | toColumn n permitted => exact stays permitted
  | toStart off => exact absurd origin off
  | tab _ _ stop held =>
    unfold Within
    rcases stop with rfl | inside' | ⟨-, -, beyond⟩
    · omega
    · omega
    · exact absurd beyond tab
  | backTab _ stop permitted =>
    unfold Within
    rcases stop with rfl | ⟨i, lower, upper, rfl⟩ <;> omega
  | _ =>
    unfold Within
    omega

structure Wider (c c' : TerminalCore) : Prop where
  rows : c'.mRows = c.mRows
  columns : c'.mColumns = c.mColumns
  top : c'.mTopMargin ≤ c.mTopMargin
  bottom : c.mBottomMargin ≤ c'.mBottomMargin
  left : c'.mLeftMargin ≤ c.mLeftMargin
  right : c.mRightMargin ≤ c'.mRightMargin

theorem Within.wider {row col : Int} (within : c.Within row col) (wider : Wider c c') : c'.Within row col := by
  obtain ⟨-, -, top, bottom, left, right⟩ := wider
  unfold Within at *
  omega

theorem SavedWithin.wider {state : SavedScreenState} (saved : c.SavedWithin state) (wider : Wider c c') :
    c'.SavedWithin state := by
  intro origin
  rw [wider.rows, wider.columns]
  exact (saved origin).wider wider

theorem Bounded.wider_columns (bounded : c.Bounded) :
    Wider c { c with mLeftMargin := 0, mRightMargin := c.mColumns } :=
  ⟨rfl, rfl, Int.le_refl _, Int.le_refl _, bounded.left, bounded.right⟩

theorem Bounded.wider_all (bounded : c.Bounded) :
    Wider c { c with
      mLeftMargin := 0
      mTopMargin := 0
      mBottomMargin := c.mRows
      mRightMargin := c.mColumns
      mAboutToAutoWrap := false } :=
  ⟨rfl, rfl, bounded.top, bounded.bottom, bounded.left, bounded.right⟩

end TerminalCore

namespace TerminalEmulator

open TerminalCore

variable {host : Host} {permits : Label → Prop} {c c' : TerminalCore} {e e' : TerminalEmulator}

theorem decsetFlags_other {flags bit : BitVec 32} {setting : Bool}
    (other : bit &&& decsetBitOriginMode = 0 ∨ setting = false) (off : flags &&& decsetBitOriginMode = 0) :
    decsetFlags flags bit setting &&& decsetBitOriginMode = 0 := by
  unfold decsetFlags
  cases setting with
  | false => exact and_and_eq_zero off _
  | true =>
    rw [if_pos rfl]
    refine or_and_eq_zero ?_ (other.resolve_right nofun)
    split
    · exact and_and_eq_zero off _
    · split
      · exact and_and_eq_zero off _
      · exact off

theorem initialFlags_origin : (decsetBitAutowrap ||| decsetBitCursorEnabled) &&& decsetBitOriginMode = 0 := by decide

theorem restored_origin {flags saved : BitVec 32}
    (origin : (flags &&& ~~~(decsetBitAutowrap ||| decsetBitOriginMode) |||
      saved &&& (decsetBitAutowrap ||| decsetBitOriginMode)) &&& decsetBitOriginMode ≠ 0) :
    saved &&& decsetBitOriginMode ≠ 0 := by
  rwa [restored_bit (by decide)] at origin

structure Restorable (permits : Label → Prop) (c : TerminalCore) : Prop where
  restore : permits .restore → c.SavedWithin c.savedState
  toMain : permits .toMain → c.mScreen = .alt → c.SavedWithin c.mSavedStateMain

theorem Restorable.wider (restorable : Restorable permits c) (wider : Wider c c') (saved : c'.savedState = c.savedState)
    (main : c'.mSavedStateMain = c.mSavedStateMain) (screen : c'.mScreen = c.mScreen) : Restorable permits c' where
  restore := fun permitted => saved ▸ (restorable.restore permitted).wider wider
  toMain := fun permitted alt => main ▸ (restorable.toMain permitted (screen.symm.trans alt)).wider wider

theorem Effect.confined (effect : Effect permits c c') (sized : c.Sized) (jump : ¬ permits .jump) (tab : ¬ permits .tab)
    (restorable : Restorable permits c) (confined : c.Confined) : c'.Confined := by
  have bounded := (Effect.valid effect sized.valid).toBounded
  cases effect with
  | draws drawing ran =>
    unfold withScreen
    cases c.mScreen <;> exact confined
  | moves move => exact move.confined sized.toBounded jump tab confined
  | backspaces permitted off =>
    intro origin
    have inside := confined origin
    unfold Within at inside
    exact ⟨inside.1, by dsimp only [moved]; omega, by dsimp only [moved]; omega⟩
  | flags bit setting single other =>
    intro origin
    exact confined fun off => origin (decsetFlags_other other off)
  | setsOrigin _ set place | rowMargins _ _ _ set place | columnMargins _ _ _ _ set place =>
    exact fun origin => place.within { bounded with } origin
  | saves =>
    unfold withSavedState
    cases c.mScreen <;> exact confined
  | restores permitted => exact fun origin => restorable.restore permitted (restored_origin origin)
  | resetsColumnMargins permitted => exact fun origin => (confined origin).wider sized.toBounded.wider_columns
  | resetsMargins => exact fun origin => (confined origin).wider sized.toBounded.wider_all
  | resetsSaved permitted flags_eq =>
    intro origin
    subst flags_eq
    exact absurd initialFlags_origin origin
  | switches setting permitted ran =>
    rcases (switchScreen_inv ran).plain sized with rfl | ⟨-, -, state, buffer, -, -, -, -, core⟩ | ⟨rfl, alt, rfl⟩
    · exact confined
    · rw [core]
      exact confined
    · exact fun origin => restorable.toMain permitted alt (restored_origin origin)
  | _ => exact confined

theorem Effect.origin (effect : Effect permits c c') (sized : c.Sized) (set : ¬ permits .origin)
    (restore : ¬ permits .restore) (toMain : ¬ permits .toMain) (off : ¬ c.Origin) : ¬ c'.Origin := by
  cases effect with
  | draws drawing ran =>
    unfold withScreen
    cases c.mScreen <;> exact off
  | flags bit setting single other => exact fun origin => origin (decsetFlags_other other (not_not.mp off))
  | setsOrigin permitted => exact absurd permitted set
  | rowMargins _ _ _ set _ | columnMargins _ _ _ _ set _ =>
    subst set
    exact off
  | saves =>
    unfold withSavedState
    cases c.mScreen <;> exact off
  | restores permitted => exact absurd permitted restore
  | resetsSaved permitted flags_eq =>
    subst flags_eq
    exact not_not.mpr initialFlags_origin
  | switches setting permitted ran =>
    rcases (switchScreen_inv ran).plain sized with rfl | ⟨-, -, state, buffer, -, -, -, -, core⟩ | ⟨rfl, -, -⟩
    · exact off
    · rw [core]
      exact off
    · exact absurd permitted toMain
  | _ => exact off

theorem Effect.restorable (effect : Effect permits c c') (sized : c.Sized)
    (alone : permits .restore ∨ permits .toMain →
      ¬ permits .save ∧ ¬ permits .toAlt ∧ ¬ permits .margins ∧ ¬ permits .reset) (restorable : Restorable permits c) :
    Restorable permits c' := by
  by_cases restoring : permits .restore ∨ permits .toMain
  swap
  · exact ⟨fun permitted => absurd (Or.inl permitted) restoring, fun permitted => absurd (Or.inr permitted) restoring⟩
  obtain ⟨save, toAlt, margins, reset⟩ := alone restoring
  cases effect with
  | draws drawing ran =>
    unfold withScreen
    split <;> exact ⟨restorable.restore, restorable.toMain⟩
  | rowMargins permitted | columnMargins permitted => exact absurd permitted margins
  | setsOrigin permitted set place =>
    subst set
    exact ⟨restorable.restore, restorable.toMain⟩
  | saves permitted => exact absurd permitted save
  | resetsSaved permitted => exact absurd permitted reset
  | resetsColumnMargins permitted => exact restorable.wider sized.toBounded.wider_columns rfl rfl rfl
  | resetsMargins => exact restorable.wider sized.toBounded.wider_all rfl rfl rfl
  | switches setting permitted ran =>
    rcases (switchScreen_inv ran).plain sized with rfl | ⟨rfl, -, -⟩ | ⟨rfl, alt, rfl⟩
    · exact restorable
    · exact absurd permitted toAlt
    · exact ⟨fun _ => restorable.toMain permitted alt, fun _ main => nomatch main⟩
  | _ => exact ⟨restorable.restore, restorable.toMain⟩

def Unbound (e : TerminalEmulator) (b : Nat) : Prop :=
  b = 8 ∨ b = 9 ∨ (e.mEscapeState = .csi ∧ (b = 'A'.toNat ∨ b = 'B'.toNat ∨ b = 'G'.toNat ∨ b = 'I'.toNat ∨ b = 'd'.toNat)) ∨
    (e.mEscapeState = .esc ∧ b = 'F'.toNat)

def MovesOut (e : TerminalEmulator) (b : Nat) : Prop :=
  (∃ place ∈ e.jumpTarget b, ¬ e.Within place.1 place.2) ∨ (b = 9 ∧ e.StopBeyond 1) ∨
    (e.mEscapeState = .csi ∧ b = 'I'.toNat ∧ e.StopBeyond (e.getArg0 1))

/-- The code point sets DECOM with a cursor that was saved outside of the margins: DECRC, or the modes 1048, 47, 1047 and
    1049. -/
def RestoresOut (e : TerminalEmulator) (b : Nat) : Prop :=
  (((e.mEscapeState = .esc ∧ b = '8'.toNat) ∨ (e.mEscapeState = .csi ∧ b = 'u'.toNat) ∨
    (e.mEscapeState = .csiQuestionmark ∧ b = 'l'.toNat ∧ 1048 ∈ e.mArgs.toList)) ∧ ¬ e.SavedWithin e.savedState) ∨
  ((e.mEscapeState = .csiQuestionmark ∧ b = 'l'.toNat ∧
    (47 ∈ e.mArgs.toList ∨ 1047 ∈ e.mArgs.toList ∨ 1049 ∈ e.mArgs.toList)) ∧ e.mScreen = .alt ∧
    ¬ e.SavedWithin e.mSavedStateMain)

section

variable {b : Nat}

theorem MovesOut.unbound (out : e.MovesOut b) : e.Unbound b := by
  rcases out with ⟨place, target, -⟩ | ⟨control, -⟩ | ⟨state, final, -⟩
  · unfold jumpTarget at target
    split_ifs at target with back _ csi up down column row final
    · exact Or.inl back
    · cases target
    · exact Or.inr (Or.inr (Or.inl ⟨csi, Or.inl up⟩))
    · exact Or.inr (Or.inr (Or.inl ⟨csi, Or.inr (Or.inl down)⟩))
    · exact Or.inr (Or.inr (Or.inl ⟨csi, Or.inr (Or.inr (Or.inl column))⟩))
    · exact Or.inr (Or.inr (Or.inl ⟨csi, Or.inr (Or.inr (Or.inr (Or.inr row)))⟩))
    · cases target
    · exact Or.inr (Or.inr (Or.inr final))
    · cases target
  · exact Or.inr (Or.inl control)
  · exact Or.inr (Or.inr (Or.inl ⟨state, by simp [final]⟩))

theorem Unbound.sets_nothing (unbound : e.Unbound b) :
    ¬ Permitted e b .origin ∧ ¬ Permitted e b .restore ∧ ¬ Permitted e b .toMain := by
  unfold Unbound at unbound
  refine ⟨?_, ?_, ?_⟩
  · intro permitted
    cases permitted with
    | origin state final => rcases final with rfl | rfl <;> simp [state] at unbound
  · intro permitted
    cases permitted with
    | restore final => rcases final with ⟨state, rfl⟩ | ⟨state, rfl⟩ | ⟨state, rfl, -⟩ <;> simp [state] at unbound
  · intro permitted
    cases permitted with
    | toMain state final mode =>
      subst final
      simp [state] at unbound

theorem restoring_alone (restoring : Permitted e b .restore ∨ Permitted e b .toMain) :
    ¬ Permitted e b .save ∧ ¬ Permitted e b .toAlt ∧ ¬ Permitted e b .margins ∧ ¬ Permitted e b .reset := by
  have final : (e.mEscapeState = .esc ∧ b = '8'.toNat) ∨ (e.mEscapeState = .csi ∧ b = 'u'.toNat) ∨
      (e.mEscapeState = .csiQuestionmark ∧ b = 'l'.toNat) := by
    rcases restoring with restore | toMain
    · cases restore with
      | restore final => exact final.imp id (Or.imp id fun ⟨state, final, _⟩ => ⟨state, final⟩)
    · cases toMain with
      | toMain state final mode => exact Or.inr (Or.inr ⟨state, final⟩)
  refine ⟨?_, ?_, ?_, ?_⟩
  · intro permitted
    cases permitted with
    | save saves => rcases final with ⟨state, rfl⟩ | ⟨state, rfl⟩ | ⟨state, rfl⟩ <;> simp [state] at saves
  · intro permitted
    cases permitted with
    | toAlt _ sets => rcases final with ⟨-, rfl⟩ | ⟨-, rfl⟩ | ⟨-, rfl⟩ <;> simp at sets
  · intro permitted
    cases permitted with
    | margins _ sets => rcases final with ⟨-, rfl⟩ | ⟨-, rfl⟩ | ⟨-, rfl⟩ <;> simp at sets
  · intro permitted
    cases permitted with
    | reset _ resets | softReset _ resets => rcases final with ⟨-, rfl⟩ | ⟨-, rfl⟩ | ⟨-, rfl⟩ <;> simp at resets

theorem restorable_of_permitted (restores : ¬ e.RestoresOut b) : Restorable (Permitted e b) e.toTerminalCore where
  restore := by
    intro permitted
    cases permitted with
    | restore final => exact not_not.mp fun outside => restores (Or.inl ⟨final, outside⟩)
  toMain := by
    intro permitted alt
    cases permitted with
    | toMain state final mode => exact not_not.mp fun outside => restores (Or.inr ⟨⟨state, final, mode⟩, alt, outside⟩)

end

theorem processCodePoint_confined {b : Nat} (sized : e.Sized) (confined : e.Confined)
    (kept : ¬ e.Ignoring → (e.Origin → ¬ e.MovesOut b) ∧ ¬ e.RestoresOut b)
    (ran : (processCodePoint host b).run e = .ok () e') : e'.Sized ∧ e'.Confined := by
  by_cases ignoring : e.Ignoring
  · rw [processCodePoint_quiet host b ignoring () e' ran]
    exact ⟨sized, confined⟩
  obtain ⟨moves, restores⟩ := kept ignoring
  have steps := (processCodePoint_steps host b () e' ran).mono fun label (permitted : _ ∧ _) => permitted.2
  by_cases out : e.MovesOut b
  · have off : ¬ e.Origin := fun origin => moves origin out
    obtain ⟨set, restore, toMain⟩ := out.unbound.sets_nothing
    have kept := steps.keeps (I := fun c => c.Sized ∧ ¬ c.Origin)
      (fun c c' effect kept => ⟨Effect.sized effect kept.1, Effect.origin effect kept.1 set restore toMain kept.2⟩) ⟨sized, off⟩
    exact ⟨kept.1, fun origin => absurd origin kept.2⟩
  · have jump : ¬ Permitted e b .jump := by
      intro permitted
      cases permitted with
      | jump target leaves => exact out (Or.inl ⟨_, target, leaves.2⟩)
    have tab : ¬ Permitted e b .tab := by
      intro permitted
      cases permitted with
      | tab final => exact out (Or.inr final)
    have kept := steps.keeps (I := fun c => c.Sized ∧ c.Confined ∧ Restorable (Permitted e b) c)
      (fun c c' effect kept => ⟨Effect.sized effect kept.1, Effect.confined effect kept.1 jump tab kept.2.2 kept.2.1,
        Effect.restorable effect kept.1 restoring_alone kept.2.2⟩) ⟨sized, confined, restorable_of_permitted restores⟩
    exact ⟨kept.1, kept.2.1⟩

theorem not_unbound_of_beyond {b : Nat} (beyond : 128 ≤ b) : ¬ e.Unbound b := by
  have ascii : ∀ char : Char, char.toNat < 128 → b ≠ char.toNat := by omega
  rintro (control | control | ⟨-, final | final | final | final | final⟩ | ⟨-, final⟩)
  · omega
  · omega
  all_goals exact absurd final (ascii _ (by decide))

theorem not_restoresOut_of_beyond {b : Nat} (beyond : 128 ≤ b) : ¬ e.RestoresOut b := by
  have ascii : ∀ char : Char, char.toNat < 128 → b ≠ char.toNat := by omega
  rintro (⟨⟨-, final⟩ | ⟨-, final⟩ | ⟨-, final, -⟩, -⟩ | ⟨⟨-, final, -⟩, -⟩)
  all_goals exact absurd final (ascii _ (by decide))

theorem SameSettings.unbound {b : Nat} (same : SameSettings e e') (unbound : e'.Unbound b) : e.Unbound b := by
  unfold Unbound at *
  rwa [same.state] at unbound

theorem SameSettings.savedWithin (same : SameSettings e e') (state : SavedScreenState) :
    e'.SavedWithin state ↔ e.SavedWithin state := by
  unfold SavedWithin Within
  rw [same.rows, same.columns, same.top, same.bottom, same.left, same.right]

theorem SameSettings.restoresOut {b : Nat} (same : SameSettings e e') (restores : e'.RestoresOut b) : e.RestoresOut b := by
  have saved : e'.savedState = e.savedState := by
    unfold savedState
    rw [same.screen, same.savedMain, same.savedAlt]
  unfold RestoresOut at *
  rwa [same.state, same.args, same.screen, same.savedWithin, same.savedWithin, saved, same.savedMain] at restores

/-- A byte that does not take the cursor out of the margins while DECOM is set. The replacement character of a sequence
    that the byte cuts short moves the cursor first. -/
def KeepsConfined (e : TerminalEmulator) (byte : UInt8) : Prop :=
  ¬ e.Ignoring → (e.Origin → if 0 < e.mUtf8ToFollow then ¬ e.Unbound byte.toNat else ¬ e.MovesOut byte.toNat) ∧
    ¬ e.RestoresOut byte.toNat

theorem processByte_confined {byte : UInt8} (decodes : e.decoder.Valid) (sized : e.Sized) (confined : e.Confined)
    (keeps : e.KeepsConfined byte) (ran : (processByte host byte).run e = .ok () e') : e'.Sized ∧ e'.Confined := by
  refine processByte_leads (R := Keeps fun e : TerminalEmulator => e.Sized ∧ e.Confined)
    (fun e d kept => ⟨{ kept.1 with }, kept.2⟩) ?_ ?_ decodes ?_ ?_ () e' ran ⟨sized, confined⟩
  · intro e _ e' ran kept
    refine (emitCodePoint_emits _ _ _ _ ran).keeps (I := fun c => c.Sized ∧ c.Confined) (fun c c' effect kept => ?_) kept
    exact ⟨Effect.sized effect kept.1, Effect.confined effect kept.1 nofun nofun ⟨nofun, nofun⟩ kept.2⟩
  · intro codePoint beyond e _ e' ran kept
    refine processCodePoint_confined kept.1 kept.2 (fun _ => ⟨fun _ out => ?_, not_restoresOut_of_beyond beyond⟩) ran
    exact not_unbound_of_beyond beyond out.unbound
  · intro _ idle _ e' ran kept
    refine processCodePoint_confined kept.1 kept.2 (fun outside => ?_) ran
    have keeps := keeps outside
    rwa [if_neg (by omega)] at keeps
  · intro _ inside t emitted _ e' ran kept
    have same : SameSettings _ t := emitCodePoint_sameSettings _ _ _ _ emitted
    refine processCodePoint_confined kept.1 kept.2 (fun outside => ?_) ran
    obtain ⟨moves, restores⟩ := keeps fun ignoring => outside (same.ignoring.mpr ignoring)
    rw [if_pos inside] at moves
    refine ⟨fun origin out => moves ?_ (same.unbound out.unbound), fun out => restores (same.restoresOut out)⟩
    unfold Origin at origin
    rwa [same.flags] at origin

/-- In every run without a byte that takes the cursor out of the margins it is inside of them while DECOM is set. -/
theorem appended_confined (reached : Appended host KeepsConfined e) : e.Confined := by
  have kept : e.Sized ∧ e.Confined := by
    induction reached with
    | create wide high created =>
      refine ⟨create_sized wide high created, ?_⟩
      obtain ⟨_, _, _, _, _, -, -, -, core⟩ := create_core created
      rw [core]
      exact fun origin => absurd initialFlags_origin origin
    | process reached keeps ran ih => exact processByte_confined reached.reaches.decoder_valid ih.1 ih.2 keeps ran
  exact kept.2

theorem keepsConfined_of_other {byte : UInt8} (other : byte.toNat ∉ [8, 9, 65, 66, 71, 73, 100, 70, 56, 117, 108])
    (e : TerminalEmulator) : e.KeepsConfined byte := by
  have unbound : ¬ e.Unbound byte.toNat := by
    rintro (control | control | ⟨-, final | final | final | final | final⟩ | ⟨-, final⟩) <;> simp_all
  refine fun _ => ⟨fun _ => ?_, ?_⟩
  · split
    · exact unbound
    · exact fun out => unbound out.unbound
  · rintro (⟨⟨-, final⟩ | ⟨-, final⟩ | ⟨-, final, -⟩, -⟩ | ⟨⟨-, final, -⟩, -⟩) <;> simp_all

theorem appended_confined_letter : ∃ e, fed 10 4 [27, 91, 50, 59, 51, 114, 27, 91, 63, 54, 104, 97] = .ok e ∧
    e.Origin ∧ e.Confined := by
  obtain ⟨e, ran, origin⟩ := exists_of_toOption (show (fed 10 4 [27, 91, 50, 59, 51, 114, 27, 91, 63, 54, 104, 97]).toOption.map
    (fun e => decide e.Origin) = some true by decide +kernel)
  have other : ∀ byte ∈ ([27, 91, 50, 59, 51, 114, 27, 91, 63, 54, 104, 97] : List UInt8),
      byte.toNat ∉ [8, 9, 65, 66, 71, 73, 100, 70, 56, 117, 108] := by decide +kernel
  exact ⟨e, ran, of_decide_eq_true origin, appended_confined (fed_appended (by decide) (by decide)
    (fun byte inside e => keepsConfined_of_other (other byte inside) e) ran)⟩

/-- `CSI 2 ; 3 r`, `CSI ? 6 h` and `CSI A`. -/
theorem cursorUp_leaves_margins : ∃ e, fed 10 4 [27, 91, 50, 59, 51, 114, 27, 91, 63, 54, 104, 27, 91, 65] = .ok e ∧
    Appended plainHost (fun _ _ => True) e ∧ ¬ e.Confined := by
  obtain ⟨e, ran, outside⟩ := exists_of_toOption
    (show (fed 10 4 [27, 91, 50, 59, 51, 114, 27, 91, 63, 54, 104, 27, 91, 65]).toOption.map
      (fun e => decide e.Confined) = some false by decide +kernel)
  exact ⟨e, ran, fed_appended (by decide) (by decide) (fun _ _ _ => trivial) ran, of_decide_eq_false outside⟩

end TerminalEmulator
