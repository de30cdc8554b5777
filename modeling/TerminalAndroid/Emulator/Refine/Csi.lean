import TerminalAndroid.Emulator.Refine.Strings
import TerminalAndroid.Emulator.Switch

open Java Exec

namespace TerminalEmulator

open TerminalCore

variable {permits : Label → Prop} {e e' : TerminalEmulator}

variable {col numTabs externalBit : Int} {bit : BitVec 32} {setting : Bool}

section Cursor

def nthTabStop : List Bool → Int → Option Nat
  | [], _ => none
  | true :: stops, n => if n = 1 then some 0 else (nthTabStop stops (n - 1)).map (· + 1)
  | false :: stops, n => (nthTabStop stops n).map (· + 1)

def StopBeyond (e : TerminalEmulator) (numTabs : Int) : Prop :=
  ∃ k ∈ nthTabStop (e.mTabStop.drop (e.mCursorCol + 1).toNat) numTabs, e.mRightMargin ≤ e.mCursorCol + 1 + k

theorem nextTabStopLoop_spec (count : Nat) (i numTabs : Int) {t t' : TerminalEmulator}
    (ran : (nextTabStopLoop e count i numTabs).run t = .ok col t') :
    t' = t ∧ (col = e.mRightMargin - 1 ∨ ∃ k ∈ nthTabStop (e.mTabStop.drop i.toNat) numTabs,
      i + k < i + count ∧ col = min (i + k) e.mRightMargin) := by
  induction count generalizing i numTabs with
  | zero =>
    cases ran
    exact ⟨rfl, Or.inl rfl⟩
  | succ count ih =>
    obtain ⟨stop, t₁, read, rest⟩ := bind_inv ran
    obtain ⟨same, nonneg, found⟩ := readArray_inv read
    subst same
    have next : (i + 1).toNat = i.toNat + 1 := by omega
    have split : e.mTabStop.drop i.toNat = stop :: e.mTabStop.drop (i + 1).toNat := by
      rw [next]
      exact List.drop_eq_getElem?_toList_append.trans (by rw [found]; rfl)
    have later : ∀ numTabs', nthTabStop (e.mTabStop.drop i.toNat) numTabs =
        (nthTabStop (e.mTabStop.drop (i + 1).toNat) numTabs').map (· + 1) →
        (nextTabStopLoop e count (i + 1) numTabs').run t₁ = .ok col t' →
        t' = t₁ ∧ (col = e.mRightMargin - 1 ∨ ∃ k ∈ nthTabStop (e.mTabStop.drop i.toNat) numTabs,
          i + k < i + (count + 1 : Nat) ∧ col = min (i + k) e.mRightMargin) := by
      intro numTabs' nth rest
      obtain ⟨same, stopped⟩ := ih _ _ rest
      refine ⟨same, stopped.imp id ?_⟩
      rintro ⟨k, at_k, upper, eq⟩
      refine ⟨k + 1, ?_, by omega, by omega⟩
      rw [nth, at_k]
      rfl
    split at rest
    next set =>
      subst set
      split at rest
      next last =>
        cases rest
        refine ⟨rfl, Or.inr ⟨0, ?_, by omega, by omega⟩⟩
        rw [split, nthTabStop, if_pos (by omega)]
        rfl
      next more =>
        refine later _ ?_ rest
        rw [split, nthTabStop, if_neg (by omega)]
    next clear =>
      refine later _ ?_ rest
      rw [split, Bool.eq_false_of_not_eq_true clear, nthTabStop]

theorem nextTabStop_spec (ran : (nextTabStop numTabs).run e = .ok col e') :
    e' = e ∧ (col = e.mRightMargin - 1 ∨ (e.mCursorCol < col ∧ col < e.mRightMargin) ∨
      (col = e.mRightMargin ∧ e.mRightMargin < e.mColumns ∧ e.StopBeyond numTabs)) := by
  obtain ⟨same, found⟩ := nextTabStopLoop_spec _ _ _ ran
  refine ⟨same, found.imp id ?_⟩
  rintro ⟨k, at_k, upper, eq⟩
  by_cases inside : e.mCursorCol + 1 + k < e.mRightMargin
  · exact Or.inl ⟨by omega, by omega⟩
  · exact Or.inr ⟨by omega, by omega, k, at_k, by omega⟩

theorem previousTabStopLoop_spec (count : Nat) (numberOfTabs : Int) {t t' : TerminalEmulator}
    (ran : (previousTabStopLoop e count numberOfTabs).run t = .ok col t') :
    t' = t ∧ (col = e.mLeftMargin ∨ ∃ i : Int, 0 ≤ i ∧ i < count ∧ col = max i e.mLeftMargin) := by
  induction count generalizing numberOfTabs with
  | zero =>
    cases ran
    exact ⟨rfl, Or.inl rfl⟩
  | succ count ih =>
    obtain ⟨stop, t₁, read, rest⟩ := bind_inv ran
    obtain rfl : t₁ = t := readArray_same _ _ _ _ _ read
    have later : ∀ numberOfTabs, (previousTabStopLoop e count numberOfTabs).run t₁ = .ok col t' →
        t' = t₁ ∧ (col = e.mLeftMargin ∨ ∃ i : Int, 0 ≤ i ∧ i < (count + 1 : Nat) ∧ col = max i e.mLeftMargin) := by
      intro numberOfTabs rest
      obtain ⟨same, found⟩ := ih _ rest
      refine ⟨same, found.imp id ?_⟩
      rintro ⟨i, lower, upper, eq⟩
      exact ⟨i, lower, by omega, eq⟩
    split at rest
    · split at rest
      · cases rest
        exact ⟨rfl, Or.inr ⟨count, by omega, by omega, rfl⟩⟩
      · exact later _ rest
    · exact later _ rest

theorem tab_move {about : Bool} (permitted : e.StopBeyond numTabs → permits .tab)
    (stop : col = e.mRightMargin - 1 ∨ (e.mCursorCol < col ∧ col < e.mRightMargin) ∨
      (col = e.mRightMargin ∧ e.mRightMargin < e.mColumns ∧ e.StopBeyond numTabs))
    (kept : about = false ∨ (about = e.mAboutToAutoWrap ∧ permits .holdTab)) :
    Moves permits e.toTerminalCore e.mCursorRow col about :=
  .tab col about (stop.imp id (Or.imp id fun ⟨last, inside, beyond⟩ => ⟨last, inside, permitted beyond⟩)) kept

theorem forwardTab_steps (permitted : e.StopBeyond numTabs → permits .tab) : Leads (Steps permits)
    (do let col ← nextTabStop numTabs; modify fun e => e.setCursorCol col) e := by
  intro _ e' ran
  obtain ⟨col, t, found, rest⟩ := bind_inv ran
  obtain ⟨rfl, stop⟩ := nextTabStop_spec found
  cases rest
  exact .move (tab_move permitted stop (Or.inl rfl)) rfl

theorem horizontalTab_steps (held : permits .holdTab) (permitted : e.StopBeyond 1 → permits .tab) : Leads (Steps permits)
    (do let col ← nextTabStop 1; modify fun e => { e with mCursorCol := col }) e := by
  intro _ e' ran
  obtain ⟨col, t, found, rest⟩ := bind_inv ran
  obtain ⟨rfl, stop⟩ := nextTabStop_spec found
  cases rest
  exact .move (tab_move permitted stop (Or.inr ⟨rfl, held⟩)) rfl

theorem backwardTab_steps
    (permitted : e.mAboutToAutoWrap = true → e.mLeftMargin + 1 < e.mRightMargin → permits .back) (numberOfTabs : Int) :
    Leads (Steps permits)
      (do let col ← previousTabStopLoop e e.mCursorCol.toNat numberOfTabs; set { e with mCursorCol := col }) e := by
  intro _ e' ran
  obtain ⟨col, t, found, rest⟩ := bind_inv ran
  obtain ⟨rfl, stop⟩ := previousTabStopLoop_spec _ _ found
  cases rest
  refine .move (.backTab col (stop.imp id ?_) permitted) rfl
  rintro ⟨i, lower, upper, eq⟩
  exact ⟨i, lower, by omega, eq⟩

theorem setTabStop_steps (stop : Bool) : Returns (Steps permits) (setTabStop stop) := by
  refine fun e => Leads.get_bind ?_
  unfold writeArray
  split
  · exact Leads.set (.one (.tabStops (List.length_set ..)) rfl)
  · exact Leads.throw _

theorem clearTabStops_steps : Returns (Steps permits) clearTabStops := by
  refine fun e => Leads.get_bind (Leads.ite (fun _ => Leads.throw _) fun fits => Leads.set (.one (.tabStops ?_) rfl))
  simp only [List.length_append, List.length_replicate, List.length_drop]
  omega

theorem origin_iff (e : TerminalEmulator) : e.isDecsetInternalBitSet decsetBitOriginMode = true ↔ e.Origin := by
  simp [isDecsetInternalBitSet, Origin]

theorem setCursorPosition_position (e : TerminalEmulator) (x y : Int) :
    e.Position (e.setCursorPosition x y).mCursorRow (e.setCursorPosition x y).mCursorCol := by
  refine ⟨x, y, e.effectiveTopMargin, e.effectiveBottomMargin, e.effectiveLeftMargin, e.effectiveRightMargin,
    fun origin => ?_, rfl, rfl⟩
  have set := e.origin_iff.mpr origin
  simp only [effectiveTopMargin, effectiveBottomMargin, effectiveLeftMargin, effectiveRightMargin, set, if_true, and_self]

theorem setCursorPosition_steps (e : TerminalEmulator) (x y : Int) : Steps permits e (e.setCursorPosition x y) :=
  .move (.position (e.setCursorPosition_position x y)) rfl

theorem setCursorRowCol_steps (e : TerminalEmulator) (row col : Int)
    (permitted : e.Leaves (e.setCursorRowCol row col).mCursorRow (e.setCursorRowCol row col).mCursorCol → permits .jump) :
    Steps permits e (e.setCursorRowCol row col) := .move (.rowCol row col permitted) rfl

theorem home_position {c : TerminalCore} (top : c.mTopMargin = 0) (bottom : c.mBottomMargin = c.mRows)
    (left : c.mLeftMargin = 0) (right : c.mRightMargin = c.mColumns) :
    c.Position (max 0 (min 0 (c.mRows - 1))) (max 0 (min 0 (c.mColumns - 1))) :=
  ⟨0, 0, 0, c.mRows, 0, c.mColumns, fun _ => ⟨top.symm, bottom.symm, left.symm, right.symm⟩, by omega, by omega⟩

end Cursor

section Arguments

theorem parseArg_steps (permitted : permits .argument) (b : Nat) (e : TerminalEmulator) :
    Steps permits e (parseArg b e) := by
  unfold parseArg
  split
  · dsimp only
    split
    · refine .one (.digit permitted ?_ ?_ ?_) rfl
      · omega
      · split
        · omega
        · split <;> omega
      · split <;> omega
    · exact .of_quiet rfl
  · split
    · dsimp only
      split
      next room => exact .one (.nextArg room) rfl
      · exact .of_quiet rfl
    · exact .of_quiet rfl

theorem clampArgIndex_steps (e : TerminalEmulator) : Steps permits e e.clampArgIndex := by
  unfold clampArgIndex
  split
  next beyond => exact .one (.clampsArgIndex beyond) rfl
  · exact .of_quiet rfl

theorem startEscapeSequence_steps (permitted : permits .argument) (e : TerminalEmulator) :
    Steps permits e e.startEscapeSequence := .one (.startsArgs permitted) rfl

theorem argAt_quiet (index : Int) : Returns Quiet (argAt index) := fun _ => Leads.get_bind (readArray_quiet _ _ _)

theorem argOr_quiet (index defaultValue : Int) (zero : Bool) : Returns Quiet (argOr index defaultValue zero) :=
  Returns.bind (argAt_quiet index) fun _ => Returns.pure _

theorem setColor_quiet (code : Int) (color : BitVec 32) (e : TerminalEmulator) : Quiet e (setColor code color e) := by
  unfold setColor
  split
  · rfl
  · split <;> rfl

theorem extendedColor_quiet (code i : Int) : Returns Quiet (extendedColor code i) := by
  refine fun e => Leads.get_bind (Leads.ite (fun _ => Leads.pure _) fun _ => ?_)
  refine Leads.bind (argAt_quiet _ _) fun firstArg t _ => Leads.ite (fun _ => ?_) fun _ => Leads.ite (fun _ => ?_) fun _ => ?_
  · refine Leads.ite (fun _ => Leads.pure _) fun _ => ?_
    refine Leads.bind (argOr_quiet _ _ _ _) fun red t _ => Leads.bind (argOr_quiet _ _ _ _) fun green t _ => ?_
    refine Leads.bind (argOr_quiet _ _ _ _) fun blue t _ => Leads.bind (Leads.modify ?_) fun _ _ _ => Leads.pure _
    split
    · rfl
    · exact setColor_quiet _ _ _
  · refine Leads.bind (argOr_quiet _ _ _ _) fun color t _ => Leads.bind (Leads.modify ?_) fun _ _ _ => Leads.pure _
    split
    · exact setColor_quiet _ _ _
    · rfl
  · exact Leads.bind (Leads.modify rfl) fun _ _ _ => Leads.pure _

theorem renditionCode_quiet (code : Int) (e : TerminalEmulator) : Quiet e (renditionCode code e) := by
  unfold renditionCode
  dsimp only
  repeat' apply Quiet.ite
  all_goals rfl

theorem renditionArg_quiet (code i : Int) : Returns Quiet (renditionArg code i) := by
  refine fun e => Leads.get_bind (Leads.ite (fun _ => ?_) fun _ => Leads.ite (fun _ => extendedColor_quiet _ _ _) fun _ => ?_)
  · exact Leads.bind (argAt_quiet _ _) fun _ _ _ => Leads.bind (Leads.modify rfl) fun _ _ _ => Leads.pure _
  · exact Leads.bind (Leads.modify (renditionCode_quiet _ _)) fun _ _ _ => Leads.pure _

theorem selectGraphicRenditionLoop_quiet (count : Nat) (i : Int) : Returns Quiet (selectGraphicRenditionLoop count i) := by
  induction count generalizing i with
  | zero => exact Returns.pure ()
  | succ count ih =>
    refine fun e => Leads.get_bind (Leads.ite (fun _ => Leads.pure ()) fun _ => Leads.ite (fun _ => ih _ _) fun _ => ?_)
    refine Leads.bind (argOr_quiet _ _ _ _) fun code t _ => Leads.ite (fun _ => ih _ _) fun _ => ?_
    exact Leads.bind (renditionArg_quiet _ _ _) fun _ _ _ => ih _ _

theorem selectGraphicRendition_steps : Returns (Steps permits) selectGraphicRendition := by
  refine Returns.bind (Returns.modify clampArgIndex_steps) fun _ e => Leads.get_bind ?_
  exact (selectGraphicRenditionLoop_quiet _ _ _).mono fun _ _ => .of_quiet

end Arguments

section Editing

theorem insertCharacters_steps : Returns (Steps permits) insertCharacters := by
  refine Returns.bind (Returns.modify fun e => .move .stay rfl) fun _ e => Leads.get_bind ?_
  exact Leads.bind (onScreen_steps (.blockCopy ..) _) fun _ _ _ => blockClear_steps _ _ _ _ _

theorem deleteCharacters_steps : Returns (Steps permits) deleteCharacters := by
  refine Returns.bind (Returns.modify fun e => .move .stay rfl) fun _ e => Leads.get_bind ?_
  exact Leads.bind (onScreen_steps (.blockCopy ..) _) fun _ _ _ => blockClear_steps _ _ _ _ _

theorem insertLines_steps : Returns (Steps permits) insertLines := fun _ =>
  Leads.get_bind (Leads.bind (onScreen_steps (.blockCopy ..) _) fun _ _ _ => blockClear_steps _ _ _ _ _)

theorem deleteLines_steps : Returns (Steps permits) deleteLines := by
  refine Returns.bind (Returns.modify fun e => .move .stay rfl) fun _ e => Leads.get_bind ?_
  exact Leads.bind (onScreen_steps (.blockCopy ..) _) fun _ _ _ => blockClear_steps _ _ _ _ _

theorem scrollDown_steps : Returns (Steps permits) scrollDown := fun _ =>
  Leads.get_bind (Leads.bind (onScreen_steps (.blockCopy ..) _) fun _ _ _ => blockClear_steps _ _ _ _ _)

theorem eraseCharacters_steps : Returns (Steps permits) eraseCharacters :=
  Returns.bind (Returns.modify fun _ => .move .stay rfl) fun _ _ => Leads.get_bind (onScreen_steps (.blockSet ..) _)

theorem settled_steps : Returns (Steps permits) (modify fun e => { e with mAboutToAutoWrap := false } : EmulatorM Unit) :=
  Returns.modify fun _ => .move .stay rfl

theorem eraseInDisplay_steps (permitted : e.getArg0 0 = 3 → permits .transcript) :
    Leads (Steps permits) eraseInDisplay e := by
  refine Leads.get_bind (Leads.ite (fun _ => ?_) fun _ => Leads.ite (fun _ => ?_) fun _ => Leads.ite (fun _ => ?_) fun _ =>
    Leads.ite (fun three => ?_) fun _ => Leads.set (.of_quiet rfl))
  · refine Leads.bind (blockClear_steps _ _ _ _ _) fun _ _ _ => ?_
    exact Leads.bind (blockClear_steps _ _ _ _ _) fun _ _ _ => settled_steps _
  · refine Leads.bind (blockClear_steps _ _ _ _ _) fun _ _ _ => ?_
    exact Leads.bind (blockClear_steps _ _ _ _ _) fun _ _ _ => settled_steps _
  · exact Leads.bind (blockClear_steps _ _ _ _ _) fun _ _ _ => settled_steps _
  · refine Leads.bind ?_ fun _ _ _ => settled_steps _
    intro _ e' ran
    obtain ⟨buffer, inner, rfl⟩ := zoom_inv ran
    exact .one (.clearsTranscript (permitted three) inner) rfl

theorem eraseInLine_steps : Returns (Steps permits) eraseInLine := by
  refine fun e => Leads.get_bind (Leads.ite (fun _ => ?_) fun _ => Leads.ite (fun _ => ?_) fun _ =>
    Leads.ite (fun _ => ?_) fun _ => Leads.set (.of_quiet rfl))
  all_goals exact Leads.bind (blockClear_steps _ _ _ _ _) fun _ _ _ => settled_steps _

theorem insertColumns_steps : Returns (Steps permits) insertColumns := fun _ =>
  Leads.get_bind (Leads.bind (onScreen_steps (.blockCopy ..) _) fun _ _ _ => blockClear_steps _ _ _ _ _)

theorem deleteColumns_steps : Returns (Steps permits) deleteColumns :=
  fun _ => Leads.get_bind (onScreen_steps (.blockCopy ..) _)

theorem backIndex_steps (permitted : e.mAboutToAutoWrap = true → e.mLeftMargin < e.mCursorCol → permits .back) :
    Leads (Steps permits) backIndex e := by
  refine Leads.get_bind (Leads.ite (fun inside => Leads.set (.move (.left inside fun about => ?_) rfl)) fun _ => ?_)
  · exact permitted about inside
  exact Leads.bind (onScreen_steps (.blockCopy ..) _) fun _ _ _ => onScreen_steps (.blockSet ..) _

theorem forwardIndex_steps : Returns (Steps permits) forwardIndex := by
  refine fun e => Leads.get_bind (Leads.ite (fun inside => Leads.set (.move (.right inside) rfl)) fun _ => ?_)
  exact Leads.bind (onScreen_steps (.blockCopy ..) _) fun _ _ _ => onScreen_steps (.blockSet ..) _

theorem reverseIndex_steps : Returns (Steps permits) reverseIndex := by
  refine fun e => Leads.get_bind (Leads.ite (fun _ => ?_) fun below => Leads.set (.move (.previousRow (by omega)) rfl))
  exact Leads.bind (onScreen_steps (.blockCopy ..) _) fun _ _ _ => blockClear_steps _ _ _ _ _

theorem nextLine_steps : Returns (Steps permits) nextLine := by
  refine Returns.bind (Returns.modify fun e => ?_) fun _ => doLinefeed_steps
  split
  next => exact .move .carriageReturn rfl
  next off => exact .move (.toStart fun origin => off (e.origin_iff.mpr origin)) rfl

theorem copyRectangularArea_steps : Returns (Steps permits) copyRectangularArea :=
  fun _ => Leads.get_bind (onScreen_steps (.blockCopy ..) _)

theorem fillRow_steps (selective keeps : Bool) (fillChar : Nat) (style : Style) (row : Int) (count : Nat) (col : Int) :
    Returns (Steps permits) (fillRow selective keeps fillChar style row count col) := by
  induction count generalizing col with
  | zero => exact Returns.pure ()
  | succ count ih =>
    refine Returns.bind ?_ fun kept => Returns.bind ?_ fun _ => ih _
    · refine Returns.ite (fun _ => ?_) fun _ => Returns.pure _
      exact Returns.bind (onScreen_steps (.getStyleAt ..)) fun _ => Returns.pure _
    · refine Returns.ite (fun _ => Returns.pure ()) fun _ => Returns.bind ?_ fun _ => onScreen_steps (.setChar ..)
      exact Returns.ite (fun _ => onScreen_steps (.getStyleAt ..)) fun _ => Returns.pure _

theorem fillRows_steps (selective keeps : Bool) (fillChar : Nat) (style : Style) (left right : Int) (count : Nat)
    (row : Int) : Returns (Steps permits) (fillRows selective keeps fillChar style left right count row) := by
  induction count generalizing row with
  | zero => exact Returns.pure ()
  | succ count ih => exact Returns.bind (fillRow_steps _ _ _ _ _ _ _) fun _ => ih _

theorem fillRectangularArea_steps (selective keeps : Bool) (fillChar : Int) (argIndex : Fin 2) :
    Returns (Steps permits) (fillRectangularArea selective keeps fillChar argIndex) :=
  fun _ => Leads.get_bind (Leads.ite (fun _ => fillRows_steps _ _ _ _ _ _ _ _ _) fun _ => Leads.pure ())

theorem changeAttributesLoop_steps (reverse : Bool) (top left bottom right : Int) (count : Nat) (i : Int) :
    Returns (Steps permits) (changeAttributesLoop reverse top left bottom right count i) := by
  induction count generalizing i with
  | zero => exact Returns.pure ()
  | succ count ih =>
    refine Returns.bind ((argOr_quiet _ _ _).mono fun _ _ => .of_quiet) fun arg e => Leads.get_bind ?_
    refine Leads.bind ?_ fun _ _ _ => ih _ _
    exact Leads.ite (fun _ => Leads.pure ()) fun _ => onScreen_steps (.setOrClearEffect ..) _

theorem changeAttributes_steps (reverse : Bool) : Returns (Steps permits) (changeAttributes reverse) := by
  refine fun e => Leads.get_bind (Leads.ite (fun _ => ?_) fun _ => Leads.pure ())
  refine Leads.bind (Leads.modify (clampArgIndex_steps _)) fun _ t _ => Leads.get_bind ?_
  exact changeAttributesLoop_steps _ _ _ _ _ _ _ _

theorem selectiveErase_steps (justRow : Bool) : Returns (Steps permits) (selectiveErase justRow) := by
  refine Returns.bind settled_steps fun _ e => Leads.get_bind (Leads.ite (fun _ => ?_) fun _ => Leads.ite (fun _ => ?_) fun _ =>
    Leads.ite (fun _ => ?_) fun _ => Leads.set (.of_quiet rfl))
  all_goals exact fillRows_steps _ _ _ _ _ _ _ _ _

end Editing

section Modes

theorem setDecsetinternalBit_steps (e : TerminalEmulator) (bit : BitVec 32) (setting : Bool) (single : SingleMouseBit bit)
    (other : bit &&& decsetBitOriginMode = 0 ∨ setting = false) :
    Steps permits e (e.setDecsetinternalBit bit setting) := .one (.flags bit setting single other) rfl

theorem eq_or_of_ite {α : Type} {p : Prop} [Decidable p] {a b : α} {rest : Option α}
    (found : (if p then some a else rest) = some b) : a = b ∨ rest = some b := by
  split at found
  · exact Or.inl (Option.some.inj found)
  · exact Or.inr found

theorem singleMouseBit_of_mapped
    (mapped : mapDecSetBitToInternalBit externalBit = some bit) : SingleMouseBit bit := by
  unfold mapDecSetBitToInternalBit at mapped
  iterate 12
    rcases eq_or_of_ite mapped with rfl | mapped
    · decide
  exact absurd mapped.symm (Option.some_ne_none bit)

theorem originBit_of_mapped
    (mapped : mapDecSetBitToInternalBit externalBit = some bit) : externalBit = 6 ∨ bit &&& decsetBitOriginMode = 0 := by
  by_cases six : externalBit = 6
  · exact Or.inl six
  · right
    unfold mapDecSetBitToInternalBit at mapped
    rw [if_neg six] at mapped
    iterate 11
      rcases eq_or_of_ite mapped with rfl | mapped
      · decide
    exact absurd mapped.symm (Option.some_ne_none bit)

theorem saveCursor_steps (permitted : permits .save) (e : TerminalEmulator) : Steps permits e e.saveCursor :=
  .one (.saves permitted rfl rfl rfl) rfl

theorem restoreCursor_steps (permitted : permits .restore) (e : TerminalEmulator) : Steps permits e e.restoreCursor :=
  .one (.restores permitted) rfl

theorem resetColumnMode_steps : Returns (Steps permits) (do
    modify fun e => { e with
      mLeftMargin := 0
      mTopMargin := 0
      mBottomMargin := e.mRows
      mRightMargin := e.mColumns }.setDecsetinternalBit decsetBitLeftrightMarginMode false
    let e ← get
    blockClear 0 0 e.mColumns e.mRows
    modify fun e => e.setCursorRowCol 0 0) := by
  intro e _ e' ran
  obtain ⟨_, t, modified, rest⟩ := bind_inv ran
  cases modified
  obtain ⟨_, _, got, rest⟩ := bind_inv rest
  cases got
  obtain ⟨_, s, cleared, rest⟩ := bind_inv rest
  cases rest
  have drawn := blockClear_drawn _ _ _ _ _ _ _ cleared
  obtain ⟨_, _, got, inner⟩ := bind_inv cleared
  cases got
  obtain ⟨buffer, -, same⟩ := onScreen_inv inner
  have reset : Steps permits e _ := Steps.trans (.one .resetsMargins rfl)
    (setDecsetinternalBit_steps { e with toTerminalCore := _ } decsetBitLeftrightMarginMode false (by decide) (Or.inr rfl))
  refine reset.trans (drawn.settled.steps.trans (.move (.position (home_position ?_ ?_ ?_ ?_)) rfl))
  · show s.mTopMargin = 0
    rw [same, withScreen_mTopMargin]
    rfl
  · show s.mBottomMargin = s.mRows
    rw [same, withScreen_mBottomMargin, withScreen_mRows]
    rfl
  · show s.mLeftMargin = 0
    rw [same, withScreen_mLeftMargin]
    rfl
  · show s.mRightMargin = s.mColumns
    rw [same, withScreen_mRightMargin, withScreen_mColumns]
    rfl

structure ModePermits (permits : Label → Prop) (setting : Bool) (externalBit : Int) : Prop where
  origin : externalBit = 6 → setting = true → permits .origin
  widen : externalBit = 69 → setting = false → permits .widen
  cursor : externalBit = 1048 → permits (if setting then .save else .restore)
  screen : externalBit = 47 ∨ externalBit = 1047 ∨ externalBit = 1049 → permits (if setting then .toAlt else .toMain)

theorem doDecSetOrReset_origin (host : Host) (permitted : permits .origin) :
    Returns (Steps permits) (doDecSetOrReset host true 6) := by
  intro e _ e' ran
  obtain ⟨_, t, flagged, rest⟩ := bind_inv ran
  cases flagged
  cases rest
  exact .one (.setsOrigin permitted rfl (setCursorPosition_position (e.setDecsetinternalBit decsetBitOriginMode true) 0 0)) rfl

theorem doDecSetOrReset_steps (host : Host) (setting : Bool) (externalBit : Int)
    (permitted : ModePermits permits setting externalBit) :
    Returns (Steps permits) (doDecSetOrReset host setting externalBit) := by
  by_cases origin : externalBit = 6 ∧ setting = true
  · obtain ⟨rfl, rfl⟩ := origin
    exact doDecSetOrReset_origin host (permitted.origin rfl rfl)
  refine Returns.bind (Returns.modify fun e => ?_) fun _ => Returns.ite (fun _ => Returns.pure ()) fun _ => ?_
  · split
    next bit mapped =>
      refine setDecsetinternalBit_steps _ _ _ (singleMouseBit_of_mapped mapped) ?_
      rcases originBit_of_mapped mapped with six | other
      · exact Or.inr (Bool.eq_false_of_not_eq_true fun set => origin ⟨six, set⟩)
      · exact Or.inl other
    next => exact .of_quiet rfl
  refine Returns.ite (fun _ => resetColumnMode_steps) fun _ => Returns.ite (fun six => ?_) fun _ => Returns.ite (fun _ => ?_) fun _ => ?_
  · exact Returns.ite (fun set => absurd ⟨six, set⟩ origin) fun _ => Returns.pure ()
  · exact Returns.ite (fun _ => Returns.modify fun e => .of_quiet rfl) fun _ => Returns.pure ()
  refine Returns.ite (fun _ => Returns.pure ()) fun _ => Returns.ite (fun margins => ?_) fun _ => ?_
  · refine Returns.ite (fun off => Returns.modify fun e => .one (.resetsColumnMargins ?_) rfl) fun _ => Returns.pure ()
    exact permitted.widen margins (Bool.eq_false_of_not_eq_true off)
  refine Returns.ite (fun _ => Returns.pure ()) fun _ => Returns.ite (fun cursor => Returns.modify fun e => ?_) fun _ => ?_
  · have permitted := permitted.cursor cursor
    cases setting with
    | true => exact saveCursor_steps permitted e
    | false => exact restoreCursor_steps permitted e
  refine Returns.ite (fun screen => ?_) fun _ => Returns.ite (fun _ => Returns.pure ()) fun _ => ?_
  · exact fun e _ e' ran => .one (.switches setting (permitted.screen screen) ran) rfl
  · exact Returns.modify fun e => .of_quiet rfl

theorem FitsScreen.args (fits : FitsScreen e e') : e'.mArgs = e.mArgs := by
  obtain ⟨cursor, buffer, -, rfl⟩ := fits
  exact withScreen_mArgs _ _

theorem saveCursor_args (e : TerminalEmulator) : e.saveCursor.mArgs = e.mArgs := by
  unfold saveCursor withSavedState
  cases e.mScreen <;> rfl

theorem Switched.args (switched : Switched e setting e') : e'.mArgs = e.mArgs := by
  cases switched with
  | stays same => rfl
  | toAlt from_main fitted cleared =>
    obtain ⟨buffer, -, same⟩ := onScreen_inv cleared
    rw [same, withScreen_mArgs]
    rcases fitted with ⟨-, rfl⟩ | ⟨-, fits⟩
    · exact saveCursor_args e
    · exact fits.args.trans (saveCursor_args e)
  | toMain from_alt fitted =>
    rcases fitted with ⟨-, rfl⟩ | ⟨-, fits⟩
    · rfl
    · exact fits.args

theorem Effect.args {c c' : TerminalCore} (effect : Effect permits c c') (never : ¬ permits .argument) :
    c'.mArgs = c.mArgs := by
  cases effect with
  | draws drawing ran => exact withScreen_mArgs _ _
  | saves =>
    unfold withSavedState
    split <;> rfl
  | setsOrigin _ set _ | rowMargins _ _ _ set _ | columnMargins _ _ _ _ set _ => rw [set]; rfl
  | startsArgs permitted => exact absurd permitted never
  | digit permitted => exact absurd permitted never
  | switches setting permitted ran => exact (switchScreen_inv ran).args
  | _ => rfl

theorem Steps.args (steps : Steps permits e e') (never : ¬ permits .argument) : e'.mArgs = e.mArgs :=
  steps.keeps (I := fun c => c.mArgs = e.mArgs) (fun _ _ effect same => (Effect.args effect never).trans same) rfl

theorem doDecSetOrReset_args {host : Host}
    (ran : (doDecSetOrReset host setting externalBit).run e = .ok () e') : e'.mArgs = e.mArgs := by
  have steps : Steps (· ≠ .argument) e e' := doDecSetOrReset_steps host setting externalBit
    { origin := fun _ _ => by decide
      widen := fun _ _ => by decide
      cursor := fun _ => by cases setting <;> decide
      screen := fun _ => by cases setting <;> decide } _ _ _ ran
  exact steps.args (not_not.mpr rfl)

theorem argAt_inv {i arg : Int} (ran : (argAt i).run e = .ok arg e') : e' = e ∧ arg ∈ e.mArgs.toList := by
  obtain ⟨_, _, got, read⟩ := bind_inv ran
  cases got
  obtain ⟨same, -, found⟩ := readArray_inv read
  exact ⟨same, List.mem_of_getElem? found⟩

theorem doDecSetOrResetArgs_steps (host : Host) (setting : Bool)
    (permitted : ∀ mode ∈ e.mArgs.toList, ModePermits permits setting mode) (count : Nat) (i : Int) :
    Leads (Steps permits) (doDecSetOrResetArgs host setting count i) e := by
  induction count generalizing e i with
  | zero => exact Leads.pure ()
  | succ count ih =>
    intro _ e' ran
    obtain ⟨arg, t, read, rest⟩ := bind_inv ran
    obtain ⟨rfl, listed⟩ := argAt_inv read
    obtain ⟨_, t', called, rest⟩ := bind_inv rest
    have steps := doDecSetOrReset_steps host setting arg (permitted arg listed) _ _ _ called
    exact steps.trans (ih (doDecSetOrReset_args called ▸ permitted) _ _ _ rest)

theorem modePermits_of_internalBit
    (mapped : mapDecSetBitToInternalBit externalBit = some bit) (origin : permits .origin)
    (widen : externalBit = 69 → permits .widen) : ModePermits permits setting externalBit where
  origin := fun _ _ => origin
  widen := fun margins _ => widen margins
  cursor := by
    rintro rfl
    cases mapped
  screen := by
    rintro (rfl | rfl | rfl) <;> cases mapped

theorem saveOrRecallArgs_steps (host : Host) (saving : Bool) (origin : saving = false → permits .origin)
    (widen : saving = false → 69 ∈ e.mArgs.toList → permits .widen) (count : Nat) (i : Int) :
    Leads (Steps permits) (saveOrRecallArgs host saving count i) e := by
  induction count generalizing e i with
  | zero => exact Leads.pure ()
  | succ count ih =>
    intro _ e' ran
    obtain ⟨externalBit, t, read, rest⟩ := bind_inv ran
    obtain ⟨rfl, listed⟩ := argAt_inv read
    obtain ⟨_, t', called, rest⟩ := bind_inv rest
    split at called
    next =>
      cases called
      exact ih widen _ _ _ rest
    next bit mapped =>
      split at called
      next =>
        cases called
        have later := ih (e := { t with mSavedDecSetFlags := t.mSavedDecSetFlags ||| bit }) widen _ _ _ rest
        exact Steps.trans (.of_quiet rfl) later
      next recalled =>
        obtain ⟨_, _, got, called⟩ := bind_inv called
        cases got
        have off := Bool.eq_false_of_not_eq_true recalled
        have steps := doDecSetOrReset_steps host _ externalBit
          (modePermits_of_internalBit mapped (origin off) fun margins => widen off (margins ▸ listed)) _ _ _ called
        exact steps.trans (ih (doDecSetOrReset_args called ▸ widen) _ _ _ rest)

theorem doSetMode_quiet (newValue : Bool) (e : TerminalEmulator) : Quiet e (doSetMode newValue e) := by
  unfold doSetMode
  repeat' apply Quiet.ite
  all_goals rfl

theorem setTopAndBottomMargins_steps (permitted : permits .margins) (e : TerminalEmulator) :
    Steps permits e e.setTopAndBottomMargins :=
  .one (.rowMargins permitted _ _ rfl (setCursorPosition_position { e with toTerminalCore := _ } 0 0)) rfl

theorem setLeftAndRightMargins_steps (permitted : permits .margins) (e : TerminalEmulator) :
    Steps permits e e.setLeftAndRightMargins :=
  .one (.columnMargins permitted (e.getArg0 1 - 1) _ (by have := e.getArg0_pos; omega) rfl
    (setCursorPosition_position { e with toTerminalCore := _ } 0 0)) rfl

theorem popTitle_quiet (e : TerminalEmulator) : Quiet e e.popTitle := by
  unfold popTitle
  split
  · exact setTitle_quiet _ _
  · rfl

theorem windowManipulation_quiet (e : TerminalEmulator) : Quiet e e.windowManipulation := by
  unfold windowManipulation
  dsimp only
  repeat' apply Quiet.ite
  all_goals first | rfl | exact popTitle_quiet e

theorem deviceStatusReport_quiet (e : TerminalEmulator) : Quiet e e.deviceStatusReport := by
  unfold deviceStatusReport
  repeat' apply Quiet.ite
  all_goals rfl

end Modes

section Sequences

theorem doCsiUnsupportedParameterOrIntermediateByte_quiet (b : Nat) (e : TerminalEmulator) :
    Quiet e (doCsiUnsupportedParameterOrIntermediateByte b e) := by
  unfold doCsiUnsupportedParameterOrIntermediateByte
  split_ifs <;> rfl

theorem clampArgIndex_args (e : TerminalEmulator) : e.clampArgIndex.mArgs = e.mArgs := by
  unfold clampArgIndex
  split <;> rfl

theorem doCsiQuestionMark_steps (host : Host) (b : Nat) (argument : permits .argument)
    (modes : b = 'h'.toNat ∨ b = 'l'.toNat → ∀ mode ∈ e.mArgs.toList, ModePermits permits (decide (b = 'h'.toNat)) mode)
    (origin : b = 'r'.toNat → permits .origin) (recalls : b = 'r'.toNat → 69 ∈ e.mArgs.toList → permits .widen) :
    Leads (Steps permits) (doCsiQuestionMark host b) e := by
  refine Leads.ite (fun _ => selectiveErase_steps _ e) fun _ => Leads.ite (fun mode => ?_) fun _ => ?_
  · refine Leads.bind (Leads.modify (clampArgIndex_steps e)) fun _ t clamped => Leads.get_bind ?_
    cases clamped
    exact doDecSetOrResetArgs_steps host _ (clampArgIndex_args e ▸ modes mode) _ _
  refine Leads.ite (fun _ => Leads.modify ?_) fun _ => Leads.ite (fun mode => ?_) fun _ => ?_
  · split <;> exact .of_quiet rfl
  · refine Leads.bind (Leads.modify (clampArgIndex_steps e)) fun _ t clamped => Leads.get_bind ?_
    cases clamped
    have recalls' : decide (b = 's'.toNat) = false → b = 'r'.toNat := fun off => mode.resolve_right (of_decide_eq_false off)
    exact saveOrRecallArgs_steps host _ (fun off => origin (recalls' off))
      (fun off listed => recalls (recalls' off) (clampArgIndex_args e ▸ listed)) _ _
  · exact Leads.ite (fun _ => Leads.modify (.of_quiet rfl)) fun _ => Leads.modify (parseArg_steps argument b e)

theorem doCsiBiggerThan_steps (argument : permits .argument) (b : Nat) (e : TerminalEmulator) :
    Steps permits e (doCsiBiggerThan b e) := by
  unfold doCsiBiggerThan
  split_ifs
  · exact .of_quiet rfl
  · exact .of_quiet rfl
  · exact parseArg_steps argument b e

theorem doCsiDollar_steps (b : Nat) : Returns (Steps permits) (doCsiDollar b) := by
  refine Returns.ite (fun _ => copyRectangularArea_steps) fun _ => Returns.ite (fun _ => fillRectangularArea_steps _ _ _ _)
    fun _ => Returns.ite (fun _ e => Leads.get_bind (fillRectangularArea_steps _ _ _ _ _)) fun _ => ?_
  refine Returns.ite (fun _ => fillRectangularArea_steps _ _ _ _) fun _ => Returns.ite (fun _ => changeAttributes_steps _)
    fun _ => Returns.ite (fun _ => changeAttributes_steps _) fun _ => Returns.modify fun e => .of_quiet rfl

theorem doCsiDoubleQuote_quiet (b : Nat) (e : TerminalEmulator) : Quiet e (doCsiDoubleQuote b e) := by
  unfold doCsiDoubleQuote
  dsimp only
  split_ifs <;> rfl

theorem doCsiQuestionMarkArgDollar_quiet (b : Nat) (e : TerminalEmulator) :
    Quiet e (doCsiQuestionMarkArgDollar b e) := by
  unfold doCsiQuestionMarkArgDollar
  split <;> rfl

theorem doCsiArgsSpace_quiet (b : Nat) (e : TerminalEmulator) : Quiet e (doCsiArgsSpace b e) := by
  unfold doCsiArgsSpace
  dsimp only
  split_ifs <;> rfl

theorem doCsiArgsAsterix_steps (b : Nat) (e : TerminalEmulator) : Steps permits e (doCsiArgsAsterix b e) := by
  unfold doCsiArgsAsterix
  dsimp only
  split
  · exact setDecsetinternalBit_steps _ _ _ (by decide) (Or.inl (by decide))
  · exact .of_quiet rfl

end Sequences

end TerminalEmulator
