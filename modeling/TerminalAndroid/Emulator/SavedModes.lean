import TerminalAndroid.Emulator.Parameters
import TerminalAndroid.Emulator.Points

open Java Exec Text

namespace TerminalEmulator

def recognisedModes : List Int := [1, 5, 6, 7, 25, 66, 1000, 1002, 1004, 1006, 2004, 69]

def modeSet (flags : BitVec 32) (mode : Int) : Bool :=
  match mapDecSetBitToInternalBit mode with
  | some internalBit => flags &&& internalBit != 0
  | none => false

def rival (mode : Int) : Option Int := if mode = 1000 then some 1002 else if mode = 1002 then some 1000 else none

def setMode (flags : BitVec 32) (mode : Int) : BitVec 32 :=
  match mapDecSetBitToInternalBit mode with
  | some internalBit => decsetFlags flags internalBit true
  | none => flags

section Flags

variable {flags : BitVec 32} {mode other : Int}

theorem map_recognised (member : mode ∈ recognisedModes) :
    mapDecSetBitToInternalBit mode = some (BitVec.twoPow 32 (recognisedModes.idxOf mode)) := by
  revert mode
  decide

theorem map_unrecognised (unknown : mode ∉ recognisedModes) : mapDecSetBitToInternalBit mode = none := by
  simp only [recognisedModes, List.mem_cons, List.not_mem_nil, or_false, not_or] at unknown
  obtain ⟨a, b, c, d, e, f, g, h, i, j, k, l⟩ := unknown
  unfold mapDecSetBitToInternalBit
  rw [if_neg a, if_neg b, if_neg c, if_neg d, if_neg e, if_neg f, if_neg l, if_neg g, if_neg h, if_neg i, if_neg j, if_neg k]

theorem map_isSome_iff (mode : Int) : (mapDecSetBitToInternalBit mode).isSome ↔ mode ∈ recognisedModes := by
  by_cases member : mode ∈ recognisedModes
  · rw [map_recognised member]
    exact iff_of_true rfl member
  · rw [map_unrecognised member]
    exact iff_of_false (by decide) member

theorem idxOf_lt (member : mode ∈ recognisedModes) : recognisedModes.idxOf mode < 32 :=
  Nat.lt_of_lt_of_le (List.idxOf_lt_length_iff.mpr member) (by decide)

theorem getLsbD_twoPow_idxOf (member : other ∈ recognisedModes) (mode : Int) :
    (BitVec.twoPow 32 (recognisedModes.idxOf other)).getLsbD (recognisedModes.idxOf mode) = true ↔ other = mode := by
  rw [BitVec.getLsbD_twoPow, Bool.and_eq_true, decide_eq_true_eq, decide_eq_true_eq, List.idxOf_inj member]
  exact and_iff_right (idxOf_lt member)

theorem modeSet_eq (member : mode ∈ recognisedModes) (flags : BitVec 32) :
    modeSet flags mode = flags.getLsbD (recognisedModes.idxOf mode) := by
  unfold modeSet
  rw [map_recognised member]
  exact and_twoPow_ne_zero flags (idxOf_lt member)

theorem rival_mem {r : Int} (against : rival mode = some r) : r ∈ recognisedModes ∧ rival r = some mode := by
  unfold rival at against
  split at against
  next same =>
    cases against
    rw [same]
    decide
  · split at against
    next same =>
      cases against
      rw [same]
      decide
    · cases against

theorem setMode_eq (member : other ∈ recognisedModes) (flags : BitVec 32) : setMode flags other =
    (match rival other with
    | some r => flags &&& ~~~BitVec.twoPow 32 (recognisedModes.idxOf r)
    | none => flags) ||| BitVec.twoPow 32 (recognisedModes.idxOf other) := by
  simp only [recognisedModes, List.mem_cons, List.not_mem_nil, or_false] at member
  rcases member with rfl | rfl | rfl | rfl | rfl | rfl | rfl | rfl | rfl | rfl | rfl | rfl <;> rfl

theorem modeSet_setMode (member : mode ∈ recognisedModes) (member' : other ∈ recognisedModes) (flags : BitVec 32) :
    modeSet (setMode flags other) mode = true ↔ other = mode ∨ (rival mode ≠ some other ∧ modeSet flags mode = true) := by
  have inside := idxOf_lt member
  rw [modeSet_eq member, setMode_eq member', modeSet_eq member, BitVec.getLsbD_or, Bool.or_eq_true,
    getLsbD_twoPow_idxOf member' mode, or_comm]
  cases against : rival other with
  | none =>
    have peaceful : rival mode ≠ some other := by
      intro rivals
      rw [(rival_mem rivals).2] at against
      cases against
    rw [and_iff_right peaceful]
  | some r =>
    obtain ⟨member'', back⟩ := rival_mem against
    have rivals : rival mode = some other ↔ r = mode := by
      constructor
      · intro rivals
        exact Option.some.inj (against.symm.trans (rival_mem rivals).2)
      · rintro rfl
        exact back
    rw [BitVec.getLsbD_and, BitVec.getLsbD_not, Bool.and_eq_true, Bool.and_eq_true, Bool.not_eq_true', ← Bool.not_eq_true,
      getLsbD_twoPow_idxOf member'' mode, ne_eq, rivals, decide_eq_true_eq, and_iff_right inside, and_comm]

def Prevails (modes : List Int) (mode : Int) : Prop :=
  ∃ before after, modes = before ++ mode :: after ∧ ∀ other ∈ after, rival mode ≠ some other

theorem prevails_snoc (modes : List Int) (mode other : Int) :
    Prevails (modes ++ [other]) mode ↔ other = mode ∨ (rival mode ≠ some other ∧ Prevails modes mode) := by
  constructor
  · rintro ⟨before, after, split, last⟩
    rcases List.eq_nil_or_concat after with rfl | ⟨init, x, rfl⟩
    · exact Or.inl (List.singleton_inj.mp (List.append_inj' split rfl).2)
    · rw [List.concat_eq_append, ← List.cons_append, ← List.append_assoc] at split
      obtain ⟨rest, same⟩ := List.append_inj' split rfl
      cases List.singleton_inj.mp same
      simp only [List.concat_eq_append, List.mem_append, List.mem_singleton] at last
      exact Or.inr ⟨last other (Or.inr rfl), before, init, rest, fun x inside => last x (Or.inl inside)⟩
  · rintro (rfl | ⟨peaceful, before, after, rfl, last⟩)
    · exact ⟨modes, [], rfl, by simp⟩
    · refine ⟨before, after ++ [other], by simp, ?_⟩
      simp only [List.mem_append, List.mem_singleton]
      rintro x (inside | rfl)
      · exact last x inside
      · exact peaceful

/-- Modes that are set one after the other: a mode is set in the end when it prevails, or when it was set before and neither
it nor its rival is named. -/
theorem modeSet_foldl (member : mode ∈ recognisedModes) (modes : List Int) (flags : BitVec 32) :
    modeSet (modes.foldl setMode flags) mode = true ↔
      Prevails modes mode ∨ (mode ∉ modes ∧ (∀ other ∈ modes, rival mode ≠ some other) ∧ modeSet flags mode = true) := by
  induction modes using List.reverseRecOn with
  | nil => simp [Prevails]
  | append_singleton modes other ih =>
    rw [List.foldl_append, List.foldl_cons, List.foldl_nil, prevails_snoc]
    simp only [List.mem_append, List.mem_singleton, not_or, or_imp, forall_and, forall_eq]
    by_cases member' : other ∈ recognisedModes
    · rw [modeSet_setMode member member', ih]
      by_cases same : other = mode
      · simp [same]
      · simp only [same, false_or, Ne.symm same, not_false_eq_true, and_true]
        tauto
    · have same : setMode (modes.foldl setMode flags) other = modes.foldl setMode flags := by
        unfold setMode
        rw [map_unrecognised member']
      have differ : ¬ other = mode := fun same => member' (same ▸ member)
      have peaceful : rival mode ≠ some other := fun rivals => member' (rival_mem rivals).1
      rw [same, ih]
      simp only [differ, false_or, Ne.symm differ, not_false_eq_true, and_true, peaceful, ne_eq, true_and]

end Flags

variable {e e' e'' : TerminalEmulator} {host : Host} {text : List Nat}

structure SameSaved (e e' : TerminalEmulator) : Prop where
  saved : e'.mSavedDecSetFlags = e.mSavedDecSetFlags
  continues : e'.mContinueSequence = e.mContinueSequence

namespace SameSaved

instance : Std.Refl SameSaved := ⟨fun _ => ⟨rfl, rfl⟩⟩

instance : IsTrans TerminalEmulator SameSaved :=
  ⟨fun _ _ _ first second => ⟨second.saved.trans first.saved, second.continues.trans first.continues⟩⟩

theorem onScreen {α : Type} (method : BufferM α) : Returns SameSaved (onScreen method) := by
  intro e a e' ran
  obtain ⟨buffer, -, rfl⟩ := zoom_inv ran
  exact ⟨rfl, rfl⟩

theorem blockClear (sx sy w h : Int) : Returns SameSaved (blockClear sx sy w h) := fun _ => Leads.get_bind (onScreen _ _)

theorem resizeScreen : Returns SameSaved resizeScreen := fun _ =>
  Leads.get_bind (Leads.bind (onScreen _ _) fun _ _ _ => Leads.modify ⟨rfl, rfl⟩)

theorem restoreMainCursor (resized : Bool) (e : TerminalEmulator) : SameSaved e (restoreMainCursor resized e) := by
  unfold TerminalEmulator.restoreMainCursor
  cases resized <;> exact ⟨rfl, rfl⟩

theorem switchScreen (setting : Bool) : Returns SameSaved (switchScreen setting) := by
  refine fun e => Leads.get_bind (Leads.ite (fun _ => ?_) fun _ => Leads.pure ())
  refine Leads.bind (Leads.modify ?_) fun _ e₁ _ => Leads.bind (Leads.ite (fun _ => Leads.pure ()) fun _ => ?_)
    fun _ e₂ _ => Leads.bind (Leads.ite (fun _ => resizeScreen e₂) fun _ => Leads.pure ()) fun _ e₃ _ =>
      Leads.ite (fun _ => Leads.get_bind (onScreen _ _)) fun _ => Leads.pure ()
  · cases setting <;> exact ⟨rfl, rfl⟩
  · exact Leads.modify (restoreMainCursor _ _)

theorem doDecSetOrReset (setting : Bool) (mode : Int) : Returns SameSaved (doDecSetOrReset host setting mode) := by
  have flags : ∀ e : TerminalEmulator, SameSaved e (match mapDecSetBitToInternalBit mode with
      | some internalBit => e.setDecsetinternalBit internalBit setting
      | none => e) := by
    intro e
    split <;> exact ⟨rfl, rfl⟩
  refine Returns.bind (Returns.modify flags) fun _ => Returns.ite (fun _ => Returns.pure ()) fun _ =>
    Returns.ite (fun _ => ?_) fun _ => Returns.ite (fun _ => ?_) fun _ => Returns.ite (fun _ => ?_) fun _ =>
    Returns.ite (fun _ => Returns.pure ()) fun _ => Returns.ite (fun _ => ?_) fun _ =>
    Returns.ite (fun _ => Returns.pure ()) fun _ => Returns.ite (fun _ => ?_) fun _ =>
    Returns.ite (fun _ => switchScreen setting) fun _ => Returns.ite (fun _ => Returns.pure ()) fun _ =>
      Returns.modify fun _ => ⟨rfl, rfl⟩
  · exact Returns.bind (Returns.modify fun _ => ⟨rfl, rfl⟩) fun _ e => Leads.get_bind
      (Leads.bind (blockClear _ _ _ _ e) fun _ _ _ => Leads.modify ⟨rfl, rfl⟩)
  · exact Returns.ite (fun _ => Returns.modify fun _ => ⟨rfl, rfl⟩) fun _ => Returns.pure ()
  · exact Returns.ite (fun _ => Returns.modify fun _ => ⟨rfl, rfl⟩) fun _ => Returns.pure ()
  · exact Returns.ite (fun _ => Returns.modify fun _ => ⟨rfl, rfl⟩) fun _ => Returns.pure ()
  · cases setting
    · exact Returns.modify fun _ => ⟨rfl, rfl⟩
    · exact Returns.modify fun _ => ⟨rfl, rfl⟩

theorem argAt (i : Int) : Returns SameSaved (argAt i) := fun _ => Leads.get_bind ((readArray_same _ _).of_same _)

theorem doDecSetOrResetArgs (setting : Bool) (count : Nat) (i : Int) :
    Returns SameSaved (doDecSetOrResetArgs host setting count i) := by
  induction count generalizing i with
  | zero => exact Returns.pure ()
  | succ count ih => exact Returns.bind (argAt i) fun mode => Returns.bind (doDecSetOrReset setting mode) fun _ => ih _

end SameSaved

section Changes

/-- DECSET or DECRST with the text of its parameters. -/
structure ModeChange where
  text : List Nat
  setting : Bool
  parameters : ∀ x ∈ text, IsParameter x

def ModeChange.points (change : ModeChange) : List Nat :=
  27 :: '['.toNat :: '?'.toNat :: (change.text ++ [if change.setting then 'h'.toNat else 'l'.toNat])

theorem ModeChange.keeps (change : ModeChange) (starts : e.StartsSequence)
    (ran : (receive host change.points).run e = .ok () e') :
    e'.StartsSequence ∧ e'.mSavedDecSetFlags = e.mSavedDecSetFlags := by
  have final : (if change.setting then 'h'.toNat else 'l'.toNat) = 'h'.toNat ∨
      (if change.setting then 'h'.toNat else 'l'.toNat) = 'l'.toNat := by
    split
    · exact Or.inl rfl
    · exact Or.inr rfl
  unfold points at ran
  rw [← List.cons_append, ← List.cons_append, ← List.cons_append, receive_append, EStateM.run_bind,
    run_csi_private starts change.parameters] at ran
  obtain ⟨_, t, last, rest⟩ := bind_inv ran
  cases rest
  obtain ⟨e₁, modes, rfl⟩ := processCodePoint_modes final rfl last
  obtain ⟨saved, continues⟩ : SameSaved (clampArgIndex (e.finishing .csiQuestionmark change.text)) e₁ :=
    SameSaved.doDecSetOrResetArgs _ _ _ _ _ _ modes
  rw [clampArgIndex_finishing] at saved continues
  have ended : e₁.finishModes = e₁.finishSequence := if_neg (by rw [continues]; exact Bool.false_ne_true)
  rw [ended]
  exact ⟨startsSequence_of_none rfl, saved⟩

theorem changes_keep (changes : List ModeChange) (starts : e.StartsSequence)
    (ran : (receive host (changes.flatMap ModeChange.points)).run e = .ok () e') :
    e'.StartsSequence ∧ e'.mSavedDecSetFlags = e.mSavedDecSetFlags := by
  induction changes generalizing e with
  | nil =>
    cases ran
    exact ⟨starts, rfl⟩
  | cons change changes ih =>
    rw [List.flatMap_cons, receive_append] at ran
    obtain ⟨_, e₁, first, rest⟩ := bind_inv ran
    obtain ⟨starts₁, same⟩ := change.keeps starts first
    obtain ⟨starts', same'⟩ := ih starts₁ rest
    exact ⟨starts', same'.trans same⟩

end Changes

section SaveRestore

def saveOrRecall (host : Host) (saving : Bool) (mode : Int) : EmulatorM Unit :=
  match mapDecSetBitToInternalBit mode with
  | none => pure ()
  | some internalBit =>
    if saving then modify fun e => { e with mSavedDecSetFlags := e.mSavedDecSetFlags ||| internalBit }
    else do
      let e ← get
      doDecSetOrReset host (e.mSavedDecSetFlags &&& internalBit != 0) mode

theorem ends_saveOrRecallArgs {saving : Bool} {I : List Int → TerminalEmulator → Prop} {args : Vector Int 32} {total : Nat}
    (step : ∀ seen mode (e : TerminalEmulator), mode ∈ args.toList.take total → e.mArgs = args → I seen e →
      Ends (fun _ e' => e'.mArgs = args ∧ I (seen ++ [mode]) e') (saveOrRecall host saving mode) e)
    {count i : Nat} (upTo : i + count = total) (bound : total ≤ 32) (same : e.mArgs = args) {seen : List Int}
    (before : I seen e) :
    Ends (fun _ e' => I (seen ++ (args.toList.take total).drop i) e') (saveOrRecallArgs host saving count i) e := by
  induction count generalizing i e seen with
  | zero =>
    rw [List.drop_eq_nil_of_le (by simp; omega), List.append_nil]
    exact Ends.pure before
  | succ count ih =>
    have inside : i < (args.toList.take total).length := by simp; omega
    have here : (args.toList.take total)[i] = args.get ⟨i, by omega⟩ := by
      rw [List.getElem_take]
      rfl
    have read : Ends (fun mode e' => mode = (args.toList.take total)[i] ∧ e' = e) (argAt i) e :=
      ⟨_, e, run_argAt_get e (by omega), by rw [here, same], rfl⟩
    rw [List.drop_eq_getElem_cons inside]
    refine Ends.bind read ?_
    rintro mode e₁ ⟨rfl, rfl⟩
    refine Ends.bind (step seen _ e₁ (List.getElem_mem inside) same before) fun _ e₂ after => ?_
    have rest := ih (i := i + 1) (by omega) after.1 after.2
    rw [List.append_assoc, List.singleton_append] at rest
    exact rest

def takenModes (text : List Nat) : List Int := (argumentsOf text).toList.take (min (text.filter isSeparator).length 31 + 1)

structure SetsMode (mode : Int) (e e' : TerminalEmulator) : Prop extends SameSaved e e' where
  args : e'.mArgs = e.mArgs
  flags : e'.mCurrentDecSetFlags = setMode e.mCurrentDecSetFlags mode

theorem SetsMode.cursorEvent {mode : Int} (sets : SetsMode mode e e') : Ends (fun _ => SetsMode mode e)
    (if host.getTerminalCursorStyle.isSome then modify fun e => e.raise (.onTerminalCursorStateChange true)
      else pure () : EmulatorM Unit) e' :=
  Ends.ite (fun _ => Ends.modify { sets with }) fun _ => Ends.pure sets

theorem ends_doDecSetOrReset {mode : Int} (member : mode ∈ recognisedModes) :
    Ends (fun _ => SetsMode mode e) (doDecSetOrReset host true mode) e := by
  simp only [recognisedModes, List.mem_cons, List.not_mem_nil, or_false] at member
  rcases member with rfl | rfl | rfl | rfl | rfl | rfl | rfl | rfl | rfl | rfl | rfl | rfl
  -- the client hears of the cursor after the modes 7 and 25
  case inr.inr.inr.inl => exact Ends.modify_bind (SetsMode.cursorEvent ⟨⟨rfl, rfl⟩, rfl, rfl⟩)
  case inr.inr.inr.inr.inl => exact Ends.modify_bind (SetsMode.cursorEvent ⟨⟨rfl, rfl⟩, rfl, rfl⟩)
  all_goals exact ⟨(), _, rfl, ⟨rfl, rfl⟩, rfl, rfl⟩

theorem modeSet_or {mode other : Int} (member : mode ∈ recognisedModes) (member' : other ∈ recognisedModes)
    (flags : BitVec 32) : modeSet (flags ||| BitVec.twoPow 32 (recognisedModes.idxOf other)) mode = true ↔
      other = mode ∨ modeSet flags mode = true := by
  rw [modeSet_eq member, modeSet_eq member, BitVec.getLsbD_or, Bool.or_eq_true, getLsbD_twoPow_idxOf member' mode, or_comm]

theorem run_saveOrRecall {saving : Bool} {I : List Int → TerminalEmulator → Prop} (starts : e.StartsSequence)
    (parameters : ∀ x ∈ text, IsParameter x)
    (step : ∀ seen mode (e : TerminalEmulator), mode ∈ takenModes text → e.mArgs = argumentsOf text → I seen e →
      Ends (fun _ e' => e'.mArgs = argumentsOf text ∧ I (seen ++ [mode]) e') (saveOrRecall host saving mode) e)
    (before : I [] (e.finishing .csiQuestionmark text))
    (ended : ∀ (e' : TerminalEmulator), I (takenModes text) e' → e'.mContinueSequence = false) :
    ∃ e', (receive host (27 :: '['.toNat :: '?'.toNat :: (text ++ [if saving then 's'.toNat else 'r'.toNat]))).run e =
      .ok () e'.finishSequence ∧ I (takenModes text) e' := by
  have start : (doCsiQuestionMark host (if saving then 's'.toNat else 'r'.toNat)).run (e.finishing .csiQuestionmark text) =
      (saveOrRecallArgs host saving ((e.finishing .csiQuestionmark text).mArgIndex + 1).toNat 0).run
        (e.finishing .csiQuestionmark text) := by
    cases saving <;>
    · change (do
        modify clampArgIndex
        let e ← get
        saveOrRecallArgs host _ (e.mArgIndex + 1).toNat 0 : EmulatorM Unit).run _ = _
      rw [EStateM.run_bind, EStateM.run_modify, clampArgIndex_finishing]
      rfl
  have count : ((e.finishing .csiQuestionmark text).mArgIndex + 1).toNat = min (text.filter isSeparator).length 31 + 1 := by
    unfold finishing reading
    dsimp only
    omega
  unfold takenModes at *
  obtain ⟨⟨⟩, e', ran, holds⟩ := @ends_saveOrRecallArgs (e.finishing .csiQuestionmark text) host saving I (argumentsOf text)
    (min (text.filter isSeparator).length 31 + 1) step _ 0 (Nat.zero_add _) (by omega) rfl [] before
  rw [List.nil_append, List.drop_zero] at holds
  refine ⟨e', run_csi_private_final starts parameters (by cases saving <;> decide) ?_ (ended e' holds), holds⟩
  rw [start, count]
  exact ran

theorem run_saveModes (starts : e.StartsSequence) (parameters : ∀ x ∈ text, IsParameter x) :
    ∃ e', (receive host (27 :: '['.toNat :: '?'.toNat :: (text ++ ['s'.toNat]))).run e = .ok () e' ∧ e'.StartsSequence ∧
      e'.mCurrentDecSetFlags = e.mCurrentDecSetFlags ∧
      ∀ mode ∈ takenModes text, mode ∈ recognisedModes → modeSet e'.mSavedDecSetFlags mode = true := by
  let I (seen : List Int) (e' : TerminalEmulator) : Prop :=
    e'.mContinueSequence = false ∧ e'.mCurrentDecSetFlags = e.mCurrentDecSetFlags ∧
      ∀ mode ∈ seen, mode ∈ recognisedModes → modeSet e'.mSavedDecSetFlags mode = true
  have step : ∀ seen mode (e : TerminalEmulator), mode ∈ takenModes text → e.mArgs = argumentsOf text → I seen e →
      Ends (fun _ e' => e'.mArgs = argumentsOf text ∧ I (seen ++ [mode]) e') (saveOrRecall host true mode) e := by
    rintro seen mode e₁ - args ⟨continues, flags, saved⟩
    unfold saveOrRecall
    by_cases member : mode ∈ recognisedModes
    · rw [map_recognised member]
      refine Ends.modify ⟨args, continues, flags, ?_⟩
      simp only [List.mem_append, List.mem_singleton]
      rintro other (inside | rfl) member'
      · exact (modeSet_or member' member _).mpr (Or.inr (saved other inside member'))
      · exact (modeSet_or member' member' _).mpr (Or.inl rfl)
    · rw [map_unrecognised member]
      refine Ends.pure ⟨args, continues, flags, ?_⟩
      simp only [List.mem_append, List.mem_singleton]
      rintro other (inside | rfl) member'
      · exact saved other inside member'
      · exact absurd member' member
  obtain ⟨e', ran, -, flags, saved⟩ := run_saveOrRecall starts parameters step ⟨rfl, rfl, by simp⟩ fun _ holds => holds.1
  exact ⟨_, ran, startsSequence_of_none rfl, flags, saved⟩

theorem run_restoreModes (starts : e.StartsSequence) (parameters : ∀ x ∈ text, IsParameter x)
    (saved : ∀ mode ∈ takenModes text, mode ∈ recognisedModes → modeSet e.mSavedDecSetFlags mode = true) :
    ∃ e', (receive host (27 :: '['.toNat :: '?'.toNat :: (text ++ ['r'.toNat]))).run e = .ok () e' ∧
      e'.mCurrentDecSetFlags = (takenModes text).foldl setMode e.mCurrentDecSetFlags := by
  let I (seen : List Int) (e' : TerminalEmulator) : Prop :=
    SameSaved (e.finishing .csiQuestionmark text) e' ∧
      e'.mCurrentDecSetFlags = seen.foldl setMode e.mCurrentDecSetFlags
  have step : ∀ seen mode (e : TerminalEmulator), mode ∈ takenModes text → e.mArgs = argumentsOf text → I seen e →
      Ends (fun _ e' => e'.mArgs = argumentsOf text ∧ I (seen ++ [mode]) e') (saveOrRecall host false mode) e := by
    rintro seen mode e₁ taken args ⟨same, flags⟩
    unfold saveOrRecall
    by_cases member : mode ∈ recognisedModes
    · have given : (e₁.mSavedDecSetFlags &&& BitVec.twoPow 32 (recognisedModes.idxOf mode) != 0) = true := by
        have found := saved mode taken member
        rw [same.saved]
        rw [modeSet, map_recognised member] at found
        exact found
      rw [map_recognised member]
      refine Ends.get_bind ?_
      rw [given]
      refine (ends_doDecSetOrReset member).mono fun _ e₂ sets => ⟨sets.args.trans args, ?_, ?_⟩
      · exact IsTrans.trans _ _ _ same sets.toSameSaved
      · rw [sets.flags, flags, List.foldl_append]
        rfl
    · have ignored : setMode (seen.foldl setMode e.mCurrentDecSetFlags) mode = seen.foldl setMode e.mCurrentDecSetFlags := by
        rw [setMode, map_unrecognised member]
      rw [map_unrecognised member]
      refine Ends.pure ⟨args, same, ?_⟩
      rw [flags, List.foldl_append, List.foldl_cons, List.foldl_nil, ignored]
  obtain ⟨e', ran, -, flags⟩ := run_saveOrRecall starts parameters step ⟨⟨rfl, rfl⟩, rfl⟩ fun _ holds => holds.1.continues
  exact ⟨_, ran, flags⟩

def namedModes (text : List Nat) : List Int := (fields text).map argument

def saveModes (text : List Nat) : List Nat := 27 :: '['.toNat :: '?'.toNat :: (text ++ ['s'.toNat])

def restoreModes (text : List Nat) : List Nat := 27 :: '['.toNat :: '?'.toNat :: (text ++ ['r'.toNat])

/-- Every mode that is named was set when it was saved, except for a mouse mode whose rival is named behind it. Of the modes
past the last parameter the restoring knows nothing. -/
def SavedAsSet (text : List Nat) (flags before : BitVec 32) : Prop :=
  ∀ mode ∈ namedModes text, modeSet flags mode = true ↔ Prevails (takenModes text) mode ∨
    (mode ∉ takenModes text ∧ (∀ other ∈ takenModes text, rival mode ≠ some other) ∧ modeSet before mode = true)

/-- What is restored after `CSI ? Pm s`, any number of DECSET and DECRST sequences, and `CSI ? Pm r`. -/
theorem modes_restored_iff (host : Host) (e : TerminalEmulator) (starts : e.StartsSequence) (text : List Nat)
    (parameters : ∀ x ∈ text, IsParameter x)
    (recognised : ∀ mode ∈ namedModes text, (mapDecSetBitToInternalBit mode).isSome) :
    ∃ e₁, (receive host (saveModes text)).run e = .ok () e₁ ∧
      ∀ (changes : List ModeChange) (e₂ : TerminalEmulator),
        (receive host (changes.flatMap ModeChange.points)).run e₁ = .ok () e₂ →
        ∃ e₃, (receive host (restoreModes text)).run e₂ = .ok () e₃ ∧
          ((∀ mode ∈ namedModes text, modeSet e₃.mCurrentDecSetFlags mode = modeSet e.mCurrentDecSetFlags mode) ↔
            SavedAsSet text e.mCurrentDecSetFlags e₂.mCurrentDecSetFlags) := by
  obtain ⟨e₁, ran₁, starts₁, -, saved⟩ := @run_saveModes e host text starts parameters
  refine ⟨e₁, ran₁, fun changes e₂ ran₂ => ?_⟩
  obtain ⟨starts₂, same⟩ := changes_keep changes starts₁ ran₂
  rw [← same] at saved
  obtain ⟨e₃, ran₃, flags⟩ := @run_restoreModes e₂ host text starts₂ parameters saved
  refine ⟨e₃, ran₃, forall₂_congr fun mode named => ?_⟩
  rw [flags, Bool.eq_iff_iff, modeSet_foldl ((map_isSome_iff mode).mp (recognised mode named))]
  exact Iff.comm

theorem modes_restored_iff_paste : ∃ e₁, (receive plainHost (saveModes (chars "2004;25"))).run (filledWith 4 2 120) = .ok () e₁ ∧
    ∀ (changes : List ModeChange) (e₂ : TerminalEmulator),
      (receive plainHost (changes.flatMap ModeChange.points)).run e₁ = .ok () e₂ →
      ∃ e₃, (receive plainHost (restoreModes (chars "2004;25"))).run e₂ = .ok () e₃ ∧
        ((∀ mode ∈ namedModes (chars "2004;25"),
            modeSet e₃.mCurrentDecSetFlags mode = modeSet (filledWith 4 2 120).mCurrentDecSetFlags mode) ↔
          SavedAsSet (chars "2004;25") (filledWith 4 2 120).mCurrentDecSetFlags e₂.mCurrentDecSetFlags) :=
  modes_restored_iff plainHost (filledWith 4 2 120) ⟨by decide, by decide, by decide⟩ (chars "2004;25") (by decide) (by decide)

/-- A mode that was off when it was saved is on when it is restored. -/
theorem modes_restored_on : ∃ e₁ e₂, (receive plainHost (saveModes (chars "2004"))).run (filledWith 4 2 120) = .ok () e₁ ∧
    (receive plainHost (restoreModes (chars "2004"))).run e₁ = .ok () e₂ ∧
      modeSet (filledWith 4 2 120).mCurrentDecSetFlags 2004 = false ∧ modeSet e₂.mCurrentDecSetFlags 2004 = true := by
  obtain ⟨e₁, ran₁, starts₁, flags₁, saved⟩ := @run_saveModes (filledWith 4 2 120) plainHost (chars "2004")
    ⟨by decide, by decide, by decide⟩ (by decide)
  obtain ⟨e₂, ran₂, flags₂⟩ := @run_restoreModes e₁ plainHost (chars "2004") starts₁ (by decide) saved
  refine ⟨e₁, e₂, ran₁, ran₂, by decide, ?_⟩
  rw [flags₂, flags₁]
  decide

end SaveRestore

end TerminalEmulator
