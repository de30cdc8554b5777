import TerminalAndroid.Emulator.Appended

open Java Exec

namespace TerminalCore

def Pending (c : TerminalCore) : Prop := c.mAboutToAutoWrap = true → c.mCursorCol = c.mRightMargin - 1

instance (c : TerminalCore) : Decidable c.Pending := inferInstanceAs (Decidable (_ → _))

variable {permits : Label → Prop} {c : TerminalCore}

theorem Moves.pending {row col : Int} {about : Bool} (move : Moves permits c row col about) (bounded : c.Bounded)
    (back : ¬ permits .back) (tab : permits .tab → permits .holdTab → c.mAboutToAutoWrap = false) (pending : c.Pending) :
    (c.moved row col about).Pending := by
  have width := bounded.width
  intro on
  change about = true at on
  show col = c.mRightMargin - 1
  cases move with
  | previousRow below => exact pending on
  | nextRow above => exact pending on
  | tab _ _ stop held =>
    rcases held with off | ⟨same, hold⟩
    · exact absurd (on.symm.trans off) nofun
    · have last := pending (same.symm.trans on)
      rcases stop with rfl | inside | ⟨-, -, beyond⟩
      · rfl
      · omega
      · exact absurd (on.symm.trans (same.trans (tab beyond hold))) nofun
  | backTab _ stop permitted =>
    have last := pending on
    have narrow : ¬ c.mLeftMargin + 1 < c.mRightMargin := fun wide => back (permitted on wide)
    rcases stop with rfl | ⟨i, lower, upper, rfl⟩ <;> omega
  | left inside permitted => exact absurd (permitted on) back
  | right inside =>
    have last := pending on
    omega
  | advance width small _ kept permitted =>
    rcases kept with same | ⟨wide, full⟩
    · have last := pending (same.symm.trans on)
      omega
    · have last := of_decide_eq_true (full.symm.trans on)
      omega
  | _ => cases on

theorem Moves.about {row col : Int} {about : Bool} (move : Moves permits c row col about) (on : about = true) :
    c.mAboutToAutoWrap = true ∨ permits .emit := by
  cases move with
  | previousRow | nextRow | backTab | left | right => exact Or.inl on
  | tab _ _ stop held =>
    rcases held with off | ⟨same, -⟩
    · exact absurd (on.symm.trans off) nofun
    · exact Or.inl (same.symm.trans on)
  | advance _ _ _ _ permitted => exact Or.inr permitted
  | _ => cases on

end TerminalCore

namespace TerminalEmulator

open TerminalCore

variable {host : Host} {permits : Label → Prop} {c c' : TerminalCore} {e e' : TerminalEmulator}

theorem Effect.about (effect : Effect permits c c') (sized : c.Sized) (on : c'.mAboutToAutoWrap = true) :
    (c.mAboutToAutoWrap = true ∨ permits .emit) ∧
      (c.mRightMargin = c.mColumns → c'.mRightMargin = c'.mColumns) := by
  cases effect with
  | draws drawing ran =>
    unfold withScreen at on ⊢
    split at on <;> exact ⟨Or.inl on, id⟩
  | moves move => exact ⟨move.about on, id⟩
  | saves =>
    unfold withSavedState at on ⊢
    split at on <;> exact ⟨Or.inl on, id⟩
  | resetsColumnMargins => exact ⟨Or.inl on, fun _ => rfl⟩
  | switches setting permitted ran =>
    rcases (switchScreen_inv ran).plain sized with rfl | ⟨-, -, state, buffer, -, -, -, -, core⟩ | ⟨-, -, rfl⟩
    · exact ⟨Or.inl on, id⟩
    · rw [core] at on ⊢
      exact ⟨Or.inl on, id⟩
    · cases on
  | clearsTranscript | flags | tabStops | startsArgs | resetsArgIndex | digit | nextArg | clampsArgIndex | idles |
      resetsSaved => exact ⟨Or.inl on, id⟩
  | _ => cases on

theorem Effect.pending (effect : Effect permits c c') (sized : c.Sized) (back : ¬ permits .back)
    (tab : permits .tab → permits .holdTab → c.mAboutToAutoWrap = false)
    (widen : permits .widen → c.mAboutToAutoWrap = true → c.mRightMargin = c.mColumns) (pending : c.Pending) :
    c'.Pending := by
  cases effect with
  | draws drawing ran =>
    unfold withScreen
    cases c.mScreen <;> exact pending
  | moves move => exact move.pending sized.toBounded back tab pending
  | saves =>
    unfold withSavedState
    cases c.mScreen <;> exact pending
  | resetsColumnMargins permitted =>
    intro on
    have last := pending on
    rwa [widen permitted on] at last
  | switches setting permitted ran =>
    rcases (switchScreen_inv ran).plain sized with rfl | ⟨-, -, state, buffer, -, -, -, -, core⟩ | ⟨-, -, rfl⟩
    · exact pending
    · rw [core]
      exact pending
    · exact nofun
  | clearsTranscript | flags | tabStops | startsArgs | resetsArgIndex | digit | nextArg | clampsArgIndex | idles |
      resetsSaved => exact pending
  | _ => exact nofun

/-- The code points that move the cursor away from the right margin, or the margin away from the cursor, and leave a
    pending wrap as it is: HT to a tab stop behind the margin, CBT, DECBI and the reset of DECLRMM. -/
def Strands (e : TerminalEmulator) (b : Nat) : Prop :=
  (b = 9 ∧ true ∈ e.mTabStop.drop e.mRightMargin.toNat) ∨
  (e.mEscapeState = .csi ∧ b = 'Z'.toNat ∧ e.mLeftMargin + 1 < e.mRightMargin) ∨
  (e.mEscapeState = .esc ∧ b = '6'.toNat ∧ e.mLeftMargin + 1 < e.mRightMargin) ∨
  (e.mEscapeState = .csiQuestionmark ∧ (b = 'l'.toNat ∨ b = 'r'.toNat) ∧ 69 ∈ e.mArgs.toList ∧
    e.mRightMargin ≠ e.mColumns)

theorem SameSettings.strands {b : Nat} (same : SameSettings e e') (strands : e'.Strands b) : e.Strands b := by
  unfold Strands at *
  rwa [same.state, same.args, same.columns, same.left, same.right, same.tabStops] at strands

theorem nthTabStop_mem {stops : List Bool} {n : Int} {k : Nat} (nth : k ∈ nthTabStop stops n) : true ∈ stops := by
  induction stops generalizing n k with
  | nil => cases nth
  | cons stop stops ih =>
    cases stop with
    | true => exact List.mem_cons_self
    | false =>
      obtain ⟨k', later, -⟩ := Option.map_eq_some_iff.mp nth
      exact List.mem_cons_of_mem _ (ih later)

section

variable {b : Nat}

theorem Permitted.holdTab_not_emit (permitted : Permitted e b .holdTab) : ¬ Permitted e b .emit := by
  cases permitted with
  | holdTab control =>
    rintro ⟨emits⟩
    rcases emits with ⟨-, printable⟩ | cancel | cancel | ⟨-, final⟩
    · omega
    · omega
    · omega
    · exact absurd (control.symm.trans final) (by decide)

theorem Permitted.widen_not_emit (permitted : Permitted e b .widen) : ¬ Permitted e b .emit := by
  cases permitted with
  | widen state final mode =>
    rintro ⟨emits⟩
    rcases emits with ⟨ground, -⟩ | cancel | cancel | ⟨csi, -⟩
    · exact absurd (state.symm.trans ground) nofun
    · rcases final with final | final <;> exact absurd (cancel.symm.trans final) (by decide)
    · rcases final with final | final <;> exact absurd (cancel.symm.trans final) (by decide)
    · exact absurd (state.symm.trans csi) nofun

variable (pending : e.Pending) (kept : e.mAboutToAutoWrap = true → ¬ e.Strands b)
include pending kept

theorem not_permitted_back : ¬ Permitted e b .back := by
  intro permitted
  cases permitted with
  | back on final =>
    have last := pending on
    refine kept on ?_
    rcases final with ⟨state, final, wide⟩ | ⟨state, final, inside⟩
    · exact Or.inr (Or.inl ⟨state, final, wide⟩)
    · exact Or.inr (Or.inr (Or.inl ⟨state, final, by omega⟩))

theorem Permitted.tab_settled (permitted : Permitted e b .tab) (held : Permitted e b .holdTab) :
    e.mAboutToAutoWrap = false := by
  apply Bool.eq_false_of_not_eq_true
  intro on
  have last := pending on
  cases held with
  | holdTab control =>
    cases permitted with
    | tab final =>
      rcases final with ⟨-, k, nth, -⟩ | ⟨-, final, -⟩
      · refine kept on (Or.inl ⟨control, ?_⟩)
        rw [last, Int.sub_add_cancel] at nth
        exact nthTabStop_mem nth
      · exact absurd (control.symm.trans final) (by decide)

omit pending in
theorem Permitted.widen_margin (permitted : Permitted e b .widen) (on : e.mAboutToAutoWrap = true) :
    e.mRightMargin = e.mColumns := by
  cases permitted with
  | widen state final mode =>
    exact not_not.mp fun narrow => kept on (Or.inr (Or.inr (Or.inr ⟨state, final, mode, narrow⟩)))

end

theorem processCodePoint_pending {b : Nat} (sized : e.Sized) (pending : e.Pending)
    (kept : ¬ e.Ignoring → e.mAboutToAutoWrap = true → ¬ e.Strands b)
    (ran : (processCodePoint host b).run e = .ok () e') : e'.Sized ∧ e'.Pending := by
  by_cases ignoring : e.Ignoring
  · rw [processCodePoint_quiet host b ignoring () e' ran]
    exact ⟨sized, pending⟩
  have kept := kept ignoring
  have steps := (processCodePoint_steps host b () e' ran).mono fun label (permitted : _ ∧ _) => permitted.2
  have all := steps.keeps (I := fun c => c.Sized ∧ c.Pending ∧ (c.mAboutToAutoWrap = true → Permitted e b .emit ∨
      (e.mAboutToAutoWrap = true ∧ (e.mRightMargin = e.mColumns → c.mRightMargin = c.mColumns)))) ?_
      ⟨sized, pending, fun on => Or.inr ⟨on, id⟩⟩
  · exact ⟨all.1, all.2.1⟩
  rintro c c' effect ⟨sized, inside, before⟩
  refine ⟨Effect.sized effect sized, Effect.pending effect sized (not_permitted_back pending kept) ?_ ?_ inside, ?_⟩
  · intro tab held
    apply Bool.eq_false_of_not_eq_true
    intro on
    rcases before on with emits | ⟨on, -⟩
    · exact held.holdTab_not_emit emits
    · exact absurd (on.symm.trans (tab.tab_settled pending kept held)) nofun
  · intro widen on
    rcases before on with emits | ⟨on, edge⟩
    · exact absurd emits widen.widen_not_emit
    · exact edge (widen.widen_margin kept on)
  · intro on
    obtain ⟨source, edge'⟩ := Effect.about effect sized on
    rcases source with on | emits
    · exact (before on).imp id fun ⟨on, edge⟩ => ⟨on, fun full => edge' (edge full)⟩
    · exact Or.inl emits

theorem not_strands_of_beyond {b : Nat} (beyond : 128 ≤ b) : ¬ e.Strands b := by
  have ascii : ∀ char : Char, char.toNat < 128 → b ≠ char.toNat := by omega
  rintro (⟨control, -⟩ | ⟨-, final, -⟩ | ⟨-, final, -⟩ | ⟨-, final | final, -⟩)
  · omega
  · exact ascii 'Z' (by decide) final
  · exact ascii '6' (by decide) final
  · exact ascii 'l' (by decide) final
  · exact ascii 'r' (by decide) final

/-- A byte that leaves no wrap pending away from the right margin. The replacement character of a sequence that the byte
    cuts short can make a wrap pending first. -/
def KeepsPending (e : TerminalEmulator) (byte : UInt8) : Prop :=
  ¬ e.Ignoring → e.mAboutToAutoWrap = true ∨ 0 < e.mUtf8ToFollow → ¬ e.Strands byte.toNat

theorem processByte_pending {byte : UInt8} (decodes : e.decoder.Valid) (sized : e.Sized) (pending : e.Pending)
    (keeps : e.KeepsPending byte) (ran : (processByte host byte).run e = .ok () e') : e'.Sized ∧ e'.Pending := by
  refine processByte_leads (R := Keeps fun e : TerminalEmulator => e.Sized ∧ e.Pending)
    (fun e d kept => ⟨{ kept.1 with }, kept.2⟩) ?_ ?_ decodes ?_ ?_ () e' ran ⟨sized, pending⟩
  · intro e _ e' ran kept
    refine (emitCodePoint_emits _ _ _ _ ran).keeps (I := fun c => c.Sized ∧ c.Pending) (fun c c' effect kept => ?_) kept
    exact ⟨Effect.sized effect kept.1, Effect.pending effect kept.1 nofun nofun nofun kept.2⟩
  · intro codePoint beyond e _ e' ran kept
    exact processCodePoint_pending kept.1 kept.2 (fun _ _ => not_strands_of_beyond beyond) ran
  · intro _ idle _ e' ran kept
    exact processCodePoint_pending kept.1 kept.2 (fun outside on => keeps outside (Or.inl on)) ran
  · intro _ inside t emitted _ e' ran kept
    have same : SameSettings _ t := emitCodePoint_sameSettings _ _ _ _ emitted
    refine processCodePoint_pending kept.1 kept.2 (fun outside _ strands => ?_) ran
    exact keeps (fun ignoring => outside (same.ignoring.mpr ignoring)) (Or.inr inside) (same.strands strands)

/-- In every run without a byte that strands a pending wrap it waits at the right margin. -/
theorem appended_pending (reached : Appended host KeepsPending e) : e.Pending := by
  have kept : e.Sized ∧ e.Pending := by
    induction reached with
    | create wide high created =>
      refine ⟨create_sized wide high created, fun on => ?_⟩
      obtain ⟨_, _, _, _, _, -, -, -, core⟩ := create_core created
      rw [core] at on
      cases on
    | process reached keeps ran ih => exact processByte_pending reached.reaches.decoder_valid ih.1 ih.2 keeps ran
  exact kept.2

theorem appended_pending_row : ∃ e, fed 10 4 (List.replicate 10 97) = .ok e ∧ e.mAboutToAutoWrap = true ∧ e.Pending := by
  obtain ⟨e, ran, on⟩ := exists_of_toOption (show (fed 10 4 (List.replicate 10 97)).toOption.map
    (fun e => e.mAboutToAutoWrap) = some true by decide +kernel)
  refine ⟨e, ran, on, appended_pending (fed_appended (by decide) (by decide) ?_ ran)⟩
  intro byte letter t _ _ strands
  obtain rfl : byte = 97 := (List.mem_replicate.mp letter).2
  rcases strands with ⟨control, -⟩ | ⟨-, final, -⟩ | ⟨-, final, -⟩ | ⟨-, final | final, -⟩
  · exact absurd control (by decide)
  all_goals exact absurd final (by decide)

/-- Ten letters and `CSI Z`. -/
theorem backTab_strands_wrap : ∃ e, fed 10 4 (List.replicate 10 97 ++ [27, 91, 90]) = .ok e ∧
    Appended plainHost (fun _ _ => True) e ∧ ¬ e.Pending := by
  obtain ⟨e, ran, stranded⟩ := exists_of_toOption (show (fed 10 4 (List.replicate 10 97 ++ [27, 91, 90])).toOption.map
    (fun e => decide e.Pending) = some false by decide +kernel)
  exact ⟨e, ran, fed_appended (by decide) (by decide) (fun _ _ _ => trivial) ran, of_decide_eq_false stranded⟩

end TerminalEmulator
