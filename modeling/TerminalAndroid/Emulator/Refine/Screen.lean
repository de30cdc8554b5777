import TerminalAndroid.Emulator.Effects

open Java Exec

namespace TerminalEmulator

open TerminalCore

variable {permits : Label → Prop} {e e' : TerminalEmulator}

theorem onScreen_inv {α : Type} {method : BufferM α} {a : α} (ran : (onScreen method).run e = .ok a e') :
    ∃ buffer, method.run e.screen = .ok a buffer ∧ e'.toTerminalCore = e.withScreen buffer := by
  obtain ⟨buffer, inner, rfl⟩ := zoom_inv ran
  exact ⟨buffer, inner, rfl⟩

theorem getArg_pos (e : TerminalEmulator) (i : Fin 32) : 1 ≤ e.getArg i 1 true := by
  unfold getArg
  simp only [and_true]
  split <;> omega

theorem getArg0_pos (e : TerminalEmulator) : 1 ≤ e.getArg0 1 := e.getArg_pos 0

def Drawn (e e' : TerminalEmulator) : Prop :=
  Relation.ReflTransGen (fun c c' : TerminalCore => ∃ (α : Type) (method : BufferM α) (a : α) (buffer : TerminalBuffer),
    Drawing method ∧ method.run c.screen = .ok a buffer ∧ c' = c.withScreen buffer) e.toTerminalCore e'.toTerminalCore

instance : Std.Refl Drawn := ⟨fun _ => .refl⟩

instance : IsTrans TerminalEmulator Drawn := ⟨fun _ _ _ first second => first.trans second⟩

theorem Drawn.steps (drawn : Drawn e e') : Steps permits e e' := by
  refine Relation.ReflTransGen.mono ?_ _ _ drawn
  rintro c c' ⟨α, method, a, buffer, drawing, ran, rfl⟩
  exact .draws drawing ran

def settled (e : TerminalEmulator) : TerminalEmulator := { e with mAboutToAutoWrap := false }

theorem Drawn.settled (drawn : Drawn e e') : Drawn e.settled e'.settled := by
  refine drawn.lift (fun c : TerminalCore => { c with mAboutToAutoWrap := false }) ?_
  rintro c c' ⟨α, method, a, buffer, drawing, ran, rfl⟩
  refine ⟨α, method, a, buffer, drawing, ran, ?_⟩
  unfold withScreen
  cases c.mScreen <;> rfl

theorem onScreen_drawn {α : Type} {method : BufferM α} (drawing : Drawing method) : Returns Drawn (onScreen method) := by
  intro e a e' ran
  obtain ⟨buffer, inner, rfl⟩ := zoom_inv ran
  exact .single ⟨α, method, a, buffer, drawing, inner, rfl⟩

theorem blockClear_drawn (sx sy w h : Int) : Returns Drawn (blockClear sx sy w h) :=
  fun _ => Leads.get_bind (onScreen_drawn (.blockSet ..) _)

theorem blockClear_steps (sx sy w h : Int) : Returns (Steps permits) (blockClear sx sy w h) :=
  (blockClear_drawn sx sy w h).mono fun _ _ => Drawn.steps

theorem scrollDownOneLine_drawn : Returns Drawn scrollDownOneLine := by
  refine Returns.bind (Returns.modify fun e => .refl) fun _ e => Leads.get_bind ?_
  refine Leads.ite (fun _ => ?_) fun _ => onScreen_drawn (.scrollDownOneLine ..) _
  exact Leads.bind (onScreen_drawn (.blockCopy ..) _) fun _ _ _ => onScreen_drawn (.blockSet ..) _

theorem scrollDownOneLine_steps : Returns (Steps permits) scrollDownOneLine :=
  scrollDownOneLine_drawn.mono fun _ _ => Drawn.steps

theorem doLinefeed_steps : Returns (Steps permits) doLinefeed := by
  refine fun e => Leads.get_bind (Leads.ite (fun below => ?_) fun inside => Leads.ite (fun last => ?_) fun more => ?_)
  · exact Leads.ite (fun room => Leads.set (.move (.linefeed (Or.inr ⟨below, room⟩)) rfl)) fun _ => Leads.pure ()
  · exact Leads.bind (scrollDownOneLine_steps _) fun _ _ _ => Leads.modify (.move .lastLine rfl)
  · exact Leads.set (.move (.linefeed (Or.inl (by omega))) rfl)

/-- The wrap stays pending until the character is placed, which does not depend on it: the wrap settles it already. -/
theorem wrapLine_steps (permitted : permits .emit) (ran : wrapLine.run e = .ok () e') : Steps permits e e'.settled := by
  obtain ⟨_, _, got, rest⟩ := bind_inv ran
  cases got
  obtain ⟨_, t, marked, rest⟩ := bind_inv rest
  obtain ⟨_, _, returned, rest⟩ := bind_inv rest
  cases returned
  obtain ⟨buffer, -, same⟩ := onScreen_inv marked
  have row : t.mCursorRow = e.mCursorRow := by rw [same, withScreen_mCursorRow]
  have bottom : t.mBottomMargin = e.mBottomMargin := by rw [same, withScreen_mBottomMargin]
  have wrapped : Steps permits e ({ t with mCursorCol := t.mLeftMargin } : TerminalEmulator).settled :=
    Steps.trans (onScreen_steps (.setLineWrap _) _ _ _ marked) (.move (.wrap permitted) rfl)
  refine wrapped.trans ?_
  split at rest
  next above =>
    cases rest
    exact .move (.nextRow (by rw [← row, ← bottom] at above; exact above)) rfl
  next => exact (scrollDownOneLine_drawn _ _ _ rest).settled.steps

theorem placeCodePoint_inv {autoWrap : Bool} {codePoint : Nat}
    (ran : (placeCodePoint autoWrap codePoint).run e = .ok () e') :
    ∃ s, Drawn e s ∧ e' = { s with
      mAboutToAutoWrap :=
        if autoWrap = true ∧ 0 < (WcWidth.width codePoint : Int) then
          decide (s.mCursorCol = s.mRightMargin - WcWidth.width codePoint)
        else s.mAboutToAutoWrap
      mCursorCol := min (s.mCursorCol + WcWidth.width codePoint) (s.mRightMargin - 1) } := by
  obtain ⟨_, _, got, rest⟩ := bind_inv ran
  cases got
  obtain ⟨_, t, inserted, rest⟩ := bind_inv rest
  obtain ⟨_, s, placed, rest⟩ := bind_inv rest
  cases rest
  have first : Drawn e t := Leads.ite (fun _ => onScreen_drawn (.blockCopy ..) e) (fun _ => Leads.pure ()) () t inserted
  exact ⟨s, Relation.ReflTransGen.trans first (onScreen_drawn (.setChar ..) _ _ _ placed), rfl⟩

theorem placeCodePoint_steps (permitted : permits .emit) (autoWrap : Bool) (codePoint : Nat) :
    Returns (Steps permits) (placeCodePoint autoWrap codePoint) := by
  intro e _ e' ran
  obtain ⟨s, drawn, rfl⟩ := placeCodePoint_inv ran
  refine drawn.steps.trans (.move (.advance (WcWidth.width codePoint) (WcWidth.width_le_two _) _ ?_ permitted) rfl)
  split
  next wide => exact Or.inr ⟨by omega, rfl⟩
  next => exact Or.inl rfl

theorem placeCodePoint_settled (permitted : permits .emit) {codePoint : Nat} (wide : 0 < WcWidth.width codePoint)
    (ran : (placeCodePoint true codePoint).run e = .ok () e') : Steps permits e.settled e' := by
  obtain ⟨s, drawn, rfl⟩ := placeCodePoint_inv ran
  refine drawn.settled.steps.trans (.move (.advance (WcWidth.width codePoint) (WcWidth.width_le_two _) _
    (Or.inr ⟨wide, rfl⟩) permitted) ?_)
  rw [if_pos ⟨rfl, by omega⟩]
  rfl

theorem emitCodePoint_steps (permitted : permits .emit) (codePoint : Nat) :
    Returns (Steps permits) (emitCodePoint codePoint) := by
  refine Returns.bind (Returns.modify fun e => .of_quiet rfl) fun _ e => Leads.get_bind ?_
  refine Leads.ite (fun autoWrap => ?_) fun _ =>
    Leads.ite (fun _ => Leads.pure ()) fun _ => placeCodePoint_steps permitted _ _ _
  intro _ e' ran
  obtain ⟨_, t, wrapped, rest⟩ := bind_inv ran
  split at wrapped
  next due =>
    rw [autoWrap] at rest
    exact (wrapLine_steps permitted wrapped).trans (placeCodePoint_settled permitted (by omega) rest)
  next =>
    cases wrapped
    exact placeCodePoint_steps permitted _ _ _ _ _ rest

theorem emitCodePoint_emits (codePoint : Nat) : Returns (Steps (.emit = ·)) (emitCodePoint codePoint) :=
  emitCodePoint_steps rfl codePoint

theorem repeatCodePoint_steps (permitted : permits .emit) (codePoint count : Nat) :
    Returns (Steps permits) (repeatCodePoint codePoint count) := by
  induction count with
  | zero => exact Returns.pure ()
  | succ count ih => exact Returns.bind (emitCodePoint_steps permitted codePoint) fun _ => ih

theorem scrollUp_steps (count : Nat) : Returns (Steps permits) (scrollUp count) := by
  induction count with
  | zero => exact Returns.pure ()
  | succ count ih => exact Returns.bind scrollDownOneLine_steps fun _ => ih

theorem setDefaultTabStops_inv (ran : setDefaultTabStops.run e = .ok () e') :
    ∃ stops : List Bool, stops.length = e.mTabStop.length ∧ e' = { e with mTabStop := stops } := by
  obtain ⟨_, _, got, rest⟩ := bind_inv ran
  cases got
  split at rest
  · cases rest
  · cases rest
    refine ⟨_, ?_, rfl⟩
    simp only [List.length_append, List.length_map, List.length_range, List.length_drop]
    omega

theorem setDefaultTabStops_steps : Returns (Steps permits) setDefaultTabStops := by
  intro e _ e' ran
  obtain ⟨stops, length, rfl⟩ := setDefaultTabStops_inv ran
  exact .one (.tabStops length) rfl

end TerminalEmulator
