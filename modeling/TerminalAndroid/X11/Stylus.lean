import TerminalAndroid.Exec.Machine

namespace Lorie.Stylus

inductive Device
  | pen
  | eraser
  | mouse
  deriving DecidableEq

structure Message where
  buttons : BitVec 8
  eraser : Bool
  mouse : Bool

def Message.device (m : Message) : Device := if m.mouse then .mouse else if m.eraser then .eraser else .pen

structure ButtonEvent where
  device : Device
  button : Nat
  press : Bool

structure State where
  buttonsPrev : BitVec 8
  queued : List ButtonEvent

def queueButton (device : Device) (released pressed : BitVec 8) (queued : List ButtonEvent) (i : Nat) : List ButtonEvent :=
  let afterRelease := if released.getLsbD i then ⟨device, i + 1, false⟩ :: queued else queued
  if pressed.getLsbD i then ⟨device, i + 1, true⟩ :: afterRelease else afterRelease

/-- A device that was not requested is a null pointer, and a message for it is dropped. -/
def handle (requested : Device → Bool) (s : State) (m : Message) : State :=
  if requested m.device then
    let diff := s.buttonsPrev ^^^ m.buttons
    ⟨m.buttons, [0, 1, 2].foldl (queueButton m.device (diff &&& ~~~m.buttons) (diff &&& m.buttons)) s.queued⟩
  else s

def start : State := ⟨0, []⟩

def held : List ButtonEvent → Device → Nat → Bool
  | [], _, _ => false
  | event :: earlier, device, button =>
    if event.device = device ∧ event.button = button then event.press else held earlier device button

def Alternates : List ButtonEvent → Prop
  | [] => True
  | event :: earlier => event.press ≠ held earlier event.device event.button ∧ Alternates earlier

def Follows (s : State) (m : Message) : Prop :=
  ∀ device ≠ m.device, ∀ button, held s.queued device button = false

structure Sound (requested : Device → Bool) (s : State) : Prop where
  alternates : Alternates s.queued
  mask : ∀ i < 3, s.buttonsPrev.getLsbD i = true ↔ ∃ device, held s.queued device (i + 1) = true
  known : ∀ device button, held s.queued device button = true → requested device = true ∧ ∃ i < 3, button = i + 1

variable {requested : Device → Bool} {s : State} {m : Message} {device : Device} {queued : List ButtonEvent}
  {old : BitVec 8} {i : Nat}

theorem queueButton_spec (new : BitVec 8) (bound : i < 8) (before : held queued device (i + 1) = old.getLsbD i) (alternates : Alternates queued) :
    let after := queueButton device ((old ^^^ new) &&& ~~~new) ((old ^^^ new) &&& new) queued i
    Alternates after ∧ held after device (i + 1) = new.getLsbD i ∧
      ∀ other button, other ≠ device ∨ button ≠ i + 1 → held after other button = held queued other button := by
  have apart : ∀ other button, other ≠ device ∨ button ≠ i + 1 → ¬ (device = other ∧ i + 1 = button) :=
    fun other button apart ⟨same, same'⟩ => apart.elim (· same.symm) (· same'.symm)
  cases was : old.getLsbD i <;> cases becomes : new.getLsbD i <;>
    simp only [queueButton, BitVec.getLsbD_and, BitVec.getLsbD_xor, BitVec.getLsbD_not, was, becomes, bound, decide_true]
  · exact ⟨alternates, before.trans was, fun _ _ _ => rfl⟩
  · refine ⟨⟨by simp [before, was], alternates⟩, by simp [held], fun other button differs => ?_⟩
    exact if_neg (apart other button differs)
  · refine ⟨⟨by simp [before, was], alternates⟩, by simp [held], fun other button differs => ?_⟩
    exact if_neg (apart other button differs)
  · exact ⟨alternates, before.trans was, fun _ _ _ => rfl⟩

theorem queueButtons_spec (new : BitVec 8) {indices : List Nat} (nodup : indices.Nodup) (bound : ∀ i ∈ indices, i < 8)
    (before : ∀ i ∈ indices, held queued device (i + 1) = old.getLsbD i) (alternates : Alternates queued) :
    let after := indices.foldl (queueButton device ((old ^^^ new) &&& ~~~new) ((old ^^^ new) &&& new)) queued
    Alternates after ∧ (∀ i ∈ indices, held after device (i + 1) = new.getLsbD i) ∧
      ∀ other button, (other ≠ device ∨ ∀ i ∈ indices, button ≠ i + 1) → held after other button = held queued other button := by
  induction indices generalizing queued with
  | nil => exact ⟨alternates, fun _ mem => absurd mem List.not_mem_nil, fun _ _ _ => rfl⟩
  | cons i indices ih =>
    rcases List.nodup_cons.mp nodup with ⟨fresh, nodup'⟩
    rcases queueButton_spec new (bound i List.mem_cons_self) (before i List.mem_cons_self) alternates with
      ⟨alternates', here, elsewhere⟩
    have later : ∀ j ∈ indices, j + 1 ≠ i + 1 := fun j mem same => fresh (Nat.succ.inj same ▸ mem)
    rcases ih nodup' (fun j mem => bound j (List.mem_cons_of_mem _ mem))
      (fun j mem => (elsewhere device (j + 1) (.inr (later j mem))).trans (before j (List.mem_cons_of_mem _ mem))) alternates'
      with ⟨alternates'', rest, others⟩
    refine ⟨alternates'', fun j mem => ?_, fun other button apart => ?_⟩
    · rcases List.mem_cons.mp mem with rfl | mem
      · exact (others device (j + 1) (.inr fun k memK same => later k memK same.symm)).trans here
      · exact rest j mem
    · exact (others other button (apart.imp_right fun all k mem => all k (List.mem_cons_of_mem _ mem))).trans
        (elsewhere other button (apart.imp_right fun all => all i List.mem_cons_self))

theorem Sound.handle (sound : Sound requested s) (follows : Follows s m) :
    Sound requested (handle requested s m) ∧
      ∀ device button, held (Stylus.handle requested s m).queued device button = true →
        ∃ i < 3, button = i + 1 ∧ m.buttons.getLsbD i = true := by
  have before : ∀ i ∈ [0, 1, 2], held s.queued m.device (i + 1) = s.buttonsPrev.getLsbD i := by
    intro i mem
    apply Bool.eq_iff_iff.mpr
    rw [sound.mask i (by simp at mem; omega)]
    apply Iff.intro (fun down => ⟨_, down⟩)
    intro ⟨device, down⟩
    by_cases same : device = m.device
    · exact same ▸ down
    · cases (follows device same (i + 1)).symm.trans down
  by_cases there : requested m.device = true
  · rcases queueButtons_spec m.buttons (by decide : [0, 1, 2].Nodup) (by decide) before sound.alternates with
      ⟨alternates, here, others⟩
    rw [Stylus.handle, if_pos there]
    have down : ∀ device button, held ([0, 1, 2].foldl (queueButton m.device ((s.buttonsPrev ^^^ m.buttons) &&& ~~~m.buttons)
        ((s.buttonsPrev ^^^ m.buttons) &&& m.buttons)) s.queued) device button = true →
        device = m.device ∧ ∃ i < 3, button = i + 1 ∧ m.buttons.getLsbD i = true := by
      intro device button down
      by_cases same : device = m.device
      · subst same
        by_cases listed : ∃ i ∈ [0, 1, 2], button = i + 1
        · rcases listed with ⟨i, mem, rfl⟩
          exact ⟨rfl, i, by simp at mem; omega, rfl, (here i mem).symm.trans down⟩
        · rw [others _ _ (.inr fun i mem same => listed ⟨i, mem, same⟩)] at down
          rcases sound.known _ _ down with ⟨-, i, small, rfl⟩
          exact absurd ⟨i, by simp; omega, rfl⟩ listed
      · rw [others _ _ (.inl same), follows _ same] at down
        cases down
    constructor
    · apply Sound.mk alternates
      · intro i small
        apply Iff.intro (fun set => ⟨m.device, (here i (by simp; omega)).trans set⟩)
        intro ⟨device, pressed⟩
        rcases (down device _ pressed).2 with ⟨j, -, same, set⟩
        exact Nat.succ.inj same ▸ set
      · intro device button pressed
        rcases down device button pressed with ⟨rfl, i, small, same, -⟩
        exact ⟨there, i, small, same⟩
    · exact fun device button pressed => (down device button pressed).2
  · rw [Stylus.handle, if_neg there]
    apply And.intro sound
    intro device button pressed
    by_cases same : device = m.device
    · exact absurd (same ▸ (sound.known _ _ pressed).1) there
    · cases (follows device same button).symm.trans pressed

theorem start_sound : Sound requested start where
  alternates := trivial
  mask i _ := by simp [start, held]
  known _ _ down := by cases down

/-- While a button is down only messages of its device come: then the buttons of each device alternate, and a message
without buttons leaves none of them down. -/
theorem stylus_buttons_alternate {messages : List Message}
    (meets : Machine.Meets (fun s m => some (handle requested s m)) Follows start messages)
    (ran : Machine.run (fun s m => some (handle requested s m)) start messages = some s) :
    Alternates s.queued ∧ ∀ m, Follows s m → m.buttons = 0 →
      ∀ device button, held (handle requested s m).queued device button = false := by
  have sound : Sound requested s := Machine.keeps
    (fun s m s' sound follows stepped => Option.some.inj stepped ▸ (sound.handle follows).1) start_sound meets ran
  apply And.intro sound.alternates
  intro m follows zero device button
  apply Bool.eq_false_iff.mpr
  intro down
  rcases (sound.handle follows).2 device button down with ⟨i, -, -, set⟩
  simp [zero] at set

theorem stylus_buttons_alternate_click : Alternates
    (handle (fun _ => true) (handle (fun _ => true) start ⟨1, false, false⟩) ⟨0, false, false⟩).queued := by
  have meets : Machine.Meets (fun s m => some (handle (fun _ => true) s m)) Follows start
      [⟨1, false, false⟩, ⟨0, false, false⟩] :=
    ⟨fun _ _ _ => rfl, fun device other button => if_neg fun same => other same.1.symm, trivial⟩
  exact (stylus_buttons_alternate meets rfl).1

/-- The pen is pressed, and the next message comes from the eraser: the eraser is released and the pen stays down. -/
theorem stylus_leaves_pen_down :
    let s := handle (fun _ => true) (handle (fun _ => true) start ⟨1, false, false⟩) ⟨0, true, false⟩
    ¬ Alternates s.queued ∧ held s.queued .pen 1 = true := by
  refine ⟨fun alternates => alternates.1 ?_, ?_⟩ <;> decide

end Lorie.Stylus
