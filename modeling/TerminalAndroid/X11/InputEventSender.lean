import TerminalAndroid.Exec.Machine

namespace InputEventSender

def KEYCODE_ALT_RIGHT : Nat := 58
def KEYCODE_SHIFT_LEFT : Nat := 59
def KEYCODE_ENTER : Nat := 66

structure KeyEvent where
  keyCode : Nat
  pressed : Bool
  repeatCount : Nat := 0
  altPressed : Bool := false
  ctrlPressed : Bool := false
  metaPressed : Bool := false
  altRightOn : Bool := false
  characters : Option (List Nat) := none
  unicodeChar : Nat := 0
  once : pressed = false → repeatCount = 0 := by decide

inductive Way
  | text
  | special (base : Nat)
  | plain
  deriving DecidableEq

structure Sender where
  mPressedTextKeys : Nat → Bool
  mPressedKeys : Nat → Bool
  sent : List (Nat × Bool)
  down : Nat → Option Way

def KeyEvent.noModifiers (e : KeyEvent) : Bool :=
  (!e.altPressed && !e.ctrlPressed && !e.metaPressed) || (e.altRightOn && (e.characters != none || e.unicodeChar != 0))

/-- `KEYCODE_AT`, `KEYCODE_POUND`, `KEYCODE_STAR` and `KEYCODE_PLUS` with their character and base key. -/
def chars : List (Nat × Nat × Nat) := [(77, 64, 9), (18, 35, 10), (17, 42, 15), (81, 43, 70)]

def KeyEvent.special (e : KeyEvent) : Option Nat :=
  (chars.find? fun i => e.keyCode = i.1 ∧ (e.characters = some [i.2.1] ∨ e.unicodeChar = i.2.1)).map (·.2.2)

variable (preferScancodes : Bool) {s s' : Sender} {e : KeyEvent}

def way (s : Sender) (e : KeyEvent) : Way :=
  let unicode := if e.keyCode ≠ KEYCODE_ENTER then e.unicodeChar % 65536 else 0
  if !preferScancodes && e.pressed && unicode != 0 && e.noModifiers then .text
  else if !preferScancodes && !e.pressed && s.mPressedTextKeys e.keyCode then .text
  else match e.special with
    | some base => .special base
    | none => .plain

def sendKeyEvent (s : Sender) (e : KeyEvent) : Sender :=
  let way := way preferScancodes s e
  let s := { s with down := Function.update s.down e.keyCode (if e.pressed then some way else none) }
  match way with
  | .text =>
    let s := { s with mPressedTextKeys := Function.update s.mPressedTextKeys e.keyCode e.pressed }
    if e.pressed && e.altRightOn then { s with sent := (KEYCODE_ALT_RIGHT, true) :: (KEYCODE_ALT_RIGHT, false) :: s.sent } else s
  | .special base => { s with sent := (base, e.pressed) :: (KEYCODE_SHIFT_LEFT, e.pressed) :: s.sent }
  | .plain =>
    if 0 < e.repeatCount && s.mPressedKeys e.keyCode then s
    else { s with
      mPressedKeys := Function.update s.mPressedKeys e.keyCode e.pressed
      sent := (e.keyCode, e.pressed) :: s.sent }

def start : Sender := ⟨fun _ => false, fun _ => false, [], fun _ => none⟩

def held : List (Nat × Bool) → Nat → Bool
  | [], _ => false
  | (code, pressed) :: earlier, c => if code = c then pressed else held earlier c

/-- All events of a key that is down take one branch, and AltGr is in the state of a text only while that key is down. -/
def Steady (s : Sender) (e : KeyEvent) : Prop :=
  (s.down e.keyCode = none ∨ s.down e.keyCode = some (way preferScancodes s e)) ∧
    (way preferScancodes s e = .text → e.pressed = true → e.altRightOn = true →
      e.keyCode ≠ KEYCODE_ALT_RIGHT ∧ s.down KEYCODE_ALT_RIGHT = some .plain)

instance Steady.decidable : Decidable (Steady preferScancodes s e) := inferInstanceAs (Decidable (_ ∧ _))

def Covers : Option Way → Nat → Nat → Prop
  | some .plain, key, code => code = key
  | some (.special base), _, code => code = base ∨ code = KEYCODE_SHIFT_LEFT
  | _, _, _ => False

def Accounted (s : Sender) : Prop := ∀ code, held s.sent code = true → ∃ key, Covers (s.down key) key code

variable {preferScancodes}

theorem Accounted.update {way : Option Way} {sent : List (Nat × Bool)} (accounted : Accounted s)
    (kept : ∀ code, held sent code = true → Covers way e.keyCode code ∨
      (∃ key ≠ e.keyCode, Covers (s.down key) key code) ∨
      held s.sent code = true ∧ ¬ Covers (s.down e.keyCode) e.keyCode code)
    (here : s'.down = Function.update s.down e.keyCode way) (log : s'.sent = sent) : Accounted s' := by
  have others : ∀ key ≠ e.keyCode, s'.down key = s.down key := fun key other => here ▸ Function.update_of_ne other _ _
  intro code now
  rcases kept code (log ▸ now) with covered | ⟨key, other, covered⟩ | ⟨before, free⟩
  · exact ⟨e.keyCode, by rwa [here, Function.update_self]⟩
  · exact ⟨key, by rwa [others key other]⟩
  · rcases accounted code before with ⟨key, covered⟩
    have other : key ≠ e.keyCode := fun same => free (same ▸ covered)
    exact ⟨key, by rwa [others key other]⟩

theorem sendKeyEvent_accounted (accounted : Accounted s) (steady : Steady preferScancodes s e) :
    Accounted (sendKeyEvent preferScancodes s e) := by
  have before : ∀ code, Covers (s.down e.keyCode) e.keyCode code → Covers (some (way preferScancodes s e)) e.keyCode code := by
    intro code covered
    rcases steady.1 with up | same
    · rw [up] at covered
      cases covered
    · rwa [← same]
  unfold sendKeyEvent
  cases branch : way preferScancodes s e with
  | text =>
    have free : ∀ code, ¬ Covers (s.down e.keyCode) e.keyCode code := fun code covered => by
      have := before code covered
      rw [branch] at this
      exact this
    simp only
    split
    · next altGr =>
      rw [Bool.and_eq_true] at altGr
      rcases steady.2 branch altGr.1 altGr.2 with ⟨other, plain⟩
      refine accounted.update (fun code now => ?_) rfl rfl
      by_cases same : code = KEYCODE_ALT_RIGHT
      · exact .inr (.inl ⟨_, other.symm, by rw [plain]; exact same⟩)
      · rw [held, if_neg (Ne.symm same), held, if_neg (Ne.symm same)] at now
        exact .inr (.inr ⟨now, free code⟩)
    · exact accounted.update (fun code now => .inr (.inr ⟨now, free code⟩)) rfl rfl
  | special base =>
    refine accounted.update (fun code now => ?_) rfl rfl
    by_cases mine : code = base ∨ code = KEYCODE_SHIFT_LEFT
    · cases pressed : e.pressed with
      | true => exact .inl mine
      | false => rcases mine with rfl | rfl <;> simp [held, pressed] at now
    · rw [not_or] at mine
      rw [held, if_neg (Ne.symm mine.1), held, if_neg (Ne.symm mine.2)] at now
      exact .inr (.inr ⟨now, fun covered => by simpa [branch, Covers, mine] using before code covered⟩)
  | plain =>
    simp only
    split
    · next ignored =>
      refine accounted.update (fun code now => ?_) rfl rfl
      have pressed : e.pressed = true := by
        apply Bool.of_not_eq_false
        intro up
        simp [e.once up] at ignored
      by_cases mine : code = e.keyCode
      · exact .inl (by rwa [pressed])
      · exact .inr (.inr ⟨now, fun covered => mine (by simpa [branch, Covers] using before code covered)⟩)
    · refine accounted.update (fun code now => ?_) rfl rfl
      by_cases mine : code = e.keyCode
      · cases pressed : e.pressed with
        | true => exact .inl mine
        | false => simp [held, pressed, mine] at now
      · rw [held, if_neg (Ne.symm mine)] at now
        exact .inr (.inr ⟨now, fun covered => mine (by simpa [branch, Covers] using before code covered)⟩)

/-- Once every key has come up nothing is held on the host, if the events of each key took one branch while it was down. -/
theorem sendKeyEvent_releases {events : List KeyEvent}
    (meets : Machine.Meets (fun s e => some (sendKeyEvent preferScancodes s e)) (Steady preferScancodes) start events)
    (ran : Machine.run (fun s e => some (sendKeyEvent preferScancodes s e)) start events = some s)
    (up : ∀ key, s.down key = none) (code : Nat) : held s.sent code = false := by
  have accounted : Accounted s := Machine.keeps
    (fun _ _ _ accounted steady stepped => Option.some.inj stepped ▸ sendKeyEvent_accounted accounted steady)
    (fun _ now => by cases now) meets ran
  apply Bool.eq_false_iff.mpr
  intro now
  rcases accounted code now with ⟨key, covered⟩
  rw [up] at covered
  cases covered

theorem sendKeyEvent_releases_c :
    let press : KeyEvent := { keyCode := 31, pressed := true, ctrlPressed := true, unicodeChar := 99 }
    let up : KeyEvent := { keyCode := 31, pressed := false, unicodeChar := 99 }
    held (sendKeyEvent false (sendKeyEvent false start press) up).sent 31 = false := by
  intro press up
  refine @sendKeyEvent_releases false _ [press, up] (by decide) rfl (fun key => ?_) 31
  by_cases same : key = 31
  · exact same ▸ rfl
  · exact (Function.update_of_ne same _ _).trans (Function.update_of_ne same _ _)

/-- The key C goes down with Ctrl, is repeated without it, as a text, and comes up: the host still has it. -/
theorem sendKeyEvent_keeps_c :
    let press : KeyEvent := { keyCode := 31, pressed := true, ctrlPressed := true, unicodeChar := 99 }
    let again : KeyEvent := { keyCode := 31, pressed := true, repeatCount := 1, unicodeChar := 99 }
    let up : KeyEvent := { keyCode := 31, pressed := false, unicodeChar := 99 }
    let s := [press, again, up].foldl (sendKeyEvent false) start
    s.down 31 = none ∧ held s.sent 31 = true := by
  decide

end InputEventSender
