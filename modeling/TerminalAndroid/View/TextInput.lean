import TerminalAndroid.Session.Output

open Java Utf16 TerminalSession

namespace TerminalView

/-- The answers of the client of a view while a text is typed, and `Character.toUpperCase`. -/
structure ViewClient where
  readShiftKey : Bool
  readControlKey : Bool
  readAltKey : Bool
  onCodePoint : Int → Bool → Bool
  toUpperCase : Int → Int

/-- The session of a view, and the blink state of the cursor of its emulator (`none` without an emulator). -/
structure InputView where
  mTermSession : Option Outgoing
  mCursorBlinkState : Option Bool
  deriving DecidableEq

abbrev InputM := EStateM Throwable InputView

def keyEventSourceSoftKeyboard : Int := 0

def controlCode (codePoint : Int) : Int :=
  if 'a'.toNat ≤ codePoint ∧ codePoint ≤ 'z'.toNat then codePoint - 'a'.toNat + 1
  else if 'A'.toNat ≤ codePoint ∧ codePoint ≤ 'Z'.toNat then codePoint - 'A'.toNat + 1
  else if codePoint = ' '.toNat ∨ codePoint = '2'.toNat then 0
  else if codePoint = '['.toNat ∨ codePoint = '3'.toNat then 27
  else if codePoint = 92 ∨ codePoint = '4'.toNat then 28
  else if codePoint = ']'.toNat ∨ codePoint = '5'.toNat then 29
  else if codePoint = '^'.toNat ∨ codePoint = '6'.toNat then 30
  else if codePoint = '_'.toNat ∨ codePoint = '7'.toNat ∨ codePoint = '/'.toNat then 31
  else if codePoint = '8'.toNat then 127
  else codePoint

/-- The ASCII characters for those that bluetooth keyboards send instead. -/
def asciiOf (codePoint : Int) : Int :=
  if codePoint = 0x02DC then 0x007E
  else if codePoint = 0x02CB then 0x0060
  else if codePoint = 0x02C6 then 0x005E
  else codePoint

def onSession (method : OutgoingM Unit) : InputM Unit := fun view =>
  match view.mTermSession with
  | none => .error .nullPointer view
  | some s =>
    match method s with
    | .ok a s => .ok a { view with mTermSession := some s }
    | .error thrown s => .error thrown { view with mTermSession := some s }

def inputCodePoint (client : ViewClient) (eventSource codePoint : Int)
    (controlDownFromEvent leftAltDownFromEvent : Bool) : InputM Unit := do
  let view ← get
  if view.mTermSession.isNone then return
  set { view with mCursorBlinkState := view.mCursorBlinkState.map fun _ => true }
  let controlDown := controlDownFromEvent || client.readControlKey
  let altDown := leftAltDownFromEvent || client.readAltKey
  if client.onCodePoint codePoint controlDown then return
  let codePoint := if controlDown then controlCode codePoint else codePoint
  if -1 < codePoint then
    onSession (sendCodePoint altDown
      (if keyEventSourceSoftKeyboard < eventSource then asciiOf codePoint else codePoint))

def controlKey (codePoint : Int) : Int :=
  if codePoint = 31 then '_'.toNat
  else if codePoint = 30 then '^'.toNat
  else if codePoint = 29 then ']'.toNat
  else if codePoint = 28 then 92
  else codePoint + 96

def sendToTerminal (client : ViewClient) (codePoint : Int) : InputM Unit :=
  let codePoint := if client.readShiftKey then client.toUpperCase codePoint else codePoint
  if codePoint ≤ 31 ∧ codePoint ≠ 27 then
    inputCodePoint client keyEventSourceSoftKeyboard (controlKey (if codePoint = 10 then 13 else codePoint)) true false
  else inputCodePoint client keyEventSourceSoftKeyboard codePoint false false

def sendTextToTerminal (client : ViewClient) : List Nat → InputM Unit
  | [] => pure ()
  | [c] => sendToTerminal client (if isHighSurrogate c then TerminalEmulator.unicodeReplacementChar else c)
  | c :: d :: rest =>
    if isHighSurrogate c then do
      sendToTerminal client (toCodePoint c d)
      sendTextToTerminal client rest
    else do
      sendToTerminal client c
      sendTextToTerminal client (d :: rest)

/-- No modifier is held, and the client leaves every code point to the view. -/
structure ViewClient.Passive (client : ViewClient) : Prop where
  shift : client.readShiftKey = false
  control : client.readControlKey = false
  alt : client.readAltKey = false
  leaves : ∀ codePoint controlDown, client.onCodePoint codePoint controlDown = false

def typedScalar (codePoint : Nat) : Nat := if codePoint = 0 then 96 else if codePoint = 10 then 13 else codePoint

def typedPoint (codePoint : Nat) : Option Nat :=
  if codePoint.isValidChar then some (typedScalar codePoint) else none

variable {client : ViewClient} {view : InputView} {s : Outgoing}

def InputView.typed (view : InputView) (s : Outgoing) : InputView :=
  ⟨some s, view.mCursorBlinkState.map fun _ => true⟩

theorem run_inputCodePoint (passive : client.Passive) (session : view.mTermSession = some s) {codePoint : Int}
    (control : Bool) (key : 0 ≤ if control then controlCode codePoint else codePoint) :
    (inputCodePoint client keyEventSourceSoftKeyboard codePoint control false).run view =
      (onSession (sendCodePoint false (if control then controlCode codePoint else codePoint))).run (view.typed s) := by
  have entered : (-1 : Int) < if control then controlCode codePoint else codePoint := by omega
  unfold inputCodePoint
  simp only [EStateM.run_bind, EStateM.run_get, session, Option.isNone_some, Bool.false_eq_true, if_false,
    EStateM.run_set, passive.control, passive.alt, Bool.or_false, passive.leaves, entered, if_true,
    keyEventSourceSoftKeyboard, Int.lt_irrefl, InputView.typed]

theorem run_sendCodePoint (running : 0 < s.mShellPid) (codePoint : Nat) :
    (sendCodePoint false codePoint).run s =
      if codePoint.isValidChar then .ok () (s.taking ((utf8 codePoint).map UInt8.ofNat))
      else .error (.illegalArgument ("Invalid code point: " ++ toString (codePoint : Int))) s := by
  by_cases scalar : codePoint.isValidChar
  · rw [if_pos scalar]
    have valid : ¬ (1114111 < (codePoint : Int) ∨ (0xD800 ≤ (codePoint : Int) ∧ (codePoint : Int) ≤ 0xDFFF)) := by
      simp only [Nat.isValidChar] at scalar
      omega
    obtain ⟨bytes, accepted⟩ : ∃ bytes, writeCodePoint false codePoint = .ok bytes := by
      rw [writeCodePoint, if_neg valid]
      exact ⟨_, rfl⟩
    obtain ⟨-, rfl⟩ := writeCodePoint_eq accepted
    rw [sendCodePoint, accepted]
    refine (run_write running _).trans (if_neg ?_)
    rw [List.map_eq_nil_iff]
    exact utf8_ne_nil codePoint
  · rw [if_neg scalar]
    have invalid : 1114111 < (codePoint : Int) ∨ (0xD800 ≤ (codePoint : Int) ∧ (codePoint : Int) ≤ 0xDFFF) := by
      simp only [Nat.isValidChar] at scalar
      omega
    rw [sendCodePoint, writeCodePoint, if_pos invalid]
    rfl

theorem controlCode_controlKey : ∀ c : Fin 32, c ≠ 27 →
    controlCode (controlKey (if ((c : Nat) : Int) = 10 then 13 else (c : Nat))) = typedScalar c := by
  decide

theorem run_onSession (running : 0 < s.mShellPid) (codePoint : Nat) :
    (onSession (sendCodePoint false codePoint)).run (view.typed s) =
      if codePoint.isValidChar then .ok () (view.typed (s.taking ((utf8 codePoint).map UInt8.ofNat)))
      else .error (.illegalArgument ("Invalid code point: " ++ toString (codePoint : Int))) (view.typed s) := by
  have sent := run_sendCodePoint running codePoint
  rw [EStateM.run] at sent
  simp only [onSession, EStateM.run, InputView.typed, sent]
  by_cases scalar : codePoint.isValidChar
  · simp only [scalar, if_true]
  · simp only [scalar, if_false]

theorem run_sendToTerminal (passive : client.Passive) (session : view.mTermSession = some s) (running : 0 < s.mShellPid)
    (codePoint : Nat) :
    (sendToTerminal client codePoint).run view = match typedPoint codePoint with
      | some point => .ok () (view.typed (s.taking ((utf8 point).map UInt8.ofNat)))
      | none => .error (.illegalArgument ("Invalid code point: " ++ toString (codePoint : Int))) (view.typed s) := by
  unfold sendToTerminal typedPoint
  simp only [passive.shift, Bool.false_eq_true, if_false]
  by_cases control : (codePoint : Int) ≤ 31 ∧ (codePoint : Int) ≠ 27
  · have key := controlCode_controlKey ⟨codePoint, by omega⟩ fun same => control.2 (by
      have value : codePoint = 27 := congrArg Fin.val same
      omega)
    have scalar : codePoint.isValidChar := Or.inl (by omega)
    have scalar' : (typedScalar codePoint).isValidChar := by
      unfold typedScalar
      split_ifs <;> first | decide | exact scalar
    rw [if_pos control, run_inputCodePoint passive session true (by rw [if_pos rfl, key]; omega), if_pos rfl, key,
      run_onSession running, if_pos scalar', if_pos scalar]
  · have same : typedScalar codePoint = codePoint := by
      unfold typedScalar
      rw [if_neg (by omega), if_neg (by omega)]
    rw [if_neg control, run_inputCodePoint passive session false (by simp), if_neg (by decide), run_onSession running, same]
    split <;> rfl

def typed : List Nat → Option (List Nat)
  | [] => some []
  | [c] => (typedPoint (if isHighSurrogate c then TerminalEmulator.unicodeReplacementChar else c)).map ([·])
  | c :: d :: rest =>
    if isHighSurrogate c then (typedPoint (toCodePoint c d)).bind fun point => (typed rest).map (point :: ·)
    else (typedPoint c).bind fun point => (typed (d :: rest)).map (point :: ·)

def Sends (method : InputM Unit) (points : Option (List Nat)) : Prop :=
  ∀ (view : InputView) (s s' : Outgoing), view.mTermSession = some s → 0 < s.mShellPid →
    ((∃ view', method.run view = .ok () view' ∧ view'.mTermSession = some s') ↔
      ∃ sent, points = some sent ∧ s' = s.taking (encodeUtf8 (sent.map Char.ofNat)))

theorem typedPoint_scalar {codePoint point : Nat} (found : typedPoint codePoint = some point) :
    point.isValidChar ∧ codePoint.isValidChar ∧ point = typedScalar codePoint := by
  unfold typedPoint at found
  split at found
  next scalar =>
    cases found
    refine ⟨?_, scalar, rfl⟩
    unfold typedScalar
    split_ifs <;> first | decide | exact scalar
  · cases found

theorem Sends.nil : Sends (pure ()) (some []) := by
  intro view s s' session running
  have same : s.taking (encodeUtf8 []) = s := by simp [Outgoing.taking, encodeUtf8]
  simp only [EStateM.run_pure, Option.some.injEq]
  constructor
  · rintro ⟨view', same', taken⟩
    cases same'
    rw [session] at taken
    cases taken
    exact ⟨[], rfl, same.symm⟩
  · rintro ⟨sent, rfl, rfl⟩
    exact ⟨view, rfl, session.trans (congrArg some same.symm)⟩

theorem Sends.cons (passive : client.Passive) (codePoint : Nat) {method : InputM Unit} {points : Option (List Nat)}
    (rest : Sends method points) :
    Sends (do sendToTerminal client codePoint; method)
      ((typedPoint codePoint).bind fun point => points.map (point :: ·)) := by
  intro view s s' session running
  rw [EStateM.run_bind, run_sendToTerminal passive session running]
  cases found : typedPoint codePoint with
  | none => simp
  | some point =>
    obtain ⟨scalar, -⟩ := typedPoint_scalar found
    simp only [Option.bind_some, Option.map_eq_some_iff]
    rw [rest _ (s.taking ((utf8 point).map UInt8.ofNat)) s' rfl running]
    constructor
    · rintro ⟨sent, same, rfl⟩
      exact ⟨_, ⟨sent, same, rfl⟩, by rw [Outgoing.taking_append, encodeUtf8_cons scalar]⟩
    · rintro ⟨_, ⟨sent, same, rfl⟩, rfl⟩
      exact ⟨sent, same, by rw [Outgoing.taking_append, encodeUtf8_cons scalar]⟩

theorem sendTextToTerminal_sends (passive : client.Passive) (text : List Nat) :
    Sends (sendTextToTerminal client text) (typed text) := by
  induction text using typed.induct with
  | case1 => exact Sends.nil
  | case2 c =>
    have last := Sends.cons passive (if isHighSurrogate c then TerminalEmulator.unicodeReplacementChar else c) Sends.nil
    rw [bind_pure_unit, apply_ite (Nat.cast (R := Int))] at last
    rw [typed, Option.map_eq_bind]
    exact last
  | case3 c d rest high ih =>
    simp only [sendTextToTerminal, typed, high, if_true]
    exact Sends.cons passive _ ih
  | case4 c d rest high ih =>
    simp only [sendTextToTerminal, typed, high]
    exact Sends.cons passive c ih

def scalars : List Nat → List Nat
  | [] => []
  | [c] => [if isHighSurrogate c || isLowSurrogate c then TerminalEmulator.unicodeReplacementChar else c]
  | c :: d :: rest =>
    if isHighSurrogate c && isLowSurrogate d then toCodePoint c d :: scalars rest
    else (if isHighSurrogate c || isLowSurrogate c then TerminalEmulator.unicodeReplacementChar else c) ::
      scalars (d :: rest)

def expected (text : List Nat) : List Nat := (scalars text).map fun c => if c = 10 then 13 else c

/-- There is no NUL, and the only unpaired surrogate is a high one at the very end. -/
def Typeable : List Nat → Prop
  | [] => True
  | [c] => c ≠ 0 ∧ isLowSurrogate c = false
  | c :: d :: rest =>
    if isHighSurrogate c then isLowSurrogate d = true ∧ Typeable rest
    else c ≠ 0 ∧ isLowSurrogate c = false ∧ Typeable (d :: rest)

theorem typedPoint_low {c : Nat} (low : isLowSurrogate c = true) : typedPoint c = none := by
  rw [isLowSurrogate_iff] at low
  refine if_neg ?_
  simp only [Nat.isValidChar]
  omega

theorem isHighSurrogate_of_low {c : Nat} (low : isLowSurrogate c = true) : isHighSurrogate c = false := by
  rw [isLowSurrogate_iff] at low
  rw [← Bool.not_eq_true, isHighSurrogate_iff]
  omega

theorem typed_low {c : Nat} (low : isLowSurrogate c = true) (rest : List Nat) : typed (c :: rest) = none := by
  cases rest with
  | nil => simp [typed, isHighSurrogate_of_low low, typedPoint_low low]
  | cons d rest => simp [typed, isHighSurrogate_of_low low, typedPoint_low low]

theorem scalars_cons_length (c : Nat) (rest : List Nat) :
    (scalars (c :: rest)).length = (scalars rest).length + 1 ∨
      ∃ d more, rest = d :: more ∧ isLowSurrogate d = true ∧ (scalars (c :: rest)).length = (scalars rest).length := by
  cases rest with
  | nil => exact Or.inl rfl
  | cons d rest =>
    by_cases pair : isHighSurrogate c && isLowSurrogate d
    · refine Or.inr ⟨d, rest, rfl, (Bool.and_eq_true_iff.mp pair).2, ?_⟩
      have single := isHighSurrogate_of_low (Bool.and_eq_true_iff.mp pair).2
      simp only [scalars, pair, if_true]
      cases rest with
      | nil => rfl
      | cons e rest => simp only [scalars, single, Bool.false_and, Bool.false_eq_true, if_false, List.length_cons]
    · refine Or.inl ?_
      simp only [scalars, pair]
      rfl

theorem typed_length {text points : List Nat} (found : typed text = some points) :
    points.length ≤ (scalars text).length := by
  induction text using typed.induct generalizing points with
  | case1 => cases found; exact Nat.le_refl _
  | case2 c =>
    simp only [typed, Option.map_eq_some_iff] at found
    obtain ⟨point, -, rfl⟩ := found
    exact Nat.le_refl _
  | case3 c d rest high ih =>
    simp only [typed, high, if_true, Option.bind_eq_some_iff, Option.map_eq_some_iff] at found
    obtain ⟨point, -, sent, same, rfl⟩ := found
    have shorter := ih same
    by_cases low : isLowSurrogate d = true
    · simp only [scalars, high, low, Bool.and_self, if_true, List.length_cons]
      omega
    · have longer := scalars_cons_length d rest
      simp only [scalars, high, low, Bool.and_false, Bool.false_eq_true, if_false, List.length_cons]
      omega
  | case4 c d rest high ih =>
    simp only [typed, high, Bool.false_eq_true, if_false, Option.bind_eq_some_iff, Option.map_eq_some_iff] at found
    obtain ⟨point, -, sent, same, rfl⟩ := found
    have shorter := ih same
    simp only [scalars, high, Bool.false_and, Bool.false_eq_true, if_false, List.length_cons]
    omega

def expectedChar (c : Nat) : Nat :=
  if isHighSurrogate c || isLowSurrogate c then TerminalEmulator.unicodeReplacementChar else if c = 10 then 13 else c

theorem expected_nil : expected [] = [] := rfl

theorem expected_pair {c d : Nat} (high : isHighSurrogate c = true) (low : isLowSurrogate d = true) (rest : List Nat) :
    expected (c :: d :: rest) = toCodePoint c d :: expected rest := by
  have supplementary := (toCodePoint_valid high low).2.1
  simp only [expected, scalars, high, low, Bool.and_self, if_true, List.map_cons]
  rw [if_neg (by omega)]

theorem expected_cons {c : Nat} (rest : List Nat)
    (single : isHighSurrogate c = false ∨ ∀ d more, rest = d :: more → isLowSurrogate d = false) :
    expected (c :: rest) = expectedChar c :: expected rest := by
  have mapped : (if (if isHighSurrogate c || isLowSurrogate c then TerminalEmulator.unicodeReplacementChar else c) = 10
      then 13 else if isHighSurrogate c || isLowSurrogate c then TerminalEmulator.unicodeReplacementChar else c) =
      expectedChar c := by
    unfold expectedChar
    split <;> simp [TerminalEmulator.unicodeReplacementChar]
  cases rest with
  | nil => simp only [expected, scalars, List.map_cons, List.map_nil, mapped]
  | cons d rest =>
    have other : (isHighSurrogate c && isLowSurrogate d) = false := by
      rcases single with high | low
      · rw [high, Bool.false_and]
      · rw [low d rest rfl, Bool.and_false]
    simp only [expected, scalars, other, Bool.false_eq_true, if_false, List.map_cons, mapped]

theorem typedPoint_iff {c : Nat} (java : c < 0x10000) (high : isHighSurrogate c = false) :
    typedPoint c = some (expectedChar c) ↔ c ≠ 0 ∧ isLowSurrogate c = false := by
  by_cases low : isLowSurrogate c = true
  · simp [typedPoint_low low, low]
  · rw [Bool.not_eq_true] at low
    have scalar : c.isValidChar := by
      have above := high
      have below := low
      rw [← Bool.not_eq_true, isHighSurrogate_iff] at above
      rw [← Bool.not_eq_true, isLowSurrogate_iff] at below
      simp only [Nat.isValidChar]
      omega
    rw [typedPoint, if_pos scalar, expectedChar, high, low, Option.some.injEq, typedScalar]
    simp only [Bool.or_self, Bool.false_eq_true, if_false, and_true]
    split_ifs <;> omega

theorem bind_cons_eq_some {first : Option Nat} {rest : Option (List Nat)} {point : Nat} {points : List Nat} :
    (first.bind fun x => rest.map (x :: ·)) = some (point :: points) ↔ first = some point ∧ rest = some points := by
  cases first <;> cases rest <;> simp

theorem typed_expected_iff (text : List Nat) (java : ∀ c ∈ text, c < 0x10000) :
    typed text = some (expected text) ↔ Typeable text := by
  induction text using typed.induct with
  | case1 => simp [typed, expected, scalars, Typeable]
  | case2 c =>
    have single := expected_cons (c := c) [] (Or.inr fun _ _ none => by cases none)
    rw [single, expected_nil, typed, Option.map_eq_bind]
    by_cases high : isHighSurrogate c = true
    · have range := (isHighSurrogate_iff c).mp high
      have low : isLowSurrogate c = false := by
        rw [← Bool.not_eq_true, isLowSurrogate_iff]
        omega
      rw [expectedChar, high]
      exact iff_of_true rfl ⟨by omega, low⟩
    · rw [Bool.not_eq_true] at high
      rw [if_neg (by rw [high]; decide)]
      refine (@bind_cons_eq_some _ (some []) _ _).trans ((and_iff_left rfl).trans ?_)
      exact typedPoint_iff (java c (List.mem_singleton_self c)) high
  | case3 c d rest high ih =>
    simp only [typed, Typeable, high, if_true]
    by_cases low : isLowSurrogate d = true
    · have pair := toCodePoint_valid high low
      have sent : typedPoint (toCodePoint c d) = some (toCodePoint c d) := by
        rw [typedPoint, if_pos pair.1, typedScalar, if_neg (by omega), if_neg (by omega)]
      rw [expected_pair high low, bind_cons_eq_some, ih fun x member => java x (by simp [member])]
      simp only [sent, low, true_and]
    · rw [Bool.not_eq_true] at low
      rw [expected_cons _ (Or.inr fun _ _ same => by cases same; exact low), bind_cons_eq_some, low]
      refine iff_of_false (fun both => ?_) (fun both => absurd both.1 Bool.false_ne_true)
      have shorter := typed_length both.2
      rw [expected, List.length_map] at shorter
      rcases scalars_cons_length d rest with longer | ⟨x, more, rfl, second, -⟩
      · omega
      · rw [typed_low second] at both
        cases both.2
  | case4 c d rest high ih =>
    rw [Bool.not_eq_true] at high
    simp only [typed, Typeable, high, Bool.false_eq_true, if_false]
    rw [expected_cons _ (Or.inl high), bind_cons_eq_some, typedPoint_iff (java c (by simp)) high,
      ih fun x member => java x (List.mem_cons_of_mem _ member), and_assoc]

theorem expectedChar_valid {c : Nat} (java : c < 0x10000) : (expectedChar c).isValidChar := by
  unfold expectedChar
  split
  · decide
  next other =>
    simp only [Bool.or_eq_true, isHighSurrogate_iff, isLowSurrogate_iff] at other
    split
    · decide
    · simp only [Nat.isValidChar]
      omega

theorem expected_valid (text : List Nat) (java : ∀ c ∈ text, c < 0x10000) : ∀ c ∈ expected text, c.isValidChar := by
  induction text using scalars.induct with
  | case1 => simp [expected, scalars]
  | case2 c =>
    rw [expected_cons [] (Or.inr fun _ _ none => by cases none)]
    simpa [expected_nil] using expectedChar_valid (java c (by simp))
  | case3 c d rest pair ih =>
    rw [Bool.and_eq_true] at pair
    rw [expected_pair pair.1 pair.2, List.forall_mem_cons]
    exact ⟨(toCodePoint_valid pair.1 pair.2).1, ih fun x member => java x (by simp [member])⟩
  | case4 c d rest pair ih =>
    rw [Bool.not_eq_true, Bool.and_eq_false_iff] at pair
    rw [expected_cons _ (pair.imp_right fun low _ _ same => by cases same; exact low), List.forall_mem_cons]
    exact ⟨expectedChar_valid (java c (by simp)), ih fun x member => java x (List.mem_cons_of_mem _ member)⟩

theorem typed_valid {text points : List Nat} (found : typed text = some points) : ∀ c ∈ points, c.isValidChar := by
  induction text using typed.induct generalizing points with
  | case1 => cases found; simp
  | case2 c =>
    simp only [typed, Option.map_eq_some_iff] at found
    obtain ⟨point, typed, rfl⟩ := found
    simpa using (typedPoint_scalar typed).1
  | case3 c d rest high ih =>
    simp only [typed, high, if_true, Option.bind_eq_some_iff, Option.map_eq_some_iff] at found
    obtain ⟨point, typed, sent, same, rfl⟩ := found
    exact List.forall_mem_cons.mpr ⟨(typedPoint_scalar typed).1, ih same⟩
  | case4 c d rest high ih =>
    simp only [typed, high, Bool.false_eq_true, if_false, Option.bind_eq_some_iff, Option.map_eq_some_iff] at found
    obtain ⟨point, typed, sent, same, rfl⟩ := found
    exact List.forall_mem_cons.mpr ⟨(typedPoint_scalar typed).1, ih same⟩

theorem map_charOfNat_inj {first second : List Nat} (valid : ∀ c ∈ first, c.isValidChar)
    (valid' : ∀ c ∈ second, c.isValidChar) (same : first.map Char.ofNat = second.map Char.ofNat) : first = second := by
  have back {points : List Nat} (valid : ∀ c ∈ points, c.isValidChar) :
      (points.map Char.ofNat).map Char.toNat = points := by
    rw [List.map_map]
    exact (List.map_congr_left fun c member => toNat_charOfNat (valid c member)).trans (List.map_id _)
  rw [← back valid, same, back valid']

/-- A text arrives as typed, each line feed as a carriage return and each unpaired surrogate as the replacement
    character, exactly when it has no NUL and no unpaired surrogate but a high one at its end. -/
theorem sendTextToTerminal_arrives_iff (client : ViewClient) (passive : client.Passive) (view : InputView) (s : Outgoing)
    (session : view.mTermSession = some s) (running : 0 < s.mShellPid) (text : List Nat)
    (java : ∀ c ∈ text, c < 0x10000) :
    (∃ view', (sendTextToTerminal client text).run view = .ok () view' ∧
        view'.mTermSession = some (s.taking (encodeUtf8 ((expected text).map Char.ofNat)))) ↔ Typeable text := by
  rw [sendTextToTerminal_sends passive text view s _ session running, ← typed_expected_iff text java]
  constructor
  · rintro ⟨sent, found, taken⟩
    have bytes := List.append_cancel_left (congrArg Outgoing.taken taken)
    rw [found, map_charOfNat_inj (expected_valid text java) (typed_valid found) (encodeUtf8_injective bytes)]
  · intro found
    exact ⟨_, found, rfl⟩

def quietClient : ViewClient := ⟨false, false, false, fun _ _ => false, id⟩

theorem sendTextToTerminal_arrives_iff_text :
    ∃ view', (sendTextToTerminal quietClient [97, 10, 27, 3, 0xD83D, 0xDE00, 0xD83D]).run ⟨some ⟨1, []⟩, none⟩ =
        .ok () view' ∧
      view'.mTermSession = some ⟨1, [97, 13, 27, 3, 0xF0, 0x9F, 0x98, 0x80, 0xEF, 0xBF, 0xBD]⟩ :=
  (sendTextToTerminal_arrives_iff quietClient ⟨rfl, rfl, rfl, fun _ _ => rfl⟩ ⟨some ⟨1, []⟩, none⟩ ⟨1, []⟩ rfl (by decide)
    [97, 10, 27, 3, 0xD83D, 0xDE00, 0xD83D] (by decide)).mpr (by simp [Typeable, isHighSurrogate, isLowSurrogate])

/-- NUL arrives as a backquote, a low surrogate that stands alone throws, and a high one swallows the next char. -/
theorem sendTextToTerminal_fails :
    (sendTextToTerminal quietClient [0]).run ⟨some ⟨1, []⟩, none⟩ = .ok () ⟨some ⟨1, [96]⟩, none⟩ ∧
      (sendTextToTerminal quietClient [0xDE00]).run ⟨some ⟨1, []⟩, none⟩ =
        .error (.illegalArgument "Invalid code point: 56832") ⟨some ⟨1, []⟩, none⟩ ∧
      (sendTextToTerminal quietClient [0xD800, 97]).run ⟨some ⟨1, []⟩, none⟩ =
        .ok () ⟨some ⟨1, [0xE2, 0x91, 0xA1]⟩, none⟩ := by
  decide

end TerminalView
