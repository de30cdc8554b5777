import TerminalAndroid.Emulator.Parameters

open Java Exec Text

namespace TerminalEmulator

structure Pen where
  fore : BitVec 32
  back : BitVec 32
  underline : BitVec 32
  effect : BitVec 32
  deriving DecidableEq, Repr

def pen (e : TerminalEmulator) : Pen := ⟨e.mForeColor, e.mBackColor, e.mUnderlineColor, e.mEffect⟩

def value (text : List Nat) (j : Nat) : Int := argument ((fields text).getD j [])

def number (text : List Nat) (j : Nat) : Int := if value text j < 0 then 0 else value text j

def IsGroup (group : List Nat) : Prop :=
  (∀ x ∈ group, IsParameter x) ∧
    (((fields group).length = 1 ∧ value group 0 ∉ [38, 48, 58]) ∨
      ((fields group).length = 2 ∧ value group 0 = 4 ∧ introducedByColon group 1 = true) ∨
      ((fields group).length = 3 ∧ value group 0 ∈ [38, 48, 58] ∧ value group 1 = 5) ∨
      ((fields group).length = 5 ∧ value group 0 ∈ [38, 48, 58] ∧ value group 1 = 2))

instance : DecidablePred IsGroup := fun _ => inferInstanceAs (Decidable (_ ∧ _))

def sgr (text : List Nat) : List Nat := 27 :: '['.toNat :: (text ++ ['m'.toNat])

def joined (groups : List (List Nat)) : List Nat := [';'.toNat].intercalate groups

def applyGroup (e : TerminalEmulator) (group : List Nat) : TerminalEmulator :=
  match (fields group).length with
  | 1 => renditionCode (number group 0) e
  | 2 =>
    { e with
      mEffect :=
        if value group 1 = 0 then e.mEffect &&& ~~~TextStyle.characterAttributeUnderline
        else e.mEffect ||| TextStyle.characterAttributeUnderline }
  | 3 =>
    if 0 ≤ number group 2 ∧ number group 2 < TextStyle.numIndexedColors then
      setColor (number group 0) (BitVec.ofInt 32 (number group 2)) e
    else e
  | _ =>
    if number group 2 < 0 ∨ number group 3 < 0 ∨ number group 4 < 0 ∨ 255 < number group 2 ∨ 255 < number group 3 ∨
        255 < number group 4 then e.finishSequence
    else
      setColor (number group 0) (0xff000000 ||| BitVec.ofInt 32 (number group 2) <<< 16 |||
        BitVec.ofInt 32 (number group 3) <<< 8 ||| BitVec.ofInt 32 (number group 4)) e

variable {e e' : TerminalEmulator} {host : Host} {groups before after : List (List Nat)} {group : List Nat}

section Join

def introducers (text : List Nat) : List Nat := ';'.toNat :: text.filter isSeparator

theorem length_introducers (text : List Nat) : (introducers text).length = (fields text).length := (length_fields text).symm

theorem length_flatMap_introducers (groups : List (List Nat)) :
    (groups.flatMap introducers).length = (groups.flatMap fields).length := by
  simp only [List.length_flatMap, length_introducers]

theorem joined_cons_cons (group next : List Nat) (groups : List (List Nat)) :
    joined (group :: next :: groups) = group ++ ';'.toNat :: joined (next :: groups) := by
  simp [joined, List.intercalate]

theorem fields_joined (some : groups ≠ []) : fields (joined groups) = groups.flatMap fields := by
  induction groups with
  | nil => exact absurd rfl some
  | cons group groups ih =>
    cases groups with
    | nil => simp [joined, List.intercalate]
    | cons next groups =>
      rw [joined_cons_cons, fields_separator (by decide), ih (by simp)]
      rfl

theorem introducers_joined (some : groups ≠ []) : introducers (joined groups) = groups.flatMap introducers := by
  induction groups with
  | nil => exact absurd rfl some
  | cons group groups ih =>
    cases groups with
    | nil => simp [joined, List.intercalate]
    | cons next groups =>
      rw [List.flatMap_cons, ← ih (by simp), joined_cons_cons]
      unfold introducers
      rw [List.filter_append, List.filter_cons, if_pos (by decide), List.cons_append]

theorem joined_parameters (parameters : ∀ group ∈ groups, ∀ x ∈ group, IsParameter x) :
    ∀ x ∈ joined groups, IsParameter x := by
  induction groups with
  | nil => simp [joined, List.intercalate]
  | cons group groups ih =>
    rw [List.forall_mem_cons] at parameters
    cases groups with
    | nil => simpa [joined, List.intercalate] using parameters.1
    | cons next groups =>
      rw [joined_cons_cons, List.forall_mem_append, List.forall_mem_cons]
      exact ⟨parameters.1, by decide, ih parameters.2⟩

end Join

structure Carries (groups : List (List Nat)) (e : TerminalEmulator) : Prop where
  size : (groups.flatMap fields).length ≤ 32
  index : e.mArgIndex + 1 = (groups.flatMap fields).length
  args : ∀ i : Fin 32, e.mArgs.get i = argument ((groups.flatMap fields).getD i [])
  subs : ∀ i : Fin 32, e.mArgsSubParamsBitSet.getLsbD i = decide ((groups.flatMap introducers)[i.val]? = some ':'.toNat)

theorem carries_reading (some : groups ≠ []) (size : (groups.flatMap fields).length ≤ 32) (e : TerminalEmulator)
    (state : EscapeState) : Carries groups (e.reading state (joined groups)) := by
  have length := length_fields (joined groups)
  rw [fields_joined some] at length
  have hidden : ExcessHidden (joined groups) := by
    left
    rw [excessDigits, fields_joined some, List.drop_eq_nil_of_le size]
    rfl
  obtain ⟨args, subs⟩ := (parsedAs_reading_iff e state _).mpr hidden
  rw [fields_joined some] at args
  refine ⟨size, ?_, args, fun i => (subs i).trans ?_⟩
  · unfold reading
    dsimp only
    omega
  · rw [← introducers_joined some]
    rfl

theorem isSubParam_eq (e : TerminalEmulator) {i : Nat} (inside : i < 32) :
    e.isSubParam i = e.mArgsSubParamsBitSet.getLsbD i := by
  have shift : ((i : Int) % 32).toNat = i := by omega
  have one : (1 : BitVec 32) <<< i = BitVec.twoPow 32 i := rfl
  unfold isSubParam
  rw [shift, one]
  exact and_twoPow_ne_zero e.mArgsSubParamsBitSet inside

theorem getElem?_flatMap {α β : Type} (f : α → List β) (before after : List α) (a : α) (j : Nat) :
    ((before ++ a :: after).flatMap f)[(before.flatMap f).length + j]? = (f a ++ after.flatMap f)[j]? := by
  rw [List.flatMap_append, List.flatMap_cons, List.getElem?_append_right (by omega), Nat.add_sub_cancel_left]

namespace Carries

variable (carries : Carries (before ++ group :: after) e)
include carries

theorem room : (before.flatMap fields).length + (fields group).length ≤ 32 := by
  have size := carries.size
  rw [List.flatMap_append, List.flatMap_cons, List.length_append, List.length_append] at size
  omega

theorem last : ((before.flatMap fields).length : Int) + (fields group).length ≤ e.mArgIndex + 1 := by
  have index := carries.index
  rw [List.flatMap_append, List.flatMap_cons, List.length_append, List.length_append] at index
  omega

theorem run_argAt {j : Nat} (inside : j < (fields group).length) :
    (argAt (((before.flatMap fields).length : Int) + j)).run e = .ok (value group j) e := by
  have bound : (before.flatMap fields).length + j < 32 := by
    have := carries.room
    omega
  have found := getElem?_flatMap fields before after group j
  rw [List.getElem?_append_left inside] at found
  have arg := carries.args ⟨(before.flatMap fields).length + j, bound⟩
  rw [List.getD_eq_getElem?_getD, found, ← List.getD_eq_getElem?_getD] at arg
  rw [← Int.natCast_add, run_argAt_get e bound, arg]
  rfl

theorem run_argOr {j : Nat} (inside : j < (fields group).length) :
    (argOr (((before.flatMap fields).length : Int) + j) 0 false).run e = .ok (number group j) e := by
  unfold argOr number
  rw [EStateM.run_bind, carries.run_argAt inside]
  simp

theorem isSubParam {j : Nat} (inside : j < (fields group).length) :
    e.isSubParam (((before.flatMap fields).length : Int) + j) = introducedByColon group j := by
  have bound : (before.flatMap fields).length + j < 32 := by
    have := carries.room
    omega
  have found := getElem?_flatMap introducers before after group j
  rw [List.getElem?_append_left (by rwa [length_introducers]), length_flatMap_introducers] at found
  rw [← Int.natCast_add, isSubParam_eq e bound, carries.subs ⟨_, bound⟩, found]
  rfl

theorem isSubParam_next (inside : ((before.flatMap fields).length : Int) + (fields group).length ≤ e.mArgIndex) :
    e.isSubParam (((before.flatMap fields).length : Int) + (fields group).length) = false := by
  have index := carries.index
  have size := carries.size
  have bound : (before.flatMap fields).length + (fields group).length < 32 := by omega
  have found := getElem?_flatMap introducers before after group (introducers group).length
  rw [List.getElem?_append_right (Nat.le_refl _), Nat.sub_self, length_flatMap_introducers, length_introducers] at found
  rw [← Int.natCast_add, isSubParam_eq e bound, carries.subs ⟨_, bound⟩, found]
  cases after with
  | nil => rfl
  | cons next after => rfl

theorem run_renditionArg_code (length : (fields group).length = 1) (other : value group 0 ∉ [38, 48, 58]) :
    (renditionArg (number group 0) (before.flatMap fields).length).run e =
      .ok ((before.flatMap fields).length : Int) (applyGroup e group) := by
  have next : ¬ (number group 0 = 4 ∧ ((before.flatMap fields).length : Int) + 1 ≤ e.mArgIndex ∧
      e.isSubParam (((before.flatMap fields).length : Int) + 1) = true) := by
    rintro ⟨-, inside, sub⟩
    have plain := carries.isSubParam_next (by rw [length]; exact inside)
    rw [length] at plain
    exact absurd (plain.symm.trans sub) (by decide)
  have code : ¬ (number group 0 = 38 ∨ number group 0 = 48 ∨ number group 0 = 58) := by
    simp only [List.mem_cons, List.not_mem_nil, or_false] at other
    unfold number
    split <;> omega
  unfold renditionArg applyGroup
  rw [EStateM.run_bind, EStateM.run_get, length]
  dsimp only
  rw [if_neg next, if_neg code]
  rfl

theorem run_renditionArg_underline (length : (fields group).length = 2) (four : value group 0 = 4)
    (colon : introducedByColon group 1 = true) :
    (renditionArg (number group 0) (before.flatMap fields).length).run e =
      .ok (((before.flatMap fields).length : Int) + 1) (applyGroup e group) := by
  have last := carries.last
  have sub := carries.isSubParam (show 1 < (fields group).length by omega)
  have variation : (TerminalEmulator.argAt (((before.flatMap fields).length : Int) + 1)).run e = .ok (value group 1) e :=
    carries.run_argAt (show 1 < (fields group).length by omega)
  have code : number group 0 = 4 := by rw [number, four]; rfl
  unfold renditionArg applyGroup
  rw [EStateM.run_bind, EStateM.run_get, length]
  dsimp only
  rw [if_pos ⟨code, by omega, sub.trans colon⟩, EStateM.run_bind, variation]
  rfl

omit carries in
theorem run_renditionArg_color (color : value group 0 ∈ [38, 48, 58]) (i : Int) :
    (renditionArg (number group 0) i).run e = (extendedColor (number group 0) i).run e := by
  simp only [List.mem_cons, List.not_mem_nil, or_false] at color
  have code : number group 0 = value group 0 := if_neg (by omega)
  unfold renditionArg
  rw [EStateM.run_bind, EStateM.run_get, code]
  dsimp only
  rw [if_neg (by omega), if_pos color]

theorem run_renditionArg_indexed (length : (fields group).length = 3) (color : value group 0 ∈ [38, 48, 58])
    (five : value group 1 = 5) :
    (renditionArg (number group 0) (before.flatMap fields).length).run e =
      .ok (((before.flatMap fields).length : Int) + 2) (applyGroup e group) := by
  have last := carries.last
  have first : (TerminalEmulator.argAt (((before.flatMap fields).length : Int) + 1)).run e = .ok (value group 1) e :=
    carries.run_argAt (show 1 < (fields group).length by omega)
  have index : (argOr (((before.flatMap fields).length : Int) + 2) 0 false).run e = .ok (number group 2) e :=
    carries.run_argOr (show 2 < (fields group).length by omega)
  rw [run_renditionArg_color color]
  unfold extendedColor applyGroup
  rw [EStateM.run_bind, EStateM.run_get, length]
  dsimp only
  rw [if_neg (by omega), EStateM.run_bind, first, five]
  dsimp only
  rw [if_neg (by decide), if_pos rfl]
  simp only [EStateM.run_bind, index, EStateM.run_modify]
  split <;> rfl

theorem run_renditionArg_direct (length : (fields group).length = 5) (color : value group 0 ∈ [38, 48, 58])
    (two : value group 1 = 2) :
    (renditionArg (number group 0) (before.flatMap fields).length).run e =
      .ok (((before.flatMap fields).length : Int) + 4) (applyGroup e group) := by
  have last := carries.last
  have first : (TerminalEmulator.argAt (((before.flatMap fields).length : Int) + 1)).run e = .ok (value group 1) e :=
    carries.run_argAt (show 1 < (fields group).length by omega)
  have red : (argOr (((before.flatMap fields).length : Int) + 2) 0 false).run e = .ok (number group 2) e :=
    carries.run_argOr (show 2 < (fields group).length by omega)
  have green : (argOr (((before.flatMap fields).length : Int) + 3) 0 false).run e = .ok (number group 3) e :=
    carries.run_argOr (show 3 < (fields group).length by omega)
  have blue : (argOr (((before.flatMap fields).length : Int) + 4) 0 false).run e = .ok (number group 4) e :=
    carries.run_argOr (show 4 < (fields group).length by omega)
  rw [run_renditionArg_color color]
  unfold extendedColor applyGroup
  rw [EStateM.run_bind, EStateM.run_get, length]
  dsimp only
  rw [if_neg (by omega), EStateM.run_bind, first, two]
  dsimp only
  rw [if_pos rfl, if_neg (by omega)]
  simp only [EStateM.run_bind, red, green, blue, EStateM.run_modify]
  split <;> rfl

theorem run_renditionArg (valid : IsGroup group) :
    (renditionArg (number group 0) (before.flatMap fields).length).run e =
      .ok (((before.flatMap fields).length : Int) + ((fields group).length - 1)) (applyGroup e group) := by
  rcases valid.2 with ⟨length, other⟩ | ⟨length, four, colon⟩ | ⟨length, color, five⟩ | ⟨length, color, two⟩
  · rw [carries.run_renditionArg_code length other, length]
    simp
  · rw [carries.run_renditionArg_underline length four colon, length]
    rfl
  · rw [carries.run_renditionArg_indexed length color five, length]
    rfl
  · rw [carries.run_renditionArg_direct length color two, length]
    rfl

end Carries

section Apply

structure SameParameters (e e' : TerminalEmulator) : Prop where
  index : e'.mArgIndex = e.mArgIndex
  args : e'.mArgs = e.mArgs
  subs : e'.mArgsSubParamsBitSet = e.mArgsSubParamsBitSet
  continues : e'.mContinueSequence = e.mContinueSequence

structure OnPen (f : TerminalEmulator → TerminalEmulator) : Prop where
  pen : ∀ e e' : TerminalEmulator, e.pen = e'.pen → (f e).pen = (f e').pen
  keeps : ∀ e, SameParameters e (f e)

namespace OnPen

theorem of_effect (f : BitVec 32 → BitVec 32) : OnPen fun e => { e with mEffect := f e.mEffect } where
  pen e e' same := by
    obtain ⟨fore, back, underline, effect⟩ := Pen.mk.inj same
    simp only [TerminalEmulator.pen, fore, back, underline, effect]
  keeps _ := ⟨rfl, rfl, rfl, rfl⟩

theorem fore (color : BitVec 32) : OnPen fun e => { e with mForeColor := color } where
  pen e e' same := by
    obtain ⟨-, back, underline, effect⟩ := Pen.mk.inj same
    simp only [TerminalEmulator.pen, back, underline, effect]
  keeps _ := ⟨rfl, rfl, rfl, rfl⟩

theorem back (color : BitVec 32) : OnPen fun e => { e with mBackColor := color } where
  pen e e' same := by
    obtain ⟨fore, -, underline, effect⟩ := Pen.mk.inj same
    simp only [TerminalEmulator.pen, fore, underline, effect]
  keeps _ := ⟨rfl, rfl, rfl, rfl⟩

theorem underline (color : BitVec 32) : OnPen fun e => { e with mUnderlineColor := color } where
  pen e e' same := by
    obtain ⟨fore, back, -, effect⟩ := Pen.mk.inj same
    simp only [TerminalEmulator.pen, fore, back, effect]
  keeps _ := ⟨rfl, rfl, rfl, rfl⟩

theorem reset : OnPen fun e =>
    { e with mForeColor := TextStyle.colorIndexForeground, mBackColor := TextStyle.colorIndexBackground, mEffect := 0 } where
  pen e e' same := by
    obtain ⟨-, -, underline, -⟩ := Pen.mk.inj same
    simp only [TerminalEmulator.pen, underline]
  keeps _ := ⟨rfl, rfl, rfl, rfl⟩

theorem on (bit : BitVec 32) : OnPen fun e => { e with mEffect := e.mEffect ||| bit } := of_effect (· ||| bit)

theorem off (bit : BitVec 32) : OnPen fun e => { e with mEffect := e.mEffect &&& ~~~bit } := of_effect (· &&& ~~~bit)

theorem id : OnPen fun e => e := ⟨fun _ _ same => same, fun _ => ⟨rfl, rfl, rfl, rfl⟩⟩

theorem finishSequence : OnPen TerminalEmulator.finishSequence := ⟨fun _ _ same => same, fun _ => ⟨rfl, rfl, rfl, rfl⟩⟩

theorem ite {p : Prop} [Decidable p] {f g : TerminalEmulator → TerminalEmulator} (yes : OnPen f) (no : OnPen g) :
    OnPen fun e => if p then f e else g e := by
  split
  · exact yes
  · exact no

theorem setColor (code : Int) (color : BitVec 32) : OnPen (setColor code color) :=
  ite (fore color) (ite (back color) (underline color))

theorem renditionCode (code : Int) : OnPen (renditionCode code) := by
  refine ite reset ?_
  iterate 8 refine ite (on _) ?_
  iterate 7 refine ite (off _) ?_
  refine ite (fore _) (ite (fore _) (ite (back _) (ite (back _) (ite (underline _) (ite (fore _) (ite (back _) id))))))

theorem applyGroup (group : List Nat) : OnPen (applyGroup · group) := by
  unfold TerminalEmulator.applyGroup
  split
  · exact renditionCode _
  · exact of_effect fun effect => if value group 1 = 0 then effect &&& ~~~TextStyle.characterAttributeUnderline
      else effect ||| TextStyle.characterAttributeUnderline
  · exact ite (setColor _ _) id
  · exact ite finishSequence (setColor _ _)

end OnPen

theorem foldl_applyGroup_pen (same : e.pen = e'.pen) (groups : List (List Nat)) :
    (groups.foldl applyGroup e).pen = (groups.foldl applyGroup e').pen := by
  induction groups generalizing e e' with
  | nil => exact same
  | cons group groups ih => exact ih ((OnPen.applyGroup group).pen _ _ same)

theorem foldl_applyGroup_continues (e : TerminalEmulator) (groups : List (List Nat)) :
    (groups.foldl applyGroup e).mContinueSequence = e.mContinueSequence := by
  induction groups generalizing e with
  | nil => rfl
  | cons group groups ih => exact (ih _).trans ((OnPen.applyGroup group).keeps e).continues

theorem Carries.applied (carries : Carries groups e) (group : List Nat) : Carries groups (applyGroup e group) := by
  obtain ⟨index, args, subs, -⟩ := (OnPen.applyGroup group).keeps e
  constructor
  · exact carries.size
  · rw [index]
    exact carries.index
  · rw [args]
    exact carries.args
  · rw [subs]
    exact carries.subs

end Apply

section Run

theorem number_nonneg (text : List Nat) (j : Nat) : 0 ≤ number text j := by
  unfold number
  split <;> omega

theorem IsGroup.length_pos (valid : IsGroup group) : 1 ≤ (fields group).length := by
  rcases valid.2 with one | two | three | five <;> omega

theorem IsGroup.length_le (valid : IsGroup group) : (fields group).length ≤ 32 := by
  rcases valid.2 with one | two | three | five <;> omega

theorem length_le_fields (valid : ∀ group ∈ groups, IsGroup group) : groups.length ≤ (groups.flatMap fields).length := by
  induction groups with
  | nil => exact Nat.le_refl 0
  | cons group groups ih =>
    rw [List.forall_mem_cons] at valid
    have positive := valid.1.length_pos
    have rest := ih valid.2
    rw [List.flatMap_cons, List.length_append, List.length_cons]
    omega

theorem Carries.run_loop (carries : Carries (before ++ after) e) (valid : ∀ group ∈ after, IsGroup group) {rounds : Nat}
    (enough : after.length ≤ rounds) :
    (selectGraphicRenditionLoop rounds (before.flatMap fields).length).run e = .ok () (after.foldl applyGroup e) := by
  induction after generalizing before e rounds with
  | nil =>
    have index := carries.index
    rw [List.append_nil] at index
    cases rounds with
    | zero => rfl
    | succ rounds =>
      rw [selectGraphicRenditionLoop, EStateM.run_bind, EStateM.run_get]
      dsimp only
      rw [if_pos (by omega)]
      rfl
  | cons group after ih =>
    rw [List.forall_mem_cons] at valid
    cases rounds with
    | zero => cases enough
    | succ rounds =>
      have positive := valid.1.length_pos
      have last := carries.last
      have plain := carries.isSubParam (show 0 < (fields group).length by omega)
      have code := carries.run_argOr (show 0 < (fields group).length by omega)
      rw [Int.natCast_zero, Int.add_zero] at plain code
      have round := carries.run_renditionArg valid.1
      have given := number_nonneg group 0
      have rest : (selectGraphicRenditionLoop rounds ((before ++ [group]).flatMap fields).length).run (applyGroup e group) =
          .ok () (after.foldl applyGroup (applyGroup e group)) :=
        ih (by rw [List.append_assoc]; exact carries.applied group) valid.2 (by rw [List.length_cons] at enough; omega)
      have next : ((before.flatMap fields).length : Int) + ((fields group).length - 1) + 1 =
          (((before ++ [group]).flatMap fields).length : Nat) := by
        rw [List.flatMap_append, List.length_append, List.flatMap_singleton]
        omega
      rw [selectGraphicRenditionLoop, EStateM.run_bind, EStateM.run_get]
      dsimp only
      rw [if_neg (by omega), plain, if_neg (by simp [introducedByColon]), EStateM.run_bind, code]
      dsimp only
      rw [if_neg (by omega), if_neg (by omega), EStateM.run_bind, round]
      dsimp only
      rw [next, rest]
      rfl

theorem Carries.run_selectGraphicRendition (carries : Carries groups e) (valid : ∀ group ∈ groups, IsGroup group) :
    selectGraphicRendition.run e = .ok () (groups.foldl applyGroup e) := by
  have index := carries.index
  have size := carries.size
  have clamped : clampArgIndex e = e := if_neg (by rw [maxEscapeParameters]; omega)
  have many := length_le_fields valid
  unfold selectGraphicRendition
  rw [EStateM.run_bind, EStateM.run_modify, clamped]
  exact @Carries.run_loop e [] groups carries valid _ (by omega)

theorem run_sgr (starts : e.StartsSequence) (some : groups ≠ []) (valid : ∀ group ∈ groups, IsGroup group)
    (size : (groups.flatMap fields).length ≤ 32) :
    ∃ e', (receive host (sgr (joined groups))).run e = .ok () e' ∧ e'.StartsSequence ∧
      e'.pen = (groups.foldl applyGroup e).pen := by
  have parameters := joined_parameters fun group member => (valid group member).1
  have carries : Carries groups (e.finishing .csi (joined groups)) := { carries_reading some size e .csi with }
  have continues := foldl_applyGroup_continues (e.finishing .csi (joined groups)) groups
  have same : (e.finishing .csi (joined groups)).pen = e.pen := rfl
  exact ⟨_, run_csi_final starts parameters (by decide) (carries.run_selectGraphicRendition valid) continues,
    startsSequence_of_none rfl, foldl_applyGroup_pen same groups⟩

theorem run_sgrs (starts : e.StartsSequence) (valid : ∀ group ∈ groups, IsGroup group) :
    ∃ e', (receive host (groups.flatMap sgr)).run e = .ok () e' ∧ e'.pen = (groups.foldl applyGroup e).pen := by
  induction groups generalizing e with
  | nil => exact ⟨e, rfl, rfl⟩
  | cons group groups ih =>
    rw [List.forall_mem_cons] at valid
    have single : joined [group] = group := by simp [joined, List.intercalate]
    obtain ⟨e₁, first, starts₁, same⟩ := @run_sgr e host [group] starts (by simp) (by simpa using valid.1)
      (by rw [List.flatMap_singleton]; exact valid.1.length_le)
    obtain ⟨e₂, rest, same₂⟩ := ih starts₁ valid.2
    rw [single] at first
    refine ⟨e₂, ?_, same₂.trans (foldl_applyGroup_pen same groups)⟩
    rw [List.flatMap_cons, receive_append, EStateM.run_bind, first]
    exact rest

/-- Any groups of parameters, joined by semicolons, change the pen as one sequence for every group does. -/
theorem sgr_joined (host : Host) (e : TerminalEmulator) (starts : e.StartsSequence) (groups : List (List Nat))
    (some : groups ≠ []) (valid : ∀ group ∈ groups, IsGroup group) (size : (groups.flatMap fields).length ≤ 32) :
    ∃ e₁ e₂, (receive host (sgr (joined groups))).run e = .ok () e₁ ∧
      (receive host (groups.flatMap sgr)).run e = .ok () e₂ ∧ e₁.pen = e₂.pen := by
  obtain ⟨e₁, ran₁, -, same₁⟩ := @run_sgr e host groups starts some valid size
  obtain ⟨e₂, ran₂, same₂⟩ := @run_sgrs e host groups starts valid
  exact ⟨e₁, e₂, ran₁, ran₂, same₁.trans same₂.symm⟩

theorem sgr_joined_colors : ∃ e₁ e₂,
    (receive plainHost (sgr (joined [chars "1", chars "38:5;300", chars "4:3"]))).run (filledWith 4 2 120) = .ok () e₁ ∧
      (receive plainHost ([chars "1", chars "38:5;300", chars "4:3"].flatMap sgr)).run (filledWith 4 2 120) = .ok () e₂ ∧
        e₁.pen = e₂.pen :=
  sgr_joined plainHost (filledWith 4 2 120) ⟨by decide, by decide, by decide⟩ _ (by decide) (by decide)
    (by decide)

/-- Without a group the joined sequence is `CSI m`, which resets the pen. -/
theorem sgr_joined_nothing : ∃ e₁ e₂,
    (receive plainHost (sgr (joined []))).run { filledWith 4 2 120 with mEffect := 1 } = .ok () e₁ ∧
      (receive plainHost (List.flatMap sgr [])).run { filledWith 4 2 120 with mEffect := 1 } = .ok () e₂ ∧
        e₁.pen ≠ e₂.pen := by
  have carries : Carries [[]] (({ filledWith 4 2 120 with mEffect := 1 } : TerminalEmulator).finishing .csi []) :=
    { carries_reading (by decide) (by decide) _ .csi with }
  exact ⟨_, _, run_csi_final ⟨by decide, by decide, by decide⟩ (by decide) (by decide)
    (carries.run_selectGraphicRendition (by decide)) rfl, rfl, by decide⟩

end Run

end TerminalEmulator
