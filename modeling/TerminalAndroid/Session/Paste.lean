import TerminalAndroid.Session.Output

open Java Utf16 TerminalSession

namespace TerminalEmulator

def isPasteControl (c : Nat) : Bool := c == 27 || (0x80 ≤ c && c ≤ 0x9F)

def removeControls (text : List Nat) : List Nat := text.filter (!isPasteControl ·)

/-- The second replacement of `paste`, of `\r?\n` by `\r`. -/
def joinNewlines : List Nat → List Nat
  | [] => []
  | [c] => [if c = 10 then 13 else c]
  | c :: d :: rest =>
    if c = 13 ∧ d = 10 then 13 :: joinNewlines rest else (if c = 10 then 13 else c) :: joinNewlines (d :: rest)

def paste (e : TerminalEmulator) (text : List Nat) : OutgoingM Unit := do
  let text := joinNewlines (removeControls text)
  let bracketed := e.isDecsetInternalBitSet decsetBitBracketedPasteMode
  (if bracketed then writeText (chars "\x1b[200~") else pure ())
  writeText text
  (if bracketed then writeText (chars "\x1b[201~") else pure ())

section Newlines

theorem joinNewlines_eq_nil {text : List Nat} : joinNewlines text = [] ↔ text = [] := by
  cases text with
  | nil => simp [joinNewlines]
  | cons c text =>
    cases text with
    | nil => simp [joinNewlines]
    | cons d rest =>
      simp only [joinNewlines]
      split <;> simp

theorem mem_joinNewlines {text : List Nat} {c : Nat} (member : c ∈ joinNewlines text) : (c ∈ text ∨ c = 13) ∧ c ≠ 10 := by
  induction text using joinNewlines.induct with
  | case1 => simp [joinNewlines] at member
  | case2 d =>
    simp only [joinNewlines, List.mem_singleton] at member ⊢
    split at member <;> omega
  | case3 d f rest crlf ih =>
    simp only [joinNewlines, crlf, and_self, if_true, List.mem_cons] at member
    rcases member with rfl | member
    · exact ⟨Or.inr rfl, by decide⟩
    · exact ⟨(ih member).1.imp_left fun found => by simp [found], (ih member).2⟩
  | case4 d f rest other ih =>
    simp only [joinNewlines, other, if_false, List.mem_cons] at member
    rcases member with first | member
    · split at first
      · exact ⟨Or.inr first, by omega⟩
      · exact ⟨Or.inl (by simp [first]), by omega⟩
    · exact ⟨(ih (by simpa using member)).1.imp_left (List.mem_cons_of_mem _), (ih (by simpa using member)).2⟩

theorem joinNewlines_cons {c : Nat} (cr : c ≠ 13) (lf : c ≠ 10) (rest : List Nat) :
    joinNewlines (c :: rest) = c :: joinNewlines rest := by
  cases rest with
  | nil => simp [joinNewlines, lf]
  | cons d rest => simp [joinNewlines, cr, lf]

theorem joinNewlines_cr {c : Nat} (newline : c = 13 ∨ c = 10) (rest : List Nat) :
    ∃ tail, joinNewlines (c :: rest) = 13 :: tail := by
  cases rest with
  | nil => rcases newline with rfl | rfl <;> exact ⟨[], rfl⟩
  | cons d rest =>
    simp only [joinNewlines]
    split
    · exact ⟨_, rfl⟩
    · rcases newline with rfl | rfl <;> exact ⟨_, rfl⟩

theorem paired_cons {c : Nat} (high : isHighSurrogate c = false) (rest : List Nat) :
    Paired (c :: rest) ↔ c < 0x10000 ∧ isLowSurrogate c = false ∧ Paired rest := by
  cases rest with
  | nil => simp [Paired, high]
  | cons d rest => simp [Paired, high]

theorem paired_cons_high {c d : Nat} (high : isHighSurrogate c = true) (rest : List Nat) :
    Paired (c :: d :: rest) ↔ isLowSurrogate d = true ∧ Paired rest := by
  simp [Paired, high]

theorem paired_joinNewlines (text : List Nat) : Paired (joinNewlines text) ↔ Paired text := by
  induction size : text.length using Nat.strong_induction_on generalizing text with
  | _ n ih =>
    match text with
    | [] => rfl
    | [c] =>
      simp only [joinNewlines]
      split
      next lf => rw [lf, paired_cons (by decide), paired_cons (by decide)]; decide
      · rfl
    | c :: d :: rest =>
      simp only [List.length_cons] at size
      have tail := ih (rest.length + 1) (by omega) (d :: rest) rfl
      have after := ih rest.length (by omega) rest rfl
      by_cases high : isHighSurrogate c = true
      · have range := (isHighSurrogate_iff c).mp high
        rw [joinNewlines_cons (by omega) (by omega), paired_cons_high high]
        by_cases newline : d = 13 ∨ d = 10
        · obtain ⟨more, same⟩ := joinNewlines_cr newline rest
          rw [same, paired_cons_high high]
          rcases newline with rfl | rfl <;> simp [isLowSurrogate]
        · rw [joinNewlines_cons (by omega) (by omega), paired_cons_high high, after]
      · rw [Bool.not_eq_true] at high
        rw [paired_cons high]
        simp only [joinNewlines]
        split
        next crlf =>
          rw [crlf.1, crlf.2, paired_cons (by decide), paired_cons (by decide), after]
          simp [isLowSurrogate]
        next other =>
          rw [← tail]
          by_cases lf : c = 10
          · rw [if_pos lf, lf, paired_cons (by decide)]
            simp [isLowSurrogate]
          · rw [if_neg lf, paired_cons high]

end Newlines

end TerminalEmulator

namespace TerminalSession

theorem getBytes_paired {text : List Nat} (paired : Paired text) :
    getBytes text = encodeUtf8 ((decode text).map Char.ofNat) := by
  have scalars := (paired_encoded paired).1
  induction text using decode.induct with
  | case1 => rfl
  | case2 c =>
    obtain ⟨bound, high, low⟩ := paired
    simp only [getBytes, decode, high, low, Bool.or_self, Bool.false_eq_true, if_false]
    rw [encodeUtf8_cons (scalars c (by simp [decode]))]
    exact (List.append_nil _).symm
  | case3 c d rest high ih =>
    simp only [decode, high, if_true] at scalars ⊢
    simp only [Paired, high, if_true] at paired
    simp only [getBytes, high, paired.1, Bool.and_self, if_true]
    rw [encodeUtf8_cons (scalars _ (by simp)), ih paired.2 (fun x member => scalars x (by simp [member]))]
  | case4 c d rest high ih =>
    simp only [Bool.not_eq_true] at high
    simp only [decode, high, Bool.false_eq_true, if_false] at scalars ⊢
    simp only [Paired, high, Bool.false_eq_true, if_false] at paired
    simp only [getBytes, high, paired.2.1, Bool.false_and, Bool.or_self, Bool.false_eq_true, if_false]
    rw [encodeUtf8_cons (scalars _ (by simp)), ih paired.2.2 (fun x member => scalars x (by simp [member]))]

theorem ascii_mem_encodeUtf8 {points : List Char} {byte : UInt8} (small : byte.toNat < 0x80)
    (member : byte ∈ encodeUtf8 points) : Char.ofNat byte.toNat ∈ points := by
  obtain ⟨point, found, member⟩ := List.mem_flatMap.mp member
  by_cases ascii : point.val.toNat ≤ 127
  · simp only [String.utf8EncodeChar, ascii, if_true, List.mem_singleton] at member
    rw [member, UInt8.toNat_ofNat', Nat.mod_eq_of_lt (by omega)]
    exact (Char.ofNat_toNat point).symm ▸ found
  · exfalso
    simp only [String.utf8EncodeChar, ascii, if_false] at member
    split_ifs at member <;>
      simp only [List.mem_cons, List.not_mem_nil, or_false, ← UInt8.toNat_inj, UInt8.toNat_ofNat'] at member <;> omega

end TerminalSession

namespace TerminalEmulator

def pasteStart : List UInt8 := [27, 91, 50, 48, 48, 126]
def pasteEnd : List UInt8 := [27, 91, 50, 48, 49, 126]

variable {e : TerminalEmulator} {s : Outgoing}

theorem run_paste (running : 0 < s.mShellPid) (bracketed : e.isDecsetInternalBitSet decsetBitBracketedPasteMode = true)
    (text : List Nat) :
    (e.paste text).run s =
      if removeControls text = [] then .error (.illegalArgument "length <= 0") (s.taking pasteStart)
      else .ok () (s.taking (pasteStart ++ getBytes (joinNewlines (removeControls text)) ++ pasteEnd)) := by
  have start : (writeText (chars "\x1b[200~")).run s = .ok () (s.taking pasteStart) := run_writeText running _
  have finish (taken : List UInt8) :
      (writeText (chars "\x1b[201~")).run (s.taking taken) = .ok () (s.taking (taken ++ pasteEnd)) := by
    rw [← Outgoing.taking_append]
    exact run_writeText (s := s.taking taken) running _
  have middle : (writeText (joinNewlines (removeControls text))).run (s.taking pasteStart) =
      if joinNewlines (removeControls text) = [] then _ else _ := run_writeText (s := s.taking pasteStart) running _
  unfold paste
  simp only [bracketed, if_true, joinNewlines_eq_nil] at middle ⊢
  rw [Exec.run_bind_of start, EStateM.run_bind, middle]
  by_cases empty : removeControls text = []
  · rw [if_pos empty, if_pos empty]
  · rw [if_neg empty, if_neg empty, Outgoing.taking_append]
    exact finish _

def Pasteable (text : List Nat) : Prop := removeControls text ≠ [] ∧ Paired (removeControls text)

/-- A paste in brackets arrives as the start marker, the cleaned text and the end marker exactly when the text is not
    empty without its control characters and has no unpaired surrogate then. -/
theorem paste_delivered_iff (e : TerminalEmulator) (s : Outgoing) (running : 0 < s.mShellPid)
    (bracketed : e.isDecsetInternalBitSet decsetBitBracketedPasteMode = true) (text : List Nat) :
    (∃ payload points, (e.paste text).run s = .ok () (s.taking (pasteStart ++ payload ++ pasteEnd)) ∧
        decodeUtf8 payload = some points ∧
        (∀ point ∈ points, point.toNat ≠ 27 ∧ ¬ (0x80 ≤ point.toNat ∧ point.toNat ≤ 0x9F) ∧ point.toNat ≠ 10) ∧
        ¬ pasteEnd <:+: payload ∧
        points.flatMap (fun point => toChars point.toNat) = joinNewlines (removeControls text)) ↔ Pasteable text := by
  rw [run_paste running bracketed]
  constructor
  · rintro ⟨payload, points, ran, -, -, -, whole⟩
    split at ran
    · cases ran
    next nonempty =>
      refine ⟨nonempty, (paired_joinNewlines _).mp ?_⟩
      rw [← whole, ← List.flatMap_map]
      exact paired_flatMap fun c member => by
        obtain ⟨point, -, rfl⟩ := List.mem_map.mp member
        exact point.valid
  · rintro ⟨nonempty, paired⟩
    have joined := (paired_joinNewlines _).mpr paired
    obtain ⟨scalars, whole⟩ := paired_encoded joined
    rw [if_neg nonempty, getBytes_paired joined]
    have clean : ∀ point ∈ (decode (joinNewlines (removeControls text))).map Char.ofNat,
        point.toNat ≠ 27 ∧ ¬ (0x80 ≤ point.toNat ∧ point.toNat ≤ 0x9F) ∧ point.toNat ≠ 10 := by
      intro point member
      obtain ⟨c, found, rfl⟩ := List.mem_map.mp member
      rw [toNat_charOfNat (scalars c found)]
      have inside (bmp : c < 0x10000) : c ∈ joinNewlines (removeControls text) := by
        rw [← whole]
        exact List.mem_flatMap.mpr ⟨c, found, by rw [toChars_bmp bmp]; exact List.mem_singleton_self c⟩
      have kept (bmp : c < 0x10000) : c ≠ 10 ∧ (c = 13 ∨ isPasteControl c = false) := by
        obtain ⟨origin, other⟩ := mem_joinNewlines (inside bmp)
        refine ⟨other, origin.symm.imp_right fun member => ?_⟩
        simpa using (List.mem_filter.mp member).2
      by_cases bmp : c < 0x10000
      · have := kept bmp
        simp only [isPasteControl, Bool.or_eq_false_iff, Bool.and_eq_false_iff, beq_eq_false_iff_ne,
          decide_eq_false_iff_not] at this
        omega
      · omega
    refine ⟨_, _, rfl, decodeUtf8_encodeUtf8 _, clean, ?_, ?_⟩
    · rintro ⟨before, after, same⟩
      have escape : (27 : UInt8) ∈ encodeUtf8 ((decode (joinNewlines (removeControls text))).map Char.ofNat) := by
        rw [← same]
        simp [pasteEnd]
      exact (clean _ (ascii_mem_encodeUtf8 (by decide) escape)).1 rfl
    · rw [List.flatMap_map]
      refine Eq.trans (List.flatMap_congr fun c found => ?_) whole
      rw [toNat_charOfNat (scalars c found)]

theorem paste_delivered_iff_text : ∃ e s, fed 10 4 [27, 91, 63, 50, 48, 48, 52, 104] = .ok e ∧ s.mShellPid = 1 ∧
    ∃ payload points, (e.paste [97, 0x9B, 13, 10, 0xD83D, 27, 0xDE00]).run s =
        .ok () (s.taking (pasteStart ++ payload ++ pasteEnd)) ∧ decodeUtf8 payload = some points ∧
      ¬ pasteEnd <:+: payload ∧ points.flatMap (fun point => toChars point.toNat) = [97, 13, 0xD83D, 0xDE00] := by
  obtain ⟨e, ran, bracketed⟩ := exists_of_toOption (show (fed 10 4 [27, 91, 63, 50, 48, 48, 52, 104]).toOption.map
    (·.isDecsetInternalBitSet decsetBitBracketedPasteMode) = some true by decide +kernel)
  obtain ⟨payload, points, written, decoded, -, inside, whole⟩ :=
    (paste_delivered_iff e ⟨1, []⟩ (by decide) bracketed [97, 0x9B, 13, 10, 0xD83D, 27, 0xDE00]).mpr
      ⟨by decide, by decide⟩
  exact ⟨e, ⟨1, []⟩, ran, rfl, payload, points, written, decoded, inside, whole⟩

/-- A text of control characters only throws after the start marker was written, and an unpaired surrogate arrives as
    a question mark. -/
theorem paste_fails : ∃ e, fed 10 4 [27, 91, 63, 50, 48, 48, 52, 104] = .ok e ∧
    (e.paste [27]).run ⟨1, []⟩ = .error (.illegalArgument "length <= 0") ⟨1, pasteStart⟩ ∧
    (e.paste [97, 0xD83D]).run ⟨1, []⟩ = .ok () ⟨1, pasteStart ++ [97, 63] ++ pasteEnd⟩ := by
  obtain ⟨e, ran, bracketed⟩ := exists_of_toOption (show (fed 10 4 [27, 91, 63, 50, 48, 48, 52, 104]).toOption.map
    (·.isDecsetInternalBitSet decsetBitBracketedPasteMode) = some true by decide +kernel)
  refine ⟨e, ran, ?_, ?_⟩
  · rw [run_paste (by decide) bracketed, if_pos (by decide)]
    rfl
  · rw [run_paste (by decide) bracketed, if_neg (by decide)]
    rfl

end TerminalEmulator
