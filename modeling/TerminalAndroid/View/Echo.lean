import TerminalAndroid.Emulator.Ready
import TerminalAndroid.Session.Delivery
import TerminalAndroid.View.TextInput

open Java Exec TerminalSession TerminalView

namespace TerminalEmulator

variable {host : Host} {e : TerminalEmulator}

def echo (host : Host) (c : Nat) : EmulatorM Unit := do
  cutShort
  modify (received ((utf8 c).map UInt8.ofNat))
  processCodePoint host c

theorem run_append_encoded {points : List Nat} (valid : e.decoder.Valid) (scalars : ∀ c ∈ points, c.isValidChar)
    (passes : ∀ c ∈ points, c < 0x80 ∨ Passes host c) :
    (append host (encodeUtf8 (points.map Char.ofNat))).run e = (forM points (echo host)).run e := by
  induction points generalizing e with
  | nil => rfl
  | cons c points ih =>
    have scalar := scalars c List.mem_cons_self
    have pass := passes c List.mem_cons_self
    have accepted : ∃ bytes, writeCodePoint false c = .ok bytes := by
      rw [writeCodePoint, if_neg (by simp only [Nat.isValidChar] at scalar; omega)]
      exact ⟨_, rfl⟩
    obtain ⟨bytes, accepted⟩ := accepted
    have first := run_append_utf8 valid accepted (pass.elim (by omega) And.left) (pass.imp_right And.right)
    obtain ⟨-, rfl⟩ := writeCodePoint_eq accepted
    rw [encodeUtf8_cons scalar, append_append, List.forM_cons, EStateM.run_bind, first, ← EStateM.run_bind]
    -- the decoder is still valid behind the first code point
    apply run_bind_congr
    intro _ t ran
    exact ih (append_decoder valid (first.trans ran)) (fun c later => scalars c (List.mem_cons_of_mem _ later))
      fun c later => passes c (List.mem_cons_of_mem _ later)

/-- The bytes that a typed text sends make an emulator that gets them back process what was typed. -/
theorem typed_text_echoed {client : ViewClient} (passive : client.Passive) {view view' : InputView} {s s' : Outgoing}
    (session : view.mTermSession = some s) (running : 0 < s.mShellPid) {text : List Nat}
    (ran : (sendTextToTerminal client text).run view = .ok () view') (after : view'.mTermSession = some s') :
    ∃ points bytes, typed text = some points ∧ s'.taken = s.taken ++ bytes ∧
      ∀ e : TerminalEmulator, e.decoder.Valid → (∀ c ∈ points, c < 0x80 ∨ Passes host c) →
        (append host bytes).run e = (forM points (echo host)).run e := by
  obtain ⟨points, found, rfl⟩ := (sendTextToTerminal_sends passive text view s s' session running).mp ⟨view', ran, after⟩
  exact ⟨points, _, found, rfl, fun e valid passes => run_append_encoded valid (typed_valid found) passes⟩

theorem typed_text_echoed_letter :
    (append plainHost [97]).run (filledWith 4 2 120) = (forM [97] (echo plainHost)).run (filledWith 4 2 120) := by
  obtain ⟨points, bytes, found, sent, same⟩ := @typed_text_echoed plainHost quietClient ⟨rfl, rfl, rfl, fun _ _ => rfl⟩
    ⟨some ⟨1, []⟩, none⟩ ⟨some ⟨1, [97]⟩, none⟩ _ _ rfl (by decide) [97] (by decide) rfl
  cases (show typed [97] = some [97] by decide).symm.trans found
  cases sent
  exact same _ ⟨rfl, Or.inl ⟨rfl, rfl⟩⟩ fun c found => Or.inl (by rw [List.mem_singleton.mp found]; decide)

end TerminalEmulator
