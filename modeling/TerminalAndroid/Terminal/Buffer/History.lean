import Mathlib.Data.List.DropRight
import TerminalAndroid.Terminal.Buffer.Scroll

namespace TerminalBuffer

inductive Scrolls : TerminalBuffer → List (Option TerminalRow) → TerminalBuffer → Prop
  | nil (b : TerminalBuffer) : Scrolls b [] b
  | cons {b b₁ b' : TerminalBuffer} {top bottom : Int} {style : Style} {rows : List (Option TerminalRow)} (lower : 0 ≤ top)
      (less : top < bottom) (upper : bottom ≤ b.mScreenRows) (ran : (scrollDownOneLine top bottom style).run b = .ok () b₁)
      (later : Scrolls b₁ rows b') : Scrolls b (b.shown top :: rows) b'

/-- However often and wherever the screen is scrolled, the transcript ends with the rows that left it, in their order. -/
theorem scrolls_transcript {b b' : TerminalBuffer} {rows : List (Option TerminalRow)} (ring : b.Ring)
    (scrolls : Scrolls b rows b') :
    b'.transcript = (b.transcript ++ rows).rtake (b.mTotalRows - b.mScreenRows).toNat := by
  induction scrolls with
  | nil b =>
    have most := ring.active_le
    rw [List.append_nil, List.rtake, transcript, List.length_map, List.length_range, Nat.sub_eq_zero_of_le (by omega),
      List.drop_zero]
  | @cons b b₁ b' top bottom style rows lower less upper ran later ih =>
    obtain ⟨b₂, ran', scrolled⟩ := exists_scrolled lower less upper ring style
    cases ran.symm.trans ran'
    rw [ih scrolled.ring, scrolled.totalRows, scrolled.screenRows, scrolled.transcript ring lower less upper]
    have whole : b.transcript ++ b.shown top :: rows = b.transcript ++ [b.shown top] ++ rows := by simp
    rw [whole]
    split
    · rfl
    · -- the transcript was full and has lost its oldest row
      have length : b.transcript.length = b.mActiveTranscriptRows.toNat := by simp [transcript]
      rw [← List.tail_append_of_ne_nil (by simp), List.rtake, List.rtake, ← List.drop_one, List.drop_drop]
      congr 1
      simp
      omega

theorem scrolls_transcript_small : ∃ b', Scrolls smallBuffer [smallBuffer.shown 1] b' ∧
    b'.transcript = [smallBuffer.shown 1] := by
  obtain ⟨b', ran, -⟩ : ∃ b', (scrollDownOneLine 1 3 9).run smallBuffer = .ok () b' ∧ Scrolled smallBuffer b' 1 3 9 :=
    exists_scrolled (by decide) (by decide) (by decide) smallBuffer_ring 9
  have scrolls : Scrolls smallBuffer [smallBuffer.shown 1] b' := .cons (by decide) (by decide) (by decide) ran (.nil b')
  exact ⟨b', scrolls, scrolls_transcript smallBuffer_ring scrolls⟩

end TerminalBuffer
