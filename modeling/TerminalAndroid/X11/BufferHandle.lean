import TerminalAndroid.X11.Pixmap

namespace Lorie

/-- The fields of `LorieBuffer` that go with its handle; `link` says whether it is in a list. -/
structure BufferHandle extends LorieBuffer where
  refcount : BitVec 16
  fd : Int
  id : Nat
  image : Nat
  link : Bool

namespace BufferHandle

/-- `LorieBuffer_recvHandleFromUnixSocket` for a complete message; `read` overwrites what was reset before it. -/
def recvHandle (message : BufferHandle) (receivedFd mapped : Nat) : BufferHandle :=
  let buffer : BufferHandle := ⟨⟨.unknown, 0, false, 0, 0⟩, 1, -1, 0, 0, false⟩
  let read := fun (_ : BufferHandle) => message
  let buffer : BufferHandle := { read buffer with image := 0 }
  let buffer := if buffer.type = .fd then { buffer with fd := receivedFd, data := mapped } else buffer
  { buffer with link := false }

def Fresh (b : BufferHandle) : Prop :=
  b.refcount = 1 ∧ b.locked = false ∧ b.lockedData = 0 ∧ b.id = 0 ∧ b.gpuCopyPending = 0 ∧ b.link = false

/-- The sender has one reference to its buffer, has not locked it, attached it to GL or scheduled a copy. -/
def Unused (b : BufferHandle) : Prop :=
  b.refcount = 1 ∧ b.locked = false ∧ b.lockedData = 0 ∧ b.id = 0 ∧ b.gpuCopyPending = 0

inductive Reference
  | acquire
  | release

def frees : BitVec 16 → List Reference → Nat
  | _, [] => 0
  | refcount, .acquire :: uses => frees (refcount + 1) uses
  | refcount, .release :: uses => (if refcount = 1 then 1 else 0) + frees (refcount - 1) uses

/-- Each use is made by one who has a reference, and in the end all of the `n` references are given back. -/
def GivenBack : Nat → List Reference → Prop
  | n, [] => n = 0
  | n, .acquire :: uses => 0 < n ∧ GivenBack (n + 1) uses
  | n, .release :: uses => 0 < n ∧ GivenBack (n - 1) uses

def Counted : Nat → List Reference → Prop
  | n, [] => n ≤ 65536
  | n, .acquire :: uses => n ≤ 65536 ∧ Counted (n + 1) uses
  | n, .release :: uses => n ≤ 65536 ∧ Counted (n - 1) uses

variable {n : Nat} {uses : List Reference}

theorem ofNat_succ : BitVec.ofNat 16 n + 1 = BitVec.ofNat 16 (n + 1) := by
  apply BitVec.eq_of_toNat_eq
  simp

theorem ofNat_pred (held : 0 < n) : BitVec.ofNat 16 n - 1 = BitVec.ofNat 16 (n - 1) := by
  rcases n with _ | n
  · cases held
  · rw [← ofNat_succ, BitVec.add_sub_cancel, Nat.add_sub_cancel]

theorem ofNat_eq_one_iff : BitVec.ofNat 16 n = 1 ↔ n % 65536 = 1 := by
  rw [BitVec.toNat_eq]
  simp

theorem frees_release (held : 0 < n) : frees (BitVec.ofNat 16 n) (.release :: uses) =
    (if n % 65536 = 1 then 1 else 0) + frees (BitVec.ofNat 16 (n - 1)) uses := by
  rw [frees, ofNat_pred held]
  simp only [ofNat_eq_one_iff]

theorem frees_bounds (given : GivenBack n uses) :
    (0 < n → 1 ≤ frees (BitVec.ofNat 16 n) uses) ∧ (65536 < n → 2 ≤ frees (BitVec.ofNat 16 n) uses) := by
  induction uses generalizing n with
  | nil =>
    rw [GivenBack] at given
    omega
  | cons use uses ih =>
    cases use with
    | acquire =>
      rw [frees, ofNat_succ]
      have later := ih given.2
      omega
    | release =>
      rw [frees_release given.1]
      have later := ih given.2
      split <;> omega

theorem frees_of_none : GivenBack 0 uses → frees (BitVec.ofNat 16 0) uses = 0 := by
  intro given
  rcases uses with _ | ⟨_ | _, uses⟩
  · rfl
  · cases given.1
  · cases given.1

theorem frees_eq_one_iff (held : 0 < n) (given : GivenBack n uses) :
    frees (BitVec.ofNat 16 n) uses = 1 ↔ Counted n uses := by
  induction uses generalizing n with
  | nil => exact absurd given (Nat.ne_of_gt held)
  | cons use uses ih =>
    have bounds := frees_bounds given
    by_cases counted : n ≤ 65536
    · cases use with
      | acquire => rw [Counted, frees, ofNat_succ, ih n.succ_pos given.2, and_iff_right counted]
      | release =>
        rw [Counted, frees_release given.1, and_iff_right counted]
        by_cases last : n = 1
        · subst last
          rw [if_pos rfl, frees_of_none given.2]
          rcases uses with _ | ⟨_ | _, uses⟩
          · exact iff_of_true rfl (Nat.zero_le _)
          · cases given.2.1
          · cases given.2.1
        · rw [if_neg (by omega), Nat.zero_add, ih (by omega) given.2]
    · have apart : ¬ Counted n (use :: uses) := fun within => counted (by cases use <;> exact within.1)
      exact iff_of_false (by omega) apart

/-- The buffer that arrives is fresh and freed exactly once, where every reference is given back, just if the sender's one
was unused and there were never more than 65536 references. -/
theorem recvHandle_fresh_iff (message : BufferHandle) (receivedFd mapped : Nat) (given : GivenBack 1 uses) :
    (Fresh (recvHandle message receivedFd mapped) ∧ frees (recvHandle message receivedFd mapped).refcount uses = 1) ↔
      Unused message ∧ Counted 1 uses := by
  have kept : Fresh (recvHandle message receivedFd mapped) ↔ Unused message := by
    simp only [Fresh, Unused, recvHandle]
    split <;> simp
  rw [kept]
  apply and_congr_right
  intro unused
  have one : (recvHandle message receivedFd mapped).refcount = BitVec.ofNat 16 1 := (kept.mpr unused).1
  rw [one, frees_eq_one_iff Nat.one_pos given]

theorem recvHandle_fresh_shared : GivenBack 1 [.acquire, .release, .release] ∧
    frees (recvHandle ⟨⟨.fd, 5, false, 0, 0⟩, 1, 7, 0, 0, true⟩ 9 11).refcount [.acquire, .release, .release] = 1 := by
  have given : GivenBack 1 [.acquire, .release, .release] := by simp [GivenBack]
  refine ⟨given, ((recvHandle_fresh_iff _ 9 11 given).mpr ?_).2⟩
  simp [Unused, Counted]

/-- A second reference of the sender comes with the message, and the receiver's only release frees nothing. -/
theorem recvHandle_keeps_count :
    let b := recvHandle ⟨⟨.fd, 5, false, 0, 0⟩, 2, 7, 0, 0, true⟩ 9 11
    ¬ Fresh b ∧ frees b.refcount [.release] = 0 := by
  refine ⟨fun fresh => absurd fresh.1 ?_, ?_⟩ <;> decide

end BufferHandle

end Lorie
