import Mathlib

namespace Java

/-- What a method can throw. Only the message of an `IllegalArgumentException` is kept: the
    others are raised by the virtual machine. -/
inductive Throwable
  | illegalArgument (message : String)
  | indexOutOfBounds
  | nullPointer
  | arithmetic
  | negativeArraySize
  | stackOverflow
  deriving DecidableEq, Repr

instance decidableEqResult {ε σ α : Type} [DecidableEq ε] [DecidableEq σ] [DecidableEq α] :
    DecidableEq (EStateM.Result ε σ α)
  | .ok a s, .ok b t => decidable_of_iff (a = b ∧ s = t) (by rw [EStateM.Result.ok.injEq])
  | .error a s, .error b t => decidable_of_iff (a = b ∧ s = t) (by rw [EStateM.Result.error.injEq])
  | .ok _ _, .error _ _ => isFalse (by simp)
  | .error _ _, .ok _ _ => isFalse (by simp)

variable {σ α : Type}

def toShort (x : Int) : Int := x.bmod 0x10000

/-- Rounding to the 24-bit significand of a `float`, ties to even, for a non-negative integer. -/
def roundFloat (n : Nat) : Nat :=
  if n < 0x1000000 then n
  else
    let unit := 2 ^ (n.log2 - 23)
    let down := n / unit
    let rest := n % unit
    if unit < 2 * rest ∨ (unit = 2 * rest ∧ down % 2 = 1) then (down + 1) * unit else down * unit

def liftResult (result : Except Throwable α) : EStateM Throwable σ α :=
  match result with
  | .ok value => pure value
  | .error thrown => throw thrown

def remainder (a b : Int) : Except Throwable Int := if b = 0 then .error .arithmetic else .ok (a.tmod b)

def arraysFill (array : List α) (fromIndex toIndex : Int) (value : α) : Except Throwable (List α) :=
  if toIndex < fromIndex then
    .error (.illegalArgument ("fromIndex(" ++ toString fromIndex ++ ") > toIndex(" ++ toString toIndex ++ ")"))
  else if fromIndex < 0 ∨ array.length < toIndex then .error .indexOutOfBounds
  else .ok (array.take fromIndex.toNat ++ List.replicate (toIndex - fromIndex).toNat value ++
    array.drop toIndex.toNat)

def readArray (array : List α) (index : Int) : EStateM Throwable σ α :=
  if 0 ≤ index then
    match array[index.toNat]? with
    | some value => pure value
    | none => throw .indexOutOfBounds
  else throw .indexOutOfBounds

def writeArray (array : List α) (index : Int) (value : α) : EStateM Throwable σ (List α) :=
  if 0 ≤ index ∧ index < array.length then pure (array.set index.toNat value)
  else throw .indexOutOfBounds

/-- `System.arraycopy`: the bounds are checked before anything is copied, and overlapping
    regions of one array are copied as if through a temporary array. -/
def arraycopy (source : List α) (sourcePosition : Int) (target : List α)
    (targetPosition length : Int) : EStateM Throwable σ (List α) :=
  if sourcePosition < 0 ∨ targetPosition < 0 ∨ length < 0 ∨ source.length < sourcePosition + length ∨
      target.length < targetPosition + length then throw .indexOutOfBounds
  else pure (target.take targetPosition.toNat ++ (source.drop sourcePosition.toNat).take length.toNat ++
    target.drop (targetPosition + length).toNat)

@[simp] theorem run_liftResult_ok (value : α) (s : σ) :
    (liftResult (.ok value) : EStateM Throwable σ α).run s = .ok value s := rfl

@[simp] theorem run_liftResult_error (thrown : Throwable) (s : σ) :
    (liftResult (.error thrown) : EStateM Throwable σ α).run s = .error thrown s := rfl

theorem run_readArray {array : List α} {index : Nat} {value : α} (found : array[index]? = some value) (s : σ) :
    (readArray array index : EStateM Throwable σ α).run s = .ok value s := by
  simp [readArray, found]

theorem run_writeArray (array : List α) (index : Nat) (value : α) (bound : index < array.length) (s : σ) :
    (writeArray array index value : EStateM Throwable σ (List α)).run s = .ok (array.set index value) s := by
  simp [writeArray, bound]

theorem toShort_small {x : Int} (lower : 0 ≤ x) (upper : x ≤ 32767) : toShort x = x := by
  unfold toShort
  exact Int.bmod_eq_of_le (by omega) (by omega)

theorem roundFloat_small {n : Nat} (small : n < 0x1000000) : roundFloat n = n := if_pos small

theorem run_arraycopy (source : List α) (sourcePosition : Nat) (target : List α) (targetPosition length : Nat)
    (readable : sourcePosition + length ≤ source.length)
    (writable : targetPosition + length ≤ target.length) (s : σ) :
    (arraycopy source sourcePosition target targetPosition length : EStateM Throwable σ (List α)).run s =
      .ok (target.take targetPosition ++ (source.drop sourcePosition).take length ++
        target.drop (targetPosition + length)) s := by
  have bounds : ¬ ((sourcePosition : Int) < 0 ∨ (targetPosition : Int) < 0 ∨ (length : Int) < 0 ∨
      (source.length : Int) < sourcePosition + length ∨ (target.length : Int) < targetPosition + length) := by
    omega
  have position : ((targetPosition : Int) + length).toNat = targetPosition + length := by omega
  simp only [arraycopy, bounds, if_false, EStateM.run_pure, Int.toNat_natCast, position]

theorem exists_of_isOk {α : Type} {result : Except Throwable α} (ok : result.isOk = true) : ∃ a, result = .ok a := by
  cases result with
  | ok a => exact ⟨a, rfl⟩
  | error thrown => cases ok

theorem exists_of_toOption {α β : Type} {result : Except Throwable α} {f : α → β} {b : β}
    (ran : result.toOption.map f = some b) : ∃ a, result = .ok a ∧ f a = b := by
  cases result with
  | ok a => exact ⟨a, rfl, Option.some.inj ran⟩
  | error thrown => cases ran

def leftState {ε σ α : Type} : EStateM.Result ε σ α → Option σ
  | .ok _ s => some s
  | .error _ _ => none

theorem exists_of_leftState {ε σ α β : Type} {result : EStateM.Result ε σ α} {f : σ → β} {b : β}
    (ran : (leftState result).map f = some b) : ∃ a s, result = .ok a s ∧ f s = b := by
  cases result with
  | ok a s => exact ⟨a, s, rfl, Option.some.inj ran⟩
  | error thrown s => cases ran

end Java
