import Mathlib.Tactic.Common

namespace Utf8

theorem forall_uint8 {P : UInt8 → Prop} (all : ∀ n : Fin 256, P (.ofNat n)) (byte : UInt8) : P byte := by
  have here := all ⟨byte.toNat, byte.toNat_lt⟩
  rwa [UInt8.ofNat_toNat] at here

theorem single_iff : ∀ byte : UInt8, byte &&& 0b10000000 = 0 ↔ byte.toNat < 128 :=
  forall_uint8 (by decide +kernel)

theorem continues_iff : ∀ byte : UInt8, byte &&& 0b11000000 = 0b10000000 ↔ 128 ≤ byte.toNat ∧ byte.toNat < 192 :=
  forall_uint8 (by decide +kernel)

theorem starts_two_iff : ∀ byte : UInt8, byte &&& 0b11100000 = 0b11000000 ↔ 192 ≤ byte.toNat ∧ byte.toNat < 224 :=
  forall_uint8 (by decide +kernel)

theorem starts_three_iff : ∀ byte : UInt8, byte &&& 0b11110000 = 0b11100000 ↔ 224 ≤ byte.toNat ∧ byte.toNat < 240 :=
  forall_uint8 (by decide +kernel)

theorem starts_four_iff : ∀ byte : UInt8, byte &&& 0b11111000 = 0b11110000 ↔ 240 ≤ byte.toNat ∧ byte.toNat < 248 :=
  forall_uint8 (by decide +kernel)

theorem three_bits_iff : ∀ byte : UInt8, byte &&& 0b11100000 = 0b11100000 ↔ 224 ≤ byte.toNat :=
  forall_uint8 (by decide +kernel)

theorem four_bits_iff : ∀ byte : UInt8, byte &&& 0b11110000 = 0b11110000 ↔ 240 ≤ byte.toNat :=
  forall_uint8 (by decide +kernel)

end Utf8
