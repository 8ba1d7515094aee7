import Mathlib.Tactic.IntervalCases

/-! Bytes written as two hexadecimal digits, and digits read back. -/

set_option autoImplicit false

namespace Hexadecimal

def digit (c : Char) : Option Nat :=
  if '0' ≤ c ∧ c ≤ '9' then some (c.toNat - '0'.toNat)
  else if 'a' ≤ c ∧ c ≤ 'f' then some (c.toNat - 'a'.toNat + 10)
  else if 'A' ≤ c ∧ c ≤ 'F' then some (c.toNat - 'A'.toNat + 10)
  else none

def upper (value : Nat) : Char := if value < 10 then Char.ofNat ('0'.toNat + value) else Char.ofNat ('A'.toNat + value - 10)

def spell (byte : UInt8) : List Char := [upper (byte.toNat / 16), upper (byte.toNat % 16)]

theorem digit_upper {value : Nat} (small : value < 16) : digit (upper value) = some value := by
  interval_cases value <;> decide

theorem spell_value (byte : UInt8) : byte.toNat / 16 * 16 + byte.toNat % 16 = byte.toNat := by
  rw [Nat.mul_comm]
  exact Nat.div_add_mod _ _

theorem high_lt (byte : UInt8) : byte.toNat / 16 < 16 := by
  have bound := byte.toNat_lt
  omega

theorem low_lt (byte : UInt8) : byte.toNat % 16 < 16 := Nat.mod_lt _ (by decide)

end Hexadecimal
