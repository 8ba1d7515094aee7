import Mathlib.NumberTheory.Multiplicity
import Mathlib.Tactic.LinearCombination

/-! Linear congruential generators modulo a power of two.

With a multiplier that is 1 modulo 4 and an odd increment, the distance from a
state to the state `n` steps later has as many factors of two as `n` itself. So
the states do not repeat before the whole period.
-/

set_option autoImplicit false

namespace Congruential

def next (a c x : ℤ) : ℤ := a * x + c

section
variable {a c x : ℤ}

/-- Shifted, a step is a multiplication. -/
theorem iterate_shift (n : ℕ) : (a - 1) * (next a c)^[n] x + c = a ^ n * ((a - 1) * x + c) := by
  induction n with
  | zero => simp
  | succ n ih =>
    rw [Function.iterate_succ_apply', pow_succ', mul_assoc, ← ih]
    simp only [next]
    ring

theorem emultiplicity_return (multiplier : 4 ∣ a - 1) (several : a ≠ 1) (increment : Odd c) (n : ℕ) :
    emultiplicity 2 ((next a c)^[n] x - x) = emultiplicity (2 : ℤ) n := by
  have even : Even (a - 1) := even_iff_two_dvd.mpr (dvd_trans (by decide) multiplier)
  have odd : ¬ (2 : ℤ) ∣ (a - 1) * x + c := by
    rw [← even_iff_two_dvd, Int.not_even_iff_odd]
    exact (even.mul_right x).add_odd increment
  have unit : ¬ (2 : ℤ) ∣ a := by
    rw [← even_iff_two_dvd, Int.not_even_iff_odd]
    simpa using even.add_odd odd_one
  have distance : (a - 1) * ((next a c)^[n] x - x) = (a ^ n - 1 ^ n) * ((a - 1) * x + c) := by
    linear_combination @iterate_shift a c x n
  have count := congrArg (emultiplicity (2 : ℤ)) distance
  rw [emultiplicity_mul Int.prime_two, emultiplicity_mul Int.prime_two, Int.two_pow_sub_pow' n multiplier unit,
    emultiplicity_eq_zero.mpr odd, add_zero] at count
  have finite : emultiplicity (2 : ℤ) (a - 1) ≠ ⊤ :=
    finiteMultiplicity_iff_emultiplicity_ne_top.mp
      (Int.finiteMultiplicity_iff.mpr ⟨by decide, sub_ne_zero.mpr several⟩)
  exact ENat.add_right_injective_of_ne_top finite count

theorem iterate_injective (multiplier : 4 ∣ a - 1) (several : a ≠ 1) (increment : Odd c) {k i j : ℕ}
    (first : i < 2 ^ k) (second : j < 2 ^ k)
    (same : (next a c)^[i] x ≡ (next a c)^[j] x [ZMOD 2 ^ k]) : i = j := by
  wlog ordered : i ≤ j generalizing i j
  · exact (this second first same.symm (Nat.le_of_not_le ordered)).symm
  obtain ⟨distance, rfl⟩ := Nat.exists_eq_add_of_le ordered
  rw [Nat.add_comm i, Function.iterate_add_apply] at same
  have returns : (2 : ℤ) ^ k ∣ distance := by
    rw [pow_dvd_iff_le_emultiplicity, ← emultiplicity_return multiplier several increment distance,
      ← pow_dvd_iff_le_emultiplicity]
    exact same.dvd
  have bound : distance < 2 ^ k := Nat.lt_of_le_of_lt (Nat.le_add_left distance i) second
  have small : distance = 0 := Nat.eq_zero_of_dvd_of_lt (by exact_mod_cast returns) bound
  rw [small, Nat.add_zero]

end

end Congruential
