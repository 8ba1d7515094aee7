import Mathlib.Data.BitVec

/-! Words whose low bits are a number and whose higher bits are flags. -/

set_option autoImplicit false

namespace TaggedWord

variable {w n : Nat}

def tagged (w flag : Nat) (number : BitVec n) : BitVec w := BitVec.twoPow w flag ||| number.setWidth w

theorem number_tagged {flag : Nat} (number : BitVec n) (room : n ≤ w) (above : n ≤ flag) :
    (tagged w flag number).setWidth n = number := by
  ext i inside
  simp [tagged, show i < w by omega, show i ≠ flag by omega, BitVec.getLsbD_eq_getElem inside]

theorem flag_tagged {flag i : Nat} (number : BitVec n) (above : n ≤ i) :
    (tagged w flag number).getLsbD i = (decide (flag < w) && decide (flag = i)) := by
  simp [tagged, above]

theorem setWidth_inj {first second : BitVec n} (room : n ≤ w) : first.setWidth w = second.setWidth w ↔ first = second := by
  refine ⟨fun same => ?_, congrArg _⟩
  have back := congrArg (BitVec.setWidth n) same
  rwa [BitVec.setWidth_setWidth_of_le _ room, BitVec.setWidth_setWidth_of_le _ room, BitVec.setWidth_eq,
    BitVec.setWidth_eq] at back

theorem and_lowMask (word : BitVec w) : word &&& BitVec.ofNat w (2 ^ n - 1) = (word.setWidth n).setWidth w := by
  apply BitVec.eq_of_getLsbD_eq
  intro i inside
  rw [BitVec.getLsbD_and, BitVec.getLsbD_ofNat, Nat.testBit_two_pow_sub_one, BitVec.getLsbD_setWidth,
    BitVec.getLsbD_setWidth]
  simp [inside, Bool.and_comm]

theorem and_flag_eq_zero_iff {i : Nat} (word : BitVec w) (inside : i < w) :
    word &&& BitVec.twoPow w i = 0#w ↔ word.getLsbD i = false := by
  rw [BitVec.and_twoPow]
  cases word.getLsbD i with
  | false => simp
  | true =>
    refine iff_of_false (fun none => ?_) nofun
    have bit := congrArg (fun word => word.getLsbD i) none
    simp [inside] at bit

theorem eq_of_number_of_flags {first second : BitVec w} (number : first.setWidth n = second.setWidth n)
    (flags : ∀ i, n ≤ i → i < w → first.getLsbD i = second.getLsbD i) : first = second := by
  apply BitVec.eq_of_getLsbD_eq
  intro i inside
  by_cases low : i < n
  · have same := congrArg (fun number => number.getLsbD i) number
    simpa [low] using same
  · exact flags i (Nat.not_lt.mp low) inside

end TaggedWord
