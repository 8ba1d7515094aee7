import Mathlib.Algebra.Group.Nat.Defs

/-! A 32-bit clock that wraps, read against the true time.

Two comparisons are in use. The difference of two readings is the time elapsed as
long as that is below the period; its sign tells whether a deadline is reached as
long as the deadline is less than half a period away.
-/

set_option autoImplicit false

namespace WrappingClock

def reading (time : Nat) : UInt32 := UInt32.ofNat time

theorem reading_toNat (time : Nat) : (reading time).toNat = time % 2 ^ 32 := UInt32.toNat_ofNat'

theorem reading_add (time : Nat) (delay : UInt32) : reading time + delay = reading (time + delay.toNat) := by
  apply UInt32.toNat_inj.mp
  rw [UInt32.toNat_add, reading_toNat, reading_toNat, Nat.mod_add_mod]

theorem sub_toNat (later earlier : Nat) :
    (reading later - reading earlier).toNat = (2 ^ 32 - earlier % 2 ^ 32 + later % 2 ^ 32) % 2 ^ 32 := by
  rw [UInt32.toNat_sub, reading_toNat, reading_toNat]

theorem elapsed_iff {earlier later : Nat} (ordered : earlier ≤ later) (near : later - earlier < 2 ^ 32) (limit : UInt32) :
    reading later - reading earlier ≥ limit ↔ later - earlier ≥ limit.toNat := by
  have exact : (reading later - reading earlier).toNat = later - earlier := by
    rw [sub_toNat]
    omega
  rw [ge_iff_le, UInt32.le_iff_toNat_le, exact]

/-- The half-range test. -/
theorem reached_iff {deadline now : Nat} (before : deadline < now + 2 ^ 31) (after : now < deadline + 2 ^ 31) :
    reading now - reading deadline < 0x80000000 ↔ deadline ≤ now := by
  have half : (0x80000000 : UInt32).toNat = 2 ^ 31 := rfl
  rw [UInt32.lt_iff_toNat_lt, sub_toNat, half]
  omega

/-! ## What stays true as time goes on

From a reading that is not due yet, over less than half a period, what is due
stays due, whatever the stored time means.
-/

section
variable {time earlier later : Nat} {stored limit : UInt32}

theorem elapsed_stays (small : limit.toNat ≤ 2 ^ 31) (young : reading time - stored < limit)
    (ordered : time ≤ earlier) (going : earlier ≤ later) (near : later - time < 2 ^ 31)
    (due : reading earlier - stored ≥ limit) : reading later - stored ≥ limit := by
  have bound := stored.toNat_lt
  rw [ge_iff_le, UInt32.le_iff_toNat_le, UInt32.toNat_sub, reading_toNat] at due ⊢
  rw [UInt32.lt_iff_toNat_lt, UInt32.toNat_sub, reading_toNat] at young
  omega

theorem reached_stays (ahead : ¬ reading time - stored < 0x80000000) (ordered : time ≤ earlier)
    (going : earlier ≤ later) (near : later - time < 2 ^ 31) (due : reading earlier - stored < 0x80000000) :
    reading later - stored < 0x80000000 := by
  have half : (0x80000000 : UInt32).toNat = 2 ^ 31 := rfl
  have bound := stored.toNat_lt
  rw [UInt32.lt_iff_toNat_lt, half, UInt32.toNat_sub, reading_toNat] at due ahead ⊢
  omega

end

end WrappingClock
