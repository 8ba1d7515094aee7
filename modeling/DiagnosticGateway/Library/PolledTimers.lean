import DiagnosticGateway.Library.Traces
import DiagnosticGateway.Library.WrappingClock

/-! Timers that are looked at only now and then.

A machine stores a time on a clock that wraps, and some of its calls, the checks,
compare it with the present. Where every call that looks is less than half a
period behind the check before it, the wrapping difference is the true one: a
stored time outlives a check only if that check finds it young.
-/

set_option autoImplicit false

namespace PolledTimers
open Traces WrappingClock

universe u v w

variable {S : Type u} {A : Type v} {O : Type w} (time : A → Nat) (checks : Event S A O → Prop)

def LastCheck (moment : Nat) : List (Event S A O) → Prop :=
  Since (fun e => ¬ checks e) fun _ e => checks e ∧ time e.action = moment

/-- Time does not go back, and a call that looks is less than half a period
behind the check before it. -/
structure Punctual (looks : Event S A O → Prop) (past : List (Event S A O)) (e : Event S A O) : Prop where
  ordered : ∀ earlier ∈ past, time earlier.action ≤ time e.action
  near : looks e → ∃ moment, LastCheck time checks moment past ∧ time e.action < moment + 2 ^ 31

/-- `stored` is the time of a call, and no more than `age` before the last check. -/
structure Fresh (age stored : Nat) (past : List (Event S A O)) : Prop where
  known : ∃ e ∈ past, time e.action = stored
  young : ∀ moment, LastCheck time checks moment past → moment ≤ stored + age

section
variable {time checks} {looks : Event S A O → Prop} {past : List (Event S A O)} {e : Event S A O} {age stored : Nat}

theorem Fresh.ordered (fresh : Fresh time checks age stored past) (punctual : Punctual time checks looks past e) :
    stored ≤ time e.action := by
  obtain ⟨call, member, rfl⟩ := fresh.known
  exact punctual.ordered call member

theorem Fresh.exact (fresh : Fresh time checks age stored past) (punctual : Punctual time checks looks past e)
    (looking : looks e) (small : age ≤ 2 ^ 31) (limit : UInt32) :
    reading (time e.action) - reading stored ≥ limit ↔ time e.action - stored ≥ limit.toNat := by
  obtain ⟨moment, last, near⟩ := punctual.near looking
  have young := fresh.young moment last
  exact elapsed_iff (fresh.ordered punctual) (by omega) limit

/-- A stored time stays fresh behind a call, if a check finds it young. -/
theorem Fresh.next (fresh : Fresh time checks age stored past) (young : checks e → time e.action - stored ≤ age) :
    Fresh time checks age stored (past ++ [e]) where
  known := by
    obtain ⟨call, member, same⟩ := fresh.known
    exact ⟨call, List.mem_append_left _ member, same⟩
  young := by
    intro moment last
    rcases (since_concat _ _ past e).mp last with ⟨checked, rfl⟩ | ⟨-, earlier⟩
    · have near := young checked
      omega
    · exact fresh.young moment earlier

theorem Fresh.kept (fresh : Fresh time checks age stored past) (unchecked : ¬ checks e) :
    Fresh time checks age stored (past ++ [e]) :=
  fresh.next fun checked => absurd checked unchecked

theorem fresh_now (punctual : Punctual time checks looks past e) (age : Nat) :
    Fresh time checks age (time e.action) (past ++ [e]) where
  known := ⟨e, by simp, rfl⟩
  young := by
    intro moment last
    rcases (since_concat _ _ past e).mp last with ⟨-, rfl⟩ | ⟨-, earlier⟩
    · exact Nat.le_add_right _ _
    · obtain ⟨before, check, after, rfl, ⟨-, rfl⟩, -⟩ := earlier
      exact Nat.le_trans (punctual.ordered check (by simp)) (Nat.le_add_right _ _)

end

end PolledTimers
