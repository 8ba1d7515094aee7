import DiagnosticGateway.Library.Traces

/-! A counter of failures with a lockout, and the rate it enforces.

Events are failures at a time, successes, or neither. The counter keeps the
failures since the last success; at `limit` it locks, and `delay` later it opens
with the count at zero. So any `limit + 1` failures with no success among them
span at least `delay`.
-/

set_option autoImplicit false

namespace Lockout
open Traces

universe u

section
variable {E : Type u} (failedAt : E → Option Nat) (succeeds : E → Prop) (limit delay : Nat)

def failures (events : List E) : Nat := (events.filterMap failedAt).length

/-- Every failure with `count` more and no success behind it is `delay` old. -/
def Aged (past : List E) (count now : Nat) : Prop :=
  ∀ before first after t, past = before ++ first :: after → failedAt first = some t →
    (∀ e ∈ after, ¬ succeeds e) → count ≤ failures failedAt after → t + delay ≤ now

/-- A failure ends no `limit + 1` of them that came too fast. -/
def Limited (past : List E) (last : E) : Prop :=
  ∀ before first between t u, past = before ++ first :: between → failedAt first = some t → failedAt last = some u →
    (∀ e ∈ between, ¬ succeeds e) → limit ≤ failures failedAt between + 1 → t + delay ≤ u

/-- The counter, and the time it locked if it is locked. -/
structure Guarded (past : List E) (count : Nat) (lockedSince : Option Nat) (now : Nat) : Prop where
  recorded : ∀ e ∈ past, ∀ t, failedAt e = some t → t ≤ now
  free : lockedSince = none → count < limit ∧ Aged failedAt succeeds delay past count now
  locked : ∀ since, lockedSince = some since → ∀ e ∈ past, ∀ t, failedAt e = some t → t ≤ since

end

section
variable {E : Type u} {failedAt : E → Option Nat} {succeeds : E → Prop} {limit delay : Nat}
  {past : List E} {last : E} {count now later since : Nat} {lockedSince : Option Nat}

theorem failures_concat (events : List E) (last : E) :
    failures failedAt (events ++ [last]) = failures failedAt events + if (failedAt last).isSome then 1 else 0 := by
  cases failed : failedAt last with
  | none => simp [failures, failed]
  | some t => simp [failures, failed]

theorem Aged.wait (aged : Aged failedAt succeeds delay past count now) (passed : now ≤ later) :
    Aged failedAt succeeds delay past count later := by
  intro before first after t same failed quiet many
  have old := aged before first after t same failed quiet many
  omega

theorem aged_concat (other : failedAt last = none) (aged : ¬ succeeds last → Aged failedAt succeeds delay past count now) :
    Aged failedAt succeeds delay (past ++ [last]) count now := by
  intro before first after t same failed quiet many
  rcases concat_eq_split same with ⟨-, -, rfl⟩ | ⟨rest, rfl, split⟩
  · rw [other] at failed
    cases failed
  · rw [failures_concat, other] at many
    exact aged (quiet last (by simp)) before first rest t split failed (fun e member => quiet e (by simp [member])) many

theorem Aged.other (aged : Aged failedAt succeeds delay past count now) (other : failedAt last = none) :
    Aged failedAt succeeds delay (past ++ [last]) count now :=
  aged_concat other fun _ => aged

theorem aged_success (other : failedAt last = none) (success : succeeds last) :
    Aged failedAt succeeds delay (past ++ [last]) count now :=
  aged_concat other (absurd success)

theorem Aged.failure (aged : Aged failedAt succeeds delay past count now) (failed : failedAt last = some now) :
    Aged failedAt succeeds delay (past ++ [last]) (count + 1) now := by
  intro before first after t same earlier quiet many
  rcases concat_eq_split same with ⟨rfl, -, -⟩ | ⟨rest, rfl, split⟩
  · simp [failures] at many
  · rw [failures_concat, failed] at many
    exact aged before first rest t split earlier (fun e member => quiet e (by simp [member])) (by simpa using many)

theorem aged_of_old (old : ∀ e ∈ past, ∀ t, failedAt e = some t → t + delay ≤ now) :
    Aged failedAt succeeds delay past count now := by
  intro before first after t same failed quiet many
  exact old first (by simp [same]) t failed

/-! ## The rules of the counter -/

theorem guarded_nil (positive : 0 < limit) : Guarded failedAt succeeds limit delay [] 0 none now where
  recorded := by simp
  free := fun _ => ⟨positive, aged_of_old (by simp)⟩
  locked := by simp

theorem Guarded.wait (guarded : Guarded failedAt succeeds limit delay past count lockedSince now)
    (passed : now ≤ later) : Guarded failedAt succeeds limit delay past count lockedSince later where
  recorded := fun e member t failed => Nat.le_trans (guarded.recorded e member t failed) passed
  free := fun opened => ⟨(guarded.free opened).1, (guarded.free opened).2.wait passed⟩
  locked := guarded.locked

theorem Guarded.release (guarded : Guarded failedAt succeeds limit delay past count (some since) now)
    (positive : 0 < limit) (ended : since + delay ≤ now) :
    Guarded failedAt succeeds limit delay past 0 none now where
  recorded := guarded.recorded
  free := by
    refine fun _ => ⟨positive, aged_of_old fun e member t failed => ?_⟩
    have before := guarded.locked since rfl e member t failed
    omega
  locked := by simp

theorem Guarded.other (guarded : Guarded failedAt succeeds limit delay past count lockedSince now)
    (other : failedAt last = none) : Guarded failedAt succeeds limit delay (past ++ [last]) count lockedSince now where
  recorded := by
    intro e member t failed
    rcases List.mem_append.mp member with earlier | current
    · exact guarded.recorded e earlier t failed
    · rw [List.mem_singleton.mp current, other] at failed
      cases failed
  free := fun opened => ⟨(guarded.free opened).1, (guarded.free opened).2.other other⟩
  locked := by
    intro since locked e member t failed
    rcases List.mem_append.mp member with earlier | current
    · exact guarded.locked since locked e earlier t failed
    · rw [List.mem_singleton.mp current, other] at failed
      cases failed

theorem Guarded.success (guarded : Guarded failedAt succeeds limit delay past count none now)
    (other : failedAt last = none) (success : succeeds last) :
    Guarded failedAt succeeds limit delay (past ++ [last]) 0 none now where
  recorded := (guarded.other other).recorded
  free := fun _ => ⟨Nat.lt_of_le_of_lt (Nat.zero_le count) (guarded.free rfl).1, aged_success other success⟩
  locked := by simp

theorem Guarded.recorded_concat (guarded : Guarded failedAt succeeds limit delay past count lockedSince now)
    (failed : failedAt last = some now) : ∀ e ∈ past ++ [last], ∀ t, failedAt e = some t → t ≤ now := by
  intro e member t same
  rcases List.mem_append.mp member with earlier | current
  · exact guarded.recorded e earlier t same
  · rw [List.mem_singleton.mp current, failed] at same
    cases same
    exact Nat.le_refl now

theorem Guarded.failure (guarded : Guarded failedAt succeeds limit delay past count none now)
    (failed : failedAt last = some now) (few : count + 1 < limit) :
    Guarded failedAt succeeds limit delay (past ++ [last]) (count + 1) none now where
  recorded := guarded.recorded_concat failed
  free := fun _ => ⟨few, (guarded.free rfl).2.failure failed⟩
  locked := by simp

theorem Guarded.lock (guarded : Guarded failedAt succeeds limit delay past count none now)
    (failed : failedAt last = some now) {shown : Nat} :
    Guarded failedAt succeeds limit delay (past ++ [last]) shown (some now) now where
  recorded := guarded.recorded_concat failed
  free := by simp
  locked := by
    intro since locked
    cases locked
    exact guarded.recorded_concat failed

theorem Guarded.limited (guarded : Guarded failedAt succeeds limit delay past count none now)
    (failed : failedAt last = some now) : Limited failedAt succeeds limit delay past last := by
  intro before first between t u same earlier current quiet many
  rw [failed] at current
  cases current
  obtain ⟨few, aged⟩ := guarded.free rfl
  exact aged before first between t same earlier quiet (by omega)

theorem limited_other (other : failedAt last = none) : Limited failedAt succeeds limit delay past last := by
  intro before first between t u same earlier current
  rw [other] at current
  cases current

end

end Lockout
