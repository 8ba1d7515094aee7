import Mathlib.Data.List.Count
import DiagnosticGateway.Library.Traces

/-! Counting over runs: counters of 32 bits, and what comes in against what goes out. -/

set_option autoImplicit false

namespace Traces

universe u v w

section
variable {S : Type u} {A : Type v} {O : Type w} (step : S → A → S × O)

/-- A counter that every step moves by what it counts. -/
theorem count_run (counter : S → UInt32) (counted : Event S A O → Prop) [DecidablePred counted]
    (each : ∀ state action, counter (step state action).1 =
      counter state + if counted (event step state action) then 1 else 0)
    (start : S) (actions : List A) :
    counter (final step start actions) = counter start + UInt32.ofNat ((trace step start actions).countP counted) := by
  induction actions generalizing start with
  | nil => exact (UInt32.add_zero _).symm
  | cons action rest ih =>
    rw [final, ih, each, trace, List.countP_cons, UInt32.ofNat_add, UInt32.add_assoc, UInt32.add_comm (UInt32.ofNat _)]
    by_cases now : counted (event step start action)
    · rw [if_pos now, if_pos (decide_eq_true now)]
      rfl
    · rw [if_neg now, if_neg (by simpa using now)]
      rfl

/-- What is held at the start or comes in is still held at the end or has gone. -/
theorem balance_run (held : S → Nat) (comes goes : Event S A O → Prop) [DecidablePred comes] [DecidablePred goes]
    (each : ∀ state action, held state + (if comes (event step state action) then 1 else 0) =
      held (step state action).1 + if goes (event step state action) then 1 else 0)
    (start : S) (actions : List A) :
    held start + (trace step start actions).countP comes =
      held (final step start actions) + (trace step start actions).countP goes := by
  induction actions generalizing start with
  | nil => rfl
  | cons action rest ih =>
    have now := each start action
    have later := ih (step start action).1
    simp only [final, trace, List.countP_cons, decide_eq_true_eq]
    omega

end

end Traces
