import Mathlib.Data.List.Perm.Subperm
import Mathlib.Data.List.Sort

/-! Queues that lose and repeat elements but never reorder them: what stays true
of their elements and of the order they stand in.
-/

set_option autoImplicit false

namespace LossyQueue

variable {α β : Type}

/-- Repeat the element at `index` right behind itself. -/
def repeatAt : List α → Nat → List α
  | [], _ => []
  | x :: rest, 0 => x :: x :: rest
  | x :: rest, index + 1 => x :: repeatAt rest index

@[simp] theorem mem_repeatAt {x : α} (queue : List α) (index : Nat) : x ∈ repeatAt queue index ↔ x ∈ queue := by
  induction queue generalizing index with
  | nil => rfl
  | cons y rest ih =>
    cases index with
    | zero => simp [repeatAt]
    | succ index => simp [repeatAt, ih]

theorem repeatAt_map (f : α → β) (queue : List α) (index : Nat) :
    repeatAt (queue.map f) index = (repeatAt queue index).map f := by
  induction queue generalizing index with
  | nil => rfl
  | cons y rest ih =>
    cases index with
    | zero => rfl
    | succ index => simp [repeatAt, ih]

theorem pairwise_repeatAt {r : α → α → Prop} (refl : ∀ x, r x x) {queue : List α} (ordered : queue.Pairwise r)
    (index : Nat) : (repeatAt queue index).Pairwise r := by
  induction queue generalizing index with
  | nil => exact ordered
  | cons y rest ih =>
    obtain ⟨first, later⟩ := List.pairwise_cons.mp ordered
    cases index with
    | zero =>
      refine List.pairwise_cons.mpr ⟨fun x member => ?_, ordered⟩
      rcases List.mem_cons.mp member with rfl | behind
      · exact refl x
      · exact first x behind
    | succ index => exact List.pairwise_cons.mpr ⟨fun x member => first x ((mem_repeatAt _ _).mp member), ih later index⟩

theorem countP_repeatAt (p : α → Bool) (queue : List α) (index : Nat) :
    (repeatAt queue index).countP p ≤ queue.countP p + 1 := by
  induction queue generalizing index with
  | nil => exact Nat.zero_le _
  | cons y rest ih =>
    cases index with
    | zero =>
      simp only [repeatAt, List.countP_cons]
      split <;> omega
    | succ index =>
      have less := ih index
      simp only [repeatAt, List.countP_cons]
      omega

theorem increasing_eq_range {numbers : List Nat} {bound : Nat} (increasing : numbers.Pairwise (· < ·))
    (below : ∀ number ∈ numbers, number < bound) (many : bound ≤ numbers.length) : numbers = List.range bound := by
  have within : numbers ⊆ List.range bound := fun number member => List.mem_range.mpr (below number member)
  have distinct : numbers.Nodup := increasing.imp Nat.ne_of_lt
  have perm := (List.Nodup.subperm distinct within).perm_of_length_le (by rwa [List.length_range])
  exact perm.eq_of_pairwise (fun _ _ _ _ less more => absurd less (Nat.lt_asymm more)) increasing
    List.pairwise_lt_range

end LossyQueue
