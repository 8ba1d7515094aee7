import Mathlib.Data.List.Basic

/-! The minimiser of counterexamples (`ahdg_minimize` of `ahdg_explore_core.h`).

A pass tries to leave out every action in turn, and stays at a place where one fell
out. Passes are made until one leaves everything in. Replaying a part says nothing
about replaying another, so all that is known of the result is what the last pass
has tried on it.
-/

set_option autoImplicit false

namespace DiagnosticGateway.Fuzz

abbrev ahdgMaxSeq : Nat := 64

section
variable {α : Type*}

/-- The copy into `tmp` of all actions but one; `none` is a write behind the end of
`tmp`. -/
def copyExcept (skip : Nat) : Nat → List α → List α → Option (List α)
  | _, [], tmp => some tmp
  | index, action :: rest, tmp =>
    if index ≠ skip then
      if tmp.length < ahdgMaxSeq then copyExcept skip (index + 1) rest (tmp ++ [action]) else none
    else copyExcept skip (index + 1) rest tmp

theorem copyExcept_beyond {skip index : Nat} {rest tmp copied : List α} (beyond : skip < index)
    (copies : copyExcept skip index rest tmp = some copied) : copied = tmp ++ rest := by
  induction rest generalizing index tmp with
  | nil =>
    cases copies
    exact (List.append_nil _).symm
  | cons action rest ih =>
    rw [copyExcept, if_pos (Nat.ne_of_gt beyond)] at copies
    split at copies
    · rw [ih (Nat.lt_succ_of_lt beyond) copies, List.append_assoc, List.singleton_append]
    · cases copies

theorem copyExcept_some {skip index : Nat} {rest tmp copied : List α} (ahead : index ≤ skip)
    (copies : copyExcept skip index rest tmp = some copied) : copied = tmp ++ rest.eraseIdx (skip - index) := by
  induction rest generalizing index tmp with
  | nil =>
    cases copies
    exact (List.append_nil _).symm
  | cons action rest ih =>
    rw [copyExcept] at copies
    by_cases here : index ≠ skip
    · rw [if_pos here] at copies
      split at copies
      · have later : skip - index = skip - (index + 1) + 1 := by omega
        rw [ih (by omega) copies, later, List.eraseIdx_cons_succ, List.append_assoc, List.singleton_append]
      · cases copies
    · rw [if_neg here] at copies
      rw [not_not] at here
      rw [copyExcept_beyond (by omega) copies, here, Nat.sub_self, List.eraseIdx_cons_zero]

theorem copyExcept_eraseIdx {skip : Nat} {seq copied : List α} (copies : copyExcept skip 0 seq [] = some copied) :
    copied = seq.eraseIdx skip := copyExcept_some (Nat.zero_le _) copies

theorem copyExcept_fits {skip index : Nat} {rest tmp : List α} (fits : tmp.length + rest.length ≤ ahdgMaxSeq) :
    ∃ copied, copyExcept skip index rest tmp = some copied := by
  induction rest generalizing index tmp with
  | nil => exact ⟨tmp, rfl⟩
  | cons action rest ih =>
    rw [List.length_cons] at fits
    rw [copyExcept]
    split
    · rw [if_pos (by omega)]
      exact ih (by rw [List.length_append, List.length_singleton]; omega)
    · exact ih (by omega)

variable (replay : List α → Int) (target : Int)

def minimizePass (seq : List α) (index : Nat) (changed : Bool) : Option (List α × Bool) :=
  if _inside : index < seq.length then
    match _copies : copyExcept index 0 seq [] with
    | none => none
    | some tmp =>
      if replay tmp = target then minimizePass tmp index true else minimizePass seq (index + 1) changed
  else some (seq, changed)
termination_by seq.length - index
decreasing_by
  · rw [copyExcept_eraseIdx _copies, List.length_eraseIdx_of_lt _inside]
    omega
  · omega

structure Passed (seq : List α) (index : Nat) (changed : Bool) (after : List α × Bool) : Prop where
  sublist : after.1.Sublist seq
  replays : replay seq = target → replay after.1 = target
  shorter : after.2 = true → changed = true ∨ after.1.length < seq.length
  -- Every single action has been tried on the sequence itself.
  tried : after.2 = false → changed = false ∧ after.1 = seq ∧
    ∀ place, index ≤ place → place < seq.length → replay (seq.eraseIdx place) ≠ target

theorem minimizePass_passed {seq : List α} {index : Nat} {changed : Bool} {after : List α × Bool}
    (returned : minimizePass replay target seq index changed = some after) :
    Passed replay target seq index changed after := by
  fun_induction minimizePass replay target seq index changed with
  | case1 => cases returned
  | case2 seq index changed inside tmp copies replays ih =>
    have erased := copyExcept_eraseIdx copies
    obtain ⟨sublist, onward, shorter, tried⟩ := ih returned
    have part : tmp.Sublist seq := erased ▸ List.eraseIdx_sublist seq index
    have fewer : tmp.length < seq.length := by
      rw [erased, List.length_eraseIdx_of_lt inside]
      omega
    refine ⟨sublist.trans part, fun _ => onward replays, fun _ => .inr ?_, fun quiet => ?_⟩
    · exact Nat.lt_of_le_of_lt sublist.length_le fewer
    · -- The pass ends as one that has changed something.
      exact Bool.noConfusion (tried quiet).1
  | case3 seq index changed inside tmp copies kept ih =>
    have erased := copyExcept_eraseIdx copies
    obtain ⟨sublist, onward, shorter, tried⟩ := ih returned
    refine ⟨sublist, onward, shorter, fun quiet => ?_⟩
    obtain ⟨before, same, others⟩ := tried quiet
    refine ⟨before, same, fun place ahead below => ?_⟩
    rcases Nat.eq_or_lt_of_le ahead with rfl | further
    · exact erased ▸ kept
    · exact others place further below
  | case4 seq index changed outside =>
    cases returned
    refine ⟨.refl seq, id, .inl, fun quiet => ⟨quiet, rfl, fun place ahead below => ?_⟩⟩
    omega

theorem minimizePass_returns {seq : List α} (fits : seq.length ≤ ahdgMaxSeq) (index : Nat) (changed : Bool) :
    ∃ after, minimizePass replay target seq index changed = some after := by
  fun_induction minimizePass replay target seq index changed with
  | case1 seq index changed inside copies =>
    obtain ⟨copied, copied_eq⟩ := @copyExcept_fits _ index 0 seq [] (by rwa [List.length_nil, Nat.zero_add])
    rw [copies] at copied_eq
    cases copied_eq
  | case2 seq index changed inside tmp copies replays ih =>
    refine ih ?_
    rw [copyExcept_eraseIdx copies, List.length_eraseIdx_of_lt inside]
    omega
  | case3 seq index changed inside tmp copies kept ih => exact ih fits
  | case4 seq index changed outside => exact ⟨(seq, changed), rfl⟩

/-- The `while` loop; the length of the result is the value returned. -/
def ahdgMinimize (seq : List α) : Option (List α) :=
  match _returned : minimizePass replay target seq 0 false with
  | none => none
  | some (next, changed) => if _again : changed = true then ahdgMinimize next else some next
termination_by seq.length
decreasing_by exact ((minimizePass_passed replay target _returned).shorter _again).resolve_left Bool.noConfusion

/-- No single action can be left out. -/
def OneMinimal (seq : List α) : Prop := ∀ place < seq.length, replay (seq.eraseIdx place) ≠ target

theorem ahdgMinimize_returns {seq : List α} (fits : seq.length ≤ ahdgMaxSeq) :
    ∃ result, ahdgMinimize replay target seq = some result := by
  fun_induction ahdgMinimize replay target seq with
  | case1 seq stuck =>
    obtain ⟨after, returned⟩ := minimizePass_returns replay target fits 0 false
    rw [stuck] at returned
    cases returned
  | case2 seq next returned ih =>
    exact ih (Nat.le_trans (minimizePass_passed replay target returned).sublist.length_le fits)
  | case3 seq next changed returned done => exact ⟨next, rfl⟩

theorem ahdgMinimize_minimal {seq result : List α} (returned : ahdgMinimize replay target seq = some result)
    (replays : replay seq = target) :
    result.Sublist seq ∧ replay result = target ∧ OneMinimal replay target result := by
  fun_induction ahdgMinimize replay target seq with
  | case1 => cases returned
  | case2 seq next passed ih =>
    have after := minimizePass_passed replay target passed
    obtain ⟨sublist, minimal⟩ := ih returned (after.replays replays)
    exact ⟨sublist.trans after.sublist, minimal⟩
  | case3 seq next changed passed done =>
    cases returned
    obtain ⟨sublist, onward, -, tried⟩ := minimizePass_passed replay target passed
    obtain ⟨-, same, all⟩ := tried (Bool.eq_false_iff.mpr done)
    dsimp only at same
    subst same
    exact ⟨sublist, replays, fun place below => all place (Nat.zero_le _) below⟩

/-- Whatever the replay, a sequence that fits is minimised to a part of it that shows
the same violation and of which every action is needed. -/
theorem ahdgMinimize_oneMinimal (seq : List α) (fits : seq.length ≤ 64) (replays : replay seq = target)
    (empty : replay [] ≠ target) :
    ∃ result, ahdgMinimize replay target seq = some result ∧ result ≠ [] ∧ result.Sublist seq ∧ replay result = target ∧
      OneMinimal replay target result := by
  obtain ⟨result, returned⟩ := ahdgMinimize_returns replay target fits
  obtain ⟨sublist, verdict, minimal⟩ := ahdgMinimize_minimal replay target returned replays
  refine ⟨result, returned, ?_, sublist, verdict, minimal⟩
  rintro rfl
  exact empty verdict

end

/-- A replay that is not monotone: 3 is seen with an odd number of ones. -/
theorem ahdgMinimize_oneMinimal_odd : ∃ result,
    let replay := fun seq : List Nat => if seq.count 1 % 2 = 1 then (3 : Int) else -1
    ahdgMinimize replay 3 [1, 2, 1, 1] = some result ∧ result ≠ [] ∧ result.Sublist [1, 2, 1, 1] ∧ replay result = 3 ∧
      OneMinimal replay 3 result :=
  ahdgMinimize_oneMinimal (fun seq : List Nat => if seq.count 1 % 2 = 1 then (3 : Int) else -1) 3 [1, 2, 1, 1] (by decide)
    (by decide) (by decide)

end DiagnosticGateway.Fuzz
