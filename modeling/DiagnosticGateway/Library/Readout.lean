import Mathlib.Data.Nat.Basic

/-! Programs that read an array they were given together with its length.

A program maps the memory to a result and to the log of what it did on the way: the
elements it read, the unsigned differences it took, and its own effects. What the
log may hold has an exact rule for every way to build a program, so a bound on the
reads is found by going through the text of the program.
-/

set_option autoImplicit false

namespace Readout

universe u v w x

inductive Access (E : Type u) where
  | read (index : Nat)
  | difference (minuend subtrahend : Nat)
  | effect (done : E)

/-- Programs over a memory of `B`, with effects in `E`. -/
def Program (B : Type u) (E : Type v) (A : Type w) : Type (max u v w) := (Nat → B) → A × List (Access E)

section
variable {B : Type u} {E : Type v} {A : Type w} {C : Type x}

instance : Monad (Program B E) where
  pure result := fun _ => (result, [])
  bind program next := fun memory =>
    let (result, log) := program memory
    let (last, rest) := next result memory
    (last, log ++ rest)

def read (index : Nat) : Program B E B := fun memory => (memory index, [.read index])

def difference (modulus minuend subtrahend : Nat) : Program B E Nat :=
  fun _ => ((minuend + (modulus - subtrahend % modulus)) % modulus, [.difference minuend subtrahend])

def effect (done : E) : Program B E Unit := fun _ => ((), [.effect done])

/-- The second operand is looked at only when the first is true. -/
def andThen (first : Bool) (second : Program B E Bool) : Program B E Bool := if first then second else pure false

def fold (body : Nat → A → Program B E A) : Nat → Nat → A → Program B E A
  | 0, _, result => pure result
  | count + 1, first, result => body first result >>= fold body count (first + 1)

def loop (count : Nat) (body : Nat → Program B E Unit) : Program B E Unit := fold (fun index _ => body index) count 0 ()

/-! ## Judging a log -/

def Obeys (judge : Access E → Prop) (memory : Nat → B) (program : Program B E A) : Prop :=
  ∀ access ∈ (program memory).2, judge access

/-- Reads stay below the length, and no difference is negative. -/
def Within (length : Nat) : Access E → Prop
  | .read index => index < length
  | .difference minuend subtrahend => subtrahend ≤ minuend
  | .effect _ => True

end

section
variable {B : Type u} {E : Type v} {A C : Type w} {judge : Access E → Prop} {memory : Nat → B}

@[simp] theorem within_read (length index : Nat) : Within length (.read index : Access E) ↔ index < length := Iff.rfl

@[simp] theorem within_difference (length minuend subtrahend : Nat) :
    Within length (.difference minuend subtrahend : Access E) ↔ subtrahend ≤ minuend := Iff.rfl

@[simp] theorem within_effect (length : Nat) (done : E) : Within length (.effect done) := trivial

@[simp] theorem obeys_pure (result : A) : Obeys judge memory (pure result : Program B E A) :=
  fun _ member => absurd member List.not_mem_nil

@[simp] theorem obeys_bind (program : Program B E A) (next : A → Program B E C) :
    Obeys judge memory (program >>= next) ↔
      Obeys judge memory program ∧ Obeys judge memory (next (program memory).1) := List.forall_mem_append

@[simp] theorem obeys_read (index : Nat) : Obeys judge memory (read index : Program B E B) ↔ judge (.read index) :=
  List.forall_mem_singleton

-- In parentheses, since a definitional rule would rewrite the condition of a test and
-- leave its decision procedure behind.
@[simp] theorem read_value (index : Nat) : ((read index : Program B E B) memory).1 = memory index := (rfl)

@[simp] theorem obeys_difference (modulus minuend subtrahend : Nat) :
    Obeys judge memory (difference modulus minuend subtrahend : Program B E Nat) ↔ judge (.difference minuend subtrahend) :=
  List.forall_mem_singleton

theorem difference_value {modulus minuend subtrahend : Nat} (ordered : subtrahend ≤ minuend) (fits : minuend < modulus) :
    ((difference modulus minuend subtrahend : Program B E Nat) memory).1 = minuend - subtrahend := by
  have wrapped : minuend + (modulus - subtrahend) = minuend - subtrahend + modulus := by omega
  simp only [difference]
  rw [Nat.mod_eq_of_lt (Nat.lt_of_le_of_lt ordered fits), wrapped, Nat.add_mod_right,
    Nat.mod_eq_of_lt (Nat.lt_of_le_of_lt (Nat.sub_le _ _) fits)]

@[simp] theorem obeys_effect (done : E) : Obeys judge memory (effect done : Program B E Unit) ↔ judge (.effect done) :=
  List.forall_mem_singleton

@[simp] theorem pure_value (result : A) : ((pure result : Program B E A) memory).1 = result := (rfl)

@[simp] theorem bind_value (program : Program B E A) (next : A → Program B E C) :
    ((program >>= next) memory).1 = (next (program memory).1 memory).1 := (rfl)

theorem obeys_ite {condition : Prop} [Decidable condition] (yes no : Program B E A) :
    Obeys judge memory (if condition then yes else no) ↔
      (condition → Obeys judge memory yes) ∧ (¬ condition → Obeys judge memory no) := by
  split
  · rename_i holds
    simp [holds]
  · rename_i fails
    simp [fails]

@[simp] theorem obeys_andThen (first : Bool) (second : Program B E Bool) :
    Obeys judge memory (andThen first second) ↔ (first = true → Obeys judge memory second) := by
  cases first with
  | false => simp [andThen]
  | true => simp [andThen]

@[simp] theorem andThen_value (first : Bool) (second : Program B E Bool) :
    ((andThen first second) memory).1 = (first && (second memory).1) := by
  cases first with
  | false => rfl
  | true => rfl

theorem obeys_fold {body : Nat → A → Program B E A} {count first : Nat}
    (each : ∀ index result, first ≤ index → index < first + count → Obeys judge memory (body index result)) (result : A) :
    Obeys judge memory (fold body count first result) := by
  induction count generalizing first result with
  | zero => exact obeys_pure result
  | succ count ih =>
    refine (obeys_bind _ _).mpr ⟨each first result (Nat.le_refl _) (by omega), ih (fun index result after below => ?_) _⟩
    exact each index result (by omega) (by omega)

theorem obeys_loop {body : Nat → Program B E Unit} {count : Nat}
    (each : ∀ index < count, Obeys judge memory (body index)) : Obeys judge memory (loop count body) :=
  obeys_fold (fun index _ _ below => each index (by omega)) ()

end

section
variable {B : Type u} {E : Type v} {A C : Type w} {S : Type x}

def follow (apply : S → E → S) (state : S) : Access E → S
  | .effect done => apply state done
  | .read _ | .difference _ _ => state

def replay (apply : S → E → S) (memory : Nat → B) (program : Program B E A) (state : S) : S :=
  (program memory).2.foldl (follow apply) state

def Silent (apply : S → E → S) (access : Access E) : Prop := ∀ state, follow apply state access = state

variable {apply : S → E → S} {memory : Nat → B} {state : S}

@[simp] theorem silent_read (index : Nat) : Silent apply (.read index : Access E) := fun _ => rfl

@[simp] theorem silent_difference (minuend subtrahend : Nat) : Silent apply (.difference minuend subtrahend : Access E) :=
  fun _ => rfl

@[simp] theorem silent_effect (done : E) : Silent apply (.effect done) ↔ ∀ state, apply state done = state := Iff.rfl

theorem replay_silent {program : Program B E A} (silent : Obeys (Silent apply) memory program) (state : S) :
    replay apply memory program state = state := by
  unfold replay
  unfold Obeys at silent
  generalize (program memory).2 = log at silent ⊢
  induction log with
  | nil => rfl
  | cons access log ih =>
    rw [List.foldl_cons, silent access List.mem_cons_self]
    exact ih fun other member => silent other (List.mem_cons_of_mem _ member)

@[simp] theorem replay_effect (done : E) :
    replay apply memory (effect done : Program B E Unit) state = apply state done := rfl

@[simp] theorem replay_bind (program : Program B E A) (next : A → Program B E C) :
    replay apply memory (program >>= next) state =
      replay apply memory (next (program memory).1) (replay apply memory program state) := List.foldl_append

end

end Readout
