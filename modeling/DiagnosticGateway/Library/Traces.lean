import Mathlib.Data.List.Induction

/-! Runs of a deterministic machine, and past-time facts about their events.

A machine is a step function from a state and an action to a state and an
output. A trace keeps, for every action, the state before it, its output and
the state after it, oldest first. `Since` is the past-time operator of linear
temporal logic over such a trace: something happened, and everything after it
was of a given kind.
-/

set_option autoImplicit false

namespace Traces

universe u v w

section
variable {E : Type u}

/-- A property of every event together with what came before it. -/
def AllEvents (holds : List E → E → Prop) (events : List E) : Prop :=
  ∀ past event future, events = past ++ event :: future → holds past event

/-- Some event is marked, and every later one keeps `hold`. The mark may
itself look at what came before the marked event. -/
def Since (hold : E → Prop) (mark : List E → E → Prop) (past : List E) : Prop :=
  ∃ before event after, past = before ++ event :: after ∧ mark before event ∧ ∀ e ∈ after, hold e

theorem concat_eq_split {events past future : List E} {last event : E}
    (same : events ++ [last] = past ++ event :: future) :
    (future = [] ∧ events = past ∧ last = event) ∨
      ∃ rest, future = rest ++ [last] ∧ events = past ++ event :: rest := by
  rcases List.eq_nil_or_concat future with rfl | ⟨rest, other, rfl⟩
  · have parts := List.append_inj' same rfl
    exact Or.inl ⟨rfl, parts.1, by simpa using parts.2⟩
  · rw [List.concat_eq_append, ← List.cons_append, ← List.append_assoc] at same
    have parts := List.append_inj' same rfl
    have other_eq : last = other := by simpa using parts.2
    exact Or.inr ⟨rest, by simp [other_eq], parts.1⟩

theorem allEvents_nil (holds : List E → E → Prop) : AllEvents holds [] := by
  intro past event future same
  simp at same

theorem allEvents_concat (holds : List E → E → Prop) (events : List E) (last : E) :
    AllEvents holds (events ++ [last]) ↔ AllEvents holds events ∧ holds events last := by
  constructor
  · intro all
    refine ⟨fun past event future same => ?_, all events last [] rfl⟩
    exact all past event (future ++ [last]) (by simp [same])
  · rintro ⟨all, atLast⟩ past event future same
    rcases concat_eq_split same with ⟨_, rfl, rfl⟩ | ⟨rest, _, split⟩
    · exact atLast
    · exact all past event rest split

theorem allEvents_cons (holds : List E → E → Prop) (first : E) (events : List E) :
    AllEvents holds (first :: events) ↔ holds [] first ∧ AllEvents (fun past e => holds (first :: past) e) events := by
  constructor
  · intro all
    refine ⟨all [] first events rfl, fun past event future same => ?_⟩
    exact all (first :: past) event future (by rw [same, List.cons_append])
  · rintro ⟨atFirst, all⟩ past event future same
    cases past with
    | nil =>
      obtain ⟨rfl, -⟩ := List.cons.inj same
      exact atFirst
    | cons other past =>
      obtain ⟨rfl, rest⟩ := List.cons.inj same
      exact all past event future rest

theorem allEvents_forall (holds : E → Prop) (events : List E) :
    AllEvents (fun _ event => holds event) events ↔ ∀ event ∈ events, holds event := by
  constructor
  · intro all event member
    obtain ⟨past, future, same⟩ := List.append_of_mem member
    exact all past event future same
  · rintro all past event future rfl
    exact all event (by simp)

theorem not_since_nil (hold : E → Prop) (mark : List E → E → Prop) : ¬ Since hold mark [] := by
  rintro ⟨before, event, after, same, _⟩
  simp at same

/-- The unfolding law: either the mark is now, or it held before and still holds. -/
theorem since_concat (hold : E → Prop) (mark : List E → E → Prop) (past : List E) (last : E) :
    Since hold mark (past ++ [last]) ↔ mark past last ∨ (hold last ∧ Since hold mark past) := by
  constructor
  · rintro ⟨before, event, after, same, marked, held⟩
    rcases concat_eq_split same with ⟨_, rfl, rfl⟩ | ⟨rest, rfl, split⟩
    · exact Or.inl marked
    · exact Or.inr ⟨held last (by simp), before, event, rest, split, marked,
        fun e member => held e (by simp [member])⟩
  · rintro (marked | ⟨holdLast, before, event, after, rfl, marked, held⟩)
    · exact ⟨past, last, [], rfl, marked, by simp⟩
    · refine ⟨before, event, after ++ [last], by simp, marked, fun e member => ?_⟩
      rcases List.mem_append.mp member with earlier | now
      · exact held e earlier
      · exact List.mem_singleton.mp now ▸ holdLast

theorem Since.now {hold : E → Prop} {mark : List E → E → Prop} {past : List E} {last : E}
    (marked : mark past last) : Since hold mark (past ++ [last]) :=
  (since_concat hold mark past last).mpr (Or.inl marked)

theorem Since.step {hold : E → Prop} {mark : List E → E → Prop} {past : List E} {last : E}
    (earlier : Since hold mark past) (held : hold last) : Since hold mark (past ++ [last]) :=
  (since_concat hold mark past last).mpr (Or.inr ⟨held, earlier⟩)

theorem Since.hold_of_unmarked {hold : E → Prop} {mark : List E → E → Prop} {past later : List E}
    (since : Since hold mark (past ++ later)) (unmarked : ∀ e ∈ later, ∀ before, ¬ mark before e) :
    ∀ e ∈ later, hold e := by
  induction later using List.reverseRecOn with
  | nil => simp
  | append_singleton later last ih =>
    rw [← List.append_assoc, since_concat] at since
    rcases since with marked | ⟨holdLast, earlier⟩
    · exact absurd marked (unmarked last (by simp) _)
    · intro e member
      rcases List.mem_append.mp member with before | now
      · exact ih earlier (fun e member => unmarked e (by simp [member])) e before
      · exact List.mem_singleton.mp now ▸ holdLast

end

/-! ## Runs of a machine -/

section
variable {S : Type u} {A : Type v} {O : Type w}

structure Event (S : Type u) (A : Type v) (O : Type w) where
  before : S
  action : A
  output : O
  after : S

variable (step : S → A → S × O)

def event (state : S) (action : A) : Event S A O :=
  ⟨state, action, (step state action).2, (step state action).1⟩

def final (state : S) : List A → S
  | [] => state
  | action :: rest => final (step state action).1 rest

def trace (state : S) : List A → List (Event S A O)
  | [] => []
  | action :: rest => event step state action :: trace (step state action).1 rest

theorem final_append (state : S) (first rest : List A) :
    final step state (first ++ rest) = final step (final step state first) rest := by
  induction first generalizing state with
  | nil => rfl
  | cons action first ih => exact ih _

theorem trace_append (state : S) (first rest : List A) :
    trace step state (first ++ rest) = trace step state first ++ trace step (final step state first) rest := by
  induction first generalizing state with
  | nil => rfl
  | cons action first ih => simp only [List.cons_append, trace, final, ih]

theorem final_concat (state : S) (actions : List A) (action : A) :
    final step state (actions ++ [action]) = (step (final step state actions) action).1 :=
  final_append step state actions [action]

theorem trace_concat (state : S) (actions : List A) (action : A) :
    trace step state (actions ++ [action]) =
      trace step state actions ++ [event step (final step state actions) action] :=
  trace_append step state actions [action]

theorem trace_eq_append {state : S} {actions : List A} {first rest : List (Event S A O)}
    (same : trace step state actions = first ++ rest) :
    ∃ done later, actions = done ++ later ∧ first = trace step state done := by
  induction first generalizing state actions with
  | nil => exact ⟨[], actions, rfl, rfl⟩
  | cons e first ih =>
    cases actions with
    | nil => cases same
    | cons action actions =>
      obtain ⟨rfl, tail⟩ := List.cons.inj same
      obtain ⟨done, later, rfl, rfl⟩ := ih tail
      exact ⟨action :: done, later, rfl, rfl⟩

theorem trace_actions (state : S) (actions : List A) : (trace step state actions).map Event.action = actions := by
  induction actions generalizing state with
  | nil => rfl
  | cons action rest ih => simp [trace, event, ih]

theorem mem_trace {state : S} {actions : List A} {e : Event S A O} (member : e ∈ trace step state actions) :
    ∃ done action rest, actions = done ++ action :: rest ∧ e = event step (final step state done) action := by
  induction actions generalizing state with
  | nil => cases member
  | cons action rest ih =>
    rcases List.mem_cons.mp member with rfl | later
    · exact ⟨[], action, rest, rfl, rfl⟩
    · obtain ⟨done, last, others, rfl, same⟩ := ih later
      exact ⟨action :: done, last, others, rfl, same⟩

theorem exists_change {holds : S → Prop} {start : S} {actions : List A} (initially : ¬ holds start)
    (finally' : holds (final step start actions)) :
    ∃ e ∈ trace step start actions, ¬ holds e.before ∧ holds e.after := by
  induction actions generalizing start with
  | nil => exact absurd finally' initially
  | cons action rest ih =>
    by_cases now : holds (step start action).1
    · exact ⟨event step start action, List.mem_cons_self, initially, now⟩
    · obtain ⟨e, member, change⟩ := ih now finally'
      exact ⟨e, List.mem_cons_of_mem _ member, change⟩

theorem eq_event_of_mem {state : S} {actions : List A} {e : Event S A O} (member : e ∈ trace step state actions) :
    e = event step e.before e.action := by
  obtain ⟨done, action, rest, -, rfl⟩ := mem_trace step member
  rfl

/-- The run rule under a guard: what holds at the start and is kept by every
guarded step holds at the end of every run all of whose steps meet the guard. -/
theorem guarded_run {start : S} (guard : List (Event S A O) → Event S A O → Prop)
    (inv : List (Event S A O) → S → Prop) (initially : inv [] start)
    (keep : ∀ past state action, inv past state → guard past (event step state action) →
      inv (past ++ [event step state action]) (step state action).1)
    (actions : List A) (guarded : AllEvents guard (trace step start actions)) :
    inv (trace step start actions) (final step start actions) := by
  -- From the end, where the past of the last step is the trace of the others.
  induction actions using List.reverseRecOn with
  | nil => exact initially
  | append_singleton actions action ih =>
    rw [trace_concat] at guarded ⊢
    rw [final_concat]
    obtain ⟨earlier, atLast⟩ := (allEvents_concat _ _ _).mp guarded
    exact keep _ _ _ (ih earlier) atLast

/-- The lockstep rule under a guard: two machines that answer alike in every
guarded step of the first answer alike in all its guarded runs. -/
theorem guarded_lockstep {T : Type*} {step' : T → A → T × O} {start : S} {start' : T}
    (guard : List (Event S A O) → Event S A O → Prop) (related : List (Event S A O) → S → T → Prop)
    (initially : related [] start start')
    (keep : ∀ past state state' action, related past state state' → guard past (event step state action) →
      (step state action).2 = (step' state' action).2 ∧
        related (past ++ [event step state action]) (step state action).1 (step' state' action).1)
    (actions : List A) (guarded : AllEvents guard (trace step start actions)) :
    (trace step start actions).map Event.output = (trace step' start' actions).map Event.output ∧
      related (trace step start actions) (final step start actions) (final step' start' actions) := by
  induction actions using List.reverseRecOn with
  | nil => exact ⟨rfl, initially⟩
  | append_singleton actions action ih =>
    rw [trace_concat, allEvents_concat] at guarded
    obtain ⟨earlier, atLast⟩ := guarded
    obtain ⟨outputs, reached⟩ := ih earlier
    obtain ⟨output, next⟩ := keep _ _ _ action reached atLast
    rw [trace_concat, trace_concat, final_concat, final_concat, List.map_append, List.map_append, outputs]
    exact ⟨congrArg _ (congrArg (fun answer => [answer]) output), next⟩

theorem guarded_events {start : S} (guard : List (Event S A O) → Event S A O → Prop)
    (inv : List (Event S A O) → S → Prop) {holds : List (Event S A O) → Event S A O → Prop} (initially : inv [] start)
    (keep : ∀ past state action, inv past state → guard past (event step state action) →
      inv (past ++ [event step state action]) (step state action).1)
    (gives : ∀ past state action, inv past state → guard past (event step state action) →
      holds past (event step state action))
    (actions : List A) (guarded : AllEvents guard (trace step start actions)) :
    AllEvents holds (trace step start actions) := by
  induction actions using List.reverseRecOn with
  | nil => exact allEvents_nil holds
  | append_singleton actions action ih =>
    rw [trace_concat, allEvents_concat] at guarded ⊢
    obtain ⟨earlier, atLast⟩ := guarded
    exact ⟨ih earlier, gives _ _ _ (guarded_run step guard inv initially keep actions earlier) atLast⟩

/-- The run rule: an invariant of history and state that every step keeps. -/
theorem run_induction {start : S} (inv : List (Event S A O) → S → Prop) (initially : inv [] start)
    (keep : ∀ past state action, inv past state →
      inv (past ++ [event step state action]) (step state action).1)
    (actions : List A) : inv (trace step start actions) (final step start actions) :=
  guarded_run step (fun _ _ => True) inv initially (fun past state action held _ => keep past state action held)
    actions (fun _ _ _ _ => trivial)

theorem state_invariant {start : S} (inv : S → Prop) (initially : inv start)
    (keep : ∀ state action, inv state → inv (step state action).1) (actions : List A) :
    inv (final step start actions) :=
  run_induction step (fun _ => inv) initially (fun _ => keep) actions

theorem every_event {start : S} {holds : List (Event S A O) → Event S A O → Prop} (actions : List A)
    (reached : ∀ done action, holds (trace step start done) (event step (final step start done) action)) :
    AllEvents holds (trace step start actions) := by
  induction actions using List.reverseRecOn with
  | nil => exact allEvents_nil holds
  | append_singleton actions action ih =>
    rw [trace_concat, allEvents_concat]
    exact ⟨ih, reached actions action⟩

theorem forall_trace_congr {good guard : Event S A O → Prop}
    (same : ∀ state action, good (event step state action) ↔ guard (event step state action))
    (start : S) (actions : List A) :
    (∀ e ∈ trace step start actions, good e) ↔ ∀ e ∈ trace step start actions, guard e := by
  induction actions generalizing start with
  | nil => simp [trace]
  | cons action rest ih => simp only [trace, List.forall_mem_cons, same, ih]

/-- The exact run rule: where an invariant makes a guard the exact condition for
a good step, and good steps keep the invariant, the runs of good steps are the
runs of guarded steps. -/
theorem allEvents_iff {start : S} (inv : List (Event S A O) → S → Prop)
    {good guard : List (Event S A O) → Event S A O → Prop} (initially : inv [] start)
    (keep : ∀ past state action, inv past state → good past (event step state action) →
      inv (past ++ [event step state action]) (step state action).1)
    (same : ∀ past state action, inv past state →
      (good past (event step state action) ↔ guard past (event step state action)))
    (actions : List A) :
    AllEvents good (trace step start actions) ↔ AllEvents guard (trace step start actions) := by
  induction actions using List.reverseRecOn with
  | nil => exact iff_of_true (allEvents_nil good) (allEvents_nil guard)
  | append_singleton actions action ih =>
    rw [trace_concat, allEvents_concat, allEvents_concat]
    -- Either way the invariant is reached before the last step.
    constructor
    · rintro ⟨earlier, last⟩
      have reached := guarded_run step good inv initially keep actions earlier
      exact ⟨ih.mp earlier, (same _ _ _ reached).mp last⟩
    · rintro ⟨earlier, last⟩
      have reached := guarded_run step good inv initially keep actions (ih.mpr earlier)
      exact ⟨ih.mpr earlier, (same _ _ _ reached).mpr last⟩

end

end Traces
