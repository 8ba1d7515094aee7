import DiagnosticGateway.Library.Lockout
import DiagnosticGateway.Uds.Clock

/-! How fast keys can be tried.

The reference server is a counter of wrong keys with a lockout: whatever the
requests between them, only a right key and the end of a lockout reset the
count. The seeds are followed along the same runs, and the code's server gives
the same answers at the same times.
-/

set_option autoImplicit false

namespace DiagnosticGateway.Uds
open BigEndian Traces

variable {σ : Type}

structure Call where
  action : TimedAction
  reply : Reply
  deriving DecidableEq, Repr

def calls (app : Application σ) (user : σ) (actions : List TimedAction) : List Call :=
  actions.zipWith Call.mk ((trace (step app) (.init user) (actions.map TimedAction.action)).map Event.output)

def Effect.isWrongKey : Effect → Bool
  | .keyCompared received expected => received != expected
  | _ => false

def Effect.isRightKey : Effect → Bool
  | .keyCompared received expected => received == expected
  | _ => false

def Effect.isDraw : Effect → Bool
  | .seedDrawn _ => true
  | _ => false

namespace Call

def wrongKeyAt (call : Call) : Option Nat :=
  if call.reply.effects.any Effect.isWrongKey then call.action.time? else none

def acceptsKey (call : Call) : Bool := call.reply.effects.any Effect.isRightKey

def comparesKey (call : Call) : Bool :=
  call.reply.effects.any fun effect => effect.isWrongKey || effect.isRightKey

def drawsSeed (call : Call) : Bool := call.reply.effects.any Effect.isDraw

def Issues (seed : UInt32) (call : Call) : Prop :=
  call.reply.effects = [.seedDrawn seed] ∧ call.reply.response = seedResponse seed

end Call

/-- What a request does to the counter of wrong keys. -/
inductive Tried (before after : Context) : List Effect → Prop where
  | untried {effects : List Effect} : (∀ received expected, .keyCompared received expected ∉ effects) →
      after.failedAttempts = before.failedAttempts → after.lockedOut = before.lockedOut → Tried before after effects
  | wrong {received expected : UInt32} : received ≠ expected → before.lockedOut = false →
      after.failedAttempts = before.failedAttempts + 1 →
      (after.lockedOut = true ↔ before.failedAttempts + 1 ≥ securityMaxAttempts) →
      Tried before after [.keyCompared received expected]
  | right {key : UInt32} : before.lockedOut = false → after.failedAttempts = 0 → after.lockedOut = false →
      Tried before after [.keyCompared key key]

section
variable {app : Application σ} {c : Context} {user : σ} {request : Bytes} {nowMs : UInt32} {capacity : Nat}
  {outcome : Outcome σ}

theorem Handled.tried (handled : Handled app c user request nowMs capacity outcome) :
    Tried c outcome.ctx outcome.effects := by
  cases handled with
  | plain _ _ _ _ _ _ effects => exact .untried (fun _ _ member => effects _ member) rfl rfl
  | resetFailed | reset => exact .untried (by simp [Outcome.refuse, Outcome.reply]) rfl rfl
  | seedIssued => exact .untried (by simp [Outcome.reply]) rfl rfl
  | keyWrong _ _ free _ wrong few =>
    refine .wrong wrong free rfl (iff_of_false ?_ few)
    exact fun out => Bool.false_ne_true (free.symm.trans out)
  | keyExceeded _ _ free _ wrong exceeded => exact .wrong wrong free rfl (iff_of_true rfl exceeded)
  | keyAccepted _ _ free _ right =>
    rw [right]
    exact .right free rfl free
  | _ => exact .untried (by simp [Outcome.refuse, Outcome.reply]) rfl rfl

theorem Handled.compared_cases (handled : Handled app c user request nowMs capacity outcome) {received expected : UInt32}
    (compared : .keyCompared received expected ∈ outcome.effects) :
    c.seedPending = true ∧ expected = demoKeyFromSeed c.currentSeed := by
  cases handled with
  | plain _ _ _ _ _ _ effects => exact absurd (effects _ compared) id
  | keyWrong _ _ _ pending | keyExceeded _ _ _ pending | keyAccepted _ _ _ pending =>
    simp only [Outcome.refuse, Outcome.reply, List.mem_singleton, Effect.keyCompared.injEq] at compared
    exact ⟨pending, compared.2⟩
  | _ => simp [Outcome.refuse, Outcome.reply] at compared

end

theorem Reference.handleRequest_cases (app : Application σ) (reference : Reference σ) (request : Bytes) (time : Nat)
    (capacity : Nat) :
    (∃ reply : Reply, reply.effects = [] ∧
        reference.handleRequest app request time capacity = (reference.poll time, reply)) ∨
      ∃ outcome, Handled app (reference.poll time).ctx (reference.poll time).user request 0 capacity outcome ∧
        reference.handleRequest app request time capacity =
          (⟨outcome.ctx, outcome.user, time,
              if begins (reference.poll time).ctx outcome.ctx then time else (reference.poll time).lockedSince⟩,
            ⟨outcome.result, outcome.response, outcome.effects⟩) := by
  simp only [handleRequest]
  cases request with
  | nil => exact .inl ⟨_, rfl, rfl⟩
  | cons sid rest =>
    dsimp only
    cases found : findRule sid with
    | none => exact .inl ⟨_, rfl, rfl⟩
    | some rule =>
      obtain ⟨needs, unlocks⟩ := findRule_some found
      simp only [needs, unlocks]
      split
      next => exact .inl ⟨_, rfl, rfl⟩
      next inside =>
        split
        next => exact .inl ⟨_, rfl, rfl⟩
        next allowed =>
          refine .inr ⟨_, ?_, rfl⟩
          exact dispatch_ends.handled (by simp) (fun needs session => inside ⟨needs, session⟩)
            (fun reset locked => allowed ⟨reset, locked⟩) (by simp [found])

def Reference.lock? (reference : Reference σ) : Option Nat :=
  if reference.ctx.lockedOut then some reference.lockedSince else none

theorem Reference.lock?_locked {reference : Reference σ} (locked : reference.ctx.lockedOut = true) :
    reference.lock? = some reference.lockedSince := by simp [lock?, locked]

theorem Reference.lock?_free {reference : Reference σ} (free : reference.ctx.lockedOut = false) :
    reference.lock? = none := by simp [lock?, free]

/-! ## The invariant -/

/-- The keys tried so far keep the rate. -/
abbrev Guarded (past : List Call) (failedAttempts : UInt8) (lock : Option Nat) (time : Nat) : Prop :=
  Lockout.Guarded Call.wrongKeyAt (fun call => call.acceptsKey = true) securityMaxAttempts.toNat
    securityLockoutMs.toNat past failedAttempts.toNat lock time

structure Tracked (past : List Call) (reference : Reference σ) (time : Nat) : Prop where
  guarded : Guarded past reference.ctx.failedAttempts reference.lock? time
  pending : reference.ctx.seedPending = true →
    Since (fun call => Quiet call.reply.effects) (fun _ call => call.Issues reference.ctx.currentSeed) past

/-- What is shown of every call. -/
structure Sound (past : List Call) (call : Call) : Prop where
  limited : Lockout.Limited Call.wrongKeyAt (fun call => call.acceptsKey = true) securityMaxAttempts.toNat
    securityLockoutMs.toNat past call
  answers : ∀ received expected, .keyCompared received expected ∈ call.reply.effects →
    ∃ seed, expected = demoKeyFromSeed seed ∧
      Since (fun call => Quiet call.reply.effects) (fun _ call => call.Issues seed) past

section
variable {past : List Call} {call : Call} {reference : Reference σ} {time later : Nat}

theorem wrongKeyAt_untried (untried : ∀ received expected, .keyCompared received expected ∉ call.reply.effects) :
    call.wrongKeyAt = none := by
  refine if_neg fun wrong => ?_
  obtain ⟨effect, member, isWrong⟩ := List.any_eq_true.mp wrong
  cases effect with
  | keyCompared received expected => exact untried received expected member
  | _ => cases isWrong

theorem Tracked.poll (tracked : Tracked past reference time) (passed : time ≤ later) :
    Tracked past (reference.poll later) later := by
  obtain ⟨guarded, pending⟩ := tracked
  have unlocked : Tracked past (reference.pollLockout later) later := by
    rw [Reference.pollLockout]
    split
    next ended =>
      rw [Reference.lock?_locked ended.1] at guarded
      exact ⟨(guarded.wait passed).release (by decide) ended.2, pending⟩
    next => exact ⟨guarded.wait passed, pending⟩
  rw [Reference.poll, Reference.pollSession]
  split
  next => exact ⟨unlocked.guarded, fun pending => by cases pending⟩
  next => exact unlocked

theorem Tracked.quiet (tracked : Tracked past reference time) (quiet : Quiet call.reply.effects) :
    Tracked (past ++ [call]) reference time where
  guarded := tracked.guarded.other (wrongKeyAt_untried fun received expected member =>
    (quiet _ member).2 received expected rfl)
  pending := fun pending => (tracked.pending pending).step quiet

theorem sound_quiet (quiet : Quiet call.reply.effects) : Sound past call where
  limited := Lockout.limited_other (wrongKeyAt_untried fun received expected member =>
    (quiet _ member).2 received expected rfl)
  answers := fun received expected member => absurd rfl ((quiet _ member).2 received expected)

variable {app : Application σ} {user : σ} {request : Bytes} {capacity : Nat} {outcome : Outcome σ}

theorem Guarded.handled (guarded : Guarded past reference.ctx.failedAttempts reference.lock? time)
    (handled : Handled app reference.ctx user request 0 capacity outcome) (now : call.action.time? = some time)
    (effects : call.reply.effects = outcome.effects) :
    Guarded (past ++ [call]) outcome.ctx.failedAttempts
      (Reference.lock? ⟨outcome.ctx, outcome.user, time,
        if Reference.begins reference.ctx outcome.ctx then time else reference.lockedSince⟩) time ∧
      Lockout.Limited Call.wrongKeyAt (fun call => call.acceptsKey = true) securityMaxAttempts.toNat
        securityLockoutMs.toNat past call := by
  have tried := handled.tried
  rw [← effects] at tried
  generalize outcome.ctx = after at tried ⊢
  generalize shown : call.reply.effects = seen at tried
  cases tried with
  | untried untried attempts same =>
    have other : call.wrongKeyAt = none := wrongKeyAt_untried (by rw [shown]; exact untried)
    refine ⟨?_, Lockout.limited_other other⟩
    have quiet : ¬ Reference.begins reference.ctx after := fun ⟨free, locked⟩ =>
      Bool.false_ne_true (free.symm.trans (same.symm.trans locked))
    have kept : Reference.lock? ⟨after, outcome.user, time, reference.lockedSince⟩ = reference.lock? := by
      simp only [Reference.lock?, same]
    rw [attempts, if_neg quiet, kept]
    exact guarded.other other
  | @wrong received expected wrong free attempts reached =>
    rw [Reference.lock?_free free] at guarded
    have failed : call.wrongKeyAt = some time := by
      simp [Call.wrongKeyAt, shown, Effect.isWrongKey, wrong, now]
    refine ⟨?_, guarded.limited failed⟩
    by_cases locked : after.lockedOut = true
    · have begins : Reference.begins reference.ctx after := ⟨free, locked⟩
      rw [if_pos begins, Reference.lock?_locked locked]
      exact guarded.lock failed
    · have opened : after.lockedOut = false := by simpa using locked
      have few : reference.ctx.failedAttempts + 1 < securityMaxAttempts := UInt8.not_le.mp (mt reached.mpr locked)
      have counted : (reference.ctx.failedAttempts + 1).toNat = reference.ctx.failedAttempts.toNat + 1 := by
        have below : reference.ctx.failedAttempts.toNat < 3 := (guarded.free rfl).1
        have one : (1 : UInt8).toNat = 1 := rfl
        rw [UInt8.toNat_add]
        omega
      rw [Reference.lock?_free opened, attempts, Guarded, counted]
      refine guarded.failure failed ?_
      rw [← counted]
      exact UInt8.lt_iff_toNat_lt.mp few
  | @right key free attempts opened =>
    rw [Reference.lock?_free free] at guarded
    have other : call.wrongKeyAt = none := by simp [Call.wrongKeyAt, shown, Effect.isWrongKey]
    refine ⟨?_, Lockout.limited_other other⟩
    rw [Reference.lock?_free opened, attempts]
    exact guarded.success other (by simp [Call.acceptsKey, shown, Effect.isRightKey])

theorem Tracked.handled (tracked : Tracked past reference time)
    (handled : Handled app reference.ctx user request 0 capacity outcome) (now : call.action.time? = some time)
    (reply : call.reply = ⟨outcome.result, outcome.response, outcome.effects⟩) :
    Tracked (past ++ [call])
        ⟨outcome.ctx, outcome.user, time,
          if Reference.begins reference.ctx outcome.ctx then time else reference.lockedSince⟩ time ∧
      Sound past call := by
  obtain ⟨guarded, limited⟩ := tracked.guarded.handled handled now (congrArg Reply.effects reply)
  refine ⟨⟨guarded, fun pending => ?_⟩, limited, fun received expected compared => ?_⟩
  · -- Pending before and untouched, or issued by this call.
    rcases handled.pending_cases pending with ⟨before, same, quiet⟩ | ⟨-, -, -, drawn, answered⟩
    · rw [same]
      exact (tracked.pending before).step (by rw [reply]; exact quiet)
    · exact .now ⟨(congrArg Reply.effects reply).trans drawn, (congrArg Reply.response reply).trans answered⟩
  · rw [reply] at compared
    obtain ⟨pending, same⟩ := handled.compared_cases compared
    exact ⟨reference.ctx.currentSeed, same, tracked.pending pending⟩

theorem Tracked.handleRequest (tracked : Tracked past reference time) (passed : time ≤ later) (app : Application σ)
    (request : Bytes) (capacity : Nat) :
    let next := reference.handleRequest app request later capacity
    Tracked (past ++ [⟨.request request later capacity, next.2⟩]) next.1 later ∧
      Sound past ⟨.request request later capacity, next.2⟩ := by
  have polled := tracked.poll passed
  rcases reference.handleRequest_cases app request later capacity with ⟨reply, none, same⟩ | ⟨outcome, handled, same⟩
  · have quiet : Quiet reply.effects := by
      rw [none]
      exact quiet_nil
    rw [same]
    exact ⟨polled.quiet quiet, sound_quiet quiet⟩
  · rw [same]
    exact polled.handled handled rfl rfl

end

def callOf {S : Type} (e : Event S TimedAction Reply) : Call := ⟨e.action, e.output⟩

theorem Tracked.run {past : List Call} {reference : Reference σ} {time : Nat} (app : Application σ)
    (actions : List TimedAction) (tracked : Tracked past reference time) (sound : AllEvents Sound past)
    (ordered : (time :: actions.filterMap TimedAction.time?).IsChain Near) :
    AllEvents Sound (past ++ (trace (Reference.step app) reference actions).map callOf) := by
  induction actions generalizing past reference time with
  | nil => simpa [trace] using sound
  | cons action rest ih =>
    rw [trace, List.map_cons, List.append_cons]
    cases action with
    | poll later =>
      obtain ⟨near, ordered⟩ := List.isChain_cons_cons.mp ordered
      refine ih ((tracked.poll near.1).quiet quiet_nil) ?_ ordered
      exact (allEvents_concat _ _ _).mpr ⟨sound, sound_quiet quiet_nil⟩
    | seedEntropy entropy =>
      refine ih (Tracked.quiet ⟨tracked.guarded, tracked.pending⟩ quiet_nil) ?_ ordered
      exact (allEvents_concat _ _ _).mpr ⟨sound, sound_quiet quiet_nil⟩
    | request bytes later capacity =>
      obtain ⟨near, ordered⟩ := List.isChain_cons_cons.mp ordered
      obtain ⟨next, current⟩ := tracked.handleRequest near.1 app bytes capacity
      exact ih next ((allEvents_concat _ _ _).mpr ⟨sound, current⟩) ordered

theorem tracked_init (user : σ) (time : Nat) : Tracked [] (Reference.init user) time where
  guarded := (Lockout.guarded_nil (by decide)).wait (Nat.zero_le time)
  pending := fun pending => by cases pending

theorem zipWith_outputs {S : Type} (step : S → TimedAction → S × Reply) (state : S) (actions : List TimedAction) :
    actions.zipWith Call.mk ((trace step state actions).map Event.output) = (trace step state actions).map callOf := by
  induction actions generalizing state with
  | nil => rfl
  | cons action rest ih =>
    simp only [trace, List.map_cons, List.zipWith_cons_cons, ih]
    rfl

/-- The code's server behaves as the reference server, whose calls are sound. -/
theorem calls_sound (app : Application σ) (user : σ) (actions : List TimedAction) (spaced : Spaced actions) :
    AllEvents Sound (calls app user actions) := by
  rw [calls, (synced_run app user actions spaced).1, zipWith_outputs]
  obtain ⟨time, spaced⟩ := spaced.starts
  exact (tracked_init user time).run app actions (allEvents_nil _) spaced

theorem not_comparesKey_of_quiet {call : Call} (quiet : Quiet call.reply.effects) : call.comparesKey = false := by
  refine List.any_eq_false.mpr fun effect member compared => ?_
  cases effect with
  | keyCompared received expected => exact (quiet _ member).2 received expected rfl
  | _ => simp [Effect.isWrongKey, Effect.isRightKey] at compared

theorem not_drawsSeed_of_quiet {call : Call} (quiet : Quiet call.reply.effects) : call.drawsSeed = false := by
  refine List.any_eq_false.mpr fun effect member drawn => ?_
  cases effect with
  | seedDrawn seed => exact (quiet _ member).1 seed rfl
  | _ => cases drawn

theorem Call.Issues.drawsSeed {seed : UInt32} {call : Call} (issues : call.Issues seed) : call.drawsSeed = true := by
  simp [Call.drawsSeed, issues.1, Effect.isDraw]

theorem exists_compared {call : Call} (compares : call.comparesKey = true) :
    ∃ received expected, .keyCompared received expected ∈ call.reply.effects := by
  obtain ⟨effect, member, compared⟩ := List.any_eq_true.mp compares
  cases effect with
  | keyCompared received expected => exact ⟨received, expected, member⟩
  | _ => simp [Effect.isWrongKey, Effect.isRightKey] at compared

theorem Call.Issues.not_comparesKey {seed : UInt32} {call : Call} (issues : call.Issues seed) :
    call.comparesKey = false := by
  simp [Call.comparesKey, issues.1, Effect.isWrongKey, Effect.isRightKey]

theorem Sound.fresh {past between : List Call} {first second : Call} (sound : Sound (past ++ first :: between) second)
    (compares : first.comparesKey = true) (again : second.comparesKey = true) :
    ∃ call ∈ between, call.drawsSeed = true := by
  obtain ⟨received, expected, compared⟩ := exists_compared again
  obtain ⟨seed, -, since⟩ := sound.answers received expected compared
  by_contra none
  -- Then nothing was issued from the first key on, which is not quiet.
  have unmarked : ∀ call ∈ first :: between, ∀ before : List Call, ¬ call.Issues seed := by
    intro call member before issues
    rcases List.mem_cons.mp member with rfl | later
    · rw [issues.not_comparesKey] at compares
      cases compares
    · exact none ⟨call, later, issues.drawsSeed⟩
  have quiet := since.hold_of_unmarked unmarked first List.mem_cons_self
  rw [not_comparesKey_of_quiet quiet] at compares
  cases compares

/-- Four wrong keys with no right one among them span the lockout, and from one
seed to the next at most one key is compared, with the key of that seed. -/
theorem brute_force_bounded (app : Application σ) (user : σ) (actions : List TimedAction) (spaced : Spaced actions) :
    (∀ before first between last after t u,
        calls app user actions = before ++ first :: between ++ last :: after →
        first.wrongKeyAt = some t → last.wrongKeyAt = some u →
        2 ≤ (between.filterMap Call.wrongKeyAt).length → (∀ call ∈ between, call.acceptsKey = false) →
        t + securityLockoutMs.toNat ≤ u) ∧
      (∀ before call after received expected, calls app user actions = before ++ call :: after →
        .keyCompared received expected ∈ call.reply.effects →
        ∃ seed past issue between, before = past ++ issue :: between ∧ issue.Issues seed ∧
          expected = demoKeyFromSeed seed ∧
          ∀ other ∈ between, other.comparesKey = false ∧ other.drawsSeed = false) ∧
      (∀ before issue after seed, calls app user actions = before ++ issue :: after → issue.Issues seed →
        ((after.takeWhile fun call => !call.drawsSeed).filter Call.comparesKey).length ≤ 1) := by
  have sound := calls_sound app user actions spaced
  refine ⟨?_, ?_, ?_⟩
  · intro before first between last after t u same earlier current many quiet
    have limited := (sound _ _ _ same).limited
    refine limited before first between t u rfl earlier current (fun call member => ?_) (Nat.add_le_add_right many 1)
    simp [quiet call member]
  · intro before call after received expected same compared
    obtain ⟨seed, key, past, issue, between, split, issues, quiet⟩ := (sound _ _ _ same).answers received expected compared
    refine ⟨seed, past, issue, between, split, issues, key, fun other member => ?_⟩
    exact ⟨not_comparesKey_of_quiet (quiet other member), not_drawsSeed_of_quiet (quiet other member)⟩
  · intro before issue after seed same issues
    have split := @List.takeWhile_append_dropWhile _ (fun call : Call => !call.drawsSeed) after
    have undrawn := List.all_eq_true.mp (@List.all_takeWhile _ (fun call : Call => !call.drawsSeed) after)
    generalize after.takeWhile (fun call => !call.drawsSeed) = between at split undrawn ⊢
    generalize after.dropWhile (fun call => !call.drawsSeed) = rest at split
    subst split
    match compared : between.filter Call.comparesKey with
    | [] | [_] => simp
    | first :: second :: _ =>
      -- Two keys in the window: a seed is drawn between them.
      obtain ⟨early, others, rfl, -, compares, remaining⟩ := List.filter_eq_cons_iff.mp compared
      obtain ⟨middle, late, rfl, -, again, -⟩ := List.filter_eq_cons_iff.mp remaining
      have whole : calls app user actions = (before ++ issue :: early ++ first :: middle) ++ second :: (late ++ rest) := by
        simp [same]
      obtain ⟨call, member, drawn⟩ := (sound _ _ _ whole).fresh compares again
      have none := undrawn call (by simp [member])
      simp [drawn] at none

def fourTries : List TimedAction :=
  [.request [0x10, 0x03] 0 8,
    .request [0x27, 0x01] 1 8, .request [0x27, 0x02, 0, 0, 0, 0] 2 8,
    .request [0x27, 0x01] 3 8, .request [0x27, 0x02, 0, 0, 0, 0] 4 8,
    .request [0x27, 0x01] 5 8, .request [0x27, 0x02, 0, 0, 0, 0] 6 8,
    .request [0x10, 0x03] 10006 8,
    .request [0x27, 0x01] 10007 8, .request [0x27, 0x02, 0, 0, 0, 0] 10008 8]

theorem brute_force_bounded_four :
    let tried := calls ⟨none, none, none, none⟩ () fourTries
    tried.filterMap Call.wrongKeyAt = [2, 4, 6, 10008] ∧ 2 + securityLockoutMs.toNat ≤ 10008 := by
  refine ⟨by decide +kernel, ?_⟩
  have bounded := (brute_force_bounded ⟨none, none, none, none⟩ () fourTries (by decide)).1
  generalize tried : calls ⟨none, none, none, none⟩ () fourTries = made at bounded
  refine bounded (made.take 2) ⟨.request [0x27, 0x02, 0, 0, 0, 0] 2 8, ⟨.ok, [0x7F, 0x27, 0x35], [.keyCompared 0 3769610675]⟩⟩
    ((made.drop 3).take 6)
    ⟨.request [0x27, 0x02, 0, 0, 0, 0] 10008 8, ⟨.ok, [0x7F, 0x27, 0x35], [.keyCompared 0 1872309015]⟩⟩ [] 2 10008
    ?_ rfl rfl ?_ ?_
  · rw [← tried]
    decide +kernel
  · rw [← tried]
    decide +kernel
  · rw [← tried]
    decide +kernel

end DiagnosticGateway.Uds
