import DiagnosticGateway.Uds.Clock

/-! Polls between the calls.

A poll only does what the next call would do first. So a context that has been
polled any number of times answers like one that has not, as long as the next
request comes less than half a period after the last one: the ECU polls on every
idle tick, the shadow of the gateway never does.
-/

set_option autoImplicit false

namespace DiagnosticGateway.Uds
open BigEndian Traces WrappingClock

variable {σ : Type}

def LockoutOver (ctx : Context) (nowMs : UInt32) : Prop :=
  ctx.lockedOut = true ∧ nowMs - ctx.lockoutUntilMs < 0x80000000

/-- A poll finds nothing to do. -/
structure Settled (ctx : Context) (nowMs : UInt32) : Prop where
  session : ¬ Expired ctx nowMs
  lockout : ¬ LockoutOver ctx nowMs

section
variable {ctx : Context} {nowMs laterMs : UInt32}

theorem pollLockout_over (ended : LockoutOver ctx nowMs) :
    pollLockout ctx nowMs = { ctx with lockedOut := false, failedAttempts := 0 } := if_pos ended

theorem pollLockout_pending (pending : ¬ LockoutOver ctx nowMs) : pollLockout ctx nowMs = ctx := if_neg pending

theorem Settled.poll (settled : Settled ctx nowMs) : Uds.poll ctx nowMs = ctx := by
  rw [poll_alive settled.session, pollLockout_pending settled.lockout]

theorem expired_pollLockout : Expired (pollLockout ctx nowMs) laterMs ↔ Expired ctx laterMs := by
  rw [Expired, pollLockout_session, pollLockout_lastActivityMs]
  rfl

theorem pollLockout_relock : pollLockout ctx.relock nowMs = (pollLockout ctx nowMs).relock := by
  by_cases ended : LockoutOver ctx nowMs
  · rw [pollLockout_over ended]
    exact @pollLockout_over ctx.relock nowMs ended
  · rw [pollLockout_pending ended]
    exact @pollLockout_pending ctx.relock nowMs ended

theorem not_expired_relock : ¬ Expired ctx.relock nowMs := fun expired => expired.1 rfl

theorem pollLockout_twice (going : LockoutOver ctx nowMs → LockoutOver ctx laterMs) :
    pollLockout (pollLockout ctx nowMs) laterMs = pollLockout ctx laterMs := by
  by_cases ended : LockoutOver ctx nowMs
  · rw [pollLockout_over ended, pollLockout_over (going ended)]
    refine pollLockout_pending ?_
    rintro ⟨locked, _⟩
    cases locked
  · rw [pollLockout_pending ended]

/-- A poll before another one changes nothing, where what is due stays due. -/
theorem poll_twice (session : Expired ctx nowMs → Expired ctx laterMs)
    (lockout : LockoutOver ctx nowMs → LockoutOver ctx laterMs) :
    poll (poll ctx nowMs) laterMs = poll ctx laterMs := by
  by_cases expired : Expired ctx nowMs
  · rw [poll_expired expired, poll_alive not_expired_relock, poll_expired (session expired), pollLockout_relock,
      pollLockout_twice lockout]
  · rw [poll_alive expired]
    by_cases later : Expired ctx laterMs
    · rw [poll_expired later, poll_expired (expired_pollLockout.mpr later), pollLockout_twice lockout]
    · rw [poll_alive later, poll_alive (mt expired_pollLockout.mp later), pollLockout_twice lockout]

theorem settled_poll : Settled (Uds.poll ctx nowMs) nowMs := by
  have lifted : ¬ LockoutOver (pollLockout ctx nowMs) nowMs := by
    by_cases ended : LockoutOver ctx nowMs
    · rw [pollLockout_over ended]
      rintro ⟨locked, _⟩
      cases locked
    · rwa [pollLockout_pending ended]
  by_cases expired : Expired ctx nowMs
  · rw [poll_expired expired]
    exact ⟨not_expired_relock, lifted⟩
  · rw [poll_alive expired]
    exact ⟨mt expired_pollLockout.mp expired, lifted⟩

theorem Handled.settled {app : Application σ} {user : σ} {request : Bytes} {capacity : Nat} {outcome : Outcome σ}
    (handled : Handled app ctx user request nowMs capacity outcome) (settled : Settled ctx nowMs) :
    Settled outcome.ctx nowMs := by
  have active (c : Context) (now : c.lastActivityMs = nowMs) (same : c.lockedOut = ctx.lockedOut)
      (until' : c.lockoutUntilMs = ctx.lockoutUntilMs) : Settled c nowMs := by
    refine ⟨not_expired_now now, fun ended => settled.lockout ?_⟩
    rwa [LockoutOver, same, until'] at ended
  cases handled with
  | empty | unknown | outsideSession | denied => exact settled
  | plain | toDefault | toExtended | resetFailed | reset | accessMalformed | accessDelayed | seedNoRoom | seedZero
  | seedIssued | keyUnexpected | keyWrong | keyAccepted => exact active _ rfl rfl rfl
  | keyExceeded =>
    -- The lockout begins now, and its end is ten seconds ahead.
    refine ⟨not_expired_now rfl, ?_⟩
    rintro ⟨_, ended⟩
    have distance : nowMs - (nowMs + securityLockoutMs) = 0 - securityLockoutMs := by grind
    replace ended : nowMs - (nowMs + securityLockoutMs) < 0x80000000 := ended
    rw [distance] at ended
    exact absurd ended (by decide)

theorem settled_request (app : Application σ) (user : σ) (request : Bytes) (capacity : Nat) :
    Settled (handleRequest app ctx user request nowMs capacity).ctx nowMs :=
  (handleRequest_handled app ctx user request nowMs capacity).settled settled_poll

end

section
variable {ctx : Context} {time earlier later : Nat}

theorem Settled.poll_twice (settled : Settled ctx (reading time)) (ordered : time ≤ earlier) (going : earlier ≤ later)
    (near : later - time < 2 ^ 31) :
    Uds.poll (Uds.poll ctx (reading earlier)) (reading later) = Uds.poll ctx (reading later) := by
  refine Uds.poll_twice ?_ ?_
  · rintro ⟨session, due⟩
    have young : reading time - ctx.lastActivityMs < s3ServerTimeoutMs :=
      UInt32.not_le.mp fun ended => settled.session ⟨session, ended⟩
    exact ⟨session, elapsed_stays (by decide) young ordered going near due⟩
  · rintro ⟨locked, due⟩
    exact ⟨locked, reached_stays (fun ended => settled.lockout ⟨locked, ended⟩) ordered going near due⟩

/-- Neither timer runs. -/
structure Dormant (ctx : Context) : Prop where
  session : ctx.session = .default
  lockout : ctx.lockedOut = false

theorem Dormant.settled (dormant : Dormant ctx) (nowMs : UInt32) : Settled ctx nowMs where
  session := fun expired => expired.1 dormant.session
  lockout := fun ended => Bool.noConfusion (dormant.lockout.symm.trans ended.1)

theorem Settled.seedEntropy {nowMs : UInt32} (settled : Settled ctx nowMs) (entropy : UInt32) :
    Settled (seedEntropy ctx entropy) nowMs := ⟨settled.session, settled.lockout⟩

theorem poll_seedEntropy (nowMs entropy : UInt32) :
    poll (seedEntropy ctx entropy) nowMs = seedEntropy (poll ctx nowMs) entropy := by
  have lockout : pollLockout (seedEntropy ctx entropy) nowMs = seedEntropy (pollLockout ctx nowMs) entropy := by
    by_cases ended : LockoutOver ctx nowMs
    · rw [pollLockout_over ended]
      exact @pollLockout_over (seedEntropy ctx entropy) nowMs ended
    · rw [pollLockout_pending ended]
      exact @pollLockout_pending (seedEntropy ctx entropy) nowMs ended
  by_cases expired : Expired ctx nowMs
  · have later : Expired (seedEntropy ctx entropy) nowMs := expired
    rw [poll_expired expired, poll_expired later, lockout]
    rfl
  · have later : ¬ Expired (seedEntropy ctx entropy) nowMs := expired
    rw [poll_alive expired, poll_alive later, lockout]

end

/-! ## Runs with and without polls -/

def TimedAction.isPoll : TimedAction → Bool
  | .poll _ => true
  | .seedEntropy _ | .request _ _ _ => false

def Action.isPoll : Action → Bool
  | .poll _ => true
  | .seedEntropy _ | .request _ _ _ => false

abbrev times (actions : List TimedAction) : List Nat := actions.filterMap TimedAction.time?

def Ordered (actions : List TimedAction) : Prop := (times actions).IsChain (· ≤ ·)

instance (actions : List TimedAction) : Decidable (Ordered actions) := inferInstanceAs (Decidable (List.IsChain _ _))

def withoutPolls (actions : List TimedAction) : List TimedAction := actions.filter fun action => !action.isPoll

def replies (steps : List (Event (Server σ) Action Reply)) : List Reply :=
  (steps.filter fun e => !e.action.isPoll).map Event.output

section
variable {app : Application σ} {server bare : Server σ} {time polled : Nat}

theorem handleRequest_congr {ctx other : Context} {nowMs : UInt32} (same : poll ctx nowMs = poll other nowMs) (user : σ)
    (request : Bytes) (capacity : Nat) :
    handleRequest app ctx user request nowMs capacity = handleRequest app other user request nowMs capacity := by
  unfold handleRequest
  rw [same]

theorem settled_run (app : Application σ) (actions : List TimedAction) (settled : Settled server.ctx (reading time)) :
    Settled (final (step app) server (actions.map TimedAction.action)).ctx (reading ((times actions).getLastD time)) := by
  induction actions generalizing server time with
  | nil => exact settled
  | cons action rest ih =>
    cases action with
    | poll later =>
      have last : (times (.poll later :: rest)).getLastD time = (times rest).getLastD later := List.getLastD_cons ..
      rw [last]
      exact @ih ⟨poll server.ctx (reading later), server.user⟩ later settled_poll
    | seedEntropy entropy => exact ih (settled.seedEntropy entropy)
    | request bytes later capacity =>
      have last : (times (.request bytes later capacity :: rest)).getLastD time = (times rest).getLastD later :=
        List.getLastD_cons ..
      rw [last]
      exact @ih (step app server (.request bytes (reading later) capacity)).1 later
        (settled_request app server.user bytes capacity)

/-- `server` is `bare`, polled once more. -/
structure Ahead (server bare : Server σ) (time polled : Nat) : Prop where
  settled : Settled bare.ctx (reading time)
  ordered : time ≤ polled
  ctx : server.ctx = poll bare.ctx (reading polled)
  user : server.user = bare.user

theorem ahead_settled (settled : Settled server.ctx (reading time)) : Ahead server server time time :=
  ⟨settled, Nat.le_refl _, settled.poll.symm, rfl⟩

theorem replies_quiet (app : Application σ) (server : Server σ) (actions : List TimedAction)
    (quiet : times (withoutPolls actions) = []) :
    replies (trace (step app) server (actions.map TimedAction.action)) = (withoutPolls actions).map fun _ => .none := by
  induction actions generalizing server with
  | nil => rfl
  | cons action rest ih =>
    cases action with
    | poll later => exact ih _ quiet
    | seedEntropy entropy => exact congrArg (List.cons Reply.none) (ih _ quiet)
    | request bytes later capacity => cases quiet

theorem withoutPolls_withoutPolls (actions : List TimedAction) :
    withoutPolls (withoutPolls actions) = withoutPolls actions := by
  rw [withoutPolls, withoutPolls, List.filter_filter]
  simp only [Bool.and_self]

theorem times_withoutPolls (actions : List TimedAction) : (times (withoutPolls actions)).Sublist (times actions) :=
  List.filter_sublist.filterMap _

theorem poll_before_request {actions : List TimedAction} {later next : Nat} {rest : List Nat}
    (ordered : (later :: times actions).IsChain (· ≤ ·)) (requests : times (withoutPolls actions) = next :: rest) :
    later ≤ next := by
  have before := (List.pairwise_cons.mp (List.isChain_iff_pairwise.mp ordered)).1
  exact before next ((times_withoutPolls actions).subset (by rw [requests]; exact List.mem_cons_self))

theorem Ahead.replies (ahead : Ahead server bare time polled) (actions : List TimedAction)
    (ordered : (polled :: times actions).IsChain (· ≤ ·))
    (spaced : (time :: times (withoutPolls actions)).IsChain Near) :
    Uds.replies (trace (step app) server (actions.map TimedAction.action)) =
      Uds.replies (trace (step app) bare ((withoutPolls actions).map TimedAction.action)) := by
  induction actions generalizing server bare time polled with
  | nil => rfl
  | cons action rest ih =>
    cases action with
    | poll later =>
      obtain ⟨after, ordered⟩ := List.isChain_cons_cons.mp ordered
      cases requests : times (withoutPolls rest) with
      | nil =>
        have quiet : times (withoutPolls (.poll later :: rest)) = [] := requests
        have again : times (withoutPolls (withoutPolls (.poll later :: rest))) = [] := by
          rw [withoutPolls_withoutPolls]
          exact quiet
        rw [replies_quiet app server _ quiet, replies_quiet app bare _ again, withoutPolls_withoutPolls]
      | cons next others =>
        have due := poll_before_request ordered requests
        have near : Near time next := by
          have chain : (time :: times (withoutPolls rest)).IsChain Near := spaced
          rw [requests] at chain
          exact (List.isChain_cons_cons.mp chain).1
        have polls : poll (poll bare.ctx (reading polled)) (reading later) = poll bare.ctx (reading later) :=
          ahead.settled.poll_twice ahead.ordered after (Nat.lt_of_le_of_lt (Nat.sub_le_sub_right due time) near.2)
        have step : Ahead ⟨poll server.ctx (reading later), server.user⟩ bare time later :=
          ⟨ahead.settled, Nat.le_trans ahead.ordered after, by rw [ahead.ctx]; exact polls, ahead.user⟩
        exact ih step ordered spaced
    | seedEntropy entropy =>
      have step : Ahead ⟨seedEntropy server.ctx entropy, server.user⟩ ⟨seedEntropy bare.ctx entropy, bare.user⟩ time polled :=
        ⟨ahead.settled.seedEntropy entropy, ahead.ordered, by rw [ahead.ctx]; exact (poll_seedEntropy ..).symm, ahead.user⟩
      exact congrArg (List.cons Reply.none) (ih step ordered spaced)
    | request bytes later capacity =>
      obtain ⟨after, ordered⟩ := List.isChain_cons_cons.mp ordered
      obtain ⟨near, spaced⟩ := List.isChain_cons_cons.mp spaced
      have polls : poll server.ctx (reading later) = poll bare.ctx (reading later) := by
        rw [ahead.ctx]
        exact ahead.settled.poll_twice ahead.ordered after near.2
      -- From here on the two are the same server.
      have same : Uds.step app server (.request bytes (reading later) capacity) =
          Uds.step app bare (.request bytes (reading later) capacity) := by
        simp only [Uds.step, handleRequest_congr polls, ahead.user]
      have settled : Settled (Uds.step app bare (.request bytes (reading later) capacity)).1.ctx (reading later) :=
        settled_request app bare.user bytes capacity
      have rests := ih (ahead_settled settled) ordered spaced
      have reply : (Uds.step app server (.request bytes (reading later) capacity)).2 =
          (Uds.step app bare (.request bytes (reading later) capacity)).2 := congrArg Prod.snd same
      refine congrArg₂ List.cons reply ?_
      change Uds.replies (trace (Uds.step app) (Uds.step app server (.request bytes (reading later) capacity)).1 _) = _
      rw [same]
      exact rests

theorem Dormant.replies (dormant : Dormant server.ctx) (app : Application σ) (actions : List TimedAction)
    (ordered : Ordered actions) (spaced : Spaced (withoutPolls actions)) :
    Uds.replies (trace (step app) server (actions.map TimedAction.action)) =
      Uds.replies (trace (step app) server ((withoutPolls actions).map TimedAction.action)) := by
  induction actions generalizing server with
  | nil => rfl
  | cons action rest ih =>
    cases action with
    | poll later =>
      have idle : (step app server (.poll (reading later))).1 = server := by
        rw [Uds.step, (dormant.settled _).poll]
      change Uds.replies (trace (step app) (step app server (.poll (reading later))).1 _) = _
      rw [idle]
      exact ih dormant (List.IsChain.of_cons ordered) spaced
    | seedEntropy entropy =>
      have still : Dormant (seedEntropy server.ctx entropy) := ⟨dormant.session, dormant.lockout⟩
      exact congrArg (List.cons Reply.none) (@ih ⟨seedEntropy server.ctx entropy, server.user⟩ still ordered spaced)
    | request bytes later capacity =>
      have settled : Settled (step app server (.request bytes (reading later) capacity)).1.ctx (reading later) :=
        settled_request app server.user bytes capacity
      exact congrArg (List.cons _) ((ahead_settled settled).replies rest ordered spaced)

end

theorem dormant_run (app : Application σ) {server : Server σ} (dormant : Dormant server.ctx) (actions : List TimedAction)
    (untimed : times actions = []) : Dormant (final (step app) server (actions.map TimedAction.action)).ctx := by
  induction actions generalizing server with
  | nil => exact dormant
  | cons action rest ih =>
    cases action with
    | poll later => cases untimed
    | seedEntropy entropy => exact @ih ⟨seedEntropy server.ctx entropy, server.user⟩ ⟨dormant.1, dormant.2⟩ untimed
    | request bytes later capacity => cases untimed

/-- A poll less than half a period after the last call makes a poll before it
invisible, and runs of the same requests and entropy that differ in their polls
give the same replies. -/
theorem extra_polls_invisible (app : Application σ) (user : σ) :
    (∀ (actions : List TimedAction) (earlier later : Nat), earlier ≤ later →
      (∀ last ∈ (times actions).getLast?, last ≤ earlier ∧ later - last < 2 ^ 31) →
        let ctx := (final (step app) (.init user) (actions.map TimedAction.action)).ctx
        poll (poll ctx (reading earlier)) (reading later) = poll ctx (reading later)) ∧
    ∀ first second : List TimedAction, withoutPolls first = withoutPolls second → Ordered first → Ordered second →
      Spaced (withoutPolls first) →
        replies (trace (step app) (.init user) (first.map TimedAction.action)) =
          replies (trace (step app) (.init user) (second.map TimedAction.action)) := by
  have dormant : Dormant (Server.init user).ctx := ⟨rfl, rfl⟩
  constructor
  · intro actions earlier later going last
    dsimp only
    cases found : (times actions).getLast? with
    | none =>
      have still := dormant_run app dormant actions (List.getLast?_eq_none_iff.mp found)
      rw [(still.settled _).poll]
    | some time =>
      obtain ⟨ordered, near⟩ := last time (by rw [found]; rfl)
      have settled := @settled_run _ (Server.init user) 0 app actions (dormant.settled _)
      rw [List.getLastD_eq_getLast?, found, Option.getD_some] at settled
      exact settled.poll_twice ordered going near
  · intro first second same ordered ordered' spaced
    rw [dormant.replies app first ordered spaced, dormant.replies app second ordered' (same ▸ spaced), same]

/-- The ECU polls between two requests, the shadow does not. -/
theorem extra_polls_invisible_tick :
    let bare : Application Unit := ⟨none, none, none, none⟩
    let ecu : List TimedAction := [.request [0x10, 0x03] 0 8, .poll 4000, .poll 6000, .request [0x27, 0x01] 9000 8]
    let shadow : List TimedAction := [.request [0x10, 0x03] 0 8, .request [0x27, 0x01] 9000 8]
    replies (trace (step bare) (.init ()) (ecu.map TimedAction.action)) =
      replies (trace (step bare) (.init ()) (shadow.map TimedAction.action)) :=
  (extra_polls_invisible ⟨none, none, none, none⟩ ()).2 _ _ rfl (by decide) (by decide) (by decide)

end DiagnosticGateway.Uds
