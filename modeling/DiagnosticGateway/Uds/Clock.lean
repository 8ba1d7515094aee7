import DiagnosticGateway.Library.WrappingClock
import DiagnosticGateway.Uds.Invariant

/-! The server's wrapping timers refine a server that keeps true times.

The reference server remembers when the last request passed access control and
when the lockout began, as natural numbers. The two agree on every run whose
calls are less than half a period apart: each call polls first, so a deadline is
never left behind by more than that.
-/

set_option autoImplicit false

namespace DiagnosticGateway.Uds
open BigEndian Traces WrappingClock

variable {σ : Type}

inductive TimedAction where
  | poll (time : Nat)
  | seedEntropy (entropy : UInt32)
  | request (bytes : Bytes) (time : Nat) (capacity : Nat)
  deriving DecidableEq, Repr

def TimedAction.action : TimedAction → Action
  | .poll time => .poll (reading time)
  | .seedEntropy entropy => .seedEntropy entropy
  | .request bytes time capacity => .request bytes (reading time) capacity

def TimedAction.time? : TimedAction → Option Nat
  | .poll time | .request _ time _ => some time
  | .seedEntropy _ => none

/-- True time does not go back, and less than half a period lies between two
calls that read the clock. -/
def Near (earlier later : Nat) : Prop := earlier ≤ later ∧ later - earlier < 2 ^ 31

instance (earlier later : Nat) : Decidable (Near earlier later) := inferInstanceAs (Decidable (_ ∧ _))

def Spaced (actions : List TimedAction) : Prop := (actions.filterMap TimedAction.time?).IsChain Near

instance (actions : List TimedAction) : Decidable (Spaced actions) :=
  inferInstanceAs (Decidable (List.IsChain Near _))

/-! ## The reference server -/

/-- Its two deadlines are `lastRequest + 5000` and `lockedSince + 10000`. The clock
fields of `ctx` are not used, and a handler is told that it is 0. -/
structure Reference (σ : Type) where
  ctx : Context
  user : σ
  lastRequest : Nat
  lockedSince : Nat

namespace Reference

def init (user : σ) : Reference σ := ⟨Uds.init, user, 0, 0⟩

def pollLockout (server : Reference σ) (time : Nat) : Reference σ :=
  if server.ctx.lockedOut = true ∧ time ≥ server.lockedSince + securityLockoutMs.toNat then
    { server with ctx := { server.ctx with lockedOut := false, failedAttempts := 0 } }
  else server

def pollSession (server : Reference σ) (time : Nat) : Reference σ :=
  if server.ctx.session ≠ .default ∧ time - server.lastRequest ≥ s3ServerTimeoutMs.toNat then
    { server with ctx := server.ctx.relock }
  else server

def poll (server : Reference σ) (time : Nat) : Reference σ := (server.pollLockout time).pollSession time

def begins (before after : Context) : Prop := before.lockedOut = false ∧ after.lockedOut = true

instance (before after : Context) : Decidable (begins before after) :=
  inferInstanceAs (Decidable (before.lockedOut = false ∧ after.lockedOut = true))

def handleRequest (app : Application σ) (server : Reference σ) (request : Bytes) (time : Nat) (capacity : Nat) :
    Reference σ × Reply :=
  let server := server.poll time
  match request with
  | [] => (server, ⟨.noResponse, [], []⟩)
  | sid :: _ =>
    let negative := fun nrc => makeNegativeResponse sid nrc capacity
    match findRule sid with
    | none => (server, ⟨(negative nrcServiceNotSupported).1, (negative nrcServiceNotSupported).2, []⟩)
    | some rule =>
      if rule.requiresExtendedSession ∧ server.ctx.session = .default then
        (server, ⟨(negative nrcServiceNotSupportedInSession).1, (negative nrcServiceNotSupportedInSession).2, []⟩)
      else if rule.requiresSecurityUnlock ∧ server.ctx.securityLevel = .locked then
        (server, ⟨(negative nrcSecurityAccessDenied).1, (negative nrcSecurityAccessDenied).2, []⟩)
      else
        let outcome := dispatch app (server.ctx.touch 0) server.user sid request 0 capacity
        ({ ctx := outcome.ctx
           user := outcome.user
           lastRequest := time
           lockedSince := if begins server.ctx outcome.ctx then time else server.lockedSince },
          ⟨outcome.result, outcome.response, outcome.effects⟩)

def step (app : Application σ) (server : Reference σ) : TimedAction → Reference σ × Reply
  | .poll time => (server.poll time, .none)
  | .seedEntropy entropy => ({ server with ctx := seedEntropy server.ctx entropy }, .none)
  | .request bytes time capacity => server.handleRequest app bytes time capacity

end Reference

@[simps] def Context.retime (ctx : Context) (lastActivityMs lockoutUntilMs : UInt32) : Context :=
  { ctx with lastActivityMs := lastActivityMs, lockoutUntilMs := lockoutUntilMs }

def Outcome.retime (outcome : Outcome σ) (lastActivityMs lockoutUntilMs : UInt32) : Outcome σ :=
  { outcome with ctx := outcome.ctx.retime lastActivityMs lockoutUntilMs }

/-- A handler that does not look at the clock fields and begins no lockout. -/
structure Timeless (handler : Context → Outcome σ) : Prop where
  retime : ∀ ctx activity lockout, handler (ctx.retime activity lockout) = (handler ctx).retime activity lockout
  lockedOut : ∀ ctx, (handler ctx).ctx.lockedOut = ctx.lockedOut

theorem Timeless.reply {update : Context → Context} {next : σ} {answer : Result × Bytes} {effects : List Effect}
    (retimed : ∀ ctx activity lockout, update (ctx.retime activity lockout) = (update ctx).retime activity lockout)
    (quiet : ∀ ctx, (update ctx).lockedOut = ctx.lockedOut) :
    Timeless fun ctx => .reply (update ctx) next answer effects where
  retime := by
    intro ctx activity lockout
    rw [retimed]
    rfl
  lockedOut := quiet

theorem Timeless.still {next : σ} {answer : Result × Bytes} {effects : List Effect} :
    Timeless fun ctx => .reply ctx next answer effects :=
  .reply (fun _ _ _ => rfl) (fun _ => rfl)

theorem Timeless.ite {c : Prop} [Decidable c] {yes no : Context → Outcome σ} (first : Timeless yes)
    (second : Timeless no) : Timeless fun ctx => if c then yes ctx else no ctx := by
  by_cases holds : c
  · simpa only [if_pos holds] using first
  · simpa only [if_neg holds] using second

section
variable (app : Application σ) (user : σ) (request : Bytes) (capacity : Nat)

theorem handleDiagnosticSessionControl_timeless : Timeless fun ctx => handleDiagnosticSessionControl ctx user request capacity := by
  unfold handleDiagnosticSessionControl
  refine .ite .still (.ite ?_ (.ite ?_ .still))
  · exact .reply (fun _ _ _ => rfl) (fun _ => rfl)
  · exact .reply (fun _ _ _ => rfl) (fun _ => rfl)

theorem handleTesterPresent_timeless : Timeless fun ctx => handleTesterPresent ctx user request capacity := by
  unfold handleTesterPresent
  exact .ite .still (.ite .still (.ite .still (.ite .still .still)))

theorem handleReadDataByIdentifier_timeless : Timeless fun ctx => handleReadDataByIdentifier app ctx user request capacity := by
  unfold handleReadDataByIdentifier
  refine .ite .still (.ite .still ?_)
  cases app.didRead with
  | none => exact .still
  | some didRead =>
    dsimp only
    refine .ite .still ?_
    generalize didRead _ (capacity - rdbiHeaderLen) user = answer
    obtain ⟨providerRes, data, next⟩ := answer
    cases providerRes with
    | _ => exact .still

theorem handleReadDtcInformation_timeless : Timeless fun ctx => handleReadDtcInformation app ctx user request capacity := by
  unfold handleReadDtcInformation
  refine .ite .still (.ite .still (.ite .still ?_))
  cases app.dtcRead with
  | none => exact .still
  | some dtcRead => exact .ite .still (.ite .still (.ite .still .still))

theorem handleClearDiagnosticInformation_timeless : Timeless fun ctx => handleClearDiagnosticInformation app ctx user request capacity := by
  unfold handleClearDiagnosticInformation
  refine .ite .still ?_
  cases app.dtcClear with
  | none => exact .still
  | some dtcClear => exact .ite .still .still

theorem handleEcuReset_timeless : Timeless fun ctx => handleEcuReset app ctx user request capacity := by
  unfold handleEcuReset
  refine .ite .still (.ite .still ?_)
  cases app.ecuReset with
  | none => exact .still
  | some ecuReset => exact .ite .still (.reply (fun _ _ _ => rfl) (fun _ => rfl))

variable {app user request capacity} {ctx : Context} {activity lockout nowMs : UInt32}

def deadlineAfter (before after : Context) (nowMs lockout : UInt32) : UInt32 :=
  if Reference.begins before after then nowMs + securityLockoutMs else lockout

/-- The same outcome, had the context carried other clock fields. -/
def Outcome.carry (outcome : Outcome σ) (before : Context) (nowMs activity lockout : UInt32) : Outcome σ :=
  outcome.retime activity (deadlineAfter before outcome.ctx nowMs lockout)

theorem carry_quiet {timed outcome : Outcome σ} (same : outcome.ctx.lockedOut = ctx.lockedOut)
    (retimed : timed = outcome.retime activity lockout) : timed = outcome.carry ctx nowMs activity lockout := by
  have quiet : ¬ Reference.begins ctx outcome.ctx := by
    rintro ⟨free, locked⟩
    rw [same, free] at locked
    cases locked
  rw [Outcome.carry, deadlineAfter, if_neg quiet, retimed]

theorem carry_ite {c : Prop} [Decidable c] {timed timed' outcome outcome' : Outcome σ}
    (yes : c → timed = outcome.carry ctx nowMs activity lockout)
    (no : ¬ c → timed' = outcome'.carry ctx nowMs activity lockout) :
    (if c then timed else timed') = (if c then outcome else outcome').carry ctx nowMs activity lockout := by
  by_cases holds : c
  · rw [if_pos holds, if_pos holds, yes holds]
  · rw [if_neg holds, if_neg holds, no holds]

theorem Timeless.carry {handler : Context → Outcome σ} (timeless : Timeless handler) :
    handler (ctx.retime activity lockout) = (handler ctx).carry ctx nowMs activity lockout :=
  carry_quiet (timeless.lockedOut ctx) (timeless.retime ctx activity lockout)

theorem seedIssued_carry (seedState seed : UInt32) (answer : Result × Bytes) (effects : List Effect) :
    Outcome.reply { ctx.retime activity lockout with seedState := seedState, currentSeed := seed, seedPending := true } user
        answer effects =
      (Outcome.reply { ctx with seedState := seedState, currentSeed := seed, seedPending := true } user answer effects).carry
        ctx nowMs activity lockout :=
  carry_quiet rfl rfl

theorem handleSecurityAccess_carry :
    handleSecurityAccess (ctx.retime activity lockout) user request nowMs capacity =
      (handleSecurityAccess ctx user request 0 capacity).carry ctx nowMs activity lockout := by
  unfold handleSecurityAccess
  dsimp only
  refine carry_ite (fun _ => carry_quiet rfl rfl) fun _ => ?_
  refine carry_ite (fun _ => carry_quiet rfl rfl) fun free => ?_
  refine carry_ite (fun _ => ?_) fun _ => ?_
  · refine carry_ite (fun _ => carry_quiet rfl rfl) fun _ => ?_
    refine carry_ite (fun _ => carry_quiet rfl rfl) fun _ => ?_
    exact carry_ite (fun _ => carry_quiet rfl rfl) fun _ => seedIssued_carry _ _ _ _
  · refine carry_ite (fun _ => ?_) fun _ => carry_quiet rfl rfl
    refine carry_ite (fun _ => carry_quiet rfl rfl) fun _ => ?_
    refine carry_ite (fun _ => carry_quiet rfl rfl) fun _ => ?_
    refine carry_ite (fun _ => ?_) fun _ => carry_quiet rfl rfl
    refine carry_ite (fun _ => ?_) fun _ => carry_quiet rfl rfl
    -- The server was free, and the lockout begins.
    have begins : ∀ after : Context, after.lockedOut = true → Reference.begins ctx after :=
      fun after locked => ⟨by simpa using free, locked⟩
    rw [Outcome.carry, deadlineAfter, if_pos (begins _ rfl)]
    rfl

theorem dispatch_carry (app : Application σ) (sid : UInt8) :
    dispatch app (ctx.retime activity lockout) user sid request nowMs capacity =
      (dispatch app ctx user sid request 0 capacity).carry ctx nowMs activity lockout := by
  unfold dispatch
  refine carry_ite (fun _ => (handleDiagnosticSessionControl_timeless user request capacity).carry) fun _ => ?_
  refine carry_ite (fun _ => (handleEcuReset_timeless app user request capacity).carry) fun _ => ?_
  refine carry_ite (fun _ => (handleClearDiagnosticInformation_timeless app user request capacity).carry) fun _ => ?_
  refine carry_ite (fun _ => (handleReadDtcInformation_timeless app user request capacity).carry) fun _ => ?_
  refine carry_ite (fun _ => (handleReadDataByIdentifier_timeless app user request capacity).carry) fun _ => ?_
  refine carry_ite (fun _ => handleSecurityAccess_carry) fun _ => ?_
  refine carry_ite (fun _ => (handleTesterPresent_timeless user request capacity).carry) fun _ => ?_
  exact carry_quiet rfl rfl

end

/-- The two agree on all but the clock fields, and a running deadline of the
wrapping server is the reading of the true one, which is still ahead. -/
structure Synced (server : Server σ) (reference : Reference σ) (time : Nat) : Prop where
  ctx : server.ctx = reference.ctx.retime server.ctx.lastActivityMs server.ctx.lockoutUntilMs
  user : server.user = reference.user
  activity : reference.ctx.session ≠ .default → server.ctx.lastActivityMs = reading reference.lastRequest ∧
    reference.lastRequest ≤ time ∧ time - reference.lastRequest < s3ServerTimeoutMs.toNat
  lockout : reference.ctx.lockedOut = true →
    server.ctx.lockoutUntilMs = reading (reference.lockedSince + securityLockoutMs.toNat) ∧
      reference.lockedSince ≤ time ∧ time < reference.lockedSince + securityLockoutMs.toNat

section
variable {server : Server σ} {reference : Reference σ} {time later : Nat}

theorem Synced.session_due (synced : Synced server reference time) (near : Near time later) :
    (server.ctx.session ≠ .default ∧ reading later - server.ctx.lastActivityMs ≥ s3ServerTimeoutMs) ↔
      reference.ctx.session ≠ .default ∧ later - reference.lastRequest ≥ s3ServerTimeoutMs.toNat := by
  have same : server.ctx.session = reference.ctx.session := by
    rw [synced.ctx]
    rfl
  rw [same]
  refine and_congr_right fun privileged => ?_
  obtain ⟨last, before, recent⟩ := synced.activity privileged
  obtain ⟨ordered, gap⟩ := near
  have timeout : s3ServerTimeoutMs.toNat = 5000 := rfl
  rw [last]
  exact elapsed_iff (by omega) (by omega) s3ServerTimeoutMs

theorem Synced.lockout_due (synced : Synced server reference time) (near : Near time later) :
    (server.ctx.lockedOut = true ∧ reading later - server.ctx.lockoutUntilMs < 0x80000000) ↔
      reference.ctx.lockedOut = true ∧ later ≥ reference.lockedSince + securityLockoutMs.toNat := by
  have same : server.ctx.lockedOut = reference.ctx.lockedOut := by
    rw [synced.ctx]
    rfl
  rw [same]
  refine and_congr_right fun locked => ?_
  obtain ⟨deadline, before, ahead⟩ := synced.lockout locked
  obtain ⟨ordered, gap⟩ := near
  have delay : securityLockoutMs.toNat = 10000 := rfl
  rw [deadline]
  exact reached_iff (by omega) (by omega)

theorem Synced.pollLockout (synced : Synced server reference time) (near : Near time later) :
    Uds.pollLockout server.ctx (reading later) =
        (reference.pollLockout later).ctx.retime server.ctx.lastActivityMs server.ctx.lockoutUntilMs ∧
      ((reference.pollLockout later).ctx.lockedOut = true →
        reference.ctx.lockedOut = true ∧ later < reference.lockedSince + securityLockoutMs.toNat) := by
  have due := synced.lockout_due near
  have same := synced.ctx
  rw [Uds.pollLockout, Reference.pollLockout]
  by_cases ended : reference.ctx.lockedOut = true ∧ later ≥ reference.lockedSince + securityLockoutMs.toNat
  · rw [if_pos (due.mpr ended), if_pos ended]
    obtain ⟨ctx, user⟩ := server
    dsimp only at same ⊢
    refine ⟨?_, fun locked => by cases locked⟩
    conv_lhs => rw [same]
    rfl
  · rw [if_neg (mt due.mp ended), if_neg ended]
    exact ⟨same, fun locked => ⟨locked, Nat.not_le.mp fun reached => ended ⟨locked, reached⟩⟩⟩

theorem Synced.pollSession (synced : Synced server reference time) (near : Near time later) {ctx : Context}
    {polled : Reference σ} (same : ctx = polled.ctx.retime server.ctx.lastActivityMs server.ctx.lockoutUntilMs)
    (session : polled.ctx.session = reference.ctx.session) (last : polled.lastRequest = reference.lastRequest) :
    Uds.pollSession ctx (reading later) =
        (polled.pollSession later).ctx.retime server.ctx.lastActivityMs server.ctx.lockoutUntilMs ∧
      ((polled.pollSession later).ctx.session ≠ .default →
        reference.ctx.session ≠ .default ∧ later - reference.lastRequest < s3ServerTimeoutMs.toNat) := by
  have due := synced.session_due near
  have sameSession : server.ctx.session = ctx.session := by
    rw [same, Context.retime_session, session, synced.ctx]
    rfl
  have sameActivity : server.ctx.lastActivityMs = ctx.lastActivityMs := by
    rw [same]
    rfl
  rw [sameSession, sameActivity, ← session, ← last] at due
  rw [Uds.pollSession, Reference.pollSession, ← session, ← last]
  by_cases ended : polled.ctx.session ≠ .default ∧ later - polled.lastRequest ≥ s3ServerTimeoutMs.toNat
  · rw [if_pos (due.mpr ended), if_pos ended]
    refine ⟨?_, fun privileged => absurd rfl privileged⟩
    rw [same]
    rfl
  · rw [if_neg (mt due.mp ended), if_neg ended]
    exact ⟨same, fun privileged => ⟨privileged, Nat.not_le.mp fun expired => ended ⟨privileged, expired⟩⟩⟩

theorem Reference.pollLockout_frame :
    (reference.pollLockout later).ctx.session = reference.ctx.session ∧
      (reference.pollLockout later).lastRequest = reference.lastRequest ∧
      (reference.pollLockout later).lockedSince = reference.lockedSince ∧
      (reference.pollLockout later).user = reference.user := by
  rw [Reference.pollLockout]
  split
  · exact ⟨rfl, rfl, rfl, rfl⟩
  · exact ⟨rfl, rfl, rfl, rfl⟩

theorem Reference.pollSession_frame :
    (reference.pollSession later).ctx.lockedOut = reference.ctx.lockedOut ∧
      (reference.pollSession later).lastRequest = reference.lastRequest ∧
      (reference.pollSession later).lockedSince = reference.lockedSince ∧
      (reference.pollSession later).user = reference.user := by
  rw [Reference.pollSession]
  split
  · exact ⟨rfl, rfl, rfl, rfl⟩
  · exact ⟨rfl, rfl, rfl, rfl⟩

theorem Synced.poll (synced : Synced server reference time) (near : Near time later) :
    Synced ⟨Uds.poll server.ctx (reading later), server.user⟩ (reference.poll later) later := by
  obtain ⟨unlocked, locked⟩ := synced.pollLockout near
  obtain ⟨session, last, since, user⟩ := @Reference.pollLockout_frame _ reference later
  obtain ⟨polled, alive⟩ := synced.pollSession near unlocked session last
  obtain ⟨lockedOut, last', since', user'⟩ := @Reference.pollSession_frame _ (reference.pollLockout later) later
  have whole : Uds.poll server.ctx (reading later) =
      (reference.poll later).ctx.retime server.ctx.lastActivityMs server.ctx.lockoutUntilMs := polled
  constructor
  · dsimp only
    rw [whole]
    rfl
  · exact synced.user.trans (user'.trans user).symm
  · intro privileged
    obtain ⟨before, recent⟩ := alive privileged
    obtain ⟨reads, earlier, -⟩ := synced.activity before
    have kept : (reference.poll later).lastRequest = reference.lastRequest := last'.trans last
    rw [kept, whole]
    exact ⟨reads, Nat.le_trans earlier near.1, recent⟩
  · intro out
    have out' : (reference.pollLockout later).ctx.lockedOut = true := lockedOut ▸ out
    obtain ⟨before, ahead⟩ := locked out'
    obtain ⟨reads, earlier, -⟩ := synced.lockout before
    have kept : (reference.poll later).lockedSince = reference.lockedSince := since'.trans since
    rw [kept, whole]
    exact ⟨reads, Nat.le_trans earlier near.1, ahead⟩

theorem Synced.dispatch (synced : Synced server reference time) (app : Application σ) (sid : UInt8) (request : Bytes)
    (capacity : Nat) :
    let outcome := Uds.dispatch app (server.ctx.touch (reading time)) server.user sid request (reading time) capacity
    let answer := Uds.dispatch app (reference.ctx.touch 0) reference.user sid request 0 capacity
    outcome.result = answer.result ∧ outcome.response = answer.response ∧ outcome.effects = answer.effects ∧
      Synced ⟨outcome.ctx, outcome.user⟩
        ⟨answer.ctx, answer.user, time, if Reference.begins reference.ctx answer.ctx then time else reference.lockedSince⟩
        time := by
  have touched : server.ctx.touch (reading time) =
      (reference.ctx.touch 0).retime (reading time) server.ctx.lockoutUntilMs := by
    conv_lhs => rw [synced.ctx]
    rfl
  dsimp only
  rw [touched, synced.user, dispatch_carry]
  refine ⟨rfl, rfl, rfl, rfl, rfl, ?_, ?_⟩
  · intro _
    refine ⟨rfl, Nat.le_refl _, ?_⟩
    rw [Nat.sub_self]
    decide
  · intro locked
    dsimp only [Outcome.carry, Outcome.retime, Context.retime, deadlineAfter] at locked ⊢
    by_cases begins : Reference.begins reference.ctx
        (Uds.dispatch app (reference.ctx.touch 0) reference.user sid request 0 capacity).ctx
    · have begins' : Reference.begins (reference.ctx.touch 0) _ := begins
      rw [if_pos begins, if_pos begins']
      exact ⟨reading_add time securityLockoutMs, Nat.le_refl _, Nat.lt_add_of_pos_right (by decide)⟩
    · have begins' : ¬ Reference.begins (reference.ctx.touch 0) _ := begins
      rw [if_neg begins, if_neg begins']
      refine synced.lockout ?_
      by_contra free
      exact begins ⟨by simpa using free, locked⟩

theorem Synced.request (synced : Synced server reference time) (near : Near time later) (app : Application σ)
    (bytes : Bytes) (capacity : Nat) :
    (step app server (.request bytes (reading later) capacity)).2 =
        (reference.handleRequest app bytes later capacity).2 ∧
      Synced (step app server (.request bytes (reading later) capacity)).1
        (reference.handleRequest app bytes later capacity).1 later := by
  have polled := synced.poll near
  simp only [step, Uds.handleRequest, Reference.handleRequest]
  generalize Uds.poll server.ctx (reading later) = ctx at polled
  generalize reference.poll later = reference at polled
  have session : ctx.session = reference.ctx.session := by
    rw [show ctx = _ from polled.ctx]
    rfl
  have level : ctx.securityLevel = reference.ctx.securityLevel := by
    rw [show ctx = _ from polled.ctx]
    rfl
  cases bytes with
  | nil => exact ⟨rfl, polled⟩
  | cons sid rest =>
    dsimp only
    cases findRule sid with
    | none => exact ⟨rfl, polled⟩
    | some rule =>
      dsimp only
      rw [← session, ← level]
      split
      · exact ⟨rfl, polled⟩
      · split
        · exact ⟨rfl, polled⟩
        · obtain ⟨result, response, effects, synced⟩ := polled.dispatch app sid (sid :: rest) capacity
          rw [← result, ← response, ← effects]
          exact ⟨rfl, synced⟩

theorem Synced.entropy (synced : Synced server reference time) (app : Application σ) (entropy : UInt32) :
    Synced (step app server (.seedEntropy entropy)).1
      { reference with ctx := seedEntropy reference.ctx entropy } time where
  ctx := by
    have same := synced.ctx
    simp only [step, seedEntropy]
    conv_lhs => rw [same]
    rfl
  user := synced.user
  activity := synced.activity
  lockout := synced.lockout

end

theorem Spaced.starts {actions : List TimedAction} (spaced : Spaced actions) :
    ∃ time, (time :: actions.filterMap TimedAction.time?).IsChain Near := by
  rw [Spaced] at spaced
  generalize actions.filterMap TimedAction.time? = times at spaced
  cases times with
  | nil => exact ⟨0, .singleton 0⟩
  | cons first rest => exact ⟨first, List.isChain_cons_cons.mpr ⟨⟨Nat.le_refl _, by simp⟩, spaced⟩⟩

theorem Synced.run {server : Server σ} {reference : Reference σ} {time : Nat} (app : Application σ)
    (actions : List TimedAction) (synced : Synced server reference time)
    (spaced : (time :: actions.filterMap TimedAction.time?).IsChain Near) :
    (trace (step app) server (actions.map TimedAction.action)).map Event.output =
        (trace (Reference.step app) reference actions).map Event.output ∧
      ∃ last, Synced (final (step app) server (actions.map TimedAction.action))
        (final (Reference.step app) reference actions) last := by
  induction actions generalizing server reference time with
  | nil => exact ⟨rfl, time, synced⟩
  | cons action rest ih =>
    cases action with
    | poll later =>
      obtain ⟨near, spaced⟩ := List.isChain_cons_cons.mp spaced
      obtain ⟨outputs, last⟩ := ih (synced.poll near) spaced
      exact ⟨congrArg (List.cons Reply.none) outputs, last⟩
    | seedEntropy entropy =>
      obtain ⟨outputs, last⟩ := ih (synced.entropy app entropy) spaced
      exact ⟨congrArg (List.cons Reply.none) outputs, last⟩
    | request bytes later capacity =>
      obtain ⟨near, spaced⟩ := List.isChain_cons_cons.mp spaced
      obtain ⟨reply, next⟩ := synced.request near app bytes capacity
      obtain ⟨outputs, last⟩ := ih next spaced
      refine ⟨?_, last⟩
      simp only [List.map_cons, trace, event]
      exact List.cons_eq_cons.mpr ⟨reply, outputs⟩

theorem synced_init (user : σ) (time : Nat) : Synced (Server.init user) (Reference.init user) time where
  ctx := rfl
  user := rfl
  activity := fun privileged => absurd rfl privileged
  lockout := fun locked => by cases locked

theorem synced_run (app : Application σ) (user : σ) (actions : List TimedAction) (spaced : Spaced actions) :
    (trace (step app) (.init user) (actions.map TimedAction.action)).map Event.output =
        (trace (Reference.step app) (.init user) actions).map Event.output ∧
      ∃ last, Synced (final (step app) (.init user) (actions.map TimedAction.action))
        (final (Reference.step app) (.init user) actions) last := by
  obtain ⟨time, spaced⟩ := spaced.starts
  exact (synced_init user time).run app actions spaced

/-- On every run the wrapping timers give the answers and the states of the
unbounded ones. -/
theorem timers_refine (app : Application σ) (user : σ) (actions : List TimedAction) (spaced : Spaced actions) :
    (trace (step app) (.init user) (actions.map TimedAction.action)).map Event.output =
        (trace (Reference.step app) (.init user) actions).map Event.output ∧
      let server := final (step app) (.init user) (actions.map TimedAction.action)
      let reference := final (Reference.step app) (.init user) actions
      server.ctx.session = reference.ctx.session ∧ server.ctx.securityLevel = reference.ctx.securityLevel ∧
        server.ctx.seedPending = reference.ctx.seedPending ∧
        server.ctx.failedAttempts = reference.ctx.failedAttempts ∧ server.ctx.lockedOut = reference.ctx.lockedOut := by
  obtain ⟨outputs, last, synced⟩ := synced_run app user actions spaced
  refine ⟨outputs, ?_⟩
  have same := synced.ctx
  dsimp only
  rw [same]
  exact ⟨rfl, rfl, rfl, rfl, rfl⟩

/-- Across the wrap: the extended session is still there after 4999 ms, and gone
5000 ms later. -/
theorem timers_refine_wrap :
    let bare : Application Unit := ⟨none, none, none, none⟩
    let actions : List TimedAction := [.request [0x10, 0x03] 4294967000 8, .request [0x27, 0x01] 4294971999 8,
      .poll 4294976999]
    (trace (step bare) (.init ()) (actions.map TimedAction.action)).map Event.output =
        (trace (Reference.step bare) (.init ()) actions).map Event.output ∧
      (final (step bare) (.init ()) (actions.map TimedAction.action)).ctx.session =
        (final (Reference.step bare) (.init ()) actions).ctx.session := by
  intro bare actions
  obtain ⟨outputs, session, -⟩ := timers_refine bare () actions (by decide)
  exact ⟨outputs, session⟩

end DiagnosticGateway.Uds
