import DiagnosticGateway.Library.Traces
import DiagnosticGateway.Uds.Requests

/-! Runs of the UDS server and the invariant of its state.

The clauses are inductive only together: a wrong key keeps the counter in
range because a pending seed excludes a lockout, and a lockout finds the
server locked because only a locked server has a seed pending.
-/

set_option autoImplicit false

namespace DiagnosticGateway.Uds
open BigEndian

variable {σ : Type}

inductive Action where
  | poll (nowMs : UInt32)
  | seedEntropy (entropy : UInt32)
  | request (bytes : Bytes) (nowMs : UInt32) (capacity : Nat)
  deriving DecidableEq, Repr

structure Server (σ : Type) where
  ctx : Context
  user : σ

/-- What a call gives back: code, response and the effects it had. -/
structure Reply where
  result : Result
  response : Bytes
  effects : List Effect
  deriving DecidableEq, Repr

def Reply.none : Reply := ⟨.ok, [], []⟩

def Server.init (user : σ) : Server σ := ⟨Uds.init, user⟩

def step (app : Application σ) (server : Server σ) : Action → Server σ × Reply
  | .poll nowMs => (⟨poll server.ctx nowMs, server.user⟩, .none)
  | .seedEntropy entropy => (⟨seedEntropy server.ctx entropy, server.user⟩, .none)
  | .request bytes nowMs capacity =>
    let outcome := handleRequest app server.ctx server.user bytes nowMs capacity
    (⟨outcome.ctx, outcome.user⟩, ⟨outcome.result, outcome.response, outcome.effects⟩)

/-! ## The invariant -/

structure Valid (ctx : Context) : Prop where
  session : ctx.session = .default ∨ ctx.session = .extended
  defaultLocked : ctx.session = .default → ctx.securityLevel = .locked ∧ ctx.seedPending = false
  pendingLocked : ctx.seedPending = true → ctx.securityLevel = .locked ∧ ctx.lockedOut = false
  attempts : ctx.failedAttempts ≤ 3
  lockout : ctx.lockedOut = true ↔ ctx.failedAttempts = 3
  lockoutLocked : ctx.lockedOut = true → ctx.securityLevel = .locked

theorem valid_init : Valid init where
  session := .inl rfl
  defaultLocked := fun _ => ⟨rfl, rfl⟩
  pendingLocked := fun pending => by cases pending
  attempts := by decide
  lockout := by decide
  lockoutLocked := fun _ => rfl

theorem attempts_limit {count : UInt8} (low : count ≤ 3) (below : count ≠ 3) (reached : count + 1 ≥ 3) :
    count + 1 = 3 := by
  have low : count.toNat ≤ 3 := low
  have below : count.toNat ≠ 3 := fun same => below (UInt8.toNat_inj.mp same)
  have reached : 3 ≤ (count + 1).toNat := reached
  apply UInt8.toNat_inj.mp
  rw [UInt8.toNat_add] at reached ⊢
  have one : (1 : UInt8).toNat = 1 := rfl
  have three : (3 : UInt8).toNat = 3 := rfl
  omega

section
variable {ctx : Context} (valid : Valid ctx)
include valid

theorem Valid.seedEntropy (entropy : UInt32) : Valid (seedEntropy ctx entropy) :=
  ⟨valid.1, valid.2, valid.3, valid.4, valid.5, valid.6⟩

theorem Valid.touch (nowMs : UInt32) : Valid (ctx.touch nowMs) :=
  ⟨valid.1, valid.2, valid.3, valid.4, valid.5, valid.6⟩

theorem Valid.reseed (seedState : UInt32) : Valid (ctx.reseed seedState) :=
  ⟨valid.1, valid.2, valid.3, valid.4, valid.5, valid.6⟩

theorem Valid.relock : Valid ctx.relock where
  session := .inl rfl
  defaultLocked := fun _ => ⟨rfl, rfl⟩
  pendingLocked := fun pending => by cases pending
  attempts := valid.attempts
  lockout := valid.lockout
  lockoutLocked := fun _ => rfl

theorem Valid.enterExtended : Valid ctx.enterExtended where
  session := .inr rfl
  defaultLocked := fun session => by cases session
  pendingLocked := valid.pendingLocked
  attempts := valid.attempts
  lockout := valid.lockout
  lockoutLocked := valid.lockoutLocked

theorem Valid.dropSeed : Valid ctx.dropSeed where
  session := valid.session
  defaultLocked := fun session => ⟨(valid.defaultLocked session).1, rfl⟩
  pendingLocked := fun pending => by cases pending
  attempts := valid.attempts
  lockout := valid.lockout
  lockoutLocked := valid.lockoutLocked

theorem Valid.awaitKey (seed : UInt32) (session : ctx.session ≠ .default) (locked : ctx.securityLevel = .locked)
    (free : ctx.lockedOut = false) : Valid (ctx.awaitKey seed) where
  session := valid.session
  defaultLocked := fun same => absurd same session
  pendingLocked := fun _ => ⟨locked, free⟩
  attempts := valid.attempts
  lockout := valid.lockout
  lockoutLocked := valid.lockoutLocked

theorem Valid.countFailure {failedAttempts : UInt8} (free : ctx.lockedOut = false)
    (few : ¬ failedAttempts ≥ securityMaxAttempts) : Valid (ctx.countFailure failedAttempts) where
  session := valid.session
  defaultLocked := fun session => ⟨(valid.defaultLocked session).1, rfl⟩
  pendingLocked := fun pending => by cases pending
  attempts := UInt8.le_of_lt (UInt8.not_le.mp few)
  lockout := by
    rw [Context.countFailure_lockedOut, free]
    exact iff_of_false Bool.false_ne_true fun three => few (UInt8.le_of_eq three.symm)
  lockoutLocked := valid.lockoutLocked

theorem Valid.lockOut {failedAttempts : UInt8} (deadline : UInt32) (locked : ctx.securityLevel = .locked)
    (reached : failedAttempts = 3) : Valid ((ctx.countFailure failedAttempts).lockOut deadline) where
  session := valid.session
  defaultLocked := fun _ => ⟨locked, rfl⟩
  pendingLocked := fun pending => by cases pending
  attempts := UInt8.le_of_eq reached
  lockout := iff_of_true rfl reached
  lockoutLocked := fun _ => locked

/-- A pending seed excludes a lockout, so the counter was below 3. -/
theorem Valid.limit (pending : ctx.seedPending = true)
    (exceeded : ctx.failedAttempts + 1 ≥ securityMaxAttempts) : ctx.failedAttempts + 1 = 3 := by
  refine attempts_limit valid.attempts (fun three => ?_) exceeded
  have free := (valid.pendingLocked pending).2
  rw [valid.lockout.mpr three] at free
  cases free

theorem Valid.unlock (session : ctx.session ≠ .default) (free : ctx.lockedOut = false) : Valid ctx.unlock where
  session := valid.session
  defaultLocked := fun same => absurd same session
  pendingLocked := fun pending => by cases pending
  attempts := UInt8.zero_le
  lockout := by
    change ctx.lockedOut = true ↔ (0 : UInt8) = 3
    rw [free]
    decide
  lockoutLocked := fun out => by
    change ctx.lockedOut = true at out
    rw [free] at out
    cases out

theorem Valid.pollLockout (nowMs : UInt32) : Valid (pollLockout ctx nowMs) := by
  unfold Uds.pollLockout
  split
  · exact {
      session := valid.session
      defaultLocked := valid.defaultLocked
      pendingLocked := fun pending => ⟨(valid.pendingLocked pending).1, rfl⟩
      attempts := UInt8.zero_le
      lockout := iff_of_false Bool.false_ne_true (by decide : (0 : UInt8) ≠ 3)
      lockoutLocked := fun out => by cases out }
  · exact valid

theorem Valid.poll (nowMs : UInt32) : Valid (poll ctx nowMs) := by
  unfold Uds.poll pollSession
  split
  · exact (valid.pollLockout nowMs).relock
  · exact valid.pollLockout nowMs

/-- The step lemma: every way a request ends keeps the invariant. -/
theorem Valid.handled {app : Application σ} {user : σ} {request : Bytes} {nowMs : UInt32} {capacity : Nat} {outcome : Outcome σ}
    (handled : Handled app ctx user request nowMs capacity outcome) : Valid outcome.ctx := by
  cases handled with
  -- Refused before any handler: the polled context itself.
  | empty | unknown | outsideSession | denied => exact valid
  | plain | resetFailed | accessMalformed | accessDelayed | seedNoRoom | keyUnexpected =>
    exact valid.touch nowMs
  | toDefault | reset => exact (valid.touch nowMs).relock
  | toExtended => exact (valid.touch nowMs).enterExtended
  | seedZero => exact (valid.touch nowMs).dropSeed
  | seedIssued _ session free _ locked =>
    exact ((valid.touch nowMs).reseed _).awaitKey _ session locked free
  | keyWrong _ _ free _ _ few => exact (valid.touch nowMs).countFailure free few
  | keyExceeded _ _ _ pending _ exceeded => 
    exact (valid.touch nowMs).lockOut _ (valid.pendingLocked pending).1 (valid.limit pending exceeded)
  | keyAccepted _ session free _ _ => exact (valid.touch nowMs).unlock session free

end

theorem Valid.step (app : Application σ) (server : Server σ) (action : Action) (valid : Valid server.ctx) :
    Valid (step app server action).1.ctx := by
  cases action with
  | poll nowMs => exact valid.poll nowMs
  | seedEntropy entropy => exact valid.seedEntropy entropy
  | request bytes nowMs capacity => exact (valid.poll nowMs).handled (handleRequest_handled app _ _ _ _ _)

theorem Valid.privileged {ctx : Context} (valid : Valid ctx)
    (authority : ctx.securityLevel = .level1 ∨ ctx.seedPending = true) : ctx.session ≠ .default := by
  intro session
  obtain ⟨locked, idle⟩ := valid.defaultLocked session
  rcases authority with unlocked | pending
  · rw [locked] at unlocked
    cases unlocked
  · rw [idle] at pending
    cases pending

/-- Every reachable state of the server meets the invariant, whatever the
application's callbacks do. -/
theorem reachable_valid (app : Application σ) (user : σ) (actions : List Action) :
    Valid (Traces.final (step app) (.init user) actions).ctx :=
  Traces.state_invariant (step app) (fun server => Valid server.ctx) valid_init
    (fun server action valid => valid.step app server action) actions

end DiagnosticGateway.Uds
