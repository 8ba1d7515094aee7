import DiagnosticGateway.Library.Traces
import DiagnosticGateway.Gateway.Admission

/-! The gateway loop (`gateway_main.c`) in front of an arbitrary ECU.

The shadow has taken its step before the request is forwarded, and only the
answer to a `27 01` is ever read back. What the ECU makes of an admitted key,
whether it refuses it, stays silent or never gets it, is part of the input.
-/

set_option autoImplicit false

namespace DiagnosticGateway.Loop
open BigEndian Uds Gateway Traces

inductive Forward where
  | failed
  | silent
  | answered (response : Bytes)
  deriving DecidableEq, Repr

/-- One turn of the loop: a request, the clock, and what its forwarding would give. -/
structure Exchange where
  request : Bytes
  nowMs : UInt32
  forward : Forward
  deriving DecidableEq, Repr

structure Relay where
  verdict : Verdict
  toTester : Option Bytes
  deriving DecidableEq, Repr

def step (gw : Gateway) (exchange : Exchange) : Gateway × Relay :=
  let decision := gw.gwAdmit exchange.request exchange.nowMs
  match decision.verdict with
  | .allow =>
    match exchange.forward with
    | .failed | .silent => (decision.gateway, ⟨.allow, none⟩)
    | .answered response => (decision.gateway.observeResponse response, ⟨.allow, some response⟩)
  | .drop =>
    (decision.gateway, ⟨.drop, if decision.response.length > 0 then some decision.response else none⟩)

abbrev Step : Type := Event Gateway Exchange Relay

section
variable (gw : Gateway) (exchange : Exchange)

/-- The shadow has taken its step when the request is forwarded; all an answer
can do is hand it a seed. -/
theorem step_shadow :
    let shadow := (gw.gwAdmit exchange.request exchange.nowMs).gateway.shadow
    (step gw exchange).1.shadow = shadow ∨ ∃ seed, (step gw exchange).1.shadow = shadow.awaitKey seed := by
  unfold step
  dsimp only
  cases (gw.gwAdmit exchange.request exchange.nowMs).verdict with
  | drop => exact .inl rfl
  | allow =>
    cases exchange.forward with
    | failed | silent => exact .inl rfl
    | answered response =>
      dsimp only
      rw [observeResponse_shadow]
      split
      · exact .inr ⟨_, rfl⟩
      · exact .inl rfl

theorem step_session :
    (step gw exchange).1.shadow.session = sessionAfter (poll gw.shadow exchange.nowMs) exchange.request := by
  rw [← admitEx_session gw exchange.request exchange.nowMs (Nat.le_refl maxResponseSize)]
  rcases step_shadow gw exchange with same | ⟨seed, same⟩ <;> rw [same] <;> rfl

theorem step_securityLevel : (step gw exchange).1.shadow.securityLevel =
    securityAfter (poll gw.shadow exchange.nowMs) exchange.request := by
  rw [← admitEx_securityLevel gw exchange.request exchange.nowMs (Nat.le_refl maxResponseSize)]
  rcases step_shadow gw exchange with same | ⟨seed, same⟩ <;> rw [same] <;> rfl

theorem step_lastActivityMs (known : findRule (byteAt exchange.request 0) ≠ none)
    (session : NeedsExtended (byteAt exchange.request 0) → (poll gw.shadow exchange.nowMs).session ≠ .default)
    (unlocked : byteAt exchange.request 0 = sidEcuReset →
      (poll gw.shadow exchange.nowMs).securityLevel ≠ .locked) :
    (step gw exchange).1.shadow.lastActivityMs = exchange.nowMs := by
  have active := (handleRequest_handled shadowApplication gw.shadow () exchange.request exchange.nowMs
    maxResponseSize).lastActivityMs_eq known session unlocked
  rw [← admitEx_shadow gw exchange.request exchange.nowMs (Nat.le_refl maxResponseSize)] at active
  rcases step_shadow gw exchange with same | ⟨seed, same⟩ <;> rw [same] <;> exact active

theorem step_verdict : (step gw exchange).2.verdict = (gw.gwAdmit exchange.request exchange.nowMs).verdict := by
  unfold step
  dsimp only
  cases (gw.gwAdmit exchange.request exchange.nowMs).verdict with
  | drop => rfl
  | allow => cases exchange.forward <;> rfl

end

/-! ## Confirmed authority -/

def IsKeyAccepted (response : Bytes) : Prop :=
  2 ≤ response.length ∧ byteAt response 0 = sidSecurityAccess + positiveResponseOffset ∧
    byteAt response 1 = securitySendKey

def Confirmed (e : Step) : Prop :=
  e.output.verdict = .allow ∧ IsSendKey e.action.request ∧
    ∃ response, e.action.forward = .answered response ∧ IsKeyAccepted response

/-- The shadow is at no moment of the turn locked. -/
def StaysUnlocked (e : Step) : Prop :=
  (poll e.before.shadow e.action.nowMs).securityLevel = .level1 ∧ e.after.shadow.securityLevel = .level1

/-- The ECU has answered `67 02` to a forwarded key since the shadow was last locked. -/
def ConfirmedSinceLocked (past : List Step) : Prop :=
  Since StaysUnlocked (fun _ e => Confirmed e ∧ e.after.shadow.securityLevel = .level1) past

/-- The authority the shadow holds after the turn is one the ECU confirmed. -/
def HoldsConfirmed (past : List Step) (e : Step) : Prop :=
  e.after.shadow.securityLevel = .level1 → ConfirmedSinceLocked (past ++ [e])

/-- The ECU answers `67 02` to the key that would unlock the shadow. -/
def EcuAgrees (e : Step) : Prop :=
  (poll e.before.shadow e.action.nowMs).securityLevel = .locked →
    AcceptsKey (poll e.before.shadow e.action.nowMs) e.action.request →
      ∃ response, e.action.forward = .answered response ∧ IsKeyAccepted response

theorem holdsConfirmed_iff (past : List Step) (gw : Gateway) (exchange : Exchange)
    (confirmed : gw.shadow.securityLevel = .level1 → ConfirmedSinceLocked past) :
    HoldsConfirmed past (event step gw exchange) ↔ EcuAgrees (event step gw exchange) := by
  have level := step_securityLevel gw exchange
  constructor
  · -- A locked shadow that unlocks now has only this turn's answer behind it.
    intro holds locked accepts
    rcases (since_concat _ _ _ _).mp (holds (level.trans (securityAfter_of_key accepts))) with
      ⟨⟨_, _, answered⟩, _⟩ | ⟨⟨unlocked, _⟩, _⟩
    · exact answered
    · exact absurd (locked.symm.trans unlocked) (by decide)
  · intro agrees unlocked
    rcases securityAfter_cases (level.symm.trans unlocked) with before | ⟨locked, accepts⟩
    · exact (confirmed (unlocked_of_poll before)).step ⟨before, unlocked⟩
    · have allowed := (admitEx_allow_iff gw exchange.request exchange.nowMs (Nat.le_refl maxResponseSize)).mpr
        (not_blocked_of_acceptsKey accepts)
      exact .now ⟨⟨(step_verdict gw exchange).trans allowed, accepts.1.isSendKey, agrees locked accepts⟩, unlocked⟩

/-- In a run the shadow only ever holds authority the ECU confirmed, exactly
when the ECU answers `67 02` to every key that unlocks the shadow. -/
theorem authority_confirmed_iff (exchanges : List Exchange) :
    AllEvents HoldsConfirmed (trace step init exchanges) ↔
      AllEvents (fun _ e => EcuAgrees e) (trace step init exchanges) :=
  allEvents_iff step (fun past gw => gw.shadow.securityLevel = .level1 → ConfirmedSinceLocked past)
    (fun unlocked => by cases unlocked) (fun _ _ _ _ holds => holds) holdsConfirmed_iff exchanges

def lostKey : List Exchange :=
  [⟨[0x10, 0x03], 0, .answered [0x50, 0x03]⟩,
   ⟨[0x27, 0x01], 1, .answered [0x67, 0x01, 0x00, 0x00, 0x00, 0x01]⟩,
   ⟨[0x27, 0x02] ++ writeWord (demoKeyFromSeed 1), 2, .failed⟩]

/-- The shadow is unlocked by a key the ECU never got. -/
theorem lost_key_unlocks : ¬ ∀ exchanges, AllEvents HoldsConfirmed (trace step init exchanges) := by
  intro all
  have confirmed := all lostKey (trace step init (lostKey.take 2))
    (event step (final step init (lostKey.take 2)) ⟨[0x27, 0x02] ++ writeWord (demoKeyFromSeed 1), 2, .failed⟩)
    [] (trace_concat step init (lostKey.take 2) _) (by decide)
  rcases (since_concat _ _ _ _).mp confirmed with ⟨⟨_, _, response, answered, _⟩, _⟩ | ⟨⟨unlocked, _⟩, _⟩
  · cases answered
  · exact absurd unlocked (by decide)

end DiagnosticGateway.Loop
