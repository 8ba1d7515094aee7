import DiagnosticGateway.Ecu.Data
import DiagnosticGateway.Gateway.Loop
import DiagnosticGateway.Uds.Answers
import DiagnosticGateway.Uds.Invariant

/-! The gateway in front of the project's own server.

The shadow and the ECU run the same code, but they do not see the same
requests: what the shadow refuses has still changed the shadow. A refused wrong
key consumes its seed and pushes its deadline back, and the ECU keeps both.
-/

set_option autoImplicit false

namespace DiagnosticGateway.Hardened
open BigEndian Uds Gateway Traces

structure Pair where
  gateway : Gateway
  ecu : Server Ecu.Data

/-- The verdict, what the tester receives, and the effects on the ECU. -/
structure Answer where
  verdict : Verdict
  toTester : Bytes
  effects : List Effect
  deriving DecidableEq, Repr

def init : Pair := ⟨Gateway.init, .init Ecu.Data.init⟩

/-- One request, seen by both at the same time; of a dropped one the ECU only sees the time. -/
def step (pair : Pair) (req : Request) : Pair × Answer :=
  let decision := pair.gateway.gwAdmit req.bytes req.nowMs
  match decision.verdict with
  | .allow =>
    let r := handleRequest Ecu.application pair.ecu.ctx pair.ecu.user req.bytes req.nowMs maxResponseSize
    (⟨decision.gateway.observeResponse r.response, ⟨r.ctx, r.user⟩⟩, ⟨.allow, r.response, r.effects⟩)
  | .drop =>
    (⟨decision.gateway, ⟨poll pair.ecu.ctx req.nowMs, pair.ecu.user⟩⟩, ⟨.drop, decision.response, []⟩)

section
variable (pair : Pair) (req : Request)

def polledShadow : Context := poll pair.gateway.shadow req.nowMs

def polledEcu : Context := poll pair.ecu.ctx req.nowMs

theorem step_blocked (blocked : Blocked (polledShadow pair req) req.bytes) :
    step pair req = (⟨(pair.gateway.gwAdmit req.bytes req.nowMs).gateway, ⟨polledEcu pair req, pair.ecu.user⟩⟩,
      ⟨.drop, (pair.gateway.gwAdmit req.bytes req.nowMs).response, []⟩) := by
  have dropped : (pair.gateway.gwAdmit req.bytes req.nowMs).verdict = .drop :=
    (admitEx_drop_iff _ _ _ (Nat.le_refl maxResponseSize)).mpr blocked
  simp only [step, dropped]
  rfl

theorem step_allowed (allowed : ¬ Blocked (polledShadow pair req) req.bytes) :
    step pair req =
      let r := handleRequest Ecu.application pair.ecu.ctx pair.ecu.user req.bytes req.nowMs maxResponseSize
      (⟨(pair.gateway.gwAdmit req.bytes req.nowMs).gateway.observeResponse r.response, ⟨r.ctx, r.user⟩⟩,
        ⟨.allow, r.response, r.effects⟩) := by
  have admitted : (pair.gateway.gwAdmit req.bytes req.nowMs).verdict = .allow :=
    (admitEx_allow_iff _ _ _ (Nat.le_refl maxResponseSize)).mpr allowed
  simp only [step, admitted]

theorem step_gateway : ∃ forward,
    (step pair req).1.gateway = (Loop.step pair.gateway ⟨req.bytes, req.nowMs, forward⟩).1 := by
  refine ⟨.answered (handleRequest Ecu.application pair.ecu.ctx pair.ecu.user req.bytes req.nowMs
    maxResponseSize).response, ?_⟩
  unfold step Loop.step
  dsimp only
  cases (pair.gateway.gwAdmit req.bytes req.nowMs).verdict <;> rfl

theorem step_shadow_session :
    (step pair req).1.gateway.shadow.session = sessionAfter (polledShadow pair req) req.bytes := by
  obtain ⟨forward, same⟩ := step_gateway pair req
  rw [same]
  exact Loop.step_session _ _

theorem step_shadow_securityLevel :
    (step pair req).1.gateway.shadow.securityLevel = securityAfter (polledShadow pair req) req.bytes := by
  obtain ⟨forward, same⟩ := step_gateway pair req
  rw [same]
  exact Loop.step_securityLevel _ _

theorem step_ecu_blocked (blocked : Blocked (polledShadow pair req) req.bytes) :
    (step pair req).1.ecu.ctx = polledEcu pair req := by
  rw [step_blocked pair req blocked]

theorem step_ecu_session (allowed : ¬ Blocked (polledShadow pair req) req.bytes) :
    (step pair req).1.ecu.ctx.session = sessionAfter (polledEcu pair req) req.bytes := by
  rw [step_allowed pair req allowed]
  exact (handleRequest_handled Ecu.application _ _ _ _ _).session_eq Ecu.application_resets

theorem step_ecu_securityLevel (allowed : ¬ Blocked (polledShadow pair req) req.bytes) :
    (step pair req).1.ecu.ctx.securityLevel = securityAfter (polledEcu pair req) req.bytes := by
  rw [step_allowed pair req allowed]
  exact (handleRequest_handled Ecu.application _ _ _ _ _).securityLevel_eq Ecu.application_resets

end

def Same (c d : Context) : Prop := c.session = d.session ∧ c.securityLevel = d.securityLevel

def Agree (pair : Pair) : Prop := Same pair.gateway.shadow pair.ecu.ctx

instance (pair : Pair) : Decidable (Agree pair) := inferInstanceAs (Decidable (_ ∧ _))

/-- The condition on one request. Normally S3server gives both the same verdict,
and then a forwarded request must not be the key of one side only. Otherwise
the request itself has to bring the two together again. -/
def Consistent (pair : Pair) (req : Request) : Prop :=
  if Expired pair.gateway.shadow req.nowMs ↔ Expired pair.ecu.ctx req.nowMs then
    ¬ Blocked (polledShadow pair req) req.bytes → (polledShadow pair req).securityLevel = .locked →
      (AcceptsKey (polledShadow pair req) req.bytes ↔ AcceptsKey (polledEcu pair req) req.bytes)
  else
    IsSessionRequest .default req.bytes ∨
      (IsSessionRequest .extended req.bytes ∧ pair.gateway.shadow.securityLevel = .locked) ∨
      PerformsReset (polledShadow pair req) req.bytes

section
variable {c d : Context} {request : Bytes}

theorem Same.relocks (same : Same c d) : Relocks c request ↔ Relocks d request := by
  simp only [Relocks, PerformsReset, same.1, same.2]

theorem Same.sessionAfter (same : Same c d) : sessionAfter c request = sessionAfter d request := by
  simp only [Uds.sessionAfter, same.relocks, same.1]

theorem Same.securityAfter_iff (same : Same c d) : securityAfter c request = securityAfter d request ↔
    (c.securityLevel = .locked → (AcceptsKey c request ↔ AcceptsKey d request)) := by
  by_cases relocks : Relocks c request
  · refine iff_of_true ?_ (fun _ => iff_of_false ?_ ?_)
    · rw [securityAfter, securityAfter, if_pos relocks, if_pos (same.relocks.mp relocks)]
    · exact fun accepts => not_relocks_of_key accepts.1 relocks
    · exact fun accepts => not_relocks_of_key accepts.1 relocks
  · rw [securityAfter, securityAfter, if_neg relocks, if_neg (relocks ∘ same.relocks.mpr), ← same.2]
    cases level : c.securityLevel with
    | level1 => exact iff_of_true (by simp) (fun locked => by cases locked)
    | locked =>
      by_cases left : AcceptsKey c request <;> by_cases right : AcceptsKey d request <;> simp [left, right]

theorem fallen_iff (request : Bytes) (session : c.session ≠ .default) (fallen : d.session = .default)
    (locked : d.securityLevel = .locked) :
    (sessionAfter c request = sessionAfter d request ∧ securityAfter c request = securityAfter d request) ↔
      IsSessionRequest .default request ∨
        (IsSessionRequest .extended request ∧ c.securityLevel = .locked) ∨ PerformsReset c request := by
  have noReset : ¬ PerformsReset d request := fun reset => reset.2.1 fallen
  have noKey : ¬ AcceptsKey d request := fun accepts => accepts.2.1 fallen
  have stays : securityAfter d request = .locked := by
    rw [securityAfter, if_neg noKey, locked, ite_self]
  by_cases relocks : Relocks c request
  · refine iff_of_true ⟨?_, ?_⟩ (relocks.imp_right .inr)
    · rw [sessionAfter, if_pos relocks, sessionAfter]
      rcases relocks with asked | reset
      · rw [if_pos (.inl asked)]
      · rw [if_neg (not_relocks_of_sid (by rw [reset.1.2.1]; decide) noReset),
          if_neg (not_session_of_sid (by rw [reset.1.2.1]; decide) _), fallen]
    · rw [stays, securityAfter, if_pos relocks]
  · have notDefault : ¬ IsSessionRequest .default request := fun asked => relocks (.inl asked)
    have keeps : ¬ Relocks d request := fun other => other.elim notDefault noReset
    by_cases asked : IsSessionRequest .extended request
    · rw [sessionAfter_of_extended asked, sessionAfter_of_extended asked, stays, securityAfter_of_extended asked]
      constructor
      · rintro ⟨_, level⟩
        exact .inr (.inl ⟨asked, level⟩)
      · rintro (other | ⟨_, level⟩ | reset)
        · exact absurd other notDefault
        · exact ⟨rfl, level⟩
        · exact absurd (.inr reset) relocks
    · refine iff_of_false ?_ ?_
      · rintro ⟨same, _⟩
        rw [sessionAfter, if_neg relocks, if_neg asked, sessionAfter, if_neg keeps, if_neg asked, fallen] at same
        exact session same
      · rintro (other | ⟨other, _⟩ | reset)
        · exact notDefault other
        · exact asked other
        · exact relocks (.inr reset)

theorem poll_fallen {ctx : Context} {nowMs : UInt32} (expired : Expired ctx nowMs) :
    (poll ctx nowMs).session = .default ∧ (poll ctx nowMs).securityLevel = .locked := by
  rw [poll_expired expired]
  exact ⟨rfl, rfl⟩

theorem poll_same_of_alive {ctx : Context} {nowMs : UInt32} (alive : ¬ Expired ctx nowMs) :
    Same (poll ctx nowMs) ctx := by
  rw [poll_alive alive]
  exact ⟨pollLockout_session ctx nowMs, pollLockout_securityLevel ctx nowMs⟩

theorem Same.poll {nowMs : UInt32} (same : Same c d) (expiry : Expired c nowMs ↔ Expired d nowMs) :
    Same (poll c nowMs) (poll d nowMs) := by
  by_cases expired : Expired c nowMs
  · obtain ⟨session, level⟩ := poll_fallen expired
    obtain ⟨session', level'⟩ := poll_fallen (expiry.mp expired)
    exact ⟨session.trans session'.symm, level.trans level'.symm⟩
  · have left := poll_same_of_alive expired
    have right := poll_same_of_alive (fun other => expired (expiry.mpr other))
    exact ⟨left.1.trans (same.1.trans right.1.symm), left.2.trans (same.2.trans right.2.symm)⟩

end

/-! ## The exact condition -/

section
variable {pair : Pair} {req : Request} (agree : Agree pair)

theorem agree_blocked (blocked : Blocked (polledShadow pair req) req.bytes) :
    Agree (step pair req).1 ↔ Same (polledShadow pair req) (polledEcu pair req) := by
  rw [Agree, Same, step_shadow_session, step_shadow_securityLevel, step_ecu_blocked pair req blocked,
    blocked.unmoved.sessionAfter_eq, blocked.unmoved.securityAfter_eq, Same]

theorem agree_allowed (allowed : ¬ Blocked (polledShadow pair req) req.bytes) : Agree (step pair req).1 ↔
    sessionAfter (polledShadow pair req) req.bytes = sessionAfter (polledEcu pair req) req.bytes ∧
      securityAfter (polledShadow pair req) req.bytes = securityAfter (polledEcu pair req) req.bytes := by
  rw [Agree, Same, step_shadow_session, step_shadow_securityLevel, step_ecu_session pair req allowed,
    step_ecu_securityLevel pair req allowed]

include agree

theorem agree_step_alike (expiry : Expired pair.gateway.shadow req.nowMs ↔ Expired pair.ecu.ctx req.nowMs) :
    Agree (step pair req).1 ↔ (¬ Blocked (polledShadow pair req) req.bytes →
      (polledShadow pair req).securityLevel = .locked →
        (AcceptsKey (polledShadow pair req) req.bytes ↔ AcceptsKey (polledEcu pair req) req.bytes)) := by
  have same : Same (polledShadow pair req) (polledEcu pair req) := Same.poll agree expiry
  by_cases blocked : Blocked (polledShadow pair req) req.bytes
  · exact iff_of_true ((agree_blocked blocked).mpr same) (fun allowed => absurd blocked allowed)
  · rw [agree_allowed blocked, same.securityAfter_iff]
    exact ⟨fun after _ => after.2, fun keys => ⟨same.sessionAfter, keys blocked⟩⟩

theorem polled_apart (apart : ¬ (Expired pair.gateway.shadow req.nowMs ↔ Expired pair.ecu.ctx req.nowMs)) :
    (polledShadow pair req).session ≠ (polledEcu pair req).session := by
  intro session
  by_cases expired : Expired pair.gateway.shadow req.nowMs
  · have alive : ¬ Expired pair.ecu.ctx req.nowMs := fun other => apart (iff_of_true expired other)
    have kept := (poll_same_of_alive alive).1.trans agree.1.symm
    exact expired.1 (kept.symm.trans (session.symm.trans (poll_fallen expired).1))
  · have fallen : Expired pair.ecu.ctx req.nowMs := by
      by_contra other
      exact apart (iff_of_false expired other)
    have kept := (poll_same_of_alive expired).1.trans agree.1
    exact fallen.1 (kept.symm.trans (session.trans (poll_fallen fallen).1))

theorem agree_step_apart (apart : ¬ (Expired pair.gateway.shadow req.nowMs ↔ Expired pair.ecu.ctx req.nowMs)) :
    Agree (step pair req).1 ↔ (IsSessionRequest .default req.bytes ∨
      (IsSessionRequest .extended req.bytes ∧ pair.gateway.shadow.securityLevel = .locked) ∨
      PerformsReset (polledShadow pair req) req.bytes) := by
  by_cases blocked : Blocked (polledShadow pair req) req.bytes
  · -- A blocked request moves neither side, so the two stay apart.
    have unmoved := blocked.unmoved
    refine iff_of_false (fun after => ?_) ?_
    · exact polled_apart agree apart ((agree_blocked blocked).mp after).1
    · rintro (asked | ⟨asked, _⟩ | reset)
      · exact unmoved.relocks (.inl asked)
      · exact unmoved.extended asked
      · exact unmoved.relocks (.inr reset)
  · rw [agree_allowed blocked]
    by_cases expired : Expired pair.gateway.shadow req.nowMs
    · -- The shadow has fallen: a reset is blocked, so only a session request is left.
      have alive : ¬ Expired pair.ecu.ctx req.nowMs := fun other => apart (iff_of_true expired other)
      have kept := poll_same_of_alive alive
      obtain ⟨fallen, locked⟩ := poll_fallen expired
      have noReset : ¬ IsReset req.bytes := fun reset => blocked (.inr (.inl ⟨reset.2.1, locked⟩))
      have session : (polledEcu pair req).session ≠ .default := by
        rw [polledEcu, kept.1, ← agree.1]
        exact expired.1
      have meet := fallen_iff req.bytes session fallen locked
      rw [polledEcu, kept.2, ← agree.2] at meet
      rw [eq_comm, @eq_comm _ (securityAfter _ _)]
      apply meet.trans
      exact or_congr_right (or_congr_right (iff_of_false (fun reset => noReset reset.1) (fun reset => noReset reset.1)))
    · -- The ECU has fallen, and the shadow may still perform a reset.
      have other : Expired pair.ecu.ctx req.nowMs := by
        by_contra alive
        exact apart (iff_of_false expired alive)
      have kept := poll_same_of_alive expired
      obtain ⟨fallen, locked⟩ := poll_fallen other
      have session : (polledShadow pair req).session ≠ .default := by
        rw [polledShadow, kept.1, agree.1]
        exact other.1
      have meet := fallen_iff req.bytes session fallen locked
      rwa [polledShadow, kept.2] at meet

theorem agree_step_iff : Agree (step pair req).1 ↔ Consistent pair req := by
  unfold Consistent
  split
  next alike => exact agree_step_alike agree alike
  next apart => exact agree_step_apart agree apart

end

/-- Gateway and ECU agree after every step of a run exactly when every step is consistent. -/
theorem agreement_iff (requests : List Request) :
    AllEvents (fun _ e => Agree e.after) (trace step init requests) ↔
      AllEvents (fun _ e => Consistent e.before e.action) (trace step init requests) :=
  allEvents_iff step (fun _ => Agree) (show Agree init from ⟨rfl, rfl⟩) (fun _ _ _ _ after => after)
    (fun _ _ _ agree => agree_step_iff agree) requests

/-- A wrong key, which the ECU never sees, and then the right one, which the
shadow no longer expects. -/
def splitKey : List Request :=
  [⟨[0x10, 0x03], 0⟩, ⟨[0x27, 0x01], 0⟩, ⟨[0x27, 0x02, 0x00, 0x00, 0x00, 0x00], 0⟩,
    ⟨[0x27, 0x02] ++ writeWord (demoKeyFromSeed (nextSeed Uds.init.seedState).2), 0⟩]

/-- The ECU is unlocked and the shadow is not. -/
theorem split_key_disagrees : splitKey.Pairwise (fun first second => first.nowMs ≤ second.nowMs) ∧
    ¬ Agree (final step init splitKey) := by
  decide

end DiagnosticGateway.Hardened
