import DiagnosticGateway.Gateway.Observation

/-! Mediation of the privileged services, whatever was admitted and observed
before.

The gateway reads its verdict off three bytes of the shadow's answer. Every
answer is a negative response to the request it answers, or it is none of those
the gateway takes for a refusal; so what it drops is answered in the name of
the request, and what it admits passed the access rules of the polled shadow.
-/

set_option autoImplicit false

namespace DiagnosticGateway.Gateway
open BigEndian Uds Traces

section
variable {σ : Type} {app : Application σ} {c : Context} {user : σ} {request : Bytes} {nowMs : UInt32} {capacity : Nat}
  {r : Outcome σ}

theorem refuses_own_sid (handled : Handled app c user request nowMs capacity r) (refused : Refused r) :
    ∃ ctx next nrc effects, r = .refuse ctx next (byteAt request 0) nrc capacity effects := by
  cases handled with
  | unknown | outsideSession => exact ⟨_, _, _, _, rfl⟩
  | denied _ sid | accessMalformed sid | accessDelayed sid =>
    rw [sid]
    exact ⟨_, _, _, _, rfl⟩
  | resetFailed asked | keyUnexpected asked | keyWrong asked | keyExceeded asked =>
    rw [asked.2.1]
    exact ⟨_, _, _, _, rfl⟩
  | plain _ _ _ _ _ answered => exact absurd refused (not_refused_of_plain answered)
  | toDefault _ same | toExtended _ same =>
    subst same
    exact absurd refused (not_refused_of_first (answerSessionChange_first _ _))
  | empty | seedNoRoom => exact absurd refused (not_refused_of_first (by decide))
  | seedZero | seedIssued =>
    have first : sidSecurityAccess + positiveResponseOffset ≠ negativeResponseSid := by decide
    exact absurd refused (not_refused_of_first first)
  | reset | keyAccepted => exact absurd refused (not_refused_of_first (positive_first (by decide)))

theorem refused_response (handled : Handled app c user request nowMs capacity r) (room : 3 ≤ capacity)
    (refused : Refused r) : ∃ nrc, IsAccessNrc nrc ∧ r.response = [negativeResponseSid, byteAt request 0, nrc] := by
  obtain ⟨ctx, next, nrc, effects, rfl⟩ := refuses_own_sid handled refused
  refine ⟨nrc, (refused_refuse room).mp refused, ?_⟩
  have answered : ¬ capacity < negativeResponseLen := Nat.not_lt.mpr room
  rw [Outcome.refuse, Outcome.reply, makeNegativeResponse, if_neg answered]

end

/-! ## One admission -/

section
variable (gw : Gateway) (request : Bytes) (nowMs : UInt32) {respCapacity : Nat}
  (room : maxResponseSize ≤ respCapacity)
include room

/-- A dropped request is answered, and leaves session and level as the poll left them. -/
theorem admitEx_dropped (dropped : (gw.admitEx request nowMs respCapacity).verdict = .drop) :
    (∃ nrc, IsAccessNrc nrc ∧
      (gw.admitEx request nowMs respCapacity).response = [negativeResponseSid, byteAt request 0, nrc]) ∧
    (gw.admitEx request nowMs respCapacity).gateway.shadow.session = (poll gw.shadow nowMs).session ∧
    (gw.admitEx request nowMs respCapacity).gateway.shadow.securityLevel =
      (poll gw.shadow nowMs).securityLevel := by
  have blocked : Blocked (poll gw.shadow nowMs) request := (admitEx_drop_iff gw request nowMs room).mp dropped
  have handled := handleRequest_handled shadowApplication gw.shadow () request nowMs respCapacity
  refine ⟨?_, ?_, ?_⟩
  · rw [admitEx_response gw request nowMs room]
    exact refused_response handled (Nat.le_trans (by decide) room) ((handled.refused_iff room).mpr blocked)
  · rw [admitEx_session gw request nowMs room, blocked.unmoved.sessionAfter_eq]
  · rw [admitEx_securityLevel gw request nowMs room, blocked.unmoved.securityAfter_eq]

/-- A privileged request that is admitted came in a privileged session, and a
reset from an unlocked shadow. -/
theorem admitEx_allowed (allowed : (gw.admitEx request nowMs respCapacity).verdict = .allow)
    (privileged : NeedsExtended (byteAt request 0)) : (poll gw.shadow nowMs).session ≠ .default ∧
    (byteAt request 0 = sidEcuReset → (poll gw.shadow nowMs).securityLevel = .level1) := by
  have passes : ¬ Blocked (poll gw.shadow nowMs) request := (admitEx_allow_iff gw request nowMs room).mp allowed
  constructor
  · exact fun default => passes (.inl ⟨privileged, default⟩)
  · exact fun sid => level1_of_unlocked (fun locked => passes (.inr (.inl ⟨sid, locked⟩)))

end

theorem poll_programming {c : Context} {nowMs : UInt32} (polled : (poll c nowMs).session = .programming) :
    c.session = .programming := by
  by_cases expired : Expired c nowMs
  · rw [poll_expired expired] at polled
    cases polled
  · rwa [poll_alive expired, pollLockout_session] at polled

theorem sessionAfter_programming {c : Context} {request : Bytes} (after : sessionAfter c request = .programming) :
    c.session = .programming := by
  unfold sessionAfter at after
  split at after
  · cases after
  · split at after
    · cases after
    · exact after

theorem step_session {gw : Gateway} (known : gw.shadow.session ≠ .programming) (action : Action) :
    (step gw action).1.shadow.session ≠ .programming := by
  cases action with
  | observe response => exact fun after => known ((observeResponse_session gw response).symm.trans after)
  | admitEx request nowMs respCapacity =>
    by_cases room : maxResponseSize ≤ respCapacity
    · intro after
      apply known
      apply poll_programming
      apply sessionAfter_programming
      exact (admitEx_session gw request nowMs room).symm.trans after
    · change (gw.admitEx request nowMs respCapacity).gateway.shadow.session ≠ .programming
      rwa [admitEx_noRoom gw request nowMs (Nat.not_le.mp room)]

theorem reachable_session (actions : List Action) : (final step init actions).shadow.session ≠ .programming :=
  state_invariant step (fun gw => gw.shadow.session ≠ .programming) (by decide)
    (fun _ action known => step_session known action) actions

theorem session_cases {c : Context} (known : c.session ≠ .programming) (privileged : c.session ≠ .default) :
    c.session = .extended := by
  cases session : c.session with
  | default => exact absurd session privileged
  | programming => exact absurd session known
  | extended => rfl

/-- In every state the two operations reach, a privileged request is admitted in
the extended session only, a reset unlocked only; and whatever is dropped gets a
refusal of access in its own name and leaves no authority behind. -/
theorem privileged_services_mediated (actions : List Action) (request : Bytes) (nowMs : UInt32) (respCapacity : Nat)
    (room : maxResponseSize ≤ respCapacity) :
    let gw := final step init actions
    let polled := poll gw.shadow nowMs
    let decision := gw.admitEx request nowMs respCapacity
    (decision.verdict = .allow → NeedsExtended (byteAt request 0) →
      polled.session = .extended ∧ (byteAt request 0 = sidEcuReset → polled.securityLevel = .level1)) ∧
    (decision.verdict = .drop →
      (∃ nrc, IsAccessNrc nrc ∧ decision.response = [negativeResponseSid, byteAt request 0, nrc]) ∧
      decision.gateway.shadow.session = polled.session ∧
      decision.gateway.shadow.securityLevel = polled.securityLevel) := by
  intro gw polled decision
  constructor
  · intro allowed privileged
    obtain ⟨session, unlocked⟩ := admitEx_allowed gw request nowMs room allowed privileged
    have known : polled.session ≠ .programming := fun programming => reachable_session actions (poll_programming programming)
    exact ⟨session_cases known session, unlocked⟩
  · exact admitEx_dropped gw request nowMs room

/-- The reset of a shadow in the extended session that is still locked. -/
theorem privileged_services_mediated_reset :
    ((final step init [.admitEx [0x10, 0x03] 0 512]).admitEx [0x11, 0x01] 1 512).response = [0x7F, 0x11, 0x33] ∧
    ((final step init [.admitEx [0x10, 0x03] 0 512]).admitEx [0x11, 0x01] 1 512).gateway.shadow.securityLevel =
      .locked := by
  obtain ⟨_, dropped⟩ := privileged_services_mediated [.admitEx [0x10, 0x03] 0 512] [0x11, 0x01] 1 512 (by decide)
  obtain ⟨_, _, level⟩ := dropped (by decide)
  exact ⟨by decide, level.trans (by decide)⟩

end DiagnosticGateway.Gateway
