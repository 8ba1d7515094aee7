import DiagnosticGateway.Gateway.Bridge
import DiagnosticGateway.Gateway.Pairing

/-! The trusted link of the gateway loop, as requests and responses.

The turns of `diag_link_send` and `diag_link_recv` on that link are turns of the
network, and the messages they complete are the responses it holds unread. So a
pass between two links is a run of the network.
-/

set_option autoImplicit false

namespace DiagnosticGateway.Bridge
open BigEndian Gateway Isotp Platform Pairing Traces

def polledOf : PollResult → Polled
  | .error => .error
  | .nothing => .nothing
  | .message _ => .message

def unread (n : Network) : List Bytes := n.inbox.map Answer.response

-- The socket of the trusted bus.
variable {sends : Nat → Bool} {link : DiagLink} {n : Network} {rest : List Bytes}

def recvActions (sends : Nat → Bool) (link : DiagLink) (wait : Wait) : List Pairing.Action :=
  (recvTurns sends Bridge.ecuTimeoutMs wait.startMs wait.turns link).map fun visit =>
    .recvTurn (polledOf (diagLinkPoll sends visit.1 visit.2).2) visit.2.laterMs

/-- What the call makes of the network; it has no result while it goes on. -/
structure RecvEnds (n : Network) (result : Option PollResult) (rest : List Bytes) (m : Network) : Prop where
  gateway : m.gateway = match result with
    | some (.message response) => n.gateway.observeResponse response
    | some .error | some .nothing | none => n.gateway
  unread : unread m = rest
  polling : result ≠ none → m.phase = .polling

section
variable {number : Nat} {startMs laterMs : UInt32} {answer : Answer} {others : List Answer}

theorem recvTurn_error (phase : n.phase = .receiving number startMs) :
    n.recvTurn .error laterMs = ({ n with phase := .polling }, none) := by
  rw [Network.recvTurn, phase]

theorem recvTurn_message (phase : n.phase = .receiving number startMs) (inbox : n.inbox = answer :: others) :
    n.recvTurn .message laterMs =
      ({ n with gateway := n.gateway.observeResponse answer.response, phase := .polling, inbox := others }, some answer) := by
  rw [Network.recvTurn, phase, inbox]

theorem recvTurn_nothing (phase : n.phase = .receiving number startMs) :
    n.recvTurn .nothing laterMs =
      (if laterMs - startMs ≥ Bridge.ecuTimeoutMs then { n with phase := .polling } else n, none) := by
  rw [Network.recvTurn, phase]

end

theorem recvActions_ends {number : Nat} {wait : Wait} (phase : n.phase = .receiving number wait.startMs)
    (holds : unread n = completedIn (recvTurns sends Bridge.ecuTimeoutMs wait.startMs wait.turns link) ++ rest) :
    RecvEnds n ((diagLinkRecv sends link Bridge.ecuTimeoutMs wait.startMs wait.turns).map Prod.snd) rest
      (final Pairing.step n (recvActions sends link wait)) := by
  obtain ⟨startMs, turns⟩ := wait
  dsimp only [diagLinkRecv, recvActions] at phase holds ⊢
  induction turns generalizing link with
  | nil => exact ⟨rfl, holds, fun ended => absurd rfl ended⟩
  | cons turn later ih =>
    obtain ⟨returned, -⟩ := @diagLinkPoll_completes sends link turn
    rw [recvTurns_cons, completedIn_cons, ← returned] at holds
    rw [recvTurns_cons, diagLinkRecvLoop_cons, List.map_cons, final]
    dsimp only [Pairing.step]
    by_cases heard : (diagLinkPoll sends link turn).2 ≠ .nothing
    · -- The call ends with this turn.
      rw [if_pos (.inl heard)] at holds
      rw [if_pos heard, if_pos (.inl heard), Option.map_some]
      cases result : (diagLinkPoll sends link turn).2 with
      | nothing => exact absurd result heard
      | error =>
        rw [result] at holds
        rw [polledOf, recvTurn_error phase]
        exact ⟨rfl, holds, fun _ => rfl⟩
      | message response =>
        rw [result] at holds
        obtain ⟨answer, others, inbox, rfl, tail⟩ := List.map_eq_cons_iff.mp holds
        rw [polledOf, recvTurn_message phase inbox]
        exact ⟨rfl, tail, fun _ => rfl⟩
    · have quiet := not_not.mp heard
      rw [quiet] at holds
      rw [if_neg heard, quiet, polledOf, recvTurn_nothing phase]
      dsimp only
      by_cases expired : turn.laterMs - startMs ≥ Bridge.ecuTimeoutMs
      · rw [if_pos (.inr expired)] at holds
        rw [if_pos expired, if_pos expired, if_pos (.inr expired)]
        exact ⟨rfl, holds, fun _ => rfl⟩
      · rw [if_neg (not_or.mpr ⟨not_not.mpr rfl, expired⟩)] at holds
        rw [if_neg expired, if_neg expired, if_neg (not_or.mpr ⟨not_not.mpr rfl, expired⟩)]
        exact ih holds

def sendActions (sends : Nat → Bool) (link : DiagLink) (request : Bytes) (wait : Wait) : List Pairing.Action :=
  (completedIn (pollsFor sends link request wait.startMs wait.turns)).map fun _ => .sendTurn

theorem pollsFor_short {request : Bytes} (short : request.length ≤ sfMaxPayload.toNat) (wait : Wait) :
    pollsFor sends link request wait.startMs wait.turns = [] := by
  have rests : (txStart link.tx request wait.startMs).2.1 = .ok →
      (txStart link.tx request wait.startMs).1.state = .idle := by
    rw [txStart]
    by_cases busy : link.tx.state ≠ .idle
    · rw [if_pos busy]
      exact fun accepted => Result.noConfusion accepted
    · have idle := not_not.mp busy
      rw [if_neg busy]
      split
      · exact fun accepted => Result.noConfusion accepted
      · split
        · exact fun accepted => Result.noConfusion accepted
        · split
          · exact fun _ => idle
          · exact fun _ => rfl
  rw [pollsFor]
  generalize txStart link.tx request wait.startMs = start at rests ⊢
  obtain ⟨tx, result, out⟩ := start
  dsimp only at rests ⊢
  split
  · rfl
  · rename_i begun
    have idle : tx.state = .idle := rests (not_not.mp (not_or.mp begun).1)
    split
    · rfl
    · cases wait.turns with
      | nil => rfl
      | cons turn later => rw [sendTurns, sendFrame_tx, if_pos idle]

theorem sendTurns_final {number : Nat} {request : Bytes} (phase : n.phase = .sending number request)
    (long : sfMaxPayload.toNat < request.length) (messages : List Bytes) (holds : unread n = messages ++ rest) :
    ∃ inbox, final Pairing.step n (messages.map fun _ => .sendTurn) = { n with inbox } ∧
      inbox.map Answer.response = rest := by
  induction messages generalizing n with
  | nil => exact ⟨n.inbox, rfl, holds⟩
  | cons message messages ih =>
    obtain ⟨answer, others, inbox, -, tail⟩ := List.map_eq_cons_iff.mp holds
    have turned : Pairing.step n .sendTurn = ({ n with inbox := others }, none) := by
      rw [Pairing.step, Network.sendTurn, phase]
      dsimp only
      rw [if_pos long, inbox, List.tail_cons]
    rw [List.map_cons, final, turned]
    exact @ih { n with inbox := others } phase tail

theorem sendActions_final {number : Nat} {request : Bytes} {wait : Wait} (phase : n.phase = .sending number request)
    (holds : unread n = completedIn (pollsFor sends link request wait.startMs wait.turns) ++ rest) :
    ∃ inbox, final Pairing.step n (sendActions sends link request wait) = { n with inbox } ∧
      inbox.map Answer.response = rest := by
  by_cases long : sfMaxPayload.toNat < request.length
  · exact sendTurns_final phase long _ holds
  · rw [sendActions, pollsFor_short (Nat.not_lt.mp long)] at *
    exact ⟨n.inbox, rfl, holds⟩

/-! ## A pass -/

section
variable {sendsExt sendsEcu : Nat → Bool} {station : Station} {request : Bytes} {pass : Pass}

/-- The turns of the trusted link while a request is forwarded. Whether a failed
call has delivered the request, nothing says. -/
def forwardActions (sendsEcu : Nat → Bool) (ecu : DiagLink) (request : Bytes) (pass : Pass) (delivered : Bool) :
    List Pairing.Action :=
  sendActions sendsEcu ecu request pass.toEcu ++
    match diagLinkSend sendsEcu ecu request pass.toEcu.startMs pass.toEcu.turns with
    | none => []
    | some (ecu, code) =>
      .sent (code = 0) delivered pass.fromEcu.startMs :: if code = 0 then recvActions sendsEcu ecu pass.fromEcu else []

def forwardMessages (sendsEcu : Nat → Bool) (ecu : DiagLink) (request : Bytes) (pass : Pass) : List Bytes :=
  completedIn (pollsFor sendsEcu ecu request pass.toEcu.startMs pass.toEcu.turns) ++
    match diagLinkSend sendsEcu ecu request pass.toEcu.startMs pass.toEcu.turns with
    | none => []
    | some (ecu, code) =>
      if code = 0 then
        completedIn (recvTurns sendsEcu Bridge.ecuTimeoutMs pass.fromEcu.startMs pass.fromEcu.turns ecu)
      else []

/-- The network follows the station: one gateway, the responses left over, and the
external link again, unless a call goes on. -/
structure Follows (station : Station) (rest : List Bytes) (m : Network) : Prop where
  gateway : m.gateway = station.gateway
  unread : unread m = rest
  polling : station.running = true → m.phase = .polling

theorem Follows.reply {response : Bytes} {wait : Wait} {m : Network} (follows : Follows station rest m) :
    Follows (reply sendsExt station response wait) rest m := by
  refine ⟨follows.gateway.trans (reply_gateway ..).symm, follows.unread, fun runs => ?_⟩
  rw [Bridge.reply] at runs
  split at runs
  · exact follows.polling runs
  · cases runs

theorem sent_receives {number : Nat} (phase : n.phase = .sending number request) (delivered : Bool) (startMs : UInt32) :
    ∃ m, Pairing.step n (.sent true delivered startMs) = (m, none) ∧ m.phase = .receiving number startMs ∧
      m.gateway = n.gateway ∧ m.inbox = n.inbox := by
  rw [Pairing.step, Network.sent]
  simp only [phase]
  exact ⟨_, rfl, rfl, rfl, rfl⟩

theorem sent_gives_up {number : Nat} (phase : n.phase = .sending number request) (delivered : Bool) (startMs : UInt32) :
    ∃ m, Pairing.step n (.sent false delivered startMs) = (m, none) ∧ m.phase = .polling ∧
      m.gateway = n.gateway ∧ m.inbox = n.inbox := by
  rw [Pairing.step, Network.sent]
  simp only [phase]
  exact ⟨_, rfl, rfl, rfl, rfl⟩

theorem forward_follows {number : Nat} (phase : n.phase = .sending number request)
    (gateway : n.gateway = station.gateway)
    (holds : unread n = forwardMessages sendsEcu station.ecu request pass ++ rest) (delivered : Bool) :
    Follows (forward sendsExt sendsEcu station request pass) rest
      (final Pairing.step n (forwardActions sendsEcu station.ecu request pass delivered)) := by
  rw [forwardMessages, List.append_assoc] at holds
  obtain ⟨inbox, sent, holds⟩ := sendActions_final phase holds
  rw [forwardActions, final_append, sent, forward]
  generalize diagLinkSend sendsEcu station.ecu request pass.toEcu.startMs pass.toEcu.turns = outcome at holds ⊢
  cases outcome with
  | none => exact ⟨gateway, holds, fun runs => absurd runs Bool.false_ne_true⟩
  | some outcome =>
    obtain ⟨ecu, code⟩ := outcome
    dsimp only at holds ⊢
    rw [final]
    have sending : ({ n with inbox } : Network).phase = .sending number request := phase
    by_cases failed : code ≠ 0
    · obtain ⟨m, behind, polling, same, left⟩ := sent_gives_up sending delivered pass.fromEcu.startMs
      rw [if_neg failed] at holds
      rw [if_pos failed, if_neg failed, decide_eq_false failed, behind]
      exact ⟨same.trans gateway, (congrArg _ left).trans holds, fun _ => polling⟩
    · obtain ⟨m, behind, receiving, same, left⟩ := sent_receives sending delivered pass.fromEcu.startMs
      have ok : code = 0 := not_not.mp failed
      rw [if_pos ok] at holds
      rw [if_neg failed, if_pos ok, decide_eq_true ok, behind]
      have gateway : m.gateway = station.gateway := same.trans gateway
      obtain ⟨observed, rests, ended⟩ := recvActions_ends receiving ((congrArg _ left).trans holds)
      generalize diagLinkRecv sendsEcu ecu Bridge.ecuTimeoutMs pass.fromEcu.startMs pass.fromEcu.turns = received
        at observed ended ⊢
      cases received with
      | none => exact ⟨observed.trans gateway, rests, fun runs => absurd runs Bool.false_ne_true⟩
      | some received =>
        obtain ⟨ecu, result⟩ := received
        have polling := ended (Option.some_ne_none _)
        cases result with
        | error | nothing => exact ⟨observed.trans gateway, rests, fun _ => polling⟩
        | message response =>
          refine .reply ⟨observed.trans ?_, rests, fun _ => polling⟩
          exact congrArg (Gateway.observeResponse · response) gateway

def passActions (sendsEcu : Nat → Bool) (station : Station) (pass : Pass) (delivered : Bool) : List Pairing.Action :=
  match polled station pass with
  | none => []
  | some request =>
    .request request pass.nowMs ::
      match (station.gateway.gwAdmit request pass.nowMs).verdict with
      | .allow => forwardActions sendsEcu station.ecu request pass delivered
      | .drop => []

def passMessages (sendsEcu : Nat → Bool) (station : Station) (pass : Pass) : List Bytes :=
  match polled station pass with
  | none => []
  | some request =>
    match (station.gateway.gwAdmit request pass.nowMs).verdict with
    | .allow => forwardMessages sendsEcu station.ecu request pass
    | .drop => []

/-- A pass between two links is a run of the network, if the responses it holds are
those that the turns of the trusted link complete, and some left over. -/
theorem step_follows (phase : n.phase = .polling) (gateway : n.gateway = station.gateway)
    (holds : unread n = passMessages sendsEcu station pass ++ rest) (delivered : Bool) :
    Follows (step sendsExt sendsEcu station pass).1 rest
      (final Pairing.step n (passActions sendsEcu station pass delivered)) := by
  have output := step_output sendsExt sendsEcu station pass
  have passes := step_passes sendsExt sendsEcu station pass
  rw [passActions, ← output]
  rw [passMessages, ← output] at holds
  generalize step sendsExt sendsEcu station pass = ended at passes holds ⊢
  cases passes with
  | halted | failed | quiet => exact ⟨gateway, holds, fun _ => phase⟩
  | @forwarded ext request decision _ _ admitted allowed =>
    dsimp only at holds ⊢
    rw [admitted, allowed] at holds ⊢
    rw [final, Pairing.step, Network.request, phase, gateway, admitted]
    dsimp only
    rw [allowed]
    have sending : ({ n with gateway := decision.gateway, phase := .sending n.admitted request, admitted := n.admitted + 1 } :
      Network).phase = .sending n.admitted request := rfl
    exact @forward_follows _ _ _ _ { station with ext, gateway := decision.gateway } _ _ _ sending rfl holds delivered
  | @dropped ext request decision _ _ admitted refused =>
    dsimp only at holds ⊢
    rw [admitted, refused] at holds ⊢
    rw [final, Pairing.step, Network.request, phase, gateway, admitted]
    dsimp only
    rw [refused]
    have follows : Follows { station with ext, gateway := decision.gateway } rest
        { n with gateway := decision.gateway, phase := .polling } := ⟨rfl, holds, fun _ => rfl⟩
    split
    · exact follows.reply
    · exact follows

end

end DiagnosticGateway.Bridge
