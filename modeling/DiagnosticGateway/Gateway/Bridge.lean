import DiagnosticGateway.Gateway.Loop
import DiagnosticGateway.Platform.Delivery

/-! The loop of `gateway_main.c` between its two links. Its counters and traces are
left out.

A pass takes the gateway through one exchange of the abstract loop. What becomes of
a forwarded request is here what the trusted link makes of it.
-/

set_option autoImplicit false

namespace DiagnosticGateway.Bridge
open BigEndian Gateway Platform Traces

/-- `g_link_ext`, `g_link_ecu` and `g_gw`. `running` ends with the loop, and also when
a pass has not ended with the turns that came. -/
structure Station where
  ext : DiagLink
  ecu : DiagLink
  gateway : Gateway
  running : Bool
  deriving DecidableEq, Repr

/-- A call of `diag_link_send` or `diag_link_recv`: the clock at its start, and the
turns that come. -/
structure Wait where
  startMs : UInt32
  turns : List Turn
  deriving DecidableEq, Repr

/-- The turn of `diag_link_poll`, the clock read behind it, and what the further
calls of the pass would find. -/
structure Pass where
  turn : Turn
  nowMs : UInt32
  toEcu : Wait
  fromEcu : Wait
  toTester : Wait
  deriving DecidableEq, Repr

abbrev ecuTimeoutMs : UInt32 := 1000

section
-- The sockets of the external and of the trusted bus.
variable (sendsExt sendsEcu : Nat → Bool) (station : Station)

def reply (response : Bytes) (wait : Wait) : Station :=
  match diagLinkSend sendsExt station.ext response wait.startMs wait.turns with
  | some (ext, _) => { station with ext }
  | none => { station with running := false }

def forward (request : Bytes) (pass : Pass) : Station :=
  match diagLinkSend sendsEcu station.ecu request pass.toEcu.startMs pass.toEcu.turns with
  | none => { station with running := false }
  | some (ecu, code) =>
    if code ≠ 0 then { station with ecu }
    else
      match diagLinkRecv sendsEcu ecu ecuTimeoutMs pass.fromEcu.startMs pass.fromEcu.turns with
      | none => { station with ecu, running := false }
      | some (ecu, .message response) =>
        reply sendsExt { station with ecu, gateway := station.gateway.observeResponse response } response pass.toTester
      | some (ecu, .error) | some (ecu, .nothing) => { station with ecu }

/-- One pass; the output is the request given to `gw_admit_ex`. -/
def step (pass : Pass) : Station × Option Bytes :=
  if station.running = false then (station, none)
  else
    let (ext, result) := diagLinkPoll sendsExt station.ext pass.turn
    let station := { station with ext }
    match result with
    | .error => ({ station with running := false }, none)
    | .nothing => (station, none)
    | .message request =>
      let decision := station.gateway.gwAdmit request pass.nowMs
      let station := { station with gateway := decision.gateway }
      match decision.verdict with
      | .allow => (forward sendsExt sendsEcu station request pass, some request)
      | .drop =>
        (if decision.response.length > 0 then reply sendsExt station decision.response pass.toTester else station,
          some request)

def polled (pass : Pass) : Option Bytes := if station.running then completed station.ext pass.turn else none

/-- Every way a pass can end. -/
inductive Passes (pass : Pass) : Station × Option Bytes → Prop where
  | halted (stopped : station.running = false) : Passes pass (station, none)
  | failed {ext : DiagLink} (running : station.running = true)
      (received : diagLinkPoll sendsExt station.ext pass.turn = (ext, .error)) :
      Passes pass ({ station with ext, running := false }, none)
  | quiet {ext : DiagLink} (running : station.running = true)
      (received : diagLinkPoll sendsExt station.ext pass.turn = (ext, .nothing)) :
      Passes pass ({ station with ext }, none)
  | forwarded {ext : DiagLink} {request : Bytes} {decision : Decision} (running : station.running = true)
      (received : diagLinkPoll sendsExt station.ext pass.turn = (ext, .message request))
      (admitted : station.gateway.gwAdmit request pass.nowMs = decision) (allowed : decision.verdict = .allow) :
      Passes pass (forward sendsExt sendsEcu { station with ext, gateway := decision.gateway } request pass, some request)
  | dropped {ext : DiagLink} {request : Bytes} {decision : Decision} (running : station.running = true)
      (received : diagLinkPoll sendsExt station.ext pass.turn = (ext, .message request))
      (admitted : station.gateway.gwAdmit request pass.nowMs = decision) (refused : decision.verdict = .drop) :
      Passes pass (if decision.response.length > 0 then
        reply sendsExt { station with ext, gateway := decision.gateway } decision.response pass.toTester
      else { station with ext, gateway := decision.gateway }, some request)

theorem step_passes (pass : Pass) : Passes sendsExt sendsEcu station pass (step sendsExt sendsEcu station pass) := by
  rw [step]
  by_cases stopped : station.running = false
  · rw [if_pos stopped]
    exact .halted stopped
  · have running : station.running = true := eq_true_of_ne_false stopped
    rw [if_neg stopped]
    generalize polled : diagLinkPoll sendsExt station.ext pass.turn = outcome
    obtain ⟨ext, result⟩ := outcome
    cases result with
    | error => exact .failed running polled
    | nothing => exact .quiet running polled
    | message request =>
      dsimp only
      generalize admitted : station.gateway.gwAdmit request pass.nowMs = decision
      cases verdict : decision.verdict with
      | allow => exact .forwarded running polled admitted verdict
      | drop => exact .dropped running polled admitted verdict

theorem step_output (pass : Pass) : (step sendsExt sendsEcu station pass).2 = polled station pass := by
  obtain ⟨returned, -⟩ := @diagLinkPoll_completes sendsExt station.ext pass.turn
  have passes := step_passes sendsExt sendsEcu station pass
  rw [polled]
  generalize step sendsExt sendsEcu station pass = outcome at passes ⊢
  cases passes with
  | halted stopped => rw [stopped, if_neg Bool.false_ne_true]
  | failed running received | quiet running received | forwarded running received | dropped running received =>
    rw [if_pos running, ← returned, received]
    rfl

/-! ## The abstract loop -/

def outcome (request : Bytes) (pass : Pass) : Loop.Forward :=
  match diagLinkSend sendsEcu station.ecu request pass.toEcu.startMs pass.toEcu.turns with
  | none => .failed
  | some (ecu, code) =>
    if code ≠ 0 then .failed
    else
      match diagLinkRecv sendsEcu ecu ecuTimeoutMs pass.fromEcu.startMs pass.fromEcu.turns with
      | some (_, .message response) => .answered response
      | some (_, .error) | some (_, .nothing) | none => .silent

theorem reply_gateway (response : Bytes) (wait : Wait) : (reply sendsExt station response wait).gateway = station.gateway := by
  rw [reply]
  split
  · rfl
  · rfl

theorem forward_gateway (request : Bytes) (pass : Pass) :
    (forward sendsExt sendsEcu station request pass).gateway =
      match outcome sendsEcu station request pass with
      | .failed | .silent => station.gateway
      | .answered response => station.gateway.observeResponse response := by
  rw [forward, outcome]
  cases diagLinkSend sendsEcu station.ecu request pass.toEcu.startMs pass.toEcu.turns with
  | none => rfl
  | some sent =>
    obtain ⟨ecu, code⟩ := sent
    dsimp only
    by_cases failed : code ≠ 0
    · rw [if_pos failed, if_pos failed]
    · rw [if_neg failed, if_neg failed]
      cases diagLinkRecv sendsEcu ecu ecuTimeoutMs pass.fromEcu.startMs pass.fromEcu.turns with
      | none => rfl
      | some received =>
        obtain ⟨ecu, result⟩ := received
        cases result with
        | error | nothing => rfl
        | message response => exact reply_gateway ..

theorem step_gateway {pass : Pass} {request : Bytes} (given : (step sendsExt sendsEcu station pass).2 = some request) :
    (step sendsExt sendsEcu station pass).1.gateway =
      (Loop.step station.gateway ⟨request, pass.nowMs, outcome sendsEcu station request pass⟩).1 := by
  have passes := step_passes sendsExt sendsEcu station pass
  generalize step sendsExt sendsEcu station pass = ended at passes given ⊢
  cases passes with
  | halted | failed | quiet => cases given
  | @forwarded ext _ decision _ _ admitted allowed =>
    cases given
    have trusted : outcome sendsEcu { station with ext, gateway := decision.gateway } request pass =
        outcome sendsEcu station request pass := rfl
    rw [forward_gateway, trusted, Loop.step, admitted, allowed]
    cases outcome sendsEcu station request pass with
    | failed | silent | answered => rfl
  | dropped _ _ admitted refused =>
    cases given
    rw [Loop.step, admitted, refused]
    dsimp only
    split
    · exact reply_gateway ..
    · rfl

theorem step_gateway_quiet {pass : Pass} (quiet : (step sendsExt sendsEcu station pass).2 = none) :
    (step sendsExt sendsEcu station pass).1.gateway = station.gateway := by
  have passes := step_passes sendsExt sendsEcu station pass
  generalize step sendsExt sendsEcu station pass = ended at passes quiet ⊢
  cases passes with
  | halted | failed | quiet => rfl
  | forwarded | dropped => cases quiet

def exchange (pass : Pass) : Option Loop.Exchange :=
  (polled station pass).map fun request => ⟨request, pass.nowMs, outcome sendsEcu station request pass⟩

/-- Whatever is true of the gateway in every run of the abstract loop is true of it
in every run between two links. -/
theorem run_gateway (passes : List Pass) :
    (final (step sendsExt sendsEcu) station passes).gateway =
      final Loop.step station.gateway
        ((trace (step sendsExt sendsEcu) station passes).filterMap fun e => exchange sendsEcu e.before e.action) := by
  induction passes generalizing station with
  | nil => rfl
  | cons pass rest ih =>
    have output := step_output sendsExt sendsEcu station pass
    rw [final, ih, trace, List.filterMap_cons, event]
    dsimp only
    cases given : (step sendsExt sendsEcu station pass).2 with
    | none =>
      have without : exchange sendsEcu station pass = none := by rw [exchange, ← output, given, Option.map_none]
      rw [without, step_gateway_quiet sendsExt sendsEcu station given]
    | some request =>
      have taken : exchange sendsEcu station pass = some ⟨request, pass.nowMs, outcome sendsEcu station request pass⟩ := by
        rw [exchange, ← output, given, Option.map_some]
      rw [taken, step_gateway sendsExt sendsEcu station given]
      rfl

end

end DiagnosticGateway.Bridge
