import DiagnosticGateway.Ecu.Faults
import DiagnosticGateway.Platform.Delivery
import DiagnosticGateway.Uds.Invariant

/-! The service loop of the virtual ECU (`ecu.c`). Its traces are left out. -/

set_option autoImplicit false

namespace DiagnosticGateway.Ecu.ServiceLoop
open BigEndian Platform Traces
open Uds (Server handleRequest maxResponseSize)

/-- `g_link`, and `g_uds` with `g_data` as its user data. `running` ends with the loop,
and also when a pass has not ended with the turns that came. -/
structure Station where
  link : DiagLink
  uds : Server Data
  running : Bool

/-- The turn of `diag_link_poll`, the clock read behind it, and what
`diag_link_send` would find. -/
structure Pass where
  turn : Turn
  nowMs : UInt32
  sendStartMs : UInt32
  sendTurns : List Turn
  deriving DecidableEq, Repr

/-- One pass; the output is the request given to `uds_handle_request`. -/
def step (sends : Nat → Bool) (station : Station) (pass : Pass) : Station × Option Bytes :=
  if station.running = false then (station, none)
  else
    let (link, result) := diagLinkPoll sends station.link pass.turn
    let station := { station with link }
    match result with
    | .error => ({ station with running := false }, none)
    | .nothing => ({ station with uds := ⟨Uds.poll station.uds.ctx pass.nowMs, station.uds.user⟩ }, none)
    | .message request =>
      let outcome :=
        handleRequest application station.uds.ctx (tick station.uds.user) request pass.nowMs maxResponseSize
      let station := { station with uds := ⟨outcome.ctx, outcome.user⟩ }
      if outcome.result ≠ .ok then (station, some request)
      else
        match diagLinkSend sends station.link outcome.response pass.sendStartMs pass.sendTurns with
        -- Whether the response left is only printed.
        | some (link, _) => ({ station with link }, some request)
        | none => ({ station with running := false }, some request)

def polled (station : Station) (pass : Pass) : Option Bytes :=
  if station.running then completed station.link pass.turn else none

/-! ## The server behind it -/

def serve (uds : Server Data) (request : Bytes) (nowMs : UInt32) : Server Data :=
  (Uds.step application ⟨uds.ctx, tick uds.user⟩ (.request request nowMs maxResponseSize)).1

/-- Every way a pass can end, whatever becomes of the response. -/
inductive Passes (sends : Nat → Bool) (station : Station) (pass : Pass) : Station × Option Bytes → Prop where
  | halted (stopped : station.running = false) : Passes sends station pass (station, none)
  | failed {link : DiagLink} (running : station.running = true)
      (received : diagLinkPoll sends station.link pass.turn = (link, .error)) :
      Passes sends station pass ({ station with link, running := false }, none)
  | quiet {link : DiagLink} (running : station.running = true)
      (received : diagLinkPoll sends station.link pass.turn = (link, .nothing)) :
      Passes sends station pass
        ({ station with link, uds := (Uds.step application station.uds (.poll pass.nowMs)).1 }, none)
  | served {link : DiagLink} {request : Bytes} {after : Station} (running : station.running = true)
      (received : diagLinkPoll sends station.link pass.turn = (link, .message request))
      (uds : after.uds = serve station.uds request pass.nowMs) : Passes sends station pass (after, some request)

section
variable {sends : Nat → Bool} {station : Station} {pass : Pass}

theorem step_passes : Passes sends station pass (step sends station pass) := by
  rw [step]
  by_cases stopped : station.running = false
  · rw [if_pos stopped]
    exact .halted stopped
  · have running : station.running = true := eq_true_of_ne_false stopped
    rw [if_neg stopped]
    generalize polled : diagLinkPoll sends station.link pass.turn = outcome
    obtain ⟨link, result⟩ := outcome
    cases result with
    | error => exact .failed running polled
    | nothing => exact .quiet running polled
    | message request =>
      dsimp only
      split
      · exact .served running polled rfl
      · split
        · exact .served running polled rfl
        · exact .served running polled rfl

theorem step_output : (step sends station pass).2 = polled station pass := by
  obtain ⟨returned, -⟩ := @diagLinkPoll_completes sends station.link pass.turn
  have passes := @step_passes sends station pass
  rw [polled]
  generalize step sends station pass = outcome at passes ⊢
  cases passes with
  | halted stopped => rw [stopped, if_neg Bool.false_ne_true]
  | failed running received | quiet running received | served running received =>
    rw [if_pos running, ← returned, received]
    rfl

theorem step_uds {request : Bytes} (given : (step sends station pass).2 = some request) :
    (step sends station pass).1.uds = serve station.uds request pass.nowMs := by
  have passes := @step_passes sends station pass
  generalize step sends station pass = outcome at passes given ⊢
  cases passes with
  | halted | failed | quiet => cases given
  | served _ _ uds =>
    cases given
    exact uds

theorem step_uds_quiet (quiet : (step sends station pass).2 = none) :
    (step sends station pass).1.uds = station.uds ∨
      (step sends station pass).1.uds = (Uds.step application station.uds (.poll pass.nowMs)).1 := by
  have passes := @step_passes sends station pass
  generalize step sends station pass = outcome at passes quiet ⊢
  cases passes with
  | halted | failed => exact .inl rfl
  | quiet => exact .inr rfl
  | served => cases quiet

end

end DiagnosticGateway.Ecu.ServiceLoop
