import DiagnosticGateway.Ecu.ServiceLoop
import DiagnosticGateway.Gateway.Bridge

/-! Every request a loop polls reaches its server. -/

set_option autoImplicit false

namespace DiagnosticGateway
open Platform Traces

/-- In every run of a link each call hands its caller, once and in order, the messages
completed in it, `diag_link_send` none; so each pass of the two service loops gives
its server the request that its own poll completes, and nothing else. The server is
left as its own step on this request leaves it, and without one no request has
changed it. -/
theorem messages_handed_once :
    (∀ (sends : Nat → Bool) (link : DiagLink) (calls : List Call), ∀ e ∈ trace (step sends) (some link) calls,
      e.output.handed.toList = if e.action.Sends then [] else e.output.completed) ∧
    (∀ (sends : Nat → Bool) (station : Ecu.ServiceLoop.Station) (passes : List Ecu.ServiceLoop.Pass),
      ∀ e ∈ trace (Ecu.ServiceLoop.step sends) station passes, e.output = Ecu.ServiceLoop.polled e.before e.action ∧
        (∀ request, e.output = some request → e.after.uds = Ecu.ServiceLoop.serve e.before.uds request e.action.nowMs) ∧
        (e.output = none → e.after.uds = e.before.uds ∨
          e.after.uds = (Uds.step Ecu.application e.before.uds (.poll e.action.nowMs)).1)) ∧
    ∀ (sendsExt sendsEcu : Nat → Bool) (station : Bridge.Station) (passes : List Bridge.Pass),
      ∀ e ∈ trace (Bridge.step sendsExt sendsEcu) station passes, e.output = Bridge.polled e.before e.action ∧
        (∀ request, e.output = some request → e.after.gateway =
          (Loop.step e.before.gateway ⟨request, e.action.nowMs, Bridge.outcome sendsEcu e.before request e.action⟩).1) ∧
        (e.output = none → e.after.gateway = e.before.gateway) := by
  refine ⟨fun sends link calls e member => ?_, fun sends station passes e member => ?_,
    fun sendsExt sendsEcu station passes e member => ?_⟩
  · rw [eq_event_of_mem _ member]
    exact step_hands _ _
  · rw [eq_event_of_mem _ member]
    exact ⟨Ecu.ServiceLoop.step_output, fun _ given => Ecu.ServiceLoop.step_uds given, Ecu.ServiceLoop.step_uds_quiet⟩
  · rw [eq_event_of_mem _ member]
    exact ⟨Bridge.step_output .., fun _ given => Bridge.step_gateway _ _ _ given, Bridge.step_gateway_quiet _ _ _⟩

end DiagnosticGateway
