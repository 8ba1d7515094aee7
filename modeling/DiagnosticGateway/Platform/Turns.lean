import DiagnosticGateway.Platform.DiagLink

/-! What one turn of a link does, case by case. -/

set_option autoImplicit false

namespace DiagnosticGateway.Platform
open BigEndian Isotp

section
variable {sends : Nat → Bool} {link : DiagLink} {data : Bytes} {nowMs : UInt32}

theorem getFrameType_error {reason : Result} (unreadable : getFrameType data = .error reason) : data = [] := by
  rw [getFrameType] at unreadable
  split at unreadable
  · rename_i short
    exact List.length_eq_zero_iff.mp (Nat.lt_one_iff.mp short)
  · cases unreadable

def ForReceiver (link : DiagLink) (data : Bytes) : Prop :=
  ¬ (getFrameType data = .ok .flowControl ∧ link.tx.state ≠ .idle)

inductive ReceptionHandled (sends : Nat → Bool) (link : DiagLink) (data : Bytes) (nowMs : UInt32) :
    DiagLink × PollResult → Prop where
  | unreadable (empty : data = []) : ReceptionHandled sends link data nowMs (link, .nothing)
  | answered (rx : RxContext) (out : RxResult) (processed : process link.rx data nowMs = (rx, out))
      (event : out.event = .sendFlowControl) :
      ReceptionHandled sends link data nowMs
        ((sendFrame sends { link with rx } out.fcFrame).1, if sends link.calls.length then .nothing else .error)
  | completed (rx : RxContext) (out : RxResult) (processed : process link.rx data nowMs = (rx, out))
      (event : out.event = .messageReady) :
      ReceptionHandled sends link data nowMs ({ link with rx }, .message out.message)
  | aborted (rx : RxContext) (out : RxResult) (processed : process link.rx data nowMs = (rx, out))
      (event : out.event = .aborted) :
      ReceptionHandled sends link data nowMs ({ link with rx, lastError := out.reason }, .nothing)
  | quiet (rx : RxContext) (out : RxResult) (processed : process link.rx data nowMs = (rx, out))
      (event : out.event = .none) : ReceptionHandled sends link data nowMs ({ link with rx }, .nothing)

theorem handleFrame_reception (ours : ForReceiver link data) :
    ReceptionHandled sends link data nowMs (handleFrame sends link data nowMs) := by
  rw [handleFrame]
  cases read : getFrameType data with
  | error reason => exact .unreadable (getFrameType_error read)
  | ok type =>
    have receives : ¬ (type = .flowControl ∧ link.tx.state ≠ .idle) := by
      rintro ⟨rfl, busy⟩
      exact ours ⟨read, busy⟩
    dsimp only
    rw [if_neg receives]
    generalize same : process link.rx data nowMs = outcome
    obtain ⟨rx, out⟩ := outcome
    dsimp only
    cases event : out.event with
    | sendFlowControl =>
      have code : (if (sendFrame sends { link with rx } out.fcFrame).2 ≠ 0 then PollResult.error else .nothing) =
          if sends link.calls.length then .nothing else .error := by
        rw [sendFrame]
        split
        · rfl
        · rfl
      generalize sent : sendFrame sends { link with rx } out.fcFrame = sending at code
      obtain ⟨next, _⟩ := sending
      dsimp only at code ⊢
      rw [code, show next = (sendFrame sends { link with rx } out.fcFrame).1 by rw [sent]]
      exact .answered rx out same event
    | messageReady => exact .completed rx out same event
    | aborted => exact .aborted rx out same event
    | none => exact .quiet rx out same event

/-! ## A turn -/

@[simps] def DiagLink.checkReception (link : DiagLink) (nowMs : UInt32) : DiagLink :=
  { link with
    rx := (pollTimeout link.rx nowMs).1
    lastError :=
      if (pollTimeout link.rx nowMs).2.event = .aborted then (pollTimeout link.rx nowMs).2.reason else link.lastError }

theorem diagLinkPoll_silence {turn : Turn} (received : turn.received = .silence) :
    diagLinkPoll sends link turn =
      ((driveTx sends (link.checkReception turn.nowMs) turn.nowMs).1, .nothing) := by
  rw [diagLinkPoll, received, DiagLink.checkReception]
  generalize pollTimeout link.rx turn.nowMs = outcome
  obtain ⟨rx, out⟩ := outcome
  dsimp only
  by_cases gaveUp : out.event = .aborted
  · rw [if_pos gaveUp, if_pos gaveUp]
  · rw [if_neg gaveUp, if_neg gaveUp]

inductive Polled (sends : Nat → Bool) (link : DiagLink) (turn : Turn) : DiagLink × PollResult → Prop where
  | failed (received : turn.received = .error) : Polled sends link turn (link, .error)
  | silent (received : turn.received = .silence) :
      Polled sends link turn ((driveTx sends (link.checkReception turn.nowMs) turn.nowMs).1, .nothing)
  | foreign (canId : UInt32) (data : Bytes) (received : turn.received = .frame canId data)
      (other : canId ≠ link.rxCanId) : Polled sends link turn (link, .nothing)
  | flowControl (data : Bytes) (received : turn.received = .frame link.rxCanId data)
      (type : getFrameType data = .ok .flowControl) (busy : link.tx.state ≠ .idle) :
      Polled sends link turn (handleFrame sends link data turn.nowMs)
  | reception (data : Bytes) (received : turn.received = .frame link.rxCanId data) (ours : ForReceiver link data) :
      Polled sends link turn (handleFrame sends link data turn.nowMs)

theorem diagLinkPoll_polled (turn : Turn) : Polled sends link turn (diagLinkPoll sends link turn) := by
  cases received : turn.received with
  | error =>
    rw [diagLinkPoll, received]
    exact .failed received
  | silence =>
    rw [diagLinkPoll_silence received]
    exact .silent received
  | frame canId data =>
    rw [diagLinkPoll, received]
    dsimp only
    by_cases other : canId ≠ link.rxCanId
    · rw [if_pos other]
      exact .foreign canId data received other
    · rw [if_neg other]
      obtain rfl := not_not.mp other
      by_cases type : getFrameType data = .ok .flowControl ∧ link.tx.state ≠ .idle
      · exact .flowControl data received type.1 type.2
      · exact .reception data received type

end

end DiagnosticGateway.Platform
