import DiagnosticGateway.Isotp.Exchange

/-! The service loop of an ISO-TP session on a CAN socket (`diag_link.c`).

The platform is arbitrary: what `can_socket_recv` returns, whether a call of
`can_socket_send` succeeds, and the clock. A successful return says that the
emitter is at rest. That is the end of the message, unless the emitter gave up or
lost a frame in a silent turn, whose failure the loop does not look at.
-/

set_option autoImplicit false

namespace DiagnosticGateway.Platform
open BigEndian Isotp

structure SendCall where
  canId : UInt32
  data : Bytes
  ok : Bool
  deriving DecidableEq, Repr

/-- `calls` are the calls made on the socket of the link. -/
structure DiagLink where
  calls : List SendCall
  txCanId : UInt32
  rxCanId : UInt32
  rx : RxContext
  tx : TxContext
  lastError : Result
  deriving DecidableEq, Repr

inductive Received where
  | error
  | silence
  | frame (canId : UInt32) (data : Bytes)
  deriving DecidableEq, Repr

/-- One turn of the loop: the frame, the clock of the poll and the clock of the
check behind it. -/
structure Turn where
  received : Received
  nowMs : UInt32
  laterMs : UInt32
  deriving DecidableEq, Repr

inductive PollResult where
  | error
  | nothing
  | message (payload : Bytes)
  deriving DecidableEq, Repr

section
-- Whether the n-th call of `can_socket_send` succeeds.
variable (sends : Nat → Bool)

def sendFrame (link : DiagLink) (data : Bytes) : DiagLink × Int :=
  let ok := sends link.calls.length
  ({ link with calls := link.calls ++ [⟨link.txCanId, data, ok⟩] }, if ok then 0 else -1)

def driveTxLoop (nowMs : UInt32) : Nat → DiagLink → DiagLink × Int
  | 0, link => (link, 0)
  | guard + 1, link =>
    let (tx, out) := txPoll link.tx nowMs
    let link := { link with tx }
    match out.event with
    | .sendFrame =>
      let (link, code) := sendFrame sends link out.frame
      if code ≠ 0 then (link, -1) else driveTxLoop nowMs guard link
    | .aborted => ({ link with lastError := out.reason }, -1)
    | .none | .wait | .complete => (link, 0)

def driveTx (link : DiagLink) (nowMs : UInt32) : DiagLink × Int :=
  if link.tx.state = .idle then (link, 0) else driveTxLoop sends nowMs 700 link

def handleFrame (link : DiagLink) (data : Bytes) (nowMs : UInt32) : DiagLink × PollResult :=
  match getFrameType data with
  | .error _ => (link, .nothing)
  | .ok type =>
    -- A Flow Control concerns our emission, not our reception.
    if type = .flowControl ∧ link.tx.state ≠ .idle then
      let (tx, out) := txOnFlowControl link.tx data nowMs
      let link := { link with tx }
      match out.event with
      | .sendFrame =>
        let (link, code) := sendFrame sends link out.frame
        if code ≠ 0 then (link, .error)
        else
          let (link, code) := driveTx sends link nowMs
          (link, if code = 0 then .nothing else .error)
      | .aborted => ({ link with lastError := out.reason }, .error)
      | .none | .wait | .complete => (link, .nothing)
    else
      let (rx, out) := process link.rx data nowMs
      let link := { link with rx }
      match out.event with
      | .sendFlowControl =>
        let (link, code) := sendFrame sends link out.fcFrame
        (link, if code ≠ 0 then .error else .nothing)
      | .messageReady => (link, .message out.message)
      | .aborted => ({ link with lastError := out.reason }, .nothing)
      | .none => (link, .nothing)

/-! ## Entry points -/

def diagLinkPoll (link : DiagLink) (turn : Turn) : DiagLink × PollResult :=
  match turn.received with
  | .error => (link, .error)
  | .silence =>
    let (rx, out) := pollTimeout link.rx turn.nowMs
    let link := { link with rx }
    let link := if out.event = .aborted then { link with lastError := out.reason } else link
    -- The return code of `drive_tx` is ignored.
    ((driveTx sends link turn.nowMs).1, .nothing)
  | .frame canId data => if canId ≠ link.rxCanId then (link, .nothing) else handleFrame sends link data turn.nowMs

/-- The turns are those that come; `none` says the loop has not ended with them. -/
def diagLinkRecvLoop (timeoutMs startMs : UInt32) : List Turn → DiagLink → Option (DiagLink × PollResult)
  | [], _ => none
  | turn :: rest, link =>
    let (link, result) := diagLinkPoll sends link turn
    if result ≠ .nothing then some (link, result)
    else if turn.laterMs - startMs ≥ timeoutMs then some (link, .nothing)
    else diagLinkRecvLoop timeoutMs startMs rest link

def diagLinkRecv (link : DiagLink) (timeoutMs startMs : UInt32) (turns : List Turn) : Option (DiagLink × PollResult) :=
  diagLinkRecvLoop sends timeoutMs startMs turns link

def sendDeadlineMs : UInt32 := nBsTimeoutMs * 4

def diagLinkSendLoop (startMs : UInt32) : List Turn → DiagLink → Option (DiagLink × Int)
  | [], link => if link.tx.state = .idle then some (link, 0) else none
  | turn :: rest, link =>
    if link.tx.state = .idle then some (link, 0)
    else
      let (link, result) := diagLinkPoll sends link turn
      if result = .error then some (link, -1)
      else if turn.laterMs - startMs ≥ sendDeadlineMs then
        some ({ link with lastError := .errTimeout, tx := link.tx.goIdle }, -1)
      else diagLinkSendLoop startMs rest link

def diagLinkSend (link : DiagLink) (payload : Bytes) (startMs : UInt32) (turns : List Turn) :
    Option (DiagLink × Int) :=
  let (tx, result, out) := txStart link.tx payload startMs
  let link := { link with tx }
  if result ≠ .ok then some ({ link with lastError := .errInvalidLength }, -1)
  else if out.event ≠ .sendFrame then some (link, -1)
  else
    let (link, code) := sendFrame sends link out.frame
    if code ≠ 0 then some (link, -1) else diagLinkSendLoop sends startMs turns link

end

end DiagnosticGateway.Platform
