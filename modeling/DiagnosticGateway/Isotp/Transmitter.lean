import Mathlib.Tactic.Simps.Basic
import DiagnosticGateway.Library.Buffer
import DiagnosticGateway.Isotp.Frame

/-! The segmentation machine (`isotp_tx.c`). Lengths are natural numbers, and the
difference of two of them is a `uint16_t`, as in the receiver.
-/

set_option autoImplicit false

namespace DiagnosticGateway.Isotp
open BigEndian Buffer

inductive TxState where
  | idle
  | waitFlowControl
  | sending
  deriving DecidableEq, Repr

structure TxContext where
  state : TxState
  buffer : Vector UInt8 maxPayloadSize
  totalLength : Nat
  sentLength : Nat
  nextSequenceNumber : UInt8
  blockSize : UInt8
  framesInBlock : UInt8
  stminMs : UInt8
  lastFrameTimeMs : UInt32
  waitStartMs : UInt32
  statMessages : UInt32
  statFrames : UInt32
  statTimeouts : UInt32
  deriving DecidableEq, Repr

inductive TxEvent where
  | none
  | sendFrame
  | wait
  | complete
  | aborted
  deriving DecidableEq, Repr

/-- `frame` holds the first `frame_len` bytes of the array. -/
structure TxResult where
  event : TxEvent
  frame : Bytes
  reason : Result
  deriving DecidableEq, Repr

def TxResult.clear : TxResult := ⟨.none, [], .ok⟩

def TxResult.send (frame : Bytes) : TxResult := { TxResult.clear with event := .sendFrame, frame }

def TxResult.waiting : TxResult := { TxResult.clear with event := .wait }

def TxResult.abort (reason : Result) : TxResult := { TxResult.clear with event := .aborted, reason }

namespace TxContext

@[simps] def goIdle (ctx : TxContext) : TxContext :=
  { ctx with
    state := .idle
    totalLength := 0
    sentLength := 0
    nextSequenceNumber := 0
    blockSize := 0
    framesInBlock := 0
    stminMs := 0 }

@[simps] def awaitFlowControl (ctx : TxContext) (nowMs : UInt32) : TxContext :=
  { ctx with state := .waitFlowControl, waitStartMs := nowMs, framesInBlock := 0 }

/-- Copy the message and count the bytes of its First Frame as sent. -/
@[simps] def load (ctx : TxContext) (payload : Bytes) (nowMs : UInt32) : TxContext :=
  { ctx with
    buffer := writeBlock ctx.buffer 0 payload
    totalLength := payload.length
    sentLength := ffFirstPayload
    nextSequenceNumber := 1
    lastFrameTimeMs := nowMs }

/-- The parameters of a Flow Control. The last frame is dated back, so that the
first Consecutive Frame does not wait for STmin. -/
@[simps] def resume (ctx : TxContext) (blockSize stminMs : UInt8) (nowMs : UInt32) : TxContext :=
  { ctx with
    state := .sending
    blockSize := blockSize
    stminMs := stminMs
    framesInBlock := 0
    lastFrameTimeMs := nowMs - stminMs.toUInt32 }

@[simps] def extendWait (ctx : TxContext) (nowMs : UInt32) : TxContext := { ctx with waitStartMs := nowMs }

@[simps] def countFrame (ctx : TxContext) : TxContext := { ctx with statFrames := ctx.statFrames + 1 }

@[simps] def countMessage (ctx : TxContext) : TxContext := { ctx with statMessages := ctx.statMessages + 1 }

@[simps] def countTimeout (ctx : TxContext) : TxContext := { ctx with statTimeouts := ctx.statTimeouts + 1 }

@[simps] def date (ctx : TxContext) (nowMs : UInt32) : TxContext := { ctx with lastFrameTimeMs := nowMs }

@[simps] def advance (ctx : TxContext) (copyLen : Nat) : TxContext :=
  { ctx with
    sentLength := ctx.sentLength + copyLen
    nextSequenceNumber := (ctx.nextSequenceNumber + 1) &&& pciLowMask
    framesInBlock := ctx.framesInBlock + 1 }

def init (buffer : Vector UInt8 maxPayloadSize) : TxContext where
  state := .idle
  buffer := buffer
  totalLength := 0
  sentLength := 0
  nextSequenceNumber := 0
  blockSize := 0
  framesInBlock := 0
  stminMs := 0
  lastFrameTimeMs := 0
  waitStartMs := 0
  statMessages := 0
  statFrames := 0
  statTimeouts := 0

def remaining (ctx : TxContext) : Nat := (ctx.totalLength + 0x10000 - ctx.sentLength) % 0x10000

end TxContext

def buildFirstFrame (payload : Bytes) : Bytes :=
  ((FrameType.first.code <<< pciTypeShift) ||| (UInt8.ofNat (payload.length >>> 8) &&& pciLowMask)) ::
    UInt8.ofNat (payload.length &&& 0xFF) :: payload.take ffFirstPayload

def txStart (ctx : TxContext) (payload : Bytes) (nowMs : UInt32) : TxContext × Result × TxResult :=
  -- A transfer in progress is not overwritten.
  if ctx.state ≠ .idle then (ctx, .errBusy, .clear)
  else if payload.length = 0 then (ctx, .errInvalidLength, .clear)
  else if payload.length > maxPayloadSize then (ctx, .errOverflow, .clear)
  else if payload.length ≤ sfMaxPayload.toNat then
    match encodeSingleFrame payload canFrameSize with
    | .error res => (ctx, res, .clear)
    | .ok frame => (ctx.countFrame.countMessage.goIdle, .ok, .send frame)
  else (((ctx.load payload nowMs).awaitFlowControl nowMs).countFrame, .ok, .send (buildFirstFrame payload))

/-! ## Progress -/

def TxContext.copyLen (ctx : TxContext) : Nat := if cfMaxPayload > ctx.remaining then ctx.remaining else cfMaxPayload

def TxContext.nextBlock (ctx : TxContext) : Bytes := (ctx.buffer.toList.drop ctx.sentLength).take ctx.copyLen

def buildConsecutiveFrame (ctx : TxContext) : TxContext × TxResult :=
  ((ctx.advance ctx.copyLen).countFrame,
    .send (((FrameType.consecutive.code <<< pciTypeShift) ||| (ctx.nextSequenceNumber &&& pciLowMask)) ::
      ctx.nextBlock ++ List.replicate (canFrameSize - (cfPciLen + ctx.copyLen)) paddingByte))

def txPoll (ctx : TxContext) (nowMs : UInt32) : TxContext × TxResult :=
  match ctx.state with
  | .idle => (ctx, .clear)
  | .waitFlowControl =>
    if nowMs - ctx.waitStartMs ≥ nBsTimeoutMs then (ctx.countTimeout.goIdle, .abort .errTimeout)
    else (ctx, .waiting)
  | .sending =>
    -- The block is over: the receiver has to authorise the next one.
    if ctx.blockSize ≠ 0 ∧ ctx.framesInBlock ≥ ctx.blockSize then (ctx.awaitFlowControl nowMs, .waiting)
    else if nowMs - ctx.lastFrameTimeMs < ctx.stminMs.toUInt32 then (ctx, .waiting)
    else
      let (ctx, out) := buildConsecutiveFrame ctx
      let ctx := ctx.date nowMs
      -- The last frame still has to be sent by the caller: the event stays `sendFrame`.
      if ctx.sentLength ≥ ctx.totalLength then (ctx.countMessage.goIdle, out) else (ctx, out)

section
variable (ctx : TxContext) (copyLen : Nat) (nowMs : UInt32)

theorem buildConsecutiveFrame_frame :
    (buildConsecutiveFrame ctx).2.frame =
      ((FrameType.consecutive.code <<< pciTypeShift) ||| (ctx.nextSequenceNumber &&& pciLowMask)) ::
        (ctx.nextBlock ++ List.replicate (canFrameSize - (cfPciLen + ctx.copyLen)) paddingByte) := by
  rw [buildConsecutiveFrame, TxResult.send, List.cons_append]

theorem buildConsecutiveFrame_type : frameType (buildConsecutiveFrame ctx).2.frame = .consecutive := by
  rw [buildConsecutiveFrame_frame, frameType_header]

-- A Consecutive Frame leaves the message and the parameters alone. Found by unfolding,
-- the kernel would first compare the sequence numbers bit by bit.
theorem produced_state : ((ctx.advance copyLen).countFrame.date nowMs).state = ctx.state := by
  rw [TxContext.date_state, TxContext.countFrame_state, TxContext.advance_state]

theorem produced_buffer : ((ctx.advance copyLen).countFrame.date nowMs).buffer = ctx.buffer := by
  rw [TxContext.date_buffer, TxContext.countFrame_buffer, TxContext.advance_buffer]

theorem produced_totalLength : ((ctx.advance copyLen).countFrame.date nowMs).totalLength = ctx.totalLength := by
  rw [TxContext.date_totalLength, TxContext.countFrame_totalLength, TxContext.advance_totalLength]

theorem produced_blockSize : ((ctx.advance copyLen).countFrame.date nowMs).blockSize = ctx.blockSize := by
  rw [TxContext.date_blockSize, TxContext.countFrame_blockSize, TxContext.advance_blockSize]

theorem produced_stminMs : ((ctx.advance copyLen).countFrame.date nowMs).stminMs = ctx.stminMs := by
  rw [TxContext.date_stminMs, TxContext.countFrame_stminMs, TxContext.advance_stminMs]

end

/-- N_Bs is over, and the next poll gives up. -/
def TxContext.WaitOver (ctx : TxContext) (nowMs : UInt32) : Prop :=
  ctx.state = .waitFlowControl ∧ nowMs - ctx.waitStartMs ≥ nBsTimeoutMs

instance (ctx : TxContext) (nowMs : UInt32) : Decidable (ctx.WaitOver nowMs) := inferInstanceAs (Decidable (_ ∧ _))

theorem txPoll_waiting {ctx : TxContext} (waiting : ctx.state = .waitFlowControl) (nowMs : UInt32) :
    txPoll ctx nowMs =
      if nowMs - ctx.waitStartMs ≥ nBsTimeoutMs then (ctx.countTimeout.goIdle, .abort .errTimeout)
      else (ctx, .waiting) := by
  rw [txPoll, waiting]

theorem txPoll_sends {ctx : TxContext} {nowMs : UInt32} (sending : ctx.state = .sending)
    (room : ¬ (ctx.blockSize ≠ 0 ∧ ctx.framesInBlock ≥ ctx.blockSize))
    (due : ¬ nowMs - ctx.lastFrameTimeMs < ctx.stminMs.toUInt32) :
    let built := (buildConsecutiveFrame ctx).1.date nowMs
    txPoll ctx nowMs =
      (if built.sentLength ≥ built.totalLength then built.countMessage.goIdle else built, (buildConsecutiveFrame ctx).2) := by
  rw [txPoll, sending]
  dsimp only
  rw [if_neg room, if_neg due]
  split
  · rfl
  · rfl

section
variable (ctx : TxContext) (blockSize stminMs : UInt8) (nowMs : UInt32)

theorem resume_room : ¬ ((ctx.resume blockSize stminMs nowMs).blockSize ≠ 0 ∧
    (ctx.resume blockSize stminMs nowMs).framesInBlock ≥ (ctx.resume blockSize stminMs nowMs).blockSize) := by
  rw [TxContext.resume_blockSize, TxContext.resume_framesInBlock]
  rintro ⟨limited, spent⟩
  exact limited (UInt8.le_zero_iff.mp spent)

theorem resume_due : ¬ nowMs - (ctx.resume blockSize stminMs nowMs).lastFrameTimeMs <
    (ctx.resume blockSize stminMs nowMs).stminMs.toUInt32 := by
  have dated : nowMs - (nowMs - stminMs.toUInt32) = stminMs.toUInt32 := by grind
  rw [TxContext.resume_lastFrameTimeMs, TxContext.resume_stminMs, dated]
  exact UInt32.lt_irrefl _

theorem txPoll_resume : (txPoll (ctx.resume blockSize stminMs nowMs) nowMs).2.event = .sendFrame := by
  rw [txPoll_sends (TxContext.resume_state ..) (resume_room ctx blockSize stminMs nowMs)
    (resume_due ctx blockSize stminMs nowMs)]
  rfl

end

theorem txPoll_ready {ctx : TxContext} (ready : ctx.state ≠ .waitFlowControl) (nowMs : UInt32) :
    (txPoll ctx nowMs).2.event ≠ .aborted ∧
      ((txPoll ctx nowMs).2.event = .sendFrame → (txPoll ctx nowMs).1.state ≠ .waitFlowControl) := by
  unfold txPoll
  split
  · simp [TxResult.clear, ready]
  · rename_i waiting
    exact absurd waiting ready
  · rename_i sending
    split
    · simp [TxResult.waiting, TxResult.clear]
    · split
      · simp [TxResult.waiting, TxResult.clear]
      · have event : (buildConsecutiveFrame ctx).2.event = .sendFrame := rfl
        have state : (buildConsecutiveFrame ctx).1.state = ctx.state := by
          rw [buildConsecutiveFrame, TxContext.countFrame_state, TxContext.advance_state]
        generalize buildConsecutiveFrame ctx = built at event state ⊢
        obtain ⟨next, out⟩ := built
        dsimp only at event state ⊢
        split
        · simp [event]
        · simp [event, state, sending]

theorem txPoll_begins {ctx : TxContext} {nowMs : UInt32} (ready : ctx.state ≠ .waitFlowControl)
    (waits : (txPoll ctx nowMs).1.state = .waitFlowControl) : (txPoll ctx nowMs).1.waitStartMs = nowMs := by
  cases state : ctx.state with
  | idle =>
    rw [txPoll, state] at waits
    exact absurd waits ready
  | waitFlowControl => exact absurd state ready
  | sending =>
    by_cases full : ctx.blockSize ≠ 0 ∧ ctx.framesInBlock ≥ ctx.blockSize
    · rw [txPoll, state]
      dsimp only
      rw [if_pos full, TxContext.awaitFlowControl_waitStartMs]
    by_cases early : nowMs - ctx.lastFrameTimeMs < ctx.stminMs.toUInt32
    · rw [txPoll, state] at waits
      dsimp only at waits
      rw [if_neg full, if_pos early] at waits
      exact absurd waits ready
    · have sent : (txPoll ctx nowMs).2.event = .sendFrame := by
        rw [txPoll_sends state full early]
        rfl
      exact absurd waits ((txPoll_ready ready nowMs).2 sent)

def txOnFlowControl (ctx : TxContext) (frame : Bytes) (nowMs : UInt32) : TxContext × TxResult :=
  -- A peer cannot start an emission by itself.
  if ctx.state ≠ .waitFlowControl then (ctx, { TxResult.clear with reason := .errUnexpectedFrame })
  else
    match decodeFlowControl frame with
    | .error res => (ctx.goIdle, .abort res)
    | .ok (.continueToSend, blockSize, stmin) => txPoll (ctx.resume blockSize (stminToMs stmin) nowMs) nowMs
    | .ok (.wait, _, _) => (ctx.extendWait nowMs, .waiting)
    | .ok (.overflow, _, _) => (ctx.goIdle, .abort .errAborted)

section
variable {ctx : TxContext} {frame : Bytes} {blockSize stmin : UInt8}

theorem txOnFlowControl_ignored (ready : ctx.state ≠ .waitFlowControl) (frame : Bytes) (nowMs : UInt32) :
    txOnFlowControl ctx frame nowMs = (ctx, { TxResult.clear with reason := .errUnexpectedFrame }) := if_pos ready

theorem txOnFlowControl_continue (waiting : ctx.state = .waitFlowControl)
    (decoded : decodeFlowControl frame = .ok (.continueToSend, blockSize, stmin)) (nowMs : UInt32) :
    txOnFlowControl ctx frame nowMs = txPoll (ctx.resume blockSize (stminToMs stmin) nowMs) nowMs := by
  rw [txOnFlowControl, if_neg (not_not.mpr waiting), decoded]

theorem txOnFlowControl_malformed {reason : Result} (waiting : ctx.state = .waitFlowControl)
    (decoded : decodeFlowControl frame = .error reason) (nowMs : UInt32) :
    txOnFlowControl ctx frame nowMs = (ctx.goIdle, .abort reason) := by
  rw [txOnFlowControl, if_neg (not_not.mpr waiting), decoded]

theorem txOnFlowControl_overflow (waiting : ctx.state = .waitFlowControl)
    (decoded : decodeFlowControl frame = .ok (.overflow, blockSize, stmin)) (nowMs : UInt32) :
    txOnFlowControl ctx frame nowMs = (ctx.goIdle, .abort .errAborted) := by
  rw [txOnFlowControl, if_neg (not_not.mpr waiting), decoded]

theorem txOnFlowControl_wait (waiting : ctx.state = .waitFlowControl)
    (decoded : decodeFlowControl frame = .ok (.wait, blockSize, stmin)) (nowMs : UInt32) :
    txOnFlowControl ctx frame nowMs = (ctx.extendWait nowMs, .waiting) := by
  rw [txOnFlowControl, if_neg (not_not.mpr waiting), decoded]

end

end DiagnosticGateway.Isotp
