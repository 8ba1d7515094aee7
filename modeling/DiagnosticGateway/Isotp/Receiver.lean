import Mathlib.Tactic.Simps.Basic
import DiagnosticGateway.Library.Buffer
import DiagnosticGateway.Isotp.Frame

/-! The reassembly machine (`isotp_rx.c`). Lengths are natural numbers: only the
difference of two of them can wrap, and it does so explicitly.
-/

set_option autoImplicit false

namespace DiagnosticGateway.Isotp
open BigEndian Buffer

inductive RxState where
  | idle
  | waitConsecutive
  deriving DecidableEq, Repr

structure RxContext where
  state : RxState
  buffer : Vector UInt8 maxPayloadSize
  expectedLength : Nat
  receivedLength : Nat
  nextSequenceNumber : UInt8
  lastFrameTimeMs : UInt32
  statFrames : UInt32
  statMessages : UInt32
  statRejected : UInt32
  statSequenceErrors : UInt32
  statOverflows : UInt32
  statTimeouts : UInt32
  deriving DecidableEq, Repr

inductive RxEvent where
  | none
  | messageReady
  | sendFlowControl
  | aborted
  deriving DecidableEq, Repr

/-- `message` holds the `message_len` bytes the pointer shows on return, and
`fcFrame` the first `fc_len` bytes of the array. -/
structure RxResult where
  event : RxEvent
  message : Bytes
  fcFrame : Bytes
  reason : Result
  deriving DecidableEq, Repr

def RxResult.clear : RxResult := ⟨.none, [], [], .ok⟩

def RxResult.ready (message : Bytes) : RxResult := { RxResult.clear with event := .messageReady, message }

namespace RxContext

@[simps] def goIdle (ctx : RxContext) : RxContext :=
  { ctx with state := .idle, expectedLength := 0, receivedLength := 0, nextSequenceNumber := 0 }

@[simps] def store (ctx : RxContext) (offset : Nat) (block : Bytes) : RxContext :=
  { ctx with buffer := writeBlock ctx.buffer offset block, receivedLength := offset + block.length }

@[simps] def expect (ctx : RxContext) (length : Nat) : RxContext := { ctx with expectedLength := length }

@[simps] def openTransfer (ctx : RxContext) (length : Nat) : RxContext :=
  { ctx with state := .waitConsecutive, expectedLength := length, nextSequenceNumber := 1 }

@[simps] def nextFrame (ctx : RxContext) : RxContext :=
  { ctx with nextSequenceNumber := (ctx.nextSequenceNumber + 1) &&& pciLowMask }

@[simps] def countFrame (ctx : RxContext) (nowMs : UInt32) : RxContext :=
  { ctx with statFrames := ctx.statFrames + 1, lastFrameTimeMs := nowMs }

@[simps] def countMessage (ctx : RxContext) : RxContext := { ctx with statMessages := ctx.statMessages + 1 }

@[simps] def countRejected (ctx : RxContext) : RxContext := { ctx with statRejected := ctx.statRejected + 1 }

@[simps] def countSequenceError (ctx : RxContext) : RxContext :=
  { ctx with statSequenceErrors := ctx.statSequenceErrors + 1 }

@[simps] def countOverflow (ctx : RxContext) : RxContext := { ctx with statOverflows := ctx.statOverflows + 1 }

@[simps] def countTimeout (ctx : RxContext) : RxContext := { ctx with statTimeouts := ctx.statTimeouts + 1 }

/-- `isotp_rx_init` leaves the buffer as it finds it. -/
def init (buffer : Vector UInt8 maxPayloadSize) : RxContext where
  state := .idle
  buffer := buffer
  expectedLength := 0
  receivedLength := 0
  nextSequenceNumber := 0
  lastFrameTimeMs := 0
  statFrames := 0
  statMessages := 0
  statRejected := 0
  statSequenceErrors := 0
  statOverflows := 0
  statTimeouts := 0

end RxContext

def abortTransfer (ctx : RxContext) (reason : Result) : RxContext × RxResult :=
  (ctx.goIdle, { RxResult.clear with event := .aborted, reason })

def rejectFrame (ctx : RxContext) (reason : Result) : RxContext × RxResult :=
  (ctx.countRejected, { RxResult.clear with reason })

abbrev rxFcBlockSize : UInt8 := 0
abbrev rxFcStmin : UInt8 := 0

/-- The return code of the encoder is ignored: on an error the cleared frame stays. -/
def buildFlowControl (status : FlowStatus) (reason : Result) : RxResult :=
  let fcFrame :=
    match encodeFlowControl status rxFcBlockSize rxFcStmin canFrameSize with
    | .ok frame => frame
    | .error _ => []
  { RxResult.clear with event := .sendFlowControl, fcFrame, reason }

def handleSingleFrame (ctx : RxContext) (frame : Bytes) : RxContext × RxResult :=
  match decodeSingleFrame frame with
  | .error res => rejectFrame ctx res
  | .ok payload =>
    -- A valid Single Frame replaces the transfer in progress.
    let ctx := if ctx.state ≠ .idle then ctx.goIdle else ctx
    let ctx := ((ctx.store 0 payload).expect payload.length).countMessage
    (ctx, .ready (readPrefix ctx.buffer payload.length))

/-- FF_DL and the length of its header: 12 bits, or 32 bits behind twelve zero bits. -/
def announcedLength (frame : Bytes) : Option (Nat × Nat) :=
  if frame.length < ffPciLen then none
  else
    let ffDl := ((pciLow frame).toUInt32 <<< 8) ||| (byteAt frame 1).toUInt32
    if ffDl = 0 then
      if frame.length < ffEscapePciLen then none else some ((readWord frame 2).toNat, ffEscapePciLen)
    else some (ffDl.toNat, ffPciLen)

def handleFirstFrame (ctx : RxContext) (frame : Bytes) : RxContext × RxResult :=
  match announcedLength frame with
  | none => rejectFrame ctx .errTruncatedFrame
  | some (ffDl, headerLen) =>
    if ffDl < ffMinLength then rejectFrame ctx .errInvalidLength
    -- More than the buffer holds: the transfer in progress is given up with it.
    else if ffDl > maxPayloadSize then (ctx.countOverflow.goIdle, buildFlowControl .overflow .errOverflow)
    else if frame.length ≤ headerLen then rejectFrame ctx .errTruncatedFrame
    else
      -- Never more than the message announces.
      let copyLen := if frame.length - headerLen > ffDl then ffDl else frame.length - headerLen
      ((ctx.store 0 ((frame.drop headerLen).take copyLen)).openTransfer ffDl, buildFlowControl .continueToSend .ok)

def sequenceNumber (frame : Bytes) : UInt8 := pciLow frame

def RxContext.remaining (ctx : RxContext) : Nat :=
  (ctx.expectedLength + 0x10000 - ctx.receivedLength) % 0x10000

def handleConsecutiveFrame (ctx : RxContext) (frame : Bytes) : RxContext × RxResult :=
  if ctx.state ≠ .waitConsecutive then rejectFrame ctx .errUnexpectedFrame
  else if frame.length < cfPciLen + 1 then rejectFrame ctx .errTruncatedFrame
  else if sequenceNumber frame ≠ ctx.nextSequenceNumber then
    abortTransfer ctx.countSequenceError .errSequenceNumber
  else
    let available := frame.length - cfPciLen
    let copyLen := if available > ctx.remaining then ctx.remaining else available
    -- The source checks the capacity again and does not rely on the First Frame.
    if ctx.receivedLength + copyLen > maxPayloadSize then abortTransfer ctx.countOverflow .errOverflow
    else
      let ctx := (ctx.store ctx.receivedLength ((frame.drop cfPciLen).take copyLen)).nextFrame
      if ctx.receivedLength ≥ ctx.expectedLength then
        (ctx.countMessage.goIdle, .ready (readPrefix ctx.buffer ctx.expectedLength))
      else (ctx, .clear)

def process (ctx : RxContext) (frame : Bytes) (nowMs : UInt32) : RxContext × RxResult :=
  if frame.length < 1 then rejectFrame ctx .errInvalidLength
  else
    -- Every frame of at least one byte restarts N_Cr, whatever its type.
    let ctx := ctx.countFrame nowMs
    match frameType frame with
    | .single => handleSingleFrame ctx frame
    | .first => handleFirstFrame ctx frame
    | .consecutive => handleConsecutiveFrame ctx frame
    | .flowControl => rejectFrame ctx .errUnexpectedFrame
    | .reserved => rejectFrame ctx .errUnexpectedFrame

def pollTimeout (ctx : RxContext) (nowMs : UInt32) : RxContext × RxResult :=
  if ctx.state ≠ .waitConsecutive then (ctx, .clear)
  else if nowMs - ctx.lastFrameTimeMs ≥ nCrTimeoutMs then abortTransfer ctx.countTimeout .errTimeout
  else (ctx, .clear)

structure Opens (frame : Bytes) (length : Nat) (payload : Bytes) : Prop where
  type : frameType frame = .first
  announced : ∃ headerLen, announcedLength frame = some (length, headerLen) ∧ payload = frame.drop headerLen
  long : ffMinLength ≤ length
  fits : length ≤ maxPayloadSize
  carries : payload ≠ []

def Overflows (frame : Bytes) : Prop :=
  frameType frame = .first ∧ ∃ length headerLen, announcedLength frame = some (length, headerLen) ∧
    maxPayloadSize < length

def IsConsecutive (frame : Bytes) : Prop := frameType frame = .consecutive ∧ 2 ≤ frame.length

instance (frame : Bytes) : Decidable (IsConsecutive frame) :=
  inferInstanceAs (Decidable (frameType frame = .consecutive ∧ 2 ≤ frame.length))

/-- A frame the receiver in the given state ignores. -/
structure PassesOver (state : RxState) (frame : Bytes) : Prop where
  notSingle : ∀ payload, decodeSingleFrame frame ≠ .ok payload
  notOpening : ∀ length payload, ¬ Opens frame length payload
  notOverflow : ¬ Overflows frame
  notAwaited : state = .waitConsecutive → ¬ IsConsecutive frame

theorem Opens.unique {frame payload other : Bytes} {length size : Nat} (opens : Opens frame length payload)
    (again : Opens frame size other) : length = size ∧ payload = other := by
  obtain ⟨headerLen, announced, rfl⟩ := opens.announced
  obtain ⟨header, same, rfl⟩ := again.announced
  rw [announced] at same
  cases same
  exact ⟨rfl, rfl⟩

/-! ## What one frame does -/

def RxContext.block (ctx : RxContext) (frame : Bytes) : Bytes := (frame.drop cfPciLen).take ctx.remaining

section
variable (ctx : RxContext) (nowMs : UInt32) (offset : Nat) (block : Bytes)

-- One more block leaves state and announced length alone. Found by unfolding, the
-- kernel would first compare the sequence numbers bit by bit.
theorem extended_state : ((ctx.countFrame nowMs).store offset block).nextFrame.state = ctx.state := by
  rw [RxContext.nextFrame_state, RxContext.store_state, RxContext.countFrame_state]

theorem extended_expectedLength :
    ((ctx.countFrame nowMs).store offset block).nextFrame.expectedLength = ctx.expectedLength := by
  rw [RxContext.nextFrame_expectedLength, RxContext.store_expectedLength, RxContext.countFrame_expectedLength]

end

/-- Every way a frame can be processed. -/
inductive Processed (ctx : RxContext) (frame : Bytes) (nowMs : UInt32) : RxContext × RxResult → Prop where
  | empty (nothing : frame = []) : Processed ctx frame nowMs (rejectFrame ctx .errInvalidLength)
  | rejected (reason : Result) (failure : reason ≠ .ok) (passes : PassesOver ctx.state frame) :
      Processed ctx frame nowMs (rejectFrame (ctx.countFrame nowMs) reason)
  | single (base : RxContext) (payload : Bytes) (decoded : decodeSingleFrame frame = .ok payload)
      (idle : base.state = .idle) (same : base = ctx.countFrame nowMs ∨ base = (ctx.countFrame nowMs).goIdle) :
      Processed ctx frame nowMs (((base.store 0 payload).expect payload.length).countMessage, .ready payload)
  | opened (length : Nat) (payload : Bytes) (opens : Opens frame length payload) :
      Processed ctx frame nowMs (((ctx.countFrame nowMs).store 0 (payload.take length)).openTransfer length,
        buildFlowControl .continueToSend .ok)
  | overflowed (overflows : Overflows frame) :
      Processed ctx frame nowMs ((ctx.countFrame nowMs).countOverflow.goIdle, buildFlowControl .overflow .errOverflow)
  | outOfSequence (waiting : ctx.state = .waitConsecutive) (consecutive : IsConsecutive frame)
      (wrong : sequenceNumber frame ≠ ctx.nextSequenceNumber) :
      Processed ctx frame nowMs (abortTransfer (ctx.countFrame nowMs).countSequenceError .errSequenceNumber)
  | tooLong (waiting : ctx.state = .waitConsecutive) (consecutive : IsConsecutive frame)
      (excess : ctx.receivedLength + (ctx.block frame).length > maxPayloadSize) :
      Processed ctx frame nowMs (abortTransfer (ctx.countFrame nowMs).countOverflow .errOverflow)
  | extended (waiting : ctx.state = .waitConsecutive) (consecutive : IsConsecutive frame)
      (right : sequenceNumber frame = ctx.nextSequenceNumber)
      (fits : ctx.receivedLength + (ctx.block frame).length ≤ maxPayloadSize)
      (short : ctx.receivedLength + (ctx.block frame).length < ctx.expectedLength) :
      Processed ctx frame nowMs
        (((ctx.countFrame nowMs).store ctx.receivedLength (ctx.block frame)).nextFrame, .clear)
  | completed (waiting : ctx.state = .waitConsecutive) (consecutive : IsConsecutive frame)
      (right : sequenceNumber frame = ctx.nextSequenceNumber)
      (fits : ctx.receivedLength + (ctx.block frame).length ≤ maxPayloadSize)
      (whole : ctx.expectedLength ≤ ctx.receivedLength + (ctx.block frame).length) :
      Processed ctx frame nowMs
        (((ctx.countFrame nowMs).store ctx.receivedLength (ctx.block frame)).nextFrame.countMessage.goIdle,
          .ready (readPrefix (writeBlock ctx.buffer ctx.receivedLength (ctx.block frame)) ctx.expectedLength))

theorem clipped_length (bytes : Bytes) (header limit : Nat) :
    (if bytes.length - header > limit then limit else bytes.length - header) =
      ((bytes.drop header).take limit).length := by
  rw [List.length_take, List.length_drop]
  split <;> omega

theorem take_length_take (bytes : Bytes) (limit : Nat) : bytes.take (bytes.take limit).length = bytes.take limit := by
  rw [List.length_take, ← List.take_take, List.take_length]

def RxContext.finish (ctx : RxContext) : RxContext × RxResult :=
  if ctx.receivedLength ≥ ctx.expectedLength then
    (ctx.countMessage.goIdle, .ready (readPrefix ctx.buffer ctx.expectedLength))
  else (ctx, .clear)

section
variable {ctx : RxContext} {frame : Bytes}

theorem handleConsecutiveFrame_resting (resting : ctx.state ≠ .waitConsecutive) :
    handleConsecutiveFrame ctx frame = rejectFrame ctx .errUnexpectedFrame := if_pos resting

theorem handleConsecutiveFrame_truncated (waiting : ctx.state = .waitConsecutive) (short : frame.length < cfPciLen + 1) :
    handleConsecutiveFrame ctx frame = rejectFrame ctx .errTruncatedFrame := by
  rw [handleConsecutiveFrame, if_neg (not_not.mpr waiting), if_pos short]

theorem handleConsecutiveFrame_outOfSequence (waiting : ctx.state = .waitConsecutive)
    (long : ¬ frame.length < cfPciLen + 1) (wrong : sequenceNumber frame ≠ ctx.nextSequenceNumber) :
    handleConsecutiveFrame ctx frame = abortTransfer ctx.countSequenceError .errSequenceNumber := by
  rw [handleConsecutiveFrame, if_neg (not_not.mpr waiting), if_neg long, if_pos wrong]

theorem handleConsecutiveFrame_awaited (waiting : ctx.state = .waitConsecutive)
    (long : ¬ frame.length < cfPciLen + 1) (right : sequenceNumber frame = ctx.nextSequenceNumber) :
    handleConsecutiveFrame ctx frame =
      if ctx.receivedLength + (ctx.block frame).length > maxPayloadSize then
        abortTransfer ctx.countOverflow .errOverflow
      else (ctx.store ctx.receivedLength (ctx.block frame)).nextFrame.finish := by
  rw [handleConsecutiveFrame, if_neg (not_not.mpr waiting), if_neg long, if_neg (not_not.mpr right), RxContext.block]
  dsimp only
  rw [clipped_length, take_length_take]
  rfl

end

theorem pollTimeout_cases (ctx : RxContext) (nowMs : UInt32) :
    pollTimeout ctx nowMs = (ctx, .clear) ∨
      (ctx.state = .waitConsecutive ∧ nowMs - ctx.lastFrameTimeMs ≥ nCrTimeoutMs ∧
        pollTimeout ctx nowMs = abortTransfer ctx.countTimeout .errTimeout) := by
  by_cases waiting : ctx.state = .waitConsecutive
  · rw [pollTimeout, if_neg (not_not.mpr waiting)]
    split
    · rename_i elapsed
      exact .inr ⟨waiting, elapsed, rfl⟩
    · exact .inl rfl
  · exact .inl (by rw [pollTimeout, if_pos waiting])

section
variable {ctx : RxContext} {frame : Bytes} {nowMs : UInt32}

theorem notSingle_of_type (other : frameType frame ≠ .single) (payload : Bytes) :
    decodeSingleFrame frame ≠ .ok payload :=
  fun decoded => other (decodeSingleFrame_ok decoded).1

theorem passesOver_of_type {state : RxState} (notSingle : frameType frame ≠ .single)
    (notFirst : frameType frame ≠ .first) (notAwaited : state = .waitConsecutive → ¬ IsConsecutive frame) :
    PassesOver state frame where
  notSingle := notSingle_of_type notSingle
  notOpening := fun _ _ opens => notFirst opens.type
  notOverflow := fun overflows => notFirst overflows.1
  notAwaited := notAwaited

theorem passesOver_nil (state : RxState) : PassesOver state [] where
  notSingle := fun payload decoded => by cases decoded
  notOpening := fun _ _ opens => absurd opens.type (by decide)
  notOverflow := fun overflows => absurd overflows.1 (by decide)
  notAwaited := fun _ consecutive => absurd consecutive.1 (by decide)

theorem handleSingleFrame_processed (type : frameType frame = .single) :
    Processed ctx frame nowMs (handleSingleFrame (ctx.countFrame nowMs) frame) := by
  rw [handleSingleFrame]
  cases decoded : decodeSingleFrame frame with
  | error res =>
    have failure : res ≠ .ok := fun ok => decodeSingleFrame_error frame (ok ▸ decoded)
    refine .rejected res failure ⟨?_, ?_, ?_, ?_⟩
    · intro payload accepted
      rw [decoded] at accepted
      cases accepted
    · intro length payload opens
      exact absurd (type.symm.trans opens.type) (by decide)
    · intro overflows
      exact absurd (type.symm.trans overflows.1) (by decide)
    · intro _ consecutive
      exact absurd (type.symm.trans consecutive.1) (by decide)
  | ok payload =>
    have short := (decodeSingleFrame_ok decoded).2.2.1
    have held : ∀ buffer : Vector UInt8 maxPayloadSize,
        readPrefix (writeBlock buffer 0 payload) payload.length = payload := by
      intro buffer
      have block := readPrefix_writeBlock buffer 0 payload (by rw [maxPayloadSize]; omega)
      rwa [Nat.zero_add, readPrefix_zero, List.nil_append] at block
    dsimp only
    rw [RxContext.countMessage_buffer, RxContext.expect_buffer, RxContext.store_buffer, held]
    split
    · exact .single _ payload decoded rfl (.inr rfl)
    · rename_i idle
      exact .single _ payload decoded (not_not.mp idle) (.inl rfl)

theorem handleFirstFrame_processed (type : frameType frame = .first) :
    Processed ctx frame nowMs (handleFirstFrame (ctx.countFrame nowMs) frame) := by
  have notSingle : frameType frame ≠ .single := by
    rw [type]
    decide
  have notAwaited : ctx.state = .waitConsecutive → ¬ IsConsecutive frame := by
    intro _ consecutive
    exact absurd (type.symm.trans consecutive.1) (by decide)
  rw [handleFirstFrame]
  cases announced : announcedLength frame with
  | none =>
    refine .rejected _ (by decide) ⟨notSingle_of_type notSingle, ?_, ?_, notAwaited⟩
    · intro length payload opens
      obtain ⟨headerLen, same, _⟩ := opens.announced
      rw [announced] at same
      cases same
    · rintro ⟨_, length, headerLen, same, _⟩
      rw [announced] at same
      cases same
  | some header =>
    obtain ⟨ffDl, headerLen⟩ := header
    -- Both refusals below are of frames that neither open nor overflow.
    have rejects : ∀ reason, reason ≠ .ok → ffDl ≤ maxPayloadSize →
        (ffDl < ffMinLength ∨ frame.drop headerLen = []) →
        Processed ctx frame nowMs (rejectFrame (ctx.countFrame nowMs) reason) := by
      intro reason failure fits malformed
      refine .rejected reason failure ⟨notSingle_of_type notSingle, ?_, ?_, notAwaited⟩
      · intro length payload opens
        obtain ⟨other, same, rfl⟩ := opens.announced
        rw [announced] at same
        cases same
        exact malformed.elim (Nat.not_lt.mpr opens.long) opens.carries
      · rintro ⟨_, length, other, same, large⟩
        rw [announced] at same
        cases same
        exact Nat.not_lt.mpr fits large
    dsimp only
    split
    · rename_i small
      exact rejects _ (by decide) (Nat.le_trans (Nat.le_of_lt small) (by decide)) (.inl small)
    · rename_i long
      split
      · rename_i large
        exact .overflowed ⟨type, ffDl, headerLen, announced, large⟩
      · rename_i fits
        have fits : ffDl ≤ maxPayloadSize := Nat.not_lt.mp fits
        split
        · rename_i bare
          exact rejects _ (by decide) fits (.inr (List.drop_of_length_le bare))
        · rename_i carries
          rw [clipped_length, take_length_take]
          exact .opened ffDl _ ⟨type, ⟨headerLen, announced, rfl⟩, Nat.not_lt.mp long, fits,
            fun empty => carries (List.drop_eq_nil_iff.mp empty)⟩

theorem handleConsecutiveFrame_processed (type : frameType frame = .consecutive) :
    Processed ctx frame nowMs (handleConsecutiveFrame (ctx.countFrame nowMs) frame) := by
  have notSingle : frameType frame ≠ .single := by
    rw [type]
    decide
  have notFirst : frameType frame ≠ .first := by
    rw [type]
    decide
  by_cases waiting : (ctx.countFrame nowMs).state = .waitConsecutive
  · by_cases short : frame.length < cfPciLen + 1
    · rw [handleConsecutiveFrame_truncated waiting short]
      exact .rejected _ (by decide) (passesOver_of_type notSingle notFirst
        fun _ consecutive => Nat.not_lt.mpr consecutive.2 short)
    · have consecutive : IsConsecutive frame := ⟨type, Nat.not_lt.mp short⟩
      by_cases right : sequenceNumber frame = (ctx.countFrame nowMs).nextSequenceNumber
      · -- From here on the frame is the awaited one.
        rw [handleConsecutiveFrame_awaited waiting short right]
        split
        · rename_i excess
          exact .tooLong waiting consecutive excess
        · rename_i fits
          rw [RxContext.finish]
          split
          · rename_i whole
            rw [extended_expectedLength] at whole ⊢
            exact .completed waiting consecutive right (Nat.not_lt.mp fits) whole
          · rename_i less
            rw [extended_expectedLength] at less
            exact .extended waiting consecutive right (Nat.not_lt.mp fits) (Nat.not_le.mp less)
      · rw [handleConsecutiveFrame_outOfSequence waiting short right]
        exact .outOfSequence waiting consecutive right
  · rw [handleConsecutiveFrame_resting waiting]
    exact .rejected _ (by decide) (passesOver_of_type notSingle notFirst fun awaits _ => waiting awaits)

theorem process_processed (ctx : RxContext) (frame : Bytes) (nowMs : UInt32) :
    Processed ctx frame nowMs (process ctx frame nowMs) := by
  rw [process]
  split
  · rename_i empty
    exact .empty (List.length_eq_zero_iff.mp (Nat.lt_one_iff.mp empty))
  · dsimp only
    cases type : frameType frame with
    | single => exact handleSingleFrame_processed type
    | first => exact handleFirstFrame_processed type
    | consecutive => exact handleConsecutiveFrame_processed type
    | flowControl | reserved =>
      refine .rejected _ (by decide) (passesOver_of_type ?_ ?_ fun _ consecutive => ?_)
      · rw [type]; decide
      · rw [type]; decide
      · exact absurd (type.symm.trans consecutive.1) (by decide)

theorem process_single {payload : Bytes} (decoded : decodeSingleFrame frame = .ok payload) :
    (process ctx frame nowMs).2 = .ready payload := by
  have type := (decodeSingleFrame_ok decoded).1
  have processed := process_processed ctx frame nowMs
  generalize process ctx frame nowMs = outcome at processed ⊢
  cases processed with
  | empty nothing =>
    subst nothing
    cases decoded
  | rejected reason failure passes => exact absurd decoded (passes.notSingle payload)
  | single base other accepted idle same =>
    cases decoded.symm.trans accepted
    rfl
  | opened length data opens => exact absurd (type.symm.trans opens.type) (by decide)
  | overflowed overflows => exact absurd (type.symm.trans overflows.1) (by decide)
  | outOfSequence _ consecutive | tooLong _ consecutive | extended _ consecutive | completed _ consecutive =>
    exact absurd (type.symm.trans consecutive.1) (by decide)

theorem process_opens {length : Nat} {payload : Bytes} (opens : Opens frame length payload) :
    process ctx frame nowMs =
      (((ctx.countFrame nowMs).store 0 (payload.take length)).openTransfer length,
        buildFlowControl .continueToSend .ok) := by
  have processed := process_processed ctx frame nowMs
  generalize process ctx frame nowMs = outcome at processed ⊢
  cases processed with
  | empty nothing =>
    subst nothing
    exact absurd opens.type (by decide)
  | rejected reason failure passes => exact absurd opens (passes.notOpening length payload)
  | single base data decoded => exact absurd (opens.type.symm.trans (decodeSingleFrame_ok decoded).1) (by decide)
  | opened size data other =>
    obtain ⟨rfl, rfl⟩ := opens.unique other
    rfl
  | overflowed overflows =>
    obtain ⟨-, size, headerLen, announced, large⟩ := overflows
    obtain ⟨header, same, -⟩ := opens.announced
    cases announced.symm.trans same
    exact absurd opens.fits (Nat.not_le.mpr large)
  | outOfSequence _ consecutive | tooLong _ consecutive | extended _ consecutive | completed _ consecutive =>
    exact absurd (opens.type.symm.trans consecutive.1) (by decide)

theorem process_awaited (waiting : ctx.state = .waitConsecutive) (consecutive : IsConsecutive frame)
    (right : sequenceNumber frame = ctx.nextSequenceNumber)
    (fits : ctx.receivedLength + (ctx.block frame).length ≤ maxPayloadSize) :
    process ctx frame nowMs =
      if ctx.expectedLength ≤ ctx.receivedLength + (ctx.block frame).length then
        (((ctx.countFrame nowMs).store ctx.receivedLength (ctx.block frame)).nextFrame.countMessage.goIdle,
          .ready (readPrefix (writeBlock ctx.buffer ctx.receivedLength (ctx.block frame)) ctx.expectedLength))
      else (((ctx.countFrame nowMs).store ctx.receivedLength (ctx.block frame)).nextFrame, .clear) := by
  have processed := process_processed ctx frame nowMs
  generalize process ctx frame nowMs = outcome at processed ⊢
  cases processed with
  | empty nothing =>
    subst nothing
    exact absurd consecutive.1 (by decide)
  | rejected reason failure passes => exact absurd consecutive (passes.notAwaited waiting)
  | single base data decoded =>
    exact absurd (consecutive.1.symm.trans (decodeSingleFrame_ok decoded).1) (by decide)
  | opened size data opens => exact absurd (consecutive.1.symm.trans opens.type) (by decide)
  | overflowed overflows => exact absurd (consecutive.1.symm.trans overflows.1) (by decide)
  | outOfSequence _ _ wrong => exact absurd right wrong
  | tooLong _ _ excess => exact absurd fits (Nat.not_le.mpr excess)
  | extended _ _ _ _ short => rw [if_neg (Nat.not_le.mpr short)]
  | completed _ _ _ _ whole => rw [if_pos whole]

end

end DiagnosticGateway.Isotp
