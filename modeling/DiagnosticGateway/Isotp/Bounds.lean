import DiagnosticGateway.Isotp.Reassembly

/-! Memory safety and progress of the receiver.

The receiver once more, with the two things the other model leaves out: every
array access checks its index, and every narrowing cast of the source is
written. An access out of bounds gives `none`. On every run it is the receiver of
the other modules.
-/

set_option autoImplicit false

namespace DiagnosticGateway.Isotp
open BigEndian Buffer Traces

def writeByte (buffer : Vector UInt8 maxPayloadSize) (index : Nat) (value : UInt8) :
    Option (Vector UInt8 maxPayloadSize) :=
  if index < maxPayloadSize then some (buffer.setIfInBounds index value) else none

/-- The copy loops: `buffer[offset + i] = frame[start + i]` for `i < count`. -/
def copyBytes (frame : Bytes) (start : Nat) (buffer : Vector UInt8 maxPayloadSize) (offset : Nat) :
    Nat → Option (Vector UInt8 maxPayloadSize)
  | 0 => some buffer
  | count + 1 => do
    let value ← frame[start]?
    let buffer ← writeByte buffer offset value
    copyBytes frame (start + 1) buffer (offset + 1) count

def decodeSingleFrameChecked (frame : Bytes) : Option (Except Result Nat) :=
  if frame.length < sfPciLen then some (.error .errInvalidLength)
  else do
    let first ← frame[0]?
    if frameType [first] ≠ .single then return .error .errNotSingleFrame
    let sfDl := pciLow [first]
    if sfDl = 0 ∨ sfDl > sfMaxPayload then return .error .errInvalidLength
    if (sfPciLen + sfDl.toNat) % 0x100 > frame.length then return .error .errTruncatedFrame
    return .ok sfDl.toNat

def handleSingleFrameChecked (ctx : RxContext) (frame : Bytes) : Option (RxContext × RxResult) := do
  match ← decodeSingleFrameChecked frame with
  | .error res => return rejectFrame ctx res
  | .ok payloadLen =>
    let ctx := if ctx.state ≠ .idle then ctx.goIdle else ctx
    let buffer ← copyBytes frame sfPciLen ctx.buffer 0 payloadLen
    let ctx := { ctx with buffer, receivedLength := payloadLen, expectedLength := payloadLen }.countMessage
    return (ctx, .ready (readPrefix ctx.buffer payloadLen))

def announcedLengthChecked (frame : Bytes) : Option (Option (UInt32 × Nat)) :=
  if frame.length < ffPciLen then some none
  else do
    let first ← frame[0]?
    let second ← frame[1]?
    let ffDl := ((pciLow [first]).toUInt32 <<< 8) ||| second.toUInt32
    if ffDl ≠ 0 then return some (ffDl, ffPciLen)
    if frame.length < ffEscapePciLen then return none
    let byte2 ← frame[2]?
    let byte3 ← frame[3]?
    let byte4 ← frame[4]?
    let byte5 ← frame[5]?
    return some ((byte2.toUInt32 <<< 24) ||| (byte3.toUInt32 <<< 16) ||| (byte4.toUInt32 <<< 8) ||| byte5.toUInt32,
      ffEscapePciLen)

def handleFirstFrameChecked (ctx : RxContext) (frame : Bytes) : Option (RxContext × RxResult) := do
  match ← announcedLengthChecked frame with
  | none => return rejectFrame ctx .errTruncatedFrame
  | some (ffDl, headerLen) =>
    if ffDl.toNat < ffMinLength then return rejectFrame ctx .errInvalidLength
    if ffDl.toNat > maxPayloadSize then
      return (ctx.countOverflow.goIdle, buildFlowControl .overflow .errOverflow)
    if frame.length ≤ headerLen then return rejectFrame ctx .errTruncatedFrame
    let copyLen := (frame.length - headerLen) % 0x100
    let copyLen := if copyLen > ffDl.toNat then ffDl.toNat % 0x100 else copyLen
    let buffer ← copyBytes frame headerLen ctx.buffer 0 copyLen
    return ({ ctx with buffer, receivedLength := copyLen }.openTransfer (ffDl.toNat % 0x10000),
      buildFlowControl .continueToSend .ok)

def handleConsecutiveFrameChecked (ctx : RxContext) (frame : Bytes) : Option (RxContext × RxResult) :=
  if ctx.state ≠ .waitConsecutive then some (rejectFrame ctx .errUnexpectedFrame)
  else if frame.length < cfPciLen + 1 then some (rejectFrame ctx .errTruncatedFrame)
  else do
    let first ← frame[0]?
    if pciLow [first] ≠ ctx.nextSequenceNumber then
      return abortTransfer ctx.countSequenceError .errSequenceNumber
    let available := (frame.length - cfPciLen) % 0x100
    let copyLen := if available > ctx.remaining then ctx.remaining % 0x100 else available
    if ctx.receivedLength + copyLen > maxPayloadSize then return abortTransfer ctx.countOverflow .errOverflow
    let buffer ← copyBytes frame cfPciLen ctx.buffer ctx.receivedLength copyLen
    let ctx := { ctx with buffer, receivedLength := (ctx.receivedLength + copyLen) % 0x10000 }.nextFrame
    if ctx.receivedLength ≥ ctx.expectedLength then
      return (ctx.countMessage.goIdle, .ready (readPrefix ctx.buffer ctx.expectedLength))
    return (ctx, .clear)

def processChecked (ctx : RxContext) (frame : Bytes) (nowMs : UInt32) : Option (RxContext × RxResult) :=
  if frame.length < 1 then some (rejectFrame ctx .errInvalidLength)
  else do
    let ctx := ctx.countFrame nowMs
    let first ← frame[0]?
    match frameType [first] with
    | .single => handleSingleFrameChecked ctx frame
    | .first => handleFirstFrameChecked ctx frame
    | .consecutive => handleConsecutiveFrameChecked ctx frame
    | .flowControl => return rejectFrame ctx .errUnexpectedFrame
    | .reserved => return rejectFrame ctx .errUnexpectedFrame

section
variable {frame : Bytes}

theorem read_within {index : Nat} (within : index < frame.length) : frame[index]? = some (byteAt frame index) := by
  rw [byteAt, List.getD_eq_getElem?_getD, List.getElem?_eq_getElem within, Option.getD_some]

theorem copyBytes_within (start : Nat) (buffer : Vector UInt8 maxPayloadSize) (offset count : Nat)
    (readable : start + count ≤ frame.length) (writable : offset + count ≤ maxPayloadSize) :
    copyBytes frame start buffer offset count =
      some (writeBlock buffer offset ((frame.drop start).take count)) := by
  induction count generalizing start buffer offset with
  | zero => simp [copyBytes, writeBlock]
  | succ count ih =>
    have here : start < frame.length := by omega
    have room : offset < maxPayloadSize := by omega
    have next := ih (start + 1) (buffer.setIfInBounds offset (byteAt frame start)) (offset + 1) (by omega) (by omega)
    have block : (frame.drop start).take (count + 1) =
        byteAt frame start :: (frame.drop (start + 1)).take count := by
      rw [List.drop_eq_getElem_cons here, List.take_succ_cons, byteAt, List.getD_eq_getElem?_getD,
        List.getElem?_eq_getElem here, Option.getD_some]
    rw [copyBytes, read_within here, block, writeBlock, ← next]
    simp [writeByte, room]

/-! ## The checked receiver is the receiver -/

theorem frameType_first (frame : Bytes) : frameType [byteAt frame 0] = frameType frame := rfl

theorem pciLow_first (frame : Bytes) : pciLow [byteAt frame 0] = pciLow frame := rfl

theorem decodeSingleFrameChecked_eq (frame : Bytes) :
    decodeSingleFrameChecked frame = some ((decodeSingleFrame frame).map List.length) := by
  unfold decodeSingleFrameChecked decodeSingleFrame
  by_cases empty : frame.length < sfPciLen
  · rw [if_pos empty, if_pos empty]
    rfl
  · have here : 0 < frame.length := Nat.lt_of_lt_of_le (by decide) (Nat.not_lt.mp empty)
    simp only [if_neg empty, read_within here, Option.bind_eq_bind, Option.bind_some]
    rw [frameType_first, pciLow_first]
    by_cases other : frameType frame ≠ .single
    · rw [if_pos other, if_pos other]
      rfl
    · rw [if_neg other, if_neg other]
      by_cases bounds : pciLow frame = 0 ∨ pciLow frame > sfMaxPayload
      · rw [if_pos bounds, if_pos bounds]
        rfl
      · have small : (pciLow frame).toNat ≤ 7 := UInt8.le_iff_toNat_le.mp (UInt8.not_lt.mp (not_or.mp bounds).2)
        have narrow : (sfPciLen + (pciLow frame).toNat) % 0x100 = sfPciLen + (pciLow frame).toNat :=
          Nat.mod_eq_of_lt (by simp only [sfPciLen]; omega)
        rw [if_neg bounds, if_neg bounds, narrow]
        by_cases truncated : sfPciLen + (pciLow frame).toNat > frame.length
        · rw [if_pos truncated, if_pos truncated]
          rfl
        · have whole : (pciLow frame).toNat ≤ (frame.drop sfPciLen).length := by
            rw [List.length_drop]
            omega
          rw [if_neg truncated, if_neg truncated, Except.map, List.length_take_of_le whole]
          rfl

theorem handleSingleFrameChecked_eq (ctx : RxContext) (frame : Bytes) :
    handleSingleFrameChecked ctx frame = some (handleSingleFrame ctx frame) := by
  rw [handleSingleFrameChecked, handleSingleFrame, decodeSingleFrameChecked_eq]
  cases decoded : decodeSingleFrame frame with
  | error res => rfl
  | ok payload =>
    obtain ⟨-, positive, short, same⟩ := decodeSingleFrame_ok decoded
    have readable : sfPciLen + payload.length ≤ frame.length := by
      have length := congrArg List.length same
      rw [List.length_take, List.length_drop] at length
      simp only [sfPciLen] at *
      omega
    have copied : ∀ buffer, copyBytes frame sfPciLen buffer 0 payload.length = some (writeBlock buffer 0 payload) := by
      intro buffer
      have writable : 0 + payload.length ≤ maxPayloadSize := by
        simp only [maxPayloadSize]
        omega
      rw [copyBytes_within _ _ _ _ readable writable, ← same]
    simp only [Except.map, copied, Option.bind_eq_bind, Option.bind_some, RxContext.store, Nat.zero_add]
    rfl

theorem announcedLengthChecked_eq (frame : Bytes) :
    announcedLengthChecked frame =
      some ((announcedLength frame).map fun (ffDl, headerLen) => (UInt32.ofNat ffDl, headerLen)) := by
  unfold announcedLengthChecked announcedLength
  by_cases short : frame.length < ffPciLen
  · rw [if_pos short, if_pos short]
    rfl
  · have long : 2 ≤ frame.length := Nat.not_lt.mp short
    simp only [if_neg short, read_within (by omega : 0 < frame.length), read_within (by omega : 1 < frame.length),
      Option.bind_eq_bind, Option.bind_some]
    rw [pciLow_first]
    by_cases plain : (pciLow frame).toUInt32 <<< 8 ||| (byteAt frame 1).toUInt32 = 0
    · rw [if_neg (not_not.mpr plain), if_pos plain]
      by_cases truncated : frame.length < ffEscapePciLen
      · rw [if_pos truncated, if_pos truncated]
        rfl
      · have long : 6 ≤ frame.length := Nat.not_lt.mp truncated
        simp only [if_neg truncated, read_within (by omega : 2 < frame.length), read_within (by omega : 3 < frame.length),
          read_within (by omega : 4 < frame.length), read_within (by omega : 5 < frame.length),
          Option.bind_some, Option.map_some, UInt32.ofNat_toNat]
        rfl
    · rw [if_pos plain, if_neg plain]
      simp only [Option.map_some, UInt32.ofNat_toNat]
      rfl

theorem announcedLength_some {ffDl headerLen : Nat} (announced : announcedLength frame = some (ffDl, headerLen)) :
    (∃ length : UInt32, ffDl = length.toNat) ∧ (headerLen = ffPciLen ∨ headerLen = ffEscapePciLen) := by
  rw [announcedLength] at announced
  split at announced
  · cases announced
  · dsimp only at announced
    split at announced
    · split at announced
      · cases announced
      · cases announced
        exact ⟨⟨_, rfl⟩, .inr rfl⟩
    · cases announced
      exact ⟨⟨_, rfl⟩, .inl rfl⟩

theorem announcedLength_word {ffDl headerLen : Nat} (announced : announcedLength frame = some (ffDl, headerLen)) :
    (UInt32.ofNat ffDl).toNat = ffDl := by
  obtain ⟨⟨length, rfl⟩, -⟩ := announcedLength_some announced
  rw [UInt32.ofNat_toNat]

theorem clipped_narrow {count limit : Nat} (small : count < 0x100) :
    (if count % 0x100 > limit then limit % 0x100 else count % 0x100) = if count > limit then limit else count := by
  rw [Nat.mod_eq_of_lt small]
  split
  · rename_i ended
    exact Nat.mod_eq_of_lt (Nat.lt_trans ended small)
  · rfl

theorem handleFirstFrameChecked_eq (ctx : RxContext) {frame : Bytes} (short : frame.length ≤ 255) :
    handleFirstFrameChecked ctx frame = some (handleFirstFrame ctx frame) := by
  rw [handleFirstFrameChecked, handleFirstFrame, announcedLengthChecked_eq]
  cases announced : announcedLength frame with
  | none => rfl
  | some header =>
    obtain ⟨ffDl, headerLen⟩ := header
    simp only [Option.map_some, Option.bind_eq_bind, Option.bind_some, announcedLength_word announced]
    by_cases small : ffDl < ffMinLength
    · rw [if_pos small, if_pos small]
      rfl
    · by_cases large : ffDl > maxPayloadSize
      · rw [if_neg small, if_neg small, if_pos large, if_pos large]
        rfl
      · by_cases bare : frame.length ≤ headerLen
        · rw [if_neg small, if_neg small, if_neg large, if_neg large, if_pos bare, if_pos bare]
          rfl
        · have fits : ffDl ≤ 4095 := Nat.not_lt.mp large
          have narrow : frame.length - headerLen < 0x100 := by omega
          have length := clipped_length frame headerLen ffDl
          have writable : 0 + ((frame.drop headerLen).take ffDl).length ≤ maxPayloadSize := by
            rw [List.length_take]
            simp only [maxPayloadSize]
            omega
          have readable : headerLen + ((frame.drop headerLen).take ffDl).length ≤ frame.length := by
            rw [List.length_take, List.length_drop]
            omega
          rw [if_neg small, if_neg small, if_neg large, if_neg large, if_neg bare, if_neg bare]
          rw [clipped_narrow narrow, length, copyBytes_within _ _ _ _ readable writable,
            Nat.mod_eq_of_lt (by omega : ffDl < 0x10000), take_length_take]
          simp only [Option.bind_some, RxContext.store, Nat.zero_add]
          rfl

theorem handleConsecutiveFrameChecked_eq {ctx : RxContext} {frame : Bytes} (short : frame.length ≤ 255)
    (received : ctx.receivedLength ≤ ctx.expectedLength) (expected : ctx.expectedLength ≤ maxPayloadSize) :
    handleConsecutiveFrameChecked ctx frame = some (handleConsecutiveFrame ctx frame) := by
  rw [handleConsecutiveFrameChecked, handleConsecutiveFrame]
  by_cases idle : ctx.state ≠ .waitConsecutive
  · rw [if_pos idle, if_pos idle]
  · by_cases bare : frame.length < cfPciLen + 1
    · rw [if_neg idle, if_neg idle, if_pos bare, if_pos bare]
    · have long : 2 ≤ frame.length := Nat.not_lt.mp bare
      rw [if_neg idle, if_neg idle, if_neg bare, if_neg bare]
      simp only [read_within (by omega : 0 < frame.length), Option.bind_eq_bind, Option.bind_some]
      rw [pciLow_first]
      by_cases wrong : pciLow frame ≠ ctx.nextSequenceNumber
      · have wrongNumber : sequenceNumber frame ≠ ctx.nextSequenceNumber := wrong
        rw [if_pos wrong, if_pos wrongNumber]
        rfl
      · have right : ¬ sequenceNumber frame ≠ ctx.nextSequenceNumber := wrong
        have narrow : frame.length - cfPciLen < 0x100 := by
          simp only [cfPciLen]
          omega
        have remaining : ctx.receivedLength + ctx.remaining = ctx.expectedLength := by
          simp only [RxContext.remaining, maxPayloadSize] at *
          omega
        have size : (ctx.block frame).length ≤ ctx.remaining := List.length_take_le _ _
        have writable : ctx.receivedLength + (ctx.block frame).length ≤ maxPayloadSize := by omega
        have readable : cfPciLen + (ctx.block frame).length ≤ frame.length := by
          rw [RxContext.block, List.length_take, List.length_drop]
          simp only [cfPciLen]
          omega
        have fits : ctx.receivedLength + (ctx.block frame).length < 0x10000 := by
          simp only [maxPayloadSize] at writable
          omega
        rw [if_neg wrong, if_neg right, clipped_narrow narrow]
        rw [clipped_length, take_length_take]
        have same : (frame.drop cfPciLen).take ctx.remaining = ctx.block frame := rfl
        rw [same, if_neg (Nat.not_lt.mpr writable), if_neg (Nat.not_lt.mpr writable),
          copyBytes_within _ _ _ _ readable writable, Nat.mod_eq_of_lt fits]
        have block : (frame.drop cfPciLen).take (ctx.block frame).length = ctx.block frame :=
          take_length_take _ _
        rw [block, Option.bind_some]
        rw [RxContext.nextFrame_expectedLength, RxContext.nextFrame_expectedLength, RxContext.store_expectedLength]
        by_cases whole : ctx.receivedLength + (ctx.block frame).length ≥ ctx.expectedLength
        · exact (if_pos whole).trans (congrArg some (if_pos whole).symm)
        · exact (if_neg whole).trans (congrArg some (if_neg whole).symm)

theorem processChecked_eq {ctx : RxContext} {frame : Bytes} (short : frame.length ≤ 255)
    (received : ctx.receivedLength ≤ ctx.expectedLength) (expected : ctx.expectedLength ≤ maxPayloadSize)
    (nowMs : UInt32) : processChecked ctx frame nowMs = some (process ctx frame nowMs) := by
  rw [processChecked, process]
  by_cases empty : frame.length < 1
  · rw [if_pos empty, if_pos empty]
  · rw [if_neg empty, if_neg empty]
    simp only [read_within (by omega : 0 < frame.length), Option.bind_eq_bind, Option.bind_some]
    rw [frameType_first]
    cases frameType frame with
    | single => exact handleSingleFrameChecked_eq _ frame
    | first => exact handleFirstFrameChecked_eq _ short
    | consecutive => exact handleConsecutiveFrameChecked_eq short received expected
    | flowControl | reserved => rfl

end

/-! ## Bounds of the context -/

structure Bounded (ctx : RxContext) : Prop where
  received : ctx.receivedLength ≤ ctx.expectedLength
  expected : ctx.expectedLength ≤ maxPayloadSize
  numbered : ctx.nextSequenceNumber ≤ 15

def Unfinished (ctx : RxContext) : Prop :=
  ctx.state = .waitConsecutive → ffMinLength ≤ ctx.expectedLength ∧ ctx.receivedLength < ctx.expectedLength

/-- The frames a CAN bus carries. -/
def RxAction.OnBus : RxAction → Prop
  | .frame bytes _ => bytes.length ≤ canFrameSize
  | .pollTimeout _ => True

/-- The frames the type of `frame_len` admits. -/
def RxAction.Admitted : RxAction → Prop
  | .frame bytes _ => bytes.length ≤ 255
  | .pollTimeout _ => True

section
variable {ctx : RxContext} {frame : Bytes}

theorem Bounded.idle (idle : ctx.expectedLength = 0 ∧ ctx.receivedLength = 0 ∧ ctx.nextSequenceNumber = 0) :
    Bounded ctx := by
  obtain ⟨expected, received, number⟩ := idle
  constructor
  · rw [received]
    exact Nat.zero_le _
  · rw [expected]
    exact Nat.zero_le _
  · rw [number]
    decide

theorem Bounded.remaining (bounded : Bounded ctx) : ctx.receivedLength + ctx.remaining = ctx.expectedLength := by
  have received := bounded.received
  have expected := bounded.expected
  simp only [RxContext.remaining, maxPayloadSize] at *
  omega

theorem Bounded.block (bounded : Bounded ctx) (frame : Bytes) :
    ctx.receivedLength + (ctx.block frame).length ≤ ctx.expectedLength := by
  have size : (ctx.block frame).length ≤ ctx.remaining := List.length_take_le _ _
  have remaining := bounded.remaining
  omega

theorem nextSequenceNumber_le (number : UInt8) : (number + 1) &&& pciLowMask ≤ 15 := UInt8.and_le_right

theorem Bounded.process (bounded : Bounded ctx) (frame : Bytes) (nowMs : UInt32) :
    Bounded (Isotp.process ctx frame nowMs).1 := by
  have processed := process_processed ctx frame nowMs
  generalize Isotp.process ctx frame nowMs = outcome at processed ⊢
  cases processed with
  | empty nothing => exact ⟨bounded.received, bounded.expected, bounded.numbered⟩
  | rejected reason failure passes => exact ⟨bounded.received, bounded.expected, bounded.numbered⟩
  | single base payload decoded idle same =>
    have short := (decodeSingleFrame_ok decoded).2.2.1
    have number : base.nextSequenceNumber ≤ 15 := by
      rcases same with rfl | rfl
      · exact bounded.numbered
      · exact UInt8.zero_le
    refine ⟨by simp, ?_, number⟩
    simp only [RxContext.countMessage_expectedLength, RxContext.expect_expectedLength, maxPayloadSize]
    omega
  | opened length payload opens =>
    refine ⟨?_, opens.fits, (by decide : (1 : UInt8) ≤ 15)⟩
    simp only [RxContext.openTransfer_receivedLength, RxContext.openTransfer_expectedLength,
      RxContext.store_receivedLength, List.length_take, Nat.zero_add]
    exact Nat.min_le_left _ _
  | overflowed overflows => exact .idle ⟨rfl, rfl, rfl⟩
  | outOfSequence waiting consecutive wrong => exact .idle ⟨rfl, rfl, rfl⟩
  | tooLong waiting consecutive excess => exact .idle ⟨rfl, rfl, rfl⟩
  | extended waiting consecutive right fits short =>
    refine ⟨?_, ?_, nextSequenceNumber_le _⟩
    · rw [extended_expectedLength]
      exact bounded.block frame
    · rw [extended_expectedLength]
      exact bounded.expected
  | completed waiting consecutive right fits whole => exact .idle ⟨rfl, rfl, rfl⟩

theorem Bounded.pollTimeout (bounded : Bounded ctx) (nowMs : UInt32) : Bounded (Isotp.pollTimeout ctx nowMs).1 := by
  rcases pollTimeout_cases ctx nowMs with same | ⟨_, _, same⟩
  · rw [same]
    exact bounded
  · rw [same]
    exact .idle ⟨rfl, rfl, rfl⟩

theorem Bounded.step (bounded : Bounded ctx) (action : RxAction) : Bounded (rxStep ctx action).1 := by
  cases action with
  | frame bytes nowMs => exact bounded.process bytes nowMs
  | pollTimeout nowMs => exact bounded.pollTimeout nowMs

theorem announcedLength_header {length headerLen : Nat} (announced : announcedLength frame = some (length, headerLen)) :
    ffPciLen ≤ headerLen := by
  obtain ⟨-, rfl | rfl⟩ := announcedLength_some announced
  · exact Nat.le_refl _
  · exact (by decide : ffPciLen ≤ ffEscapePciLen)

theorem Opens.partial_payload {length : Nat} {payload : Bytes} (opens : Opens frame length payload)
    (onBus : frame.length ≤ canFrameSize) : (payload.take length).length < length := by
  obtain ⟨headerLen, announced, rfl⟩ := opens.announced
  have header := announcedLength_header announced
  have long := opens.long
  rw [List.length_take, List.length_drop]
  simp only [canFrameSize, ffPciLen, ffMinLength] at *
  omega

theorem Unfinished.idle (idle : ctx.state = .idle) : Unfinished ctx := by
  intro waiting
  rw [idle] at waiting
  cases waiting

theorem Unfinished.process (unfinished : Unfinished ctx) (onBus : frame.length ≤ canFrameSize) (nowMs : UInt32) :
    Unfinished (Isotp.process ctx frame nowMs).1 := by
  have processed := process_processed ctx frame nowMs
  generalize Isotp.process ctx frame nowMs = outcome at processed ⊢
  cases processed with
  | empty nothing => exact unfinished
  | rejected reason failure passes => exact unfinished
  | single base payload decoded idle same => exact .idle idle
  | opened length payload opens =>
    intro _
    refine ⟨opens.long, ?_⟩
    simpa using opens.partial_payload onBus
  | overflowed overflows => exact .idle rfl
  | outOfSequence waiting consecutive wrong => exact .idle rfl
  | tooLong waiting consecutive excess => exact .idle rfl
  | extended waiting consecutive right fits short =>
    intro _
    rw [extended_expectedLength]
    exact ⟨(unfinished waiting).1, short⟩
  | completed waiting consecutive right fits whole => exact .idle rfl

theorem Unfinished.step (unfinished : Unfinished ctx) {action : RxAction} (onBus : action.OnBus) :
    Unfinished (rxStep ctx action).1 := by
  cases action with
  | frame bytes nowMs => exact unfinished.process onBus nowMs
  | pollTimeout nowMs =>
    simp only [rxStep]
    rcases pollTimeout_cases ctx nowMs with same | ⟨_, _, same⟩
    · rw [same]
      exact unfinished
    · rw [same]
      exact .idle rfl

theorem process_progress (bounded : Bounded ctx) (waiting : ctx.state = .waitConsecutive)
    (consecutive : IsConsecutive frame) (right : sequenceNumber frame = ctx.nextSequenceNumber) (nowMs : UInt32) :
    (process ctx frame nowMs).2.event = .messageReady ∨
      ((process ctx frame nowMs).1.state = .waitConsecutive ∧
        ctx.receivedLength < (process ctx frame nowMs).1.receivedLength) := by
  have fits := Nat.le_trans (bounded.block frame) bounded.expected
  rw [process_awaited waiting consecutive right fits]
  split
  · exact .inl rfl
  · rename_i short
    have carries : 0 < (ctx.block frame).length := by
      have long := consecutive.2
      have remaining := bounded.remaining
      rw [RxContext.block, List.length_take, List.length_drop] at short ⊢
      simp only [cfPciLen] at short ⊢
      omega
    exact .inr ⟨(extended_state ctx nowMs _ _).trans waiting, Nat.lt_add_of_pos_right carries⟩

end

section
variable (buffer : Vector UInt8 maxPayloadSize)

theorem bounded_run (actions : List RxAction) : Bounded (final rxStep (.init buffer) actions) :=
  state_invariant rxStep Bounded (.idle ⟨rfl, rfl, rfl⟩) (fun _ action bounded => bounded.step action) actions

theorem unfinished_run (actions : List RxAction) (onBus : ∀ action ∈ actions, action.OnBus) :
    Unfinished (final rxStep (.init buffer) actions) := by
  induction actions using List.reverseRecOn with
  | nil => exact .idle rfl
  | append_singleton actions action ih =>
    rw [final_concat]
    exact (ih fun earlier member => onBus earlier (List.mem_append_left _ member)).step (onBus action (by simp))

def WithinArrays (e : RxStep) : Prop :=
  ∀ frame nowMs, e.action = .frame frame nowMs → processChecked e.before frame nowMs = some (e.after, e.output)

/-- An awaited Consecutive Frame completes its message or brings it closer. -/
def Progresses (e : RxStep) : Prop :=
  ∀ frame nowMs, e.action = .frame frame nowMs → e.before.state = .waitConsecutive → IsConsecutive frame →
    sequenceNumber frame = e.before.nextSequenceNumber →
    e.output.event = .messageReady ∨
      (e.after.state = .waitConsecutive ∧ e.before.receivedLength < e.after.receivedLength)

/-- The receiver never leaves its arrays, and on a CAN bus it makes progress. -/
theorem receiver_bounded (actions : List RxAction) (admitted : ∀ action ∈ actions, action.Admitted) :
    (∀ e ∈ trace rxStep (.init buffer) actions, WithinArrays e) ∧
    Bounded (final rxStep (.init buffer) actions) ∧
    ((final rxStep (.init buffer) actions).state = .idle ∨
      (final rxStep (.init buffer) actions).state = .waitConsecutive) ∧
    ((∀ action ∈ actions, action.OnBus) →
      Unfinished (final rxStep (.init buffer) actions) ∧
      ∀ e ∈ trace rxStep (.init buffer) actions, Progresses e) := by
  refine ⟨?_, bounded_run buffer actions, ?_, fun onBus => ⟨unfinished_run buffer actions onBus, ?_⟩⟩
  · intro e member frame nowMs isFrame
    obtain ⟨done, action, rest, rfl, rfl⟩ := mem_trace rxStep member
    have bounded := bounded_run buffer done
    cases isFrame
    have short := admitted (.frame frame nowMs) (by simp)
    exact processChecked_eq short bounded.received bounded.expected nowMs
  · cases (final rxStep (.init buffer) actions).state
    · exact .inl rfl
    · exact .inr rfl
  · intro e member frame nowMs isFrame waiting consecutive right
    obtain ⟨done, action, rest, rfl, rfl⟩ := mem_trace rxStep member
    cases isFrame
    exact process_progress (bounded_run buffer done) waiting consecutive right nowMs

end

/-- A First Frame of 8 bytes and the Consecutive Frame behind it. -/
theorem receiver_bounded_eight :
    let actions := [.frame [0x10, 8, 1, 2, 3, 4, 5, 6] 0, .frame [0x21, 7, 8, 0, 0, 0, 0, 0] 1]
    (∀ e ∈ trace rxStep (.init (.replicate maxPayloadSize 0)) actions, WithinArrays e ∧ Progresses e) ∧
      Bounded (final rxStep (.init (.replicate maxPayloadSize 0)) actions) := by
  have onBus : ∀ action ∈ [RxAction.frame [0x10, 8, 1, 2, 3, 4, 5, 6] 0, .frame [0x21, 7, 8, 0, 0, 0, 0, 0] 1],
      action.OnBus ∧ action.Admitted := by
    intro action member
    simp only [List.mem_cons, List.not_mem_nil, or_false] at member
    rcases member with rfl | rfl
    · exact ⟨Nat.le_refl 8, (by decide : 8 ≤ 255)⟩
    · exact ⟨Nat.le_refl 8, (by decide : 8 ≤ 255)⟩
  obtain ⟨within, bounded, _, progress⟩ :=
    receiver_bounded (.replicate maxPayloadSize 0) _ fun action member => (onBus action member).2
  have progresses := (progress fun action member => (onBus action member).1).2
  exact ⟨fun e member => ⟨within e member, progresses e member⟩, bounded⟩

end DiagnosticGateway.Isotp
