import DiagnosticGateway.Library.BigEndian

/-! Isolated ISO-TP frames (`isotp.h`, `isotp.c`). A frame is the list of its
bytes, so `frame_len` is its length: at most 8 on the bus, at most 255 in the
type of `frame_len`.
-/

set_option autoImplicit false

namespace DiagnosticGateway.Isotp
open BigEndian

abbrev canFrameSize : Nat := 8
abbrev sfMaxPayload : UInt8 := 7
abbrev ffFirstPayload : Nat := 6
abbrev cfMaxPayload : Nat := 7
abbrev ffMinLength : Nat := 8
abbrev maxPayloadSize : Nat := 4095
abbrev paddingByte : UInt8 := 0x00
abbrev nBsTimeoutMs : UInt32 := 1000
abbrev nCrTimeoutMs : UInt32 := 1000

abbrev pciTypeShift : UInt8 := 4
abbrev pciTypeMask : UInt8 := 0x0F
abbrev pciLowMask : UInt8 := 0x0F

abbrev sfPciLen : Nat := 1
abbrev ffPciLen : Nat := 2
abbrev ffEscapePciLen : Nat := 6
abbrev cfPciLen : Nat := 1
abbrev fcPciLen : Nat := 3

inductive Result where
  | ok
  | errNullPointer
  | errBufferTooSmall
  | errInvalidLength
  | errNotSingleFrame
  | errTruncatedFrame
  | errUnexpectedFrame
  | errSequenceNumber
  | errOverflow
  | errTimeout
  | errAborted
  | errBusy
  deriving DecidableEq, Repr

/-- The high half of the first byte. Types 4 to 15 do not exist in the standard. -/
inductive FrameType where
  | single
  | first
  | consecutive
  | flowControl
  | reserved
  deriving DecidableEq, Repr

def FrameType.code : FrameType → UInt8
  | .single => 0x0
  | .first => 0x1
  | .consecutive => 0x2
  | .flowControl => 0x3
  | .reserved => 0x4

def frameType (frame : Bytes) : FrameType :=
  let type := (byteAt frame 0 >>> pciTypeShift) &&& pciTypeMask
  if type = FrameType.single.code then .single
  else if type = FrameType.first.code then .first
  else if type = FrameType.consecutive.code then .consecutive
  else if type = FrameType.flowControl.code then .flowControl
  else .reserved

def getFrameType (frame : Bytes) : Except Result FrameType :=
  if frame.length < 1 then .error .errInvalidLength else .ok (frameType frame)

def pciLow (frame : Bytes) : UInt8 := byteAt frame 0 &&& pciLowMask

theorem frameType_header (type : FrameType) (number : UInt8) (rest : Bytes) :
    frameType (((type.code <<< pciTypeShift) ||| (number &&& pciLowMask)) :: rest) = type := by
  have all : ∀ low < 16, frameType [(type.code <<< pciTypeShift) ||| UInt8.ofNat low] = type := by
    cases type <;> decide
  have small : (number &&& pciLowMask).toNat < 16 :=
    Nat.lt_succ_of_le (UInt8.le_iff_toNat_le.mp UInt8.and_le_right)
  have header := all _ small
  rwa [UInt8.ofNat_toNat] at header

theorem nextNumber (count : Nat) :
    (UInt8.ofNat (count % 16) + 1) &&& pciLowMask = UInt8.ofNat ((count + 1) % 16) := by
  have all : ∀ low < 16, (UInt8.ofNat low + 1) &&& pciLowMask = UInt8.ofNat ((low + 1) % 16) := by decide
  rw [all _ (Nat.mod_lt _ (by decide)), Nat.mod_add_mod]

/-! ## Single Frame -/

def encodeSingleFrame (payload : Bytes) (frameCapacity : Nat) : Except Result Bytes :=
  if payload.length = 0 ∨ payload.length > sfMaxPayload.toNat then .error .errInvalidLength
  else if frameCapacity < canFrameSize then .error .errBufferTooSmall
  else
    .ok (((FrameType.single.code <<< pciTypeShift) ||| (UInt8.ofNat payload.length &&& pciLowMask)) ::
      payload ++ List.replicate (canFrameSize - (sfPciLen + payload.length)) paddingByte)

def decodeSingleFrame (frame : Bytes) : Except Result Bytes :=
  if frame.length < sfPciLen then .error .errInvalidLength
  else if frameType frame ≠ .single then .error .errNotSingleFrame
  else
    let sfDl := pciLow frame
    if sfDl = 0 ∨ sfDl > sfMaxPayload then .error .errInvalidLength
    else if sfPciLen + sfDl.toNat > frame.length then .error .errTruncatedFrame
    else .ok ((frame.drop sfPciLen).take sfDl.toNat)

theorem decodeSingleFrame_ok {frame payload : Bytes} (decoded : decodeSingleFrame frame = .ok payload) :
    frameType frame = .single ∧ 0 < payload.length ∧ payload.length ≤ 7 ∧
      payload = (frame.drop sfPciLen).take payload.length := by
  simp only [decodeSingleFrame] at decoded
  split at decoded
  · cases decoded
  · split at decoded
    · cases decoded
    · rename_i single
      split at decoded
      · cases decoded
      · rename_i bounds
        split at decoded
        · cases decoded
        · rename_i fits
          obtain ⟨nonzero, small⟩ := not_or.mp bounds
          have positive : 0 < (pciLow frame).toNat :=
            Nat.pos_of_ne_zero fun zero => nonzero (UInt8.toNat_inj.mp zero)
          have small : (pciLow frame).toNat ≤ 7 := UInt8.le_iff_toNat_le.mp (UInt8.not_lt.mp small)
          have whole : (pciLow frame).toNat ≤ (frame.drop sfPciLen).length := by
            rw [List.length_drop]
            exact Nat.le_sub_of_add_le' (Nat.not_lt.mp fits)
          cases decoded
          rw [List.length_take_of_le whole]
          exact ⟨not_not.mp single, positive, small, rfl⟩

theorem decodeSingleFrame_error (frame : Bytes) : decodeSingleFrame frame ≠ .error .ok := by
  simp only [decodeSingleFrame]
  repeat' split
  all_goals simp

theorem decodeSingleFrame_cons {header : UInt8} {rest : Bytes} {length : Nat}
    (single : frameType [header] = .single) (low : pciLow [header] = UInt8.ofNat length)
    (positive : 0 < length) (small : length ≤ 7) (whole : length ≤ rest.length) :
    decodeSingleFrame (header :: rest) = .ok (rest.take length) := by
  have size : (UInt8.ofNat length).toNat = length := Nat.mod_eq_of_lt (by omega)
  have bounds : ¬ (UInt8.ofNat length = 0 ∨ UInt8.ofNat length > sfMaxPayload) := by
    rintro (zero | large)
    · have zero := congrArg UInt8.toNat zero
      rw [size] at zero
      exact absurd zero (Nat.ne_of_gt positive)
    · have large := UInt8.lt_iff_toNat_lt.mp large
      rw [size] at large
      exact absurd large (Nat.not_lt.mpr small)
  have low : pciLow (header :: rest) = UInt8.ofNat length := low
  have single : frameType (header :: rest) = .single := single
  have fits : ¬ sfPciLen + (UInt8.ofNat length).toNat > (header :: rest).length := by
    rw [size, List.length_cons, Nat.add_comm]
    exact Nat.not_lt.mpr (Nat.succ_le_succ whole)
  rw [decodeSingleFrame, if_neg (by simp), if_neg (not_not.mpr single)]
  dsimp only
  rw [low, if_neg bounds, if_neg fits, size]
  rfl

theorem singleHeader_fields : ∀ length < 8,
    let header := (FrameType.single.code <<< pciTypeShift) ||| (UInt8.ofNat length &&& pciLowMask)
    frameType [header] = .single ∧ pciLow [header] = UInt8.ofNat length := by
  decide

theorem encodeSingleFrame_ok {payload : Bytes} (nonempty : payload.length ≠ 0) (short : payload.length ≤ 7) :
    ∃ frame, encodeSingleFrame payload canFrameSize = .ok frame := by
  have bounds : ¬ (payload.length = 0 ∨ payload.length > sfMaxPayload.toNat) :=
    not_or.mpr ⟨nonempty, Nat.not_lt.mpr short⟩
  rw [encodeSingleFrame, if_neg bounds, if_neg (Nat.lt_irrefl canFrameSize)]
  exact ⟨_, rfl⟩

theorem decodeSingleFrame_encodeSingleFrame {payload frame : Bytes} {frameCapacity : Nat}
    (encoded : encodeSingleFrame payload frameCapacity = .ok frame) : decodeSingleFrame frame = .ok payload := by
  simp only [encodeSingleFrame] at encoded
  split at encoded
  · cases encoded
  · rename_i bounds
    split at encoded
    · cases encoded
    · obtain ⟨nonempty, small⟩ := not_or.mp bounds
      have small : payload.length ≤ 7 := Nat.not_lt.mp small
      obtain ⟨single, low⟩ := singleHeader_fields payload.length (Nat.lt_succ_of_le small)
      cases encoded
      rw [List.cons_append, decodeSingleFrame_cons single low (Nat.pos_of_ne_zero nonempty) small (by simp),
        List.take_left]

/-! ## Flow Control -/

inductive FlowStatus where
  | continueToSend
  | wait
  | overflow
  deriving DecidableEq, Repr

def FlowStatus.code : FlowStatus → UInt8
  | .continueToSend => 0x0
  | .wait => 0x1
  | .overflow => 0x2

def encodeFlowControl (status : FlowStatus) (blockSize stmin : UInt8) (frameCapacity : Nat) : Except Result Bytes :=
  if frameCapacity < canFrameSize then .error .errBufferTooSmall
  else if status.code &&& ~~~pciLowMask ≠ 0 then .error .errInvalidLength
  else
    .ok (((FrameType.flowControl.code <<< pciTypeShift) ||| (status.code &&& pciLowMask)) :: blockSize :: stmin ::
      List.replicate (canFrameSize - fcPciLen) paddingByte)

def FlowStatus.ofCode (code : UInt8) : FlowStatus :=
  if code = FlowStatus.continueToSend.code then .continueToSend
  else if code = FlowStatus.wait.code then .wait
  else .overflow

def decodeFlowControl (frame : Bytes) : Except Result (FlowStatus × UInt8 × UInt8) :=
  if frame.length < fcPciLen then .error .errTruncatedFrame
  else if frameType frame ≠ .flowControl then .error .errUnexpectedFrame
  else
    let status := pciLow frame
    if status > FlowStatus.overflow.code then .error .errInvalidLength
    else .ok (.ofCode status, byteAt frame 1, byteAt frame 2)

/-- Microseconds round up to one millisecond, reserved values to the slowest. -/
def stminToMs (stmin : UInt8) : UInt8 :=
  if stmin ≤ 0x7F then stmin
  else if stmin ≥ 0xF1 ∧ stmin ≤ 0xF9 then 1
  else 0x7F

theorem flowControlHeader_fields (status : FlowStatus) :
    let header := (FrameType.flowControl.code <<< pciTypeShift) ||| (status.code &&& pciLowMask)
    status.code &&& ~~~pciLowMask = 0 ∧ frameType [header] = .flowControl ∧
      ¬ pciLow [header] > FlowStatus.overflow.code ∧ FlowStatus.ofCode (pciLow [header]) = status := by
  cases status <;> decide

theorem decodeFlowControl_encodeFlowControl (status : FlowStatus) (blockSize stmin : UInt8) :
    ∃ frame, encodeFlowControl status blockSize stmin canFrameSize = .ok frame ∧ frame.length = canFrameSize ∧
      decodeFlowControl frame = .ok (status, blockSize, stmin) := by
  obtain ⟨known, type, low, code⟩ := flowControlHeader_fields status
  refine ⟨_, by rw [encodeFlowControl, if_neg (Nat.lt_irrefl canFrameSize), if_neg (not_not.mpr known)], rfl, ?_⟩
  generalize (FrameType.flowControl.code <<< pciTypeShift) ||| (status.code &&& pciLowMask) = header at type low code ⊢
  have type : frameType (header :: blockSize :: stmin :: List.replicate (canFrameSize - fcPciLen) paddingByte) =
    .flowControl := type
  have field : pciLow (header :: blockSize :: stmin :: List.replicate (canFrameSize - fcPciLen) paddingByte) =
    pciLow [header] := rfl
  have long : ¬ (header :: blockSize :: stmin :: List.replicate (canFrameSize - fcPciLen) paddingByte).length < fcPciLen :=
    Nat.not_lt.mpr (Nat.le_add_left fcPciLen _)
  rw [decodeFlowControl, if_neg long, if_neg (not_not.mpr type)]
  dsimp only
  rw [field, if_neg low, code]
  rfl

end DiagnosticGateway.Isotp
