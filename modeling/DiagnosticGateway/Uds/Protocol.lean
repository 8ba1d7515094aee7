import DiagnosticGateway.Library.BigEndian

/-! Identifiers, context and application interface of the UDS server (`uds.h`).

Bytes, identifiers and clock values keep the widths of the source, so each
addition and subtraction below wraps as it does there. The fields
`seed_pending` and `locked_out` only ever hold 0 and 1 and are `Bool`s here.
Pointers are not modelled: every call is one whose pointers are not NULL, and
the application callbacks, installed once, are a parameter of the server.
-/

set_option autoImplicit false

namespace DiagnosticGateway.Uds
open BigEndian

abbrev sidDiagnosticSessionControl : UInt8 := 0x10
abbrev sidEcuReset : UInt8 := 0x11
abbrev sidClearDiagnosticInformation : UInt8 := 0x14
abbrev sidReadDtcInformation : UInt8 := 0x19
abbrev sidReadDataByIdentifier : UInt8 := 0x22
abbrev sidSecurityAccess : UInt8 := 0x27
abbrev sidTesterPresent : UInt8 := 0x3E

abbrev positiveResponseOffset : UInt8 := 0x40
abbrev negativeResponseSid : UInt8 := 0x7F
abbrev negativeResponseLen : Nat := 3

abbrev suppressPosRspBit : UInt8 := 0x80
abbrev subfunctionMask : UInt8 := 0x7F

abbrev nrcGeneralReject : UInt8 := 0x10
abbrev nrcServiceNotSupported : UInt8 := 0x11
abbrev nrcSubFunctionNotSupported : UInt8 := 0x12
abbrev nrcIncorrectMessageLength : UInt8 := 0x13
abbrev nrcResponseTooLong : UInt8 := 0x14
abbrev nrcConditionsNotCorrect : UInt8 := 0x22
abbrev nrcRequestOutOfRange : UInt8 := 0x31
abbrev nrcSecurityAccessDenied : UInt8 := 0x33
abbrev nrcInvalidKey : UInt8 := 0x35
abbrev nrcExceedNumberOfAttempts : UInt8 := 0x36
abbrev nrcRequiredTimeDelayNotExpired : UInt8 := 0x37
abbrev nrcSubFunctionNotSupportedInSession : UInt8 := 0x7E
abbrev nrcServiceNotSupportedInSession : UInt8 := 0x7F

abbrev maxResponseSize : Nat := 512

abbrev p2ServerMaxMs : UInt32 := 50
abbrev p2StarServerMaxMs : UInt32 := 5000
abbrev p2StarResolutionMs : UInt32 := 10
abbrev s3ServerTimeoutMs : UInt32 := 5000

abbrev securityRequestSeed : UInt8 := 0x01
abbrev securitySendKey : UInt8 := 0x02
abbrev securitySeedLen : Nat := 4
abbrev securityKeyLen : Nat := 4
abbrev securityMaxAttempts : UInt8 := 3
abbrev securityLockoutMs : UInt32 := 10000

abbrev dscRequestLen : Nat := 2
abbrev dscResponseLen : Nat := 6
abbrev rdbiRequestLen : Nat := 3
abbrev rdbiHeaderLen : Nat := 3
abbrev resetRequestLen : Nat := 2
abbrev resetHard : UInt8 := 0x01
abbrev resetSoft : UInt8 := 0x03
abbrev testerPresentLen : Nat := 2
abbrev testerPresentSubfn : UInt8 := 0x00
abbrev dtcReportByStatusMask : UInt8 := 0x02
abbrev rdtcRequestLen : Nat := 3
abbrev dtcAvailabilityMask : UInt8 := 0x09
abbrev clearRequestLen : Nat := 4

/-! ## State -/

inductive Session where
  | default
  | programming
  | extended
  deriving DecidableEq, Repr

def Session.code : Session → UInt8
  | .default => 0x01
  | .programming => 0x02
  | .extended => 0x03

inductive SecurityLevel where
  | locked
  | level1
  deriving DecidableEq, Repr

inductive Result where
  | ok
  | noResponse
  | errNullPointer
  | errBufferTooSmall
  | errDidNotFound
  | errNotSupported
  deriving DecidableEq, Repr

/-- The protocol state of `uds_context_t`. -/
structure Context where
  session : Session
  securityLevel : SecurityLevel
  lastActivityMs : UInt32
  currentSeed : UInt32
  seedPending : Bool
  failedAttempts : UInt8
  lockoutUntilMs : UInt32
  lockedOut : Bool
  seedState : UInt32
  deriving DecidableEq, Repr

/-- The application callbacks, over the state `user_ctx` points to; `none` is a
NULL pointer. A reader is given the room left in the response and returns the
bytes it wrote there, whose number is its `out_len`. -/
structure Application (σ : Type) where
  didRead : Option (UInt16 → Nat → σ → Result × Bytes × σ)
  dtcRead : Option (UInt8 → Nat → σ → Result × Bytes × σ)
  dtcClear : Option (UInt32 → σ → Result × σ)
  ecuReset : Option (UInt8 → σ → Result × σ)

/-- What a request does beside its state change: the callbacks it invokes, the
seeds it draws and the keys it compares, in order. -/
inductive Effect where
  | didRead (did : UInt16)
  | dtcRead (statusMask : UInt8)
  | dtcClear (group : UInt32) (result : Result)
  | ecuReset (resetType : UInt8) (result : Result)
  | seedDrawn (seed : UInt32)
  | keyCompared (received expected : UInt32)
  deriving DecidableEq, Repr

/-- The end of a request: the new states, the returned code, the bytes
`response[0 .. *response_len)` and the effects. An error leaves `*response_len`
as the caller set it, which is 0 throughout the repository. -/
structure Outcome (σ : Type) where
  ctx : Context
  user : σ
  result : Result
  response : Bytes
  effects : List Effect

/-- Bits 6..0 of the second byte: the sub-function without its suppress bit. -/
def subfunction (request : Bytes) : UInt8 := byteAt request 1 &&& subfunctionMask

end DiagnosticGateway.Uds
