import DiagnosticGateway.Uds.Protocol

/-! The UDS server (`uds.c`): the seven handlers, the access table, the timers
and the entry point. A request is the list of its bytes, so `request_len` is
its length; the response capacity is a natural number.
-/

set_option autoImplicit false

namespace DiagnosticGateway.Uds
open BigEndian

variable {σ : Type}

def makeNegativeResponse (sid nrc : UInt8) (capacity : Nat) : Result × Bytes :=
  if capacity < negativeResponseLen then (.errBufferTooSmall, [])
  else (.ok, [negativeResponseSid, sid, nrc])

def Outcome.reply (ctx : Context) (user : σ) (answer : Result × Bytes) (effects : List Effect) : Outcome σ :=
  ⟨ctx, user, answer.1, answer.2, effects⟩

def sessionParameterRecord : Bytes :=
  let p2Star := p2StarServerMaxMs / p2StarResolutionMs
  [(p2ServerMaxMs >>> 8).toUInt8, p2ServerMaxMs.toUInt8, (p2Star >>> 8).toUInt8, p2Star.toUInt8]

/-- The part after the `switch`: the session has changed, only the answer is left. -/
def answerSessionChange (subfunction : UInt8) (suppress : Bool) (capacity : Nat) : Result × Bytes :=
  if suppress then (.noResponse, [])
  else if capacity < dscResponseLen then (.errBufferTooSmall, [])
  else (.ok, (sidDiagnosticSessionControl + positiveResponseOffset) :: subfunction :: sessionParameterRecord)

def handleDiagnosticSessionControl (ctx : Context) (user : σ) (request : Bytes) (capacity : Nat) : Outcome σ :=
  if request.length ≠ dscRequestLen then
    .reply ctx user (makeNegativeResponse sidDiagnosticSessionControl nrcIncorrectMessageLength capacity) []
  else
    let suppress := decide (byteAt request 1 &&& suppressPosRspBit ≠ 0)
    if subfunction request = Session.default.code then
      .reply { ctx with session := .default, securityLevel := .locked, seedPending := false } user
        (answerSessionChange (subfunction request) suppress capacity) []
    else if subfunction request = Session.extended.code then
      .reply { ctx with session := .extended } user
        (answerSessionChange (subfunction request) suppress capacity) []
    else
      .reply ctx user (makeNegativeResponse sidDiagnosticSessionControl nrcSubFunctionNotSupported capacity) []

def handleReadDataByIdentifier (app : Application σ) (ctx : Context) (user : σ) (request : Bytes)
    (capacity : Nat) : Outcome σ :=
  let negative := fun nrc => makeNegativeResponse sidReadDataByIdentifier nrc capacity
  if capacity < negativeResponseLen then .reply ctx user (.errBufferTooSmall, []) []
  else if request.length ≠ rdbiRequestLen then .reply ctx user (negative nrcIncorrectMessageLength) []
  else
    match app.didRead with
    | none => .reply ctx user (negative nrcServiceNotSupported) []
    | some didRead =>
      let did := ((byteAt request 1).toUInt16 <<< 8) ||| (byteAt request 2).toUInt16
      if capacity < rdbiHeaderLen then .reply ctx user (negative nrcResponseTooLong) []
      else
        let (providerRes, data, user) := didRead did (capacity - rdbiHeaderLen) user
        match providerRes with
        | .ok =>
          -- `*response_len` is a `uint16_t`.
          .reply ctx user (.ok, ((sidReadDataByIdentifier + positiveResponseOffset) ::
            (did >>> 8).toUInt8 :: did.toUInt8 :: data).take ((rdbiHeaderLen + data.length) % 0x10000))
            [.didRead did]
        | .errDidNotFound => .reply ctx user (negative nrcRequestOutOfRange) [.didRead did]
        | .errBufferTooSmall => .reply ctx user (negative nrcResponseTooLong) [.didRead did]
        | _ => .reply ctx user (negative nrcGeneralReject) [.didRead did]

structure ServiceRule where
  sid : UInt8
  requiresExtendedSession : Bool
  requiresSecurityUnlock : Bool

def serviceRules : List ServiceRule :=
  [⟨sidDiagnosticSessionControl, false, false⟩,
   ⟨sidTesterPresent, false, false⟩,
   ⟨sidReadDataByIdentifier, false, false⟩,
   ⟨sidReadDtcInformation, false, false⟩,
   ⟨sidSecurityAccess, true, false⟩,
   ⟨sidClearDiagnosticInformation, true, false⟩,
   ⟨sidEcuReset, true, true⟩]

def findRule (sid : UInt8) : Option ServiceRule :=
  serviceRules.find? fun rule => rule.sid == sid

def handleTesterPresent (ctx : Context) (user : σ) (request : Bytes) (capacity : Nat) : Outcome σ :=
  let negative := fun nrc => makeNegativeResponse sidTesterPresent nrc capacity
  if request.length ≠ testerPresentLen then .reply ctx user (negative nrcIncorrectMessageLength) []
  else if subfunction request ≠ testerPresentSubfn then
    .reply ctx user (negative nrcSubFunctionNotSupported) []
  else if byteAt request 1 &&& suppressPosRspBit ≠ 0 then .reply ctx user (.noResponse, []) []
  else if capacity < 2 then .reply ctx user (.errBufferTooSmall, []) []
  else .reply ctx user (.ok, [sidTesterPresent + positiveResponseOffset, testerPresentSubfn]) []

def handleEcuReset (app : Application σ) (ctx : Context) (user : σ) (request : Bytes) (capacity : Nat) :
    Outcome σ :=
  let negative := fun nrc => makeNegativeResponse sidEcuReset nrc capacity
  if request.length ≠ resetRequestLen then .reply ctx user (negative nrcIncorrectMessageLength) []
  else
    let resetType := subfunction request
    if resetType ≠ resetHard ∧ resetType ≠ resetSoft then
      .reply ctx user (negative nrcSubFunctionNotSupported) []
    else
      match app.ecuReset with
      | none => .reply ctx user (negative nrcServiceNotSupported) []
      | some ecuReset =>
        let (resetRes, user) := ecuReset resetType user
        if resetRes ≠ .ok then
          .reply ctx user (negative nrcConditionsNotCorrect) [.ecuReset resetType resetRes]
        else
          .reply { ctx with session := .default, securityLevel := .locked, seedPending := false } user
            (if capacity < 2 then (.errBufferTooSmall, [])
              else (.ok, [sidEcuReset + positiveResponseOffset, resetType]))
            [.ecuReset resetType resetRes]

/-- The generator: the new `seed_state` and the seed drawn from it. -/
def nextSeed (seedState : UInt32) : UInt32 × UInt32 :=
  let seedState := seedState * 1103515245 + 12345
  (seedState, seedState ^^^ 0x5A5A5A5A)

def demoKeyFromSeed (seed : UInt32) : UInt32 :=
  let k := seed ^^^ 0xA5A5A5A5
  (k <<< 3 ||| k >>> 29) + 0x3C3C3C3C

def seedResponse (seed : UInt32) : Bytes :=
  (sidSecurityAccess + positiveResponseOffset) :: securityRequestSeed :: writeWord seed

def handleSecurityAccess (ctx : Context) (user : σ) (request : Bytes) (nowMs : UInt32) (capacity : Nat) :
    Outcome σ :=
  let negative := fun nrc => makeNegativeResponse sidSecurityAccess nrc capacity
  if request.length < 2 then .reply ctx user (negative nrcIncorrectMessageLength) []
  else if ctx.lockedOut then .reply ctx user (negative nrcRequiredTimeDelayNotExpired) []
  else if subfunction request = securityRequestSeed then
    if request.length ≠ 2 then .reply ctx user (negative nrcIncorrectMessageLength) []
    else if capacity < 2 + securitySeedLen then .reply ctx user (.errBufferTooSmall, []) []
    else if ctx.securityLevel ≠ .locked then
      .reply { ctx with seedPending := false } user (.ok, seedResponse 0) []
    else
      let (seedState, seed) := nextSeed ctx.seedState
      .reply { ctx with seedState := seedState, currentSeed := seed, seedPending := true } user
        (.ok, seedResponse seed) [.seedDrawn seed]
  else if subfunction request = securitySendKey then
    if request.length ≠ 2 + securityKeyLen then .reply ctx user (negative nrcIncorrectMessageLength) []
    else if !ctx.seedPending then .reply ctx user (negative nrcConditionsNotCorrect) []
    else
      let receivedKey := readWord request 2
      let expectedKey := demoKeyFromSeed ctx.currentSeed
      if receivedKey ≠ expectedKey then
        let failedAttempts := ctx.failedAttempts + 1
        if failedAttempts ≥ securityMaxAttempts then
          .reply
            { ctx with
              failedAttempts := failedAttempts
              seedPending := false
              lockedOut := true
              lockoutUntilMs := nowMs + securityLockoutMs }
            user (negative nrcExceedNumberOfAttempts) [.keyCompared receivedKey expectedKey]
        else
          .reply { ctx with failedAttempts := failedAttempts, seedPending := false } user
            (negative nrcInvalidKey) [.keyCompared receivedKey expectedKey]
      else
        .reply { ctx with securityLevel := .level1, failedAttempts := 0, seedPending := false } user
          (if capacity < 2 then (.errBufferTooSmall, [])
            else (.ok, [sidSecurityAccess + positiveResponseOffset, securitySendKey]))
          [.keyCompared receivedKey expectedKey]
  else .reply ctx user (negative nrcSubFunctionNotSupported) []

def handleReadDtcInformation (app : Application σ) (ctx : Context) (user : σ) (request : Bytes)
    (capacity : Nat) : Outcome σ :=
  let negative := fun nrc => makeNegativeResponse sidReadDtcInformation nrc capacity
  if request.length < 2 then .reply ctx user (negative nrcIncorrectMessageLength) []
  else if subfunction request ≠ dtcReportByStatusMask then
    .reply ctx user (negative nrcSubFunctionNotSupported) []
  else if request.length ≠ rdtcRequestLen then .reply ctx user (negative nrcIncorrectMessageLength) []
  else
    match app.dtcRead with
    | none => .reply ctx user (negative nrcServiceNotSupported) []
    | some dtcRead =>
      let statusMask := byteAt request 2
      if capacity < 3 then .reply ctx user (.errBufferTooSmall, []) []
      else
        let (res, data, user) := dtcRead statusMask (capacity - 3) user
        if res = .errBufferTooSmall then
          .reply ctx user (negative nrcResponseTooLong) [.dtcRead statusMask]
        else if res ≠ .ok then
          .reply ctx user (negative nrcConditionsNotCorrect) [.dtcRead statusMask]
        else
          .reply ctx user (.ok, ((sidReadDtcInformation + positiveResponseOffset) ::
            dtcReportByStatusMask :: dtcAvailabilityMask :: data).take ((3 + data.length) % 0x10000))
            [.dtcRead statusMask]

def handleClearDiagnosticInformation (app : Application σ) (ctx : Context) (user : σ) (request : Bytes)
    (capacity : Nat) : Outcome σ :=
  let negative := fun nrc => makeNegativeResponse sidClearDiagnosticInformation nrc capacity
  if request.length ≠ clearRequestLen then .reply ctx user (negative nrcIncorrectMessageLength) []
  else
    match app.dtcClear with
    | none => .reply ctx user (negative nrcServiceNotSupported) []
    | some dtcClear =>
      let group := ((byteAt request 1).toUInt32 <<< 16) ||| ((byteAt request 2).toUInt32 <<< 8) |||
        (byteAt request 3).toUInt32
      let (clearRes, user) := dtcClear group user
      if clearRes ≠ .ok then
        .reply ctx user (negative nrcRequestOutOfRange) [.dtcClear group clearRes]
      else
        .reply ctx user
          (if capacity < 1 then (.errBufferTooSmall, [])
            else (.ok, [sidClearDiagnosticInformation + positiveResponseOffset]))
          [.dtcClear group clearRes]

/-! ## Entry points -/

def init : Context where
  session := .default
  securityLevel := .locked
  lastActivityMs := 0
  currentSeed := 0
  seedPending := false
  failedAttempts := 0
  lockoutUntilMs := 0
  lockedOut := false
  seedState := 0x12345678

def seedEntropy (ctx : Context) (entropy : UInt32) : Context :=
  { ctx with seedState := ctx.seedState ^^^ entropy }

/-- End of the lockout, by the sign of the distance to its deadline. -/
def pollLockout (ctx : Context) (nowMs : UInt32) : Context :=
  if ctx.lockedOut ∧ nowMs - ctx.lockoutUntilMs < 0x80000000 then
    { ctx with lockedOut := false, failedAttempts := 0 }
  else ctx

def pollSession (ctx : Context) (nowMs : UInt32) : Context :=
  if ctx.session ≠ .default ∧ nowMs - ctx.lastActivityMs ≥ s3ServerTimeoutMs then
    { ctx with session := .default, securityLevel := .locked, seedPending := false }
  else ctx

def poll (ctx : Context) (nowMs : UInt32) : Context :=
  pollSession (pollLockout ctx nowMs) nowMs

/-- The `switch` on the service identifier, for a request access control let pass. -/
def dispatch (app : Application σ) (ctx : Context) (user : σ) (sid : UInt8) (request : Bytes)
    (nowMs : UInt32) (capacity : Nat) : Outcome σ :=
  if sid = sidDiagnosticSessionControl then handleDiagnosticSessionControl ctx user request capacity
  else if sid = sidEcuReset then handleEcuReset app ctx user request capacity
  else if sid = sidClearDiagnosticInformation then
    handleClearDiagnosticInformation app ctx user request capacity
  else if sid = sidReadDtcInformation then handleReadDtcInformation app ctx user request capacity
  else if sid = sidReadDataByIdentifier then handleReadDataByIdentifier app ctx user request capacity
  else if sid = sidSecurityAccess then handleSecurityAccess ctx user request nowMs capacity
  else if sid = sidTesterPresent then handleTesterPresent ctx user request capacity
  else .reply ctx user (makeNegativeResponse sid nrcServiceNotSupported capacity) []

def handleRequest (app : Application σ) (ctx : Context) (user : σ) (request : Bytes) (nowMs : UInt32)
    (capacity : Nat) : Outcome σ :=
  let ctx := poll ctx nowMs
  match request with
  | [] => .reply ctx user (.noResponse, []) []
  | sid :: _ =>
    let negative := fun nrc => makeNegativeResponse sid nrc capacity
    match findRule sid with
    | none => .reply ctx user (negative nrcServiceNotSupported) []
    | some rule =>
      if rule.requiresExtendedSession ∧ ctx.session = .default then
        .reply ctx user (negative nrcServiceNotSupportedInSession) []
      else if rule.requiresSecurityUnlock ∧ ctx.securityLevel = .locked then
        .reply ctx user (negative nrcSecurityAccessDenied) []
      else dispatch app { ctx with lastActivityMs := nowMs } user sid request nowMs capacity

end DiagnosticGateway.Uds
