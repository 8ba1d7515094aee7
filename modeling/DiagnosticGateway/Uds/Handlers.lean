import Mathlib.Tactic.Simps.Basic
import DiagnosticGateway.Uds.Server

/-! How the server's handlers end, each stated once.

A handler has one constructor for every way it returns, with the tests that lead
there. Access control and the `switch` are on top of them, so that later proofs
are case analyses and open no handler again.
-/

set_option autoImplicit false

namespace DiagnosticGateway.Uds
open BigEndian

variable {σ : Type}

/-- A well-formed `27 01`, with or without its suppress bit. -/
def IsSeedRequest (request : Bytes) : Prop :=
  request.length = 2 ∧ byteAt request 0 = sidSecurityAccess ∧ subfunction request = securityRequestSeed

/-- A `27 01` of any length. -/
def AsksSeed (request : Bytes) : Prop :=
  2 ≤ request.length ∧ byteAt request 0 = sidSecurityAccess ∧ subfunction request = securityRequestSeed

def IsSendKey (request : Bytes) : Prop :=
  2 ≤ request.length ∧ byteAt request 0 = sidSecurityAccess ∧ subfunction request = securitySendKey

/-- A well-formed `27 02`: the header and four bytes of key. -/
def IsKey (request : Bytes) : Prop :=
  request.length = 6 ∧ byteAt request 0 = sidSecurityAccess ∧ subfunction request = securitySendKey

def IsSessionRequest (session : Session) (request : Bytes) : Prop :=
  request.length = 2 ∧ byteAt request 0 = sidDiagnosticSessionControl ∧ subfunction request = session.code

def IsReset (request : Bytes) : Prop :=
  request.length = 2 ∧ byteAt request 0 = sidEcuReset ∧
    (subfunction request = resetHard ∨ subfunction request = resetSoft)

def IsClear (request : Bytes) : Prop := request.length = 4 ∧ byteAt request 0 = sidClearDiagnosticInformation

def groupOf (request : Bytes) : UInt32 :=
  ((byteAt request 1).toUInt32 <<< 16) ||| ((byteAt request 2).toUInt32 <<< 8) ||| (byteAt request 3).toUInt32

def IsReport (request : Bytes) : Prop :=
  request.length = 3 ∧ byteAt request 0 = sidReadDtcInformation ∧ subfunction request = dtcReportByStatusMask

def IsRead (request : Bytes) : Prop := request.length = 3 ∧ byteAt request 0 = sidReadDataByIdentifier

def didOf (request : Bytes) : UInt16 := ((byteAt request 1).toUInt16 <<< 8) ||| (byteAt request 2).toUInt16

/-- A well-formed `3E 00`, with or without its suppress bit. -/
def IsTesterPresent (request : Bytes) : Prop :=
  request.length = 2 ∧ byteAt request 0 = sidTesterPresent ∧ subfunction request = testerPresentSubfn

def keyOf (request : Bytes) : UInt32 := readWord request 2

instance (request : Bytes) : Decidable (IsSeedRequest request) :=
  inferInstanceAs (Decidable (_ ∧ _ ∧ _))
instance (request : Bytes) : Decidable (AsksSeed request) :=
  inferInstanceAs (Decidable (_ ∧ _ ∧ _))
instance (request : Bytes) : Decidable (IsSendKey request) :=
  inferInstanceAs (Decidable (_ ∧ _ ∧ _))
instance (request : Bytes) : Decidable (IsKey request) :=
  inferInstanceAs (Decidable (_ ∧ _ ∧ _))

instance (session : Session) (request : Bytes) : Decidable (IsSessionRequest session request) :=
  inferInstanceAs (Decidable (_ ∧ _ ∧ _))
instance (request : Bytes) : Decidable (IsReset request) :=
  inferInstanceAs (Decidable (_ ∧ _ ∧ _))
instance (request : Bytes) : Decidable (IsClear request) := inferInstanceAs (Decidable (_ ∧ _))

theorem IsSeedRequest.asksSeed {request : Bytes} (seed : IsSeedRequest request) : AsksSeed request :=
  ⟨Nat.le_of_eq seed.1.symm, seed.2⟩

theorem IsKey.isSendKey {request : Bytes} (key : IsKey request) : IsSendKey request :=
  ⟨by rw [key.1]; decide, key.2⟩

/-! ## Updates of the context

The new values are arguments, so that the field lemmas never compute them.
-/

/-- The request passed access control: it pushes the S3server deadline back. -/
@[simps] def Context.touch (ctx : Context) (nowMs : UInt32) : Context := { ctx with lastActivityMs := nowMs }

@[simps] def Context.relock (ctx : Context) : Context :=
  { ctx with session := .default, securityLevel := .locked, seedPending := false }

@[simps] def Context.enterExtended (ctx : Context) : Context := { ctx with session := .extended }

@[simps] def Context.reseed (ctx : Context) (seedState : UInt32) : Context := { ctx with seedState := seedState }

@[simps] def Context.awaitKey (ctx : Context) (seed : UInt32) : Context :=
  { ctx with currentSeed := seed, seedPending := true }

@[simps] def Context.dropSeed (ctx : Context) : Context := { ctx with seedPending := false }

@[simps] def Context.countFailure (ctx : Context) (failedAttempts : UInt8) : Context :=
  { ctx with failedAttempts := failedAttempts, seedPending := false }

@[simps] def Context.lockOut (ctx : Context) (deadline : UInt32) : Context :=
  { ctx with lockedOut := true, lockoutUntilMs := deadline }

@[simps] def Context.unlock (ctx : Context) : Context :=
  { ctx with securityLevel := .level1, failedAttempts := 0, seedPending := false }

/-! ## The handlers

`ctx` is the context they are called with, the activity recorded.
-/

/-- The codes a handler gives for a request it finds malformed or cannot serve. -/
def handlerNrcs : List UInt8 :=
  [nrcGeneralReject, nrcServiceNotSupported, nrcSubFunctionNotSupported, nrcIncorrectMessageLength,
    nrcResponseTooLong, nrcConditionsNotCorrect, nrcRequestOutOfRange]

def Outcome.refuse (ctx : Context) (user : σ) (sid nrc : UInt8) (capacity : Nat) (effects : List Effect) :
    Outcome σ :=
  .reply ctx user (makeNegativeResponse sid nrc capacity) effects

section
variable (app : Application σ) (ctx : Context) (user : σ) (request : Bytes) (nowMs : UInt32) (capacity : Nat)

inductive SessionControlEnds : Outcome σ → Prop where
  | rejected (nrc : UInt8) (code : nrc ∈ handlerNrcs) (notDefault : ¬ IsSessionRequest .default request)
      (notExtended : ¬ IsSessionRequest .extended request) :
      SessionControlEnds (.refuse ctx user sidDiagnosticSessionControl nrc capacity [])
  | toDefault (asked : IsSessionRequest .default request) :
      SessionControlEnds (.reply ctx.relock user (answerSessionChange Session.default.code
        (decide (byteAt request 1 &&& suppressPosRspBit ≠ 0)) capacity) [])
  | toExtended (asked : IsSessionRequest .extended request) :
      SessionControlEnds (.reply ctx.enterExtended user (answerSessionChange Session.extended.code
        (decide (byteAt request 1 &&& suppressPosRspBit ≠ 0)) capacity) [])

inductive TesterPresentEnds : Outcome σ → Prop where
  | rejected (nrc : UInt8) (code : nrc ∈ handlerNrcs)
      (other : ¬ (request.length = testerPresentLen ∧ subfunction request = testerPresentSubfn)) :
      TesterPresentEnds (.refuse ctx user sidTesterPresent nrc capacity [])
  | silent (length : request.length = testerPresentLen) (known : subfunction request = testerPresentSubfn)
      (bit : byteAt request 1 &&& suppressPosRspBit ≠ 0) : TesterPresentEnds (.reply ctx user (.noResponse, []) [])
  | noRoom (small : capacity < 2) (length : request.length = testerPresentLen)
      (known : subfunction request = testerPresentSubfn) :
      TesterPresentEnds (.reply ctx user (.errBufferTooSmall, []) [])
  | answered (plain : ¬ byteAt request 1 &&& suppressPosRspBit ≠ 0) (length : request.length = testerPresentLen)
      (known : subfunction request = testerPresentSubfn) :
      TesterPresentEnds (.reply ctx user (.ok, [sidTesterPresent + positiveResponseOffset, testerPresentSubfn]) [])

inductive ReadDataEnds : Outcome σ → Prop where
  | noRoom (small : capacity < 3) : ReadDataEnds (.reply ctx user (.errBufferTooSmall, []) [])
  | rejected (nrc : UInt8) (code : nrc ∈ handlerNrcs) (unavailable : IsRead request → app.didRead = none) :
      ReadDataEnds (.refuse ctx user sidReadDataByIdentifier nrc capacity [])
  | failed (didRead : UInt16 → Nat → σ → Result × Bytes × σ) (providerRes : Result) (data : Bytes) (next : σ)
      (nrc : UInt8) (code : nrc ∈ handlerNrcs) (asked : IsRead request) (installed : app.didRead = some didRead)
      (reads : didRead (didOf request) (capacity - rdbiHeaderLen) user = (providerRes, data, next))
      (failed : providerRes ≠ .ok) :
      ReadDataEnds (.refuse ctx next sidReadDataByIdentifier nrc capacity [.didRead (didOf request)])
  | read (didRead : UInt16 → Nat → σ → Result × Bytes × σ) (data : Bytes) (next : σ) (asked : IsRead request)
      (installed : app.didRead = some didRead)
      (reads : didRead (didOf request) (capacity - rdbiHeaderLen) user = (.ok, data, next)) :
      ReadDataEnds (.reply ctx next (.ok, ((sidReadDataByIdentifier + positiveResponseOffset) ::
        (didOf request >>> 8).toUInt8 :: (didOf request).toUInt8 :: data).take
          ((rdbiHeaderLen + data.length) % 0x10000)) [.didRead (didOf request)])

inductive DtcReportEnds : Outcome σ → Prop where
  | rejected (nrc : UInt8) (code : nrc ∈ handlerNrcs) (unavailable : IsReport request → app.dtcRead = none) :
      DtcReportEnds (.refuse ctx user sidReadDtcInformation nrc capacity [])
  | noRoom (small : capacity < 3) : DtcReportEnds (.reply ctx user (.errBufferTooSmall, []) [])
  | failed (dtcRead : UInt8 → Nat → σ → Result × Bytes × σ) (res : Result) (data : Bytes) (next : σ)
      (nrc : UInt8) (code : nrc ∈ handlerNrcs) (report : IsReport request) (installed : app.dtcRead = some dtcRead)
      (reads : dtcRead (byteAt request 2) (capacity - 3) user = (res, data, next)) (failed : res ≠ .ok) :
      DtcReportEnds (.refuse ctx next sidReadDtcInformation nrc capacity [.dtcRead (byteAt request 2)])
  | reported (dtcRead : UInt8 → Nat → σ → Result × Bytes × σ) (data : Bytes) (next : σ) (report : IsReport request)
      (installed : app.dtcRead = some dtcRead)
      (reads : dtcRead (byteAt request 2) (capacity - 3) user = (.ok, data, next)) :
      DtcReportEnds (.reply ctx next (.ok, ((sidReadDtcInformation + positiveResponseOffset) ::
        dtcReportByStatusMask :: dtcAvailabilityMask :: data).take ((3 + data.length) % 0x10000))
        [.dtcRead (byteAt request 2)])

inductive DtcClearEnds : Outcome σ → Prop where
  | rejected (nrc : UInt8) (code : nrc ∈ handlerNrcs) (unavailable : IsClear request → app.dtcClear = none) :
      DtcClearEnds (.refuse ctx user sidClearDiagnosticInformation nrc capacity [])
  | failed (dtcClear : UInt32 → σ → Result × σ) (next : σ) (clearRes : Result) (clear : IsClear request)
      (installed : app.dtcClear = some dtcClear) (called : dtcClear (groupOf request) user = (clearRes, next))
      (failed : clearRes ≠ .ok) :
      DtcClearEnds (.refuse ctx next sidClearDiagnosticInformation nrcRequestOutOfRange capacity
        [.dtcClear (groupOf request) clearRes])
  | cleared (dtcClear : UInt32 → σ → Result × σ) (next : σ) (clear : IsClear request)
      (installed : app.dtcClear = some dtcClear) (called : dtcClear (groupOf request) user = (.ok, next)) :
      DtcClearEnds (.reply ctx next
        (if capacity < 1 then (.errBufferTooSmall, []) else (.ok, [sidClearDiagnosticInformation + positiveResponseOffset]))
        [.dtcClear (groupOf request) .ok])

inductive EcuResetEnds : Outcome σ → Prop where
  | rejected (nrc : UInt8) (code : nrc ∈ handlerNrcs) (unavailable : IsReset request → app.ecuReset = none) :
      EcuResetEnds (.refuse ctx user sidEcuReset nrc capacity [])
  | failed (ecuReset : UInt8 → σ → Result × σ) (next : σ) (resetRes : Result) (asked : IsReset request)
      (installed : app.ecuReset = some ecuReset) (called : ecuReset (subfunction request) user = (resetRes, next))
      (failed : resetRes ≠ .ok) :
      EcuResetEnds (.refuse ctx next sidEcuReset nrcConditionsNotCorrect capacity
        [.ecuReset (subfunction request) resetRes])
  | reset (ecuReset : UInt8 → σ → Result × σ) (next : σ) (asked : IsReset request)
      (installed : app.ecuReset = some ecuReset) (called : ecuReset (subfunction request) user = (.ok, next)) :
      EcuResetEnds (.reply ctx.relock next
        (if capacity < 2 then (.errBufferTooSmall, [])
          else (.ok, [sidEcuReset + positiveResponseOffset, subfunction request]))
        [.ecuReset (subfunction request) .ok])

inductive SecurityAccessEnds : Outcome σ → Prop where
  | malformed (nrc : UInt8) (code : nrc = nrcIncorrectMessageLength ∨ nrc = nrcSubFunctionNotSupported)
      (notSeed : ¬ IsSeedRequest request) (notKey : ¬ IsKey request)
      (free : 2 ≤ request.length → ctx.lockedOut = false) :
      SecurityAccessEnds (.refuse ctx user sidSecurityAccess nrc capacity [])
  -- The lockout comes before the sub-function, so it also refuses seeds.
  | delayed (long : 2 ≤ request.length) (locked : ctx.lockedOut = true) :
      SecurityAccessEnds (.refuse ctx user sidSecurityAccess nrcRequiredTimeDelayNotExpired capacity [])
  | seedNoRoom (seed : IsSeedRequest request) (free : ctx.lockedOut = false) (small : capacity < 6) :
      SecurityAccessEnds (.reply ctx user (.errBufferTooSmall, []) [])
  | seedZero (seed : IsSeedRequest request) (free : ctx.lockedOut = false) (room : 6 ≤ capacity)
      (unlocked : ctx.securityLevel ≠ .locked) :
      SecurityAccessEnds (.reply ctx.dropSeed user (.ok, seedResponse 0) [])
  | seedIssued (seed : IsSeedRequest request) (free : ctx.lockedOut = false) (room : 6 ≤ capacity)
      (locked : ctx.securityLevel = .locked) :
      SecurityAccessEnds (.reply ((ctx.reseed (nextSeed ctx.seedState).1).awaitKey (nextSeed ctx.seedState).2) user
        (.ok, seedResponse (nextSeed ctx.seedState).2) [.seedDrawn (nextSeed ctx.seedState).2])
  | keyUnexpected (key : IsKey request) (free : ctx.lockedOut = false) (idle : ctx.seedPending = false) :
      SecurityAccessEnds (.refuse ctx user sidSecurityAccess nrcConditionsNotCorrect capacity [])
  | keyWrong (key : IsKey request) (free : ctx.lockedOut = false) (pending : ctx.seedPending = true)
      (wrong : keyOf request ≠ demoKeyFromSeed ctx.currentSeed) (few : ¬ ctx.failedAttempts + 1 ≥ securityMaxAttempts) :
      SecurityAccessEnds (.refuse (ctx.countFailure (ctx.failedAttempts + 1)) user sidSecurityAccess nrcInvalidKey
        capacity [.keyCompared (keyOf request) (demoKeyFromSeed ctx.currentSeed)])
  | keyExceeded (key : IsKey request) (free : ctx.lockedOut = false) (pending : ctx.seedPending = true)
      (wrong : keyOf request ≠ demoKeyFromSeed ctx.currentSeed) (exceeded : ctx.failedAttempts + 1 ≥ securityMaxAttempts) :
      SecurityAccessEnds (.refuse ((ctx.countFailure (ctx.failedAttempts + 1)).lockOut (nowMs + securityLockoutMs)) user
        sidSecurityAccess nrcExceedNumberOfAttempts capacity
        [.keyCompared (keyOf request) (demoKeyFromSeed ctx.currentSeed)])
  | keyAccepted (key : IsKey request) (free : ctx.lockedOut = false) (pending : ctx.seedPending = true)
      (right : keyOf request = demoKeyFromSeed ctx.currentSeed) :
      SecurityAccessEnds (.reply ctx.unlock user
        (if capacity < 2 then (.errBufferTooSmall, [])
          else (.ok, [sidSecurityAccess + positiveResponseOffset, securitySendKey]))
        [.keyCompared (keyOf request) (demoKeyFromSeed ctx.currentSeed)])

inductive DispatchEnds : Outcome σ → Prop where
  | control {outcome : Outcome σ} (sid : byteAt request 0 = sidDiagnosticSessionControl)
      (ends : SessionControlEnds ctx user request capacity outcome) : DispatchEnds outcome
  | reset {outcome : Outcome σ} (sid : byteAt request 0 = sidEcuReset)
      (ends : EcuResetEnds app ctx user request capacity outcome) : DispatchEnds outcome
  | clear {outcome : Outcome σ} (sid : byteAt request 0 = sidClearDiagnosticInformation)
      (ends : DtcClearEnds app ctx user request capacity outcome) : DispatchEnds outcome
  | report {outcome : Outcome σ} (sid : byteAt request 0 = sidReadDtcInformation)
      (ends : DtcReportEnds app ctx user request capacity outcome) : DispatchEnds outcome
  | read {outcome : Outcome σ} (sid : byteAt request 0 = sidReadDataByIdentifier)
      (ends : ReadDataEnds app ctx user request capacity outcome) : DispatchEnds outcome
  | access {outcome : Outcome σ} (sid : byteAt request 0 = sidSecurityAccess)
      (ends : SecurityAccessEnds ctx user request nowMs capacity outcome) : DispatchEnds outcome
  | present {outcome : Outcome σ} (sid : byteAt request 0 = sidTesterPresent)
      (ends : TesterPresentEnds ctx user request capacity outcome) : DispatchEnds outcome
  | unknown (unknown : findRule (byteAt request 0) = none) :
      DispatchEnds (.refuse ctx user (byteAt request 0) nrcServiceNotSupported capacity [])

end

section
variable {app : Application σ} {ctx : Context} {user : σ} {request : Bytes} {nowMs : UInt32} {capacity : Nat}

theorem handleDiagnosticSessionControl_ends (sid : byteAt request 0 = sidDiagnosticSessionControl) :
    SessionControlEnds ctx user request capacity (handleDiagnosticSessionControl ctx user request capacity) := by
  unfold handleDiagnosticSessionControl
  split
  next length => exact .rejected _ (by decide) (fun asked => length asked.1) (fun asked => length asked.1)
  next length =>
    have length : request.length = 2 := not_not.mp length
    dsimp only
    split
    next default =>
      rw [default]
      exact .toDefault ⟨length, sid, default⟩
    next notDefault =>
      split
      next extended =>
        rw [extended]
        exact .toExtended ⟨length, sid, extended⟩
      next notExtended =>
        exact .rejected _ (by decide) (fun asked => notDefault asked.2.2) (fun asked => notExtended asked.2.2)

theorem handleTesterPresent_ends :
    TesterPresentEnds ctx user request capacity (handleTesterPresent ctx user request capacity) := by
  unfold handleTesterPresent
  dsimp only
  split
  next length => exact .rejected _ (by decide) (fun asked => length asked.1)
  next length =>
    split
    next other => exact .rejected _ (by decide) (fun asked => other asked.2)
    next known =>
      split
      next bit => exact .silent (not_not.mp length) (not_not.mp known) bit
      next plain =>
        split
        next small => exact .noRoom small (not_not.mp length) (not_not.mp known)
        next => exact .answered plain (not_not.mp length) (not_not.mp known)

theorem handleReadDataByIdentifier_ends (sid : byteAt request 0 = sidReadDataByIdentifier) :
    ReadDataEnds app ctx user request capacity (handleReadDataByIdentifier app ctx user request capacity) := by
  unfold handleReadDataByIdentifier
  dsimp only
  split
  next small => exact .noRoom small
  next =>
    split
    next length => exact .rejected _ (by decide) (fun asked => absurd asked.1 length)
    next length =>
      have asked : IsRead request := ⟨not_not.mp length, sid⟩
      split
      next absent => exact .rejected _ (by decide) (fun _ => absent)
      next didRead installed =>
        rw [← didOf]
        generalize reads : didRead (didOf request) (capacity - rdbiHeaderLen) user = answer
        obtain ⟨providerRes, data, next⟩ := answer
        dsimp only
        split
        · exact .read didRead data next asked installed reads
        · exact .failed didRead _ data next _ (by decide) asked installed reads (by decide)
        · exact .failed didRead _ data next _ (by decide) asked installed reads (by decide)
        next failed _ _ => exact .failed didRead _ data next _ (by decide) asked installed reads failed

theorem handleReadDtcInformation_ends (sid : byteAt request 0 = sidReadDtcInformation) :
    DtcReportEnds app ctx user request capacity (handleReadDtcInformation app ctx user request capacity) := by
  unfold handleReadDtcInformation
  dsimp only
  split
  next short => exact .rejected _ (by decide) (fun asked => absurd short (by rw [asked.1]; decide))
  split
  next other => exact .rejected _ (by decide) (fun asked => absurd asked.2.2 other)
  next known =>
    split
    next length => exact .rejected _ (by decide) (fun asked => absurd asked.1 length)
    next length =>
      have report : IsReport request := ⟨not_not.mp length, sid, not_not.mp known⟩
      split
      next absent => exact .rejected _ (by decide) (fun _ => absent)
      next dtcRead installed =>
        split
        next small => exact .noRoom small
        generalize reads : dtcRead _ (capacity - 3) user = answer
        obtain ⟨res, data, next⟩ := answer
        dsimp only
        split
        next failed =>
          exact .failed dtcRead res data next _ (by decide) report installed reads (by rw [failed]; decide)
        split
        next failed => exact .failed dtcRead res data next _ (by decide) report installed reads failed
        next done =>
          rw [not_not.mp done] at reads
          exact .reported dtcRead data next report installed reads

theorem handleClearDiagnosticInformation_ends (sid : byteAt request 0 = sidClearDiagnosticInformation) :
    DtcClearEnds app ctx user request capacity (handleClearDiagnosticInformation app ctx user request capacity) := by
  unfold handleClearDiagnosticInformation
  dsimp only
  split
  next length => exact .rejected _ (by decide) (fun asked => absurd asked.1 length)
  next length =>
    split
    next absent => exact .rejected _ (by decide) (fun _ => absent)
    next dtcClear installed =>
      have clear : IsClear request := ⟨not_not.mp length, sid⟩
      rw [← groupOf]
      generalize called : dtcClear (groupOf request) user = answer
      obtain ⟨clearRes, next⟩ := answer
      dsimp only
      split
      next failed => exact .failed dtcClear next clearRes clear installed called failed
      next done =>
        rw [not_not.mp done] at called ⊢
        exact .cleared dtcClear next clear installed called

theorem handleEcuReset_ends (sid : byteAt request 0 = sidEcuReset) :
    EcuResetEnds app ctx user request capacity (handleEcuReset app ctx user request capacity) := by
  unfold handleEcuReset
  dsimp only
  split
  next length => exact .rejected _ (by decide) (fun asked => absurd asked.1 length)
  next length =>
    split
    next other =>
      exact .rejected _ (by decide) (fun asked => asked.2.2.elim (absurd · other.1) (absurd · other.2))
    next known =>
      -- Well formed from here on; what is left is the callback and its result.
      have asked : IsReset request := ⟨not_not.mp length, sid, by
        rcases not_and_or.mp known with hard | soft
        · exact .inl (not_not.mp hard)
        · exact .inr (not_not.mp soft)⟩
      split
      next absent => exact .rejected _ (by decide) (fun _ => absent)
      next ecuReset installed =>
        generalize called : ecuReset (subfunction request) user = answer
        obtain ⟨resetRes, next⟩ := answer
        dsimp only
        split
        next failed => exact .failed ecuReset next resetRes asked installed called failed
        next done =>
          rw [not_not.mp done] at called ⊢
          exact .reset ecuReset next asked installed called

theorem handleSecurityAccess_ends (sid : byteAt request 0 = sidSecurityAccess) :
    SecurityAccessEnds ctx user request nowMs capacity (handleSecurityAccess ctx user request nowMs capacity) := by
  unfold handleSecurityAccess
  dsimp only
  by_cases short : request.length < 2
  · rw [if_pos short]
    exact .malformed _ (.inl rfl) (fun seed => by have := seed.1; omega) (fun key => by have := key.1; omega)
      (fun long => by omega)
  have long : 2 ≤ request.length := Nat.le_of_not_lt short
  rw [if_neg short]
  by_cases delayed : ctx.lockedOut = true
  · rw [if_pos delayed]
    exact .delayed long delayed
  have free : ctx.lockedOut = false := Bool.eq_false_iff.mpr delayed
  rw [if_neg delayed]
  by_cases seedCode : subfunction request = securityRequestSeed
  · rw [if_pos seedCode]
    have notKey : ¬ IsKey request := fun key => absurd (seedCode.symm.trans key.2.2) (by decide)
    by_cases length : request.length = 2
    · have seed : IsSeedRequest request := ⟨length, sid, seedCode⟩
      rw [if_neg (not_not.mpr length)]
      by_cases small : capacity < 2 + securitySeedLen
      · rw [if_pos small]
        exact .seedNoRoom seed free small
      have room : 6 ≤ capacity := Nat.le_of_not_lt small
      rw [if_neg small]
      by_cases locked : ctx.securityLevel = .locked
      · rw [if_neg (not_not.mpr locked)]
        have issued := @SecurityAccessEnds.seedIssued _ ctx user request nowMs capacity seed free room locked
        generalize nextSeed ctx.seedState = drawn at issued ⊢
        obtain ⟨seedState, seed⟩ := drawn
        exact issued
      · rw [if_pos locked]
        exact .seedZero seed free room locked
    · rw [if_pos length]
      exact .malformed _ (.inl rfl) (fun seed => length seed.1) notKey (fun _ => free)
  have notSeed : ¬ IsSeedRequest request := fun seed => seedCode seed.2.2
  rw [if_neg seedCode]
  by_cases keyCode : subfunction request = securitySendKey
  · rw [if_pos keyCode]
    by_cases length : request.length = 2 + securityKeyLen
    · have key : IsKey request := ⟨length, sid, keyCode⟩
      rw [if_neg (not_not.mpr length)]
      by_cases idle : (!ctx.seedPending) = true
      · rw [if_pos idle]
        exact .keyUnexpected key free (by simpa using idle)
      have pending : ctx.seedPending = true := by simpa using idle
      rw [if_neg idle, ← keyOf]
      by_cases right : keyOf request = demoKeyFromSeed ctx.currentSeed
      · rw [if_neg (not_not.mpr right)]
        exact .keyAccepted key free pending right
      rw [if_pos right]
      by_cases exceeded : ctx.failedAttempts + 1 ≥ securityMaxAttempts
      · rw [if_pos exceeded]
        exact .keyExceeded key free pending right exceeded
      · rw [if_neg exceeded]
        exact .keyWrong key free pending right exceeded
    · rw [if_pos length]
      exact .malformed _ (.inl rfl) notSeed (fun key => length key.1) (fun _ => free)
  · rw [if_neg keyCode]
    exact .malformed _ (.inr rfl) notSeed (fun key => keyCode key.2.2) (fun _ => free)

theorem dispatch_ends :
    DispatchEnds app ctx user request nowMs capacity
      (dispatch app ctx user (byteAt request 0) request nowMs capacity) := by
  unfold dispatch
  split
  next sid => exact .control sid (handleDiagnosticSessionControl_ends sid)
  split
  next sid => exact .reset sid (handleEcuReset_ends sid)
  split
  next sid => exact .clear sid (handleClearDiagnosticInformation_ends sid)
  split
  next sid => exact .report sid (handleReadDtcInformation_ends sid)
  split
  next sid => exact .read sid (handleReadDataByIdentifier_ends sid)
  split
  next sid => exact .access sid (handleSecurityAccess_ends sid)
  split
  next sid => exact .present sid handleTesterPresent_ends
  · refine .unknown (List.find?_eq_none.mpr fun rule listed same => ?_)
    have same : byteAt request 0 = rule.sid := (beq_iff_eq.mp same).symm
    simp only [serviceRules, List.mem_cons, List.not_mem_nil, or_false] at listed
    rcases listed with rfl | rfl | rfl | rfl | rfl | rfl | rfl <;> contradiction

end

def NeedsExtended (sid : UInt8) : Prop :=
  sid = sidSecurityAccess ∨ sid = sidClearDiagnosticInformation ∨ sid = sidEcuReset

instance (sid : UInt8) : Decidable (NeedsExtended sid) :=
  inferInstanceAs (Decidable (_ ∨ _ ∨ _))

theorem findRule_some {sid : UInt8} {rule : ServiceRule} (found : findRule sid = some rule) :
    (rule.requiresExtendedSession = true ↔ NeedsExtended sid) ∧
      (rule.requiresSecurityUnlock = true ↔ sid = sidEcuReset) := by
  have same : rule.sid = sid := by simpa using List.find?_some found
  have listed : rule ∈ serviceRules := List.mem_of_find?_eq_some found
  subst same
  simp only [serviceRules, List.mem_cons, List.not_mem_nil, or_false] at listed
  rcases listed with rfl | rfl | rfl | rfl | rfl | rfl | rfl <;> decide

/-- How a request ends, from the polled context `c`. -/
inductive RequestEnds (app : Application σ) (c : Context) (user : σ) (request : Bytes) (nowMs : UInt32) (capacity : Nat) :
    Outcome σ → Prop where
  | empty (empty : request = []) : RequestEnds app c user request nowMs capacity (.reply c user (.noResponse, []) [])
  | unknown (nonempty : request ≠ []) (unknown : findRule (byteAt request 0) = none) :
      RequestEnds app c user request nowMs capacity
        (.refuse c user (byteAt request 0) nrcServiceNotSupported capacity [])
  | outsideSession (nonempty : request ≠ []) (needs : NeedsExtended (byteAt request 0)) (session : c.session = .default) :
      RequestEnds app c user request nowMs capacity
        (.refuse c user (byteAt request 0) nrcServiceNotSupportedInSession capacity [])
  | denied (nonempty : request ≠ []) (sid : byteAt request 0 = sidEcuReset) (session : c.session ≠ .default)
      (locked : c.securityLevel = .locked) :
      RequestEnds app c user request nowMs capacity
        (.refuse c user sidEcuReset nrcSecurityAccessDenied capacity [])
  | dispatched {outcome : Outcome σ} (nonempty : request ≠ []) (known : findRule (byteAt request 0) ≠ none)
      (session : NeedsExtended (byteAt request 0) → c.session ≠ .default)
      (unlocked : byteAt request 0 = sidEcuReset → c.securityLevel ≠ .locked)
      (ends : DispatchEnds app (c.touch nowMs) user request nowMs capacity outcome) :
      RequestEnds app c user request nowMs capacity outcome

theorem handleRequest_ends (app : Application σ) (ctx : Context) (user : σ) (request : Bytes) (nowMs : UInt32)
    (capacity : Nat) :
    RequestEnds app (poll ctx nowMs) user request nowMs capacity
      (handleRequest app ctx user request nowMs capacity) := by
  cases request with
  | nil => exact .empty rfl
  | cons sid rest =>
    simp only [handleRequest]
    cases found : findRule sid with
    | none => exact .unknown (by simp) found
    | some rule =>
      obtain ⟨needs, unlocks⟩ := findRule_some found
      simp only [needs, unlocks]
      split
      next outside => exact .outsideSession (by simp) outside.1 outside.2
      next inside =>
        split
        next denied =>
          obtain ⟨rfl, locked⟩ := denied
          exact .denied (by simp) rfl (fun session => inside ⟨.inr (.inr rfl), session⟩) locked
        next allowed =>
          exact .dispatched (by simp) (by simp [found]) (fun needs session => inside ⟨needs, session⟩)
            (fun reset locked => allowed ⟨reset, locked⟩) dispatch_ends

end DiagnosticGateway.Uds
