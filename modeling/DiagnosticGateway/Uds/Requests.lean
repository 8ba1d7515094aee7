import DiagnosticGateway.Uds.Handlers

/-! What one request can do to the server, stated once.

`Handled` has a constructor for every way a request ends once the timers have
been polled, with the guard that leads there and what it does to the authority.
The invariants and the relations between two servers are read off it.
-/

set_option autoImplicit false

namespace DiagnosticGateway.Uds
open BigEndian

variable {σ : Type}

def Expired (ctx : Context) (nowMs : UInt32) : Prop :=
  ctx.session ≠ .default ∧ nowMs - ctx.lastActivityMs ≥ s3ServerTimeoutMs

instance (ctx : Context) (nowMs : UInt32) : Decidable (Expired ctx nowMs) :=
  inferInstanceAs (Decidable (_ ∧ _))

section
variable (ctx : Context) (nowMs : UInt32)

theorem pollLockout_frame : pollLockout ctx nowMs =
    { ctx with
      lockedOut := (pollLockout ctx nowMs).lockedOut
      failedAttempts := (pollLockout ctx nowMs).failedAttempts } := by
  unfold pollLockout
  split <;> rfl

@[simp] theorem pollLockout_session : (pollLockout ctx nowMs).session = ctx.session := by
  rw [pollLockout_frame]

@[simp] theorem pollLockout_securityLevel : (pollLockout ctx nowMs).securityLevel = ctx.securityLevel := by
  rw [pollLockout_frame]

@[simp] theorem pollLockout_seedPending : (pollLockout ctx nowMs).seedPending = ctx.seedPending := by
  rw [pollLockout_frame]

@[simp] theorem pollLockout_currentSeed : (pollLockout ctx nowMs).currentSeed = ctx.currentSeed := by
  rw [pollLockout_frame]

@[simp] theorem pollLockout_lastActivityMs : (pollLockout ctx nowMs).lastActivityMs = ctx.lastActivityMs := by
  rw [pollLockout_frame]

@[simp] theorem pollLockout_seedState : (pollLockout ctx nowMs).seedState = ctx.seedState := by
  rw [pollLockout_frame]

variable {ctx nowMs}

theorem poll_expired (expired : Expired ctx nowMs) : poll ctx nowMs = (pollLockout ctx nowMs).relock := by
  rw [poll, pollSession, if_pos (by simpa [Expired] using expired)]
  rfl

theorem poll_alive (alive : ¬ Expired ctx nowMs) : poll ctx nowMs = pollLockout ctx nowMs := by
  rw [poll, pollSession, if_neg (by simpa [Expired] using alive)]

theorem not_expired_now (now : ctx.lastActivityMs = nowMs) : ¬ Expired ctx nowMs := by
  rintro ⟨_, elapsed⟩
  rw [now, UInt32.sub_self] at elapsed
  exact absurd elapsed (by decide)

theorem poll_idle (free : ctx.lockedOut = false) (soon : nowMs - ctx.lastActivityMs < s3ServerTimeoutMs) :
    poll ctx nowMs = ctx := by
  rw [poll_alive (fun expired => absurd expired.2 (UInt32.not_le.mpr soon)), pollLockout, if_neg]
  simp [free]

@[simp] theorem poll_currentSeed : (poll ctx nowMs).currentSeed = ctx.currentSeed := by
  by_cases expired : Expired ctx nowMs
  · simp [poll_expired expired]
  · simp [poll_alive expired]

@[simp] theorem poll_seedState : (poll ctx nowMs).seedState = ctx.seedState := by
  by_cases expired : Expired ctx nowMs
  · simp [poll_expired expired]
  · simp [poll_alive expired]

theorem seedPending_of_poll (pending : (poll ctx nowMs).seedPending = true) : ctx.seedPending = true := by
  by_cases expired : Expired ctx nowMs
  · simp [poll_expired expired] at pending
  · simpa [poll_alive expired] using pending

theorem poll_level1_iff :
    (poll ctx nowMs).securityLevel = .level1 ↔ ¬ Expired ctx nowMs ∧ ctx.securityLevel = .level1 := by
  by_cases expired : Expired ctx nowMs
  · rw [poll_expired expired]
    exact iff_of_false SecurityLevel.noConfusion (fun kept => kept.1 expired)
  · rw [poll_alive expired, pollLockout_securityLevel]
    exact (and_iff_right expired).symm

theorem unlocked_of_poll (unlocked : (poll ctx nowMs).securityLevel = .level1) : ctx.securityLevel = .level1 :=
  (poll_level1_iff.mp unlocked).2

end

/-- A refusal by a handler, silence, no room, or a positive answer (whose bytes
a provider that breaks its contract may have cut short). -/
inductive PlainAnswer (sid : UInt8) (capacity : Nat) : Result × Bytes → Prop where
  | negative {nrc : UInt8} : nrc ∈ handlerNrcs → PlainAnswer sid capacity (makeNegativeResponse sid nrc capacity)
  | silent : PlainAnswer sid capacity (.noResponse, [])
  | noRoom : PlainAnswer sid capacity (.errBufferTooSmall, [])
  | positive {rest : Bytes} {size : Nat} : sid + positiveResponseOffset ≠ negativeResponseSid →
      PlainAnswer sid capacity (.ok, ((sid + positiveResponseOffset) :: rest).take size)

def PlainEffect : Effect → Prop
  | .didRead _ | .dtcRead _ | .dtcClear _ _ => True
  | .ecuReset _ _ | .seedDrawn _ | .keyCompared _ _ => False

theorem answerSessionChange_first {capacity : Nat} (subfunction : UInt8) (suppress : Bool) :
    byteAt (answerSessionChange subfunction suppress capacity).2 0 ≠ negativeResponseSid := by
  unfold answerSessionChange
  split
  · decide
  · split
    · decide
    · rw [byteAt_zero]
      decide

theorem positive_first {capacity : Nat} {sid code : UInt8} (distinct : sid + positiveResponseOffset ≠ negativeResponseSid) :
    byteAt (if capacity < 2 then (Result.errBufferTooSmall, []) else (.ok, [sid + positiveResponseOffset, code])).2 0 ≠
      negativeResponseSid := by
  split
  · decide
  · rwa [byteAt_zero]

/-- The request asks for no session the server has, nor for a reset the
application performs. -/
def Inert (app : Application σ) (request : Bytes) : Prop :=
  ¬ IsSessionRequest .default request ∧ ¬ IsSessionRequest .extended request ∧
    (IsReset request → app.ecuReset = none)

/-- How a request ends from the polled context `c`. -/
inductive Handled (app : Application σ) (c : Context) (user : σ) (request : Bytes) (nowMs : UInt32) (capacity : Nat) :
    Outcome σ → Prop where
  | empty : request = [] → Handled app c user request nowMs capacity (.reply c user (.noResponse, []) [])
  | unknown : request ≠ [] → findRule (byteAt request 0) = none →
      Handled app c user request nowMs capacity
        (.refuse c user (byteAt request 0) nrcServiceNotSupported capacity [])
  | outsideSession : request ≠ [] → NeedsExtended (byteAt request 0) → c.session = .default →
      Handled app c user request nowMs capacity
        (.refuse c user (byteAt request 0) nrcServiceNotSupportedInSession capacity [])
  | denied : request ≠ [] → byteAt request 0 = sidEcuReset → c.session ≠ .default → c.securityLevel = .locked →
      Handled app c user request nowMs capacity
        (.refuse c user sidEcuReset nrcSecurityAccessDenied capacity [])
  -- A handler ran and left session, security and seed as they were.
  | plain {next : σ} {answer : Result × Bytes} {effects : List Effect} : request ≠ [] →
      byteAt request 0 ≠ sidSecurityAccess →
      (NeedsExtended (byteAt request 0) → c.session ≠ .default) →
      (byteAt request 0 = sidEcuReset → c.securityLevel ≠ .locked) → Inert app request →
      PlainAnswer (byteAt request 0) capacity answer → (∀ effect ∈ effects, PlainEffect effect) →
      Handled app c user request nowMs capacity (.reply (c.touch nowMs) next answer effects)
  | toDefault {answer : Result × Bytes} : IsSessionRequest .default request →
      answer = answerSessionChange Session.default.code
        (decide (byteAt request 1 &&& suppressPosRspBit ≠ 0)) capacity →
      Handled app c user request nowMs capacity (.reply (c.touch nowMs).relock user answer [])
  | toExtended {answer : Result × Bytes} : IsSessionRequest .extended request →
      answer = answerSessionChange Session.extended.code
        (decide (byteAt request 1 &&& suppressPosRspBit ≠ 0)) capacity →
      Handled app c user request nowMs capacity
        (.reply (c.touch nowMs).enterExtended user answer [])
  | resetFailed {ecuReset : UInt8 → σ → Result × σ} {next : σ} {resetRes : Result} : IsReset request →
      c.session ≠ .default → c.securityLevel ≠ .locked → app.ecuReset = some ecuReset →
      ecuReset (subfunction request) user = (resetRes, next) → resetRes ≠ .ok →
      Handled app c user request nowMs capacity
        (.refuse (c.touch nowMs) next sidEcuReset nrcConditionsNotCorrect capacity
          [.ecuReset (subfunction request) resetRes])
  | reset {ecuReset : UInt8 → σ → Result × σ} {next : σ} : IsReset request → c.session ≠ .default →
      c.securityLevel ≠ .locked → app.ecuReset = some ecuReset →
      ecuReset (subfunction request) user = (.ok, next) →
      Handled app c user request nowMs capacity
        (.reply (c.touch nowMs).relock next
          (if capacity < 2 then (.errBufferTooSmall, [])
            else (.ok, [sidEcuReset + positiveResponseOffset, subfunction request]))
          [.ecuReset (subfunction request) .ok])
  -- SecurityAccess, in the order of its tests.
  | accessMalformed {nrc : UInt8} : byteAt request 0 = sidSecurityAccess → c.session ≠ .default →
      nrc = nrcIncorrectMessageLength ∨ nrc = nrcSubFunctionNotSupported →
      ¬ IsSeedRequest request → ¬ IsKey request → (2 ≤ request.length → c.lockedOut = false) →
      Handled app c user request nowMs capacity
        (.refuse (c.touch nowMs) user sidSecurityAccess nrc capacity [])
  | accessDelayed : byteAt request 0 = sidSecurityAccess → c.session ≠ .default → 2 ≤ request.length →
      c.lockedOut = true →
      Handled app c user request nowMs capacity
        (.refuse (c.touch nowMs) user sidSecurityAccess nrcRequiredTimeDelayNotExpired capacity [])
  | seedNoRoom : IsSeedRequest request → c.session ≠ .default → c.lockedOut = false → capacity < 6 →
      Handled app c user request nowMs capacity (.reply (c.touch nowMs) user (.errBufferTooSmall, []) [])
  | seedZero : IsSeedRequest request → c.session ≠ .default → c.lockedOut = false → 6 ≤ capacity →
      c.securityLevel ≠ .locked →
      Handled app c user request nowMs capacity
        (.reply (c.touch nowMs).dropSeed user (.ok, seedResponse 0) [])
  | seedIssued : IsSeedRequest request → c.session ≠ .default → c.lockedOut = false → 6 ≤ capacity →
      c.securityLevel = .locked →
      Handled app c user request nowMs capacity
        (.reply (((c.touch nowMs).reseed (nextSeed c.seedState).1).awaitKey (nextSeed c.seedState).2) user
          (.ok, seedResponse (nextSeed c.seedState).2) [.seedDrawn (nextSeed c.seedState).2])
  | keyUnexpected : IsKey request → c.session ≠ .default → c.lockedOut = false → c.seedPending = false →
      Handled app c user request nowMs capacity
        (.refuse (c.touch nowMs) user sidSecurityAccess nrcConditionsNotCorrect capacity [])
  | keyWrong : IsKey request → c.session ≠ .default → c.lockedOut = false → c.seedPending = true →
      keyOf request ≠ demoKeyFromSeed c.currentSeed → ¬ c.failedAttempts + 1 ≥ securityMaxAttempts →
      Handled app c user request nowMs capacity
        (.refuse ((c.touch nowMs).countFailure (c.failedAttempts + 1)) user sidSecurityAccess nrcInvalidKey capacity
          [.keyCompared (keyOf request) (demoKeyFromSeed c.currentSeed)])
  | keyExceeded : IsKey request → c.session ≠ .default → c.lockedOut = false → c.seedPending = true →
      keyOf request ≠ demoKeyFromSeed c.currentSeed → c.failedAttempts + 1 ≥ securityMaxAttempts →
      Handled app c user request nowMs capacity
        (.refuse (((c.touch nowMs).countFailure (c.failedAttempts + 1)).lockOut (nowMs + securityLockoutMs)) user
          sidSecurityAccess nrcExceedNumberOfAttempts capacity
          [.keyCompared (keyOf request) (demoKeyFromSeed c.currentSeed)])
  | keyAccepted : IsKey request → c.session ≠ .default → c.lockedOut = false → c.seedPending = true →
      keyOf request = demoKeyFromSeed c.currentSeed →
      Handled app c user request nowMs capacity
        (.reply (c.touch nowMs).unlock user
          (if capacity < 2 then (.errBufferTooSmall, [])
            else (.ok, [sidSecurityAccess + positiveResponseOffset, securitySendKey]))
          [.keyCompared (keyOf request) (demoKeyFromSeed c.currentSeed)])

/-! ## Every request is handled in one of these ways -/

section
variable {app : Application σ} {c : Context} {user : σ} {request : Bytes} {nowMs : UInt32} {capacity : Nat}
  {outcome : Outcome σ}

theorem inert_of_sid (session : byteAt request 0 ≠ sidDiagnosticSessionControl)
    (reset : byteAt request 0 ≠ sidEcuReset) : Inert app request :=
  ⟨fun asked => session asked.2.1, fun asked => session asked.2.1, fun asked => absurd asked.2.1 reset⟩

theorem Handled.ordinary {sid : UInt8} {next : σ} {answer : Result × Bytes} {effects : List Effect}
    (nonempty : request ≠ []) (same : byteAt request 0 = sid)
    (session : NeedsExtended sid → c.session ≠ .default) (answered : PlainAnswer sid capacity answer)
    (plain : ∀ effect ∈ effects, PlainEffect effect)
    (other : sid ≠ sidSecurityAccess ∧ sid ≠ sidEcuReset ∧ sid ≠ sidDiagnosticSessionControl := by decide) :
    Handled app c user request nowMs capacity (.reply (c.touch nowMs) next answer effects) := by
  subst same
  exact .plain nonempty other.1 session (fun reset => absurd reset other.2.1) (inert_of_sid other.2.2 other.2.1)
    answered plain

theorem SessionControlEnds.handled (ends : SessionControlEnds (c.touch nowMs) user request capacity outcome)
    (nonempty : request ≠ []) (sid : byteAt request 0 = sidDiagnosticSessionControl) :
    Handled app c user request nowMs capacity outcome := by
  cases ends with
  | rejected nrc code notDefault notExtended =>
    rw [← sid]
    refine .plain nonempty (by rw [sid]; decide) (fun needs => absurd needs (by rw [sid]; decide))
      (fun reset => absurd (sid.symm.trans reset) (by decide)) ⟨notDefault, notExtended, fun reset => ?_⟩
      (.negative code) (by simp)
    exact absurd (sid.symm.trans reset.2.1) (by decide)
  | toDefault asked => exact .toDefault asked rfl
  | toExtended asked => exact .toExtended asked rfl

theorem TesterPresentEnds.handled (ends : TesterPresentEnds (c.touch nowMs) user request capacity outcome)
    (nonempty : request ≠ []) (sid : byteAt request 0 = sidTesterPresent) :
    Handled app c user request nowMs capacity outcome := by
  have anySession : NeedsExtended sidTesterPresent → c.session ≠ .default :=
    fun needs => absurd needs (by decide)
  cases ends with
  | rejected nrc code => exact .ordinary nonempty sid anySession (.negative code) (by simp)
  | silent => exact .ordinary nonempty sid anySession .silent (by simp)
  | noRoom => exact .ordinary nonempty sid anySession .noRoom (by simp)
  | answered =>
    exact .ordinary nonempty sid anySession (@PlainAnswer.positive _ _ [testerPresentSubfn] 2 (by decide)) (by simp)

theorem ReadDataEnds.handled (ends : ReadDataEnds app (c.touch nowMs) user request capacity outcome)
    (nonempty : request ≠ []) (sid : byteAt request 0 = sidReadDataByIdentifier) :
    Handled app c user request nowMs capacity outcome := by
  have anySession : NeedsExtended sidReadDataByIdentifier → c.session ≠ .default :=
    fun needs => absurd needs (by decide)
  cases ends with
  | noRoom => exact .ordinary nonempty sid anySession .noRoom (by simp)
  | rejected nrc code => exact .ordinary nonempty sid anySession (.negative code) (by simp)
  | failed _ _ _ _ nrc code => exact .ordinary nonempty sid anySession (.negative code) (by simp [PlainEffect])
  | read => exact .ordinary nonempty sid anySession (.positive (by decide)) (by simp [PlainEffect])

theorem DtcReportEnds.handled (ends : DtcReportEnds app (c.touch nowMs) user request capacity outcome)
    (nonempty : request ≠ []) (sid : byteAt request 0 = sidReadDtcInformation) :
    Handled app c user request nowMs capacity outcome := by
  have anySession : NeedsExtended sidReadDtcInformation → c.session ≠ .default :=
    fun needs => absurd needs (by decide)
  cases ends with
  | rejected nrc code => exact .ordinary nonempty sid anySession (.negative code) (by simp)
  | noRoom => exact .ordinary nonempty sid anySession .noRoom (by simp)
  | failed _ _ _ _ nrc code => exact .ordinary nonempty sid anySession (.negative code) (by simp [PlainEffect])
  | reported => exact .ordinary nonempty sid anySession (.positive (by decide)) (by simp [PlainEffect])

theorem DtcClearEnds.handled (ends : DtcClearEnds app (c.touch nowMs) user request capacity outcome)
    (nonempty : request ≠ []) (sid : byteAt request 0 = sidClearDiagnosticInformation)
    (session : c.session ≠ .default) : Handled app c user request nowMs capacity outcome := by
  cases ends with
  | rejected nrc code => exact .ordinary nonempty sid (fun _ => session) (.negative code) (by simp)
  | failed =>
    exact .ordinary nonempty sid (fun _ => session) (.negative (by decide)) (by simp [PlainEffect])
  | cleared =>
    split
    · exact .ordinary nonempty sid (fun _ => session) .noRoom (by simp [PlainEffect])
    · exact .ordinary nonempty sid (fun _ => session) (@PlainAnswer.positive _ _ [] 1 (by decide)) (by simp [PlainEffect])

theorem EcuResetEnds.handled (ends : EcuResetEnds app (c.touch nowMs) user request capacity outcome)
    (nonempty : request ≠ []) (sid : byteAt request 0 = sidEcuReset) (session : c.session ≠ .default)
    (unlocked : c.securityLevel ≠ .locked) : Handled app c user request nowMs capacity outcome := by
  cases ends with
  | rejected nrc code unavailable =>
    rw [← sid]
    refine .plain nonempty (by rw [sid]; decide) (fun _ => session) (fun _ => unlocked)
      ⟨fun asked => ?_, fun asked => ?_, unavailable⟩ (.negative code) (by simp)
    · exact absurd (sid.symm.trans asked.2.1) (by decide)
    · exact absurd (sid.symm.trans asked.2.1) (by decide)
  | failed ecuReset next resetRes asked installed called failed =>
    exact .resetFailed asked session unlocked installed called failed
  | reset ecuReset next asked installed called => exact .reset asked session unlocked installed called

theorem SecurityAccessEnds.handled (ends : SecurityAccessEnds (c.touch nowMs) user request nowMs capacity outcome)
    (sid : byteAt request 0 = sidSecurityAccess) (session : c.session ≠ .default) :
    Handled app c user request nowMs capacity outcome := by
  cases ends with
  | malformed nrc code notSeed notKey free => exact .accessMalformed sid session code notSeed notKey free
  | delayed long locked => exact .accessDelayed sid session long locked
  | seedNoRoom seed free small => exact .seedNoRoom seed session free small
  | seedZero seed free room unlocked => exact .seedZero seed session free room unlocked
  | seedIssued seed free room locked => exact .seedIssued seed session free room locked
  | keyUnexpected key free idle => exact .keyUnexpected key session free idle
  | keyWrong key free pending wrong few => exact .keyWrong key session free pending wrong few
  | keyExceeded key free pending wrong exceeded => exact .keyExceeded key session free pending wrong exceeded
  | keyAccepted key free pending right => exact .keyAccepted key session free pending right

theorem DispatchEnds.handled (ends : DispatchEnds app (c.touch nowMs) user request nowMs capacity outcome)
    (nonempty : request ≠ []) (session : NeedsExtended (byteAt request 0) → c.session ≠ .default)
    (unlocked : byteAt request 0 = sidEcuReset → c.securityLevel ≠ .locked)
    (known : findRule (byteAt request 0) ≠ none) : Handled app c user request nowMs capacity outcome := by
  cases ends with
  | control sid ends => exact ends.handled nonempty sid
  | reset sid ends => exact ends.handled nonempty sid (session (by rw [sid]; decide)) (unlocked sid)
  | clear sid ends => exact ends.handled nonempty sid (session (by rw [sid]; decide))
  | report sid ends => exact ends.handled nonempty sid
  | read sid ends => exact ends.handled nonempty sid
  | access sid ends => exact ends.handled sid (session (by rw [sid]; decide))
  | present sid ends => exact ends.handled nonempty sid
  -- The default of the `switch` is out of reach: the table has the same seven services.
  | unknown unknown => exact absurd unknown known

theorem handleRequest_handled (app : Application σ) (ctx : Context) (user : σ) (request : Bytes)
    (nowMs : UInt32) (capacity : Nat) :
    Handled app (poll ctx nowMs) user request nowMs capacity
      (handleRequest app ctx user request nowMs capacity) := by
  have ends := handleRequest_ends app ctx user request nowMs capacity
  generalize handleRequest app ctx user request nowMs capacity = outcome at ends ⊢
  cases ends with
  | empty empty => exact .empty empty
  | unknown nonempty unknown => exact .unknown nonempty unknown
  | outsideSession nonempty needs session => exact .outsideSession nonempty needs session
  | denied nonempty sid session locked => exact .denied nonempty sid session locked
  | dispatched nonempty known session unlocked ends => exact ends.handled nonempty session unlocked known

end

def Quiet (effects : List Effect) : Prop :=
  ∀ effect ∈ effects, (∀ seed, effect ≠ .seedDrawn seed) ∧ ∀ received expected, effect ≠ .keyCompared received expected

theorem quiet_nil : Quiet [] := fun _ member => absurd member (List.not_mem_nil)

theorem quiet_plain {effects : List Effect} (plain : ∀ effect ∈ effects, PlainEffect effect) : Quiet effects := by
  intro effect member
  have kind := plain effect member
  constructor <;> intros <;> rintro rfl <;> exact kind

section
variable {app : Application σ} {c : Context} {user : σ} {request : Bytes} {nowMs : UInt32} {capacity : Nat}
  {outcome : Outcome σ}

theorem Handled.pending_cases (handled : Handled app c user request nowMs capacity outcome)
    (pending : outcome.ctx.seedPending = true) :
    (c.seedPending = true ∧ outcome.ctx.currentSeed = c.currentSeed ∧ Quiet outcome.effects) ∨
      (c.session ≠ .default ∧ c.lockedOut = false ∧ IsSeedRequest request ∧
        outcome.effects = [.seedDrawn outcome.ctx.currentSeed] ∧
        outcome.response = seedResponse outcome.ctx.currentSeed) := by
  cases handled with
  | empty | unknown | outsideSession | denied | toExtended | accessMalformed | accessDelayed | seedNoRoom
  | keyUnexpected => exact .inl ⟨pending, rfl, quiet_nil⟩
  | plain _ _ _ _ _ _ effects => exact .inl ⟨pending, rfl, quiet_plain effects⟩
  | resetFailed => exact .inl ⟨pending, rfl, by simp [Quiet, Outcome.refuse, Outcome.reply]⟩
  | seedIssued isSeed session free => exact .inr ⟨session, free, isSeed, rfl, rfl⟩
  | toDefault | reset | seedZero | keyWrong | keyExceeded | keyAccepted => cases pending

theorem Handled.unlocked_cases (handled : Handled app c user request nowMs capacity outcome)
    (unlocked : outcome.ctx.securityLevel = .level1) :
    c.securityLevel = .level1 ∨
      (c.session ≠ .default ∧ IsKey request ∧ keyOf request = demoKeyFromSeed c.currentSeed ∧
        c.seedPending = true ∧ outcome.effects = [.keyCompared (keyOf request) (demoKeyFromSeed c.currentSeed)]) := by
  cases handled with
  | toDefault | reset => cases unlocked
  | keyAccepted isKey session _ pending right => exact .inr ⟨session, isKey, right, pending, rfl⟩
  | _ => exact .inl unlocked

theorem Handled.lastActivityMs_eq (handled : Handled app c user request nowMs capacity outcome)
    (known : findRule (byteAt request 0) ≠ none)
    (session : NeedsExtended (byteAt request 0) → c.session ≠ .default)
    (unlocked : byteAt request 0 = sidEcuReset → c.securityLevel ≠ .locked) :
    outcome.ctx.lastActivityMs = nowMs := by
  cases handled with
  | empty none => exact absurd (by rw [none]; rfl) known
  | unknown _ unknown => exact absurd unknown known
  | outsideSession _ needs default => exact absurd default (session needs)
  | denied _ sid _ locked => exact absurd locked (unlocked sid)
  | _ => rfl

theorem Handled.currentSeed_cases (handled : Handled app c user request nowMs capacity outcome) :
    outcome.ctx.currentSeed = c.currentSeed ∨
      (IsSeedRequest request ∧ c.session ≠ .default ∧ c.lockedOut = false ∧ c.securityLevel = .locked) := by
  cases handled with
  | seedIssued isSeed session free _ locked => exact .inr ⟨isSeed, session, free, locked⟩
  | _ => exact .inl rfl

theorem level1_of_unlocked (unlocked : c.securityLevel ≠ .locked) : c.securityLevel = .level1 := by
  cases level : c.securityLevel with
  | locked => exact absurd level unlocked
  | level1 => rfl

theorem Handled.reset_cases (handled : Handled app c user request nowMs capacity outcome)
    {resetType : UInt8} {result : Result} (called : .ecuReset resetType result ∈ outcome.effects) :
    c.session ≠ .default ∧ c.securityLevel = .level1 := by
  cases handled with
  | resetFailed _ session security _ _ _ => exact ⟨session, level1_of_unlocked security⟩
  | reset _ session security _ _ => exact ⟨session, level1_of_unlocked security⟩
  | plain _ _ _ _ _ _ effects => exact absurd (effects _ called) id
  | _ => simp [Outcome.refuse, Outcome.reply] at called

end

end DiagnosticGateway.Uds
