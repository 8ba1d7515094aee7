import DiagnosticGateway.Uds.Authority

/-! What the server answers to the requests of a legitimate exchange, from any
state that lets it. These are the forward rules: each computes one whole call.
-/

set_option autoImplicit false

namespace DiagnosticGateway.Uds
open BigEndian

variable {σ : Type}

section
variable {app : Application σ} {ctx : Context} {user : σ} {request : Bytes} {nowMs : UInt32} {capacity : Nat}

theorem handleRequest_passes (known : findRule (byteAt request 0) ≠ none)
    (session : NeedsExtended (byteAt request 0) → (poll ctx nowMs).session ≠ .default)
    (unlocked : byteAt request 0 = sidEcuReset → (poll ctx nowMs).securityLevel ≠ .locked) :
    handleRequest app ctx user request nowMs capacity =
      dispatch app ((poll ctx nowMs).touch nowMs) user (byteAt request 0) request nowMs capacity := by
  cases request with
  | nil => exact absurd rfl known
  | cons sid rest =>
    -- The flags of the rule say what the two conditions ask.
    rw [byteAt_zero] at known session unlocked ⊢
    obtain ⟨rule, found⟩ := Option.ne_none_iff_exists'.mp known
    obtain ⟨needs, unlocks⟩ := findRule_some found
    simp only [handleRequest, found, needs, unlocks]
    rw [if_neg (fun outside => session outside.1 outside.2), if_neg (fun denied => unlocked denied.1 denied.2)]
    rfl

theorem dispatch_control (sid : byteAt request 0 = sidDiagnosticSessionControl) :
    dispatch app ctx user (byteAt request 0) request nowMs capacity =
      handleDiagnosticSessionControl ctx user request capacity := by
  rw [dispatch, if_pos sid]

theorem dispatch_reset (sid : byteAt request 0 = sidEcuReset) :
    dispatch app ctx user (byteAt request 0) request nowMs capacity =
      handleEcuReset app ctx user request capacity := by
  rw [dispatch, sid, if_neg (by decide), if_pos rfl]

theorem dispatch_clear (sid : byteAt request 0 = sidClearDiagnosticInformation) :
    dispatch app ctx user (byteAt request 0) request nowMs capacity =
      handleClearDiagnosticInformation app ctx user request capacity := by
  rw [dispatch, sid, if_neg (by decide), if_neg (by decide), if_pos rfl]

theorem dispatch_report (sid : byteAt request 0 = sidReadDtcInformation) :
    dispatch app ctx user (byteAt request 0) request nowMs capacity =
      handleReadDtcInformation app ctx user request capacity := by
  rw [dispatch, sid, if_neg (by decide), if_neg (by decide), if_neg (by decide), if_pos rfl]

theorem dispatch_read (sid : byteAt request 0 = sidReadDataByIdentifier) :
    dispatch app ctx user (byteAt request 0) request nowMs capacity =
      handleReadDataByIdentifier app ctx user request capacity := by
  rw [dispatch, sid, if_neg (by decide), if_neg (by decide), if_neg (by decide), if_neg (by decide), if_pos rfl]

theorem dispatch_access (sid : byteAt request 0 = sidSecurityAccess) :
    dispatch app ctx user (byteAt request 0) request nowMs capacity =
      handleSecurityAccess ctx user request nowMs capacity := by
  rw [dispatch, sid, if_neg (by decide), if_neg (by decide), if_neg (by decide), if_neg (by decide),
    if_neg (by decide), if_pos rfl]

theorem dispatch_present (sid : byteAt request 0 = sidTesterPresent) :
    dispatch app ctx user (byteAt request 0) request nowMs capacity =
      handleTesterPresent ctx user request capacity := by
  rw [dispatch, sid, if_neg (by decide), if_neg (by decide), if_neg (by decide), if_neg (by decide),
    if_neg (by decide), if_neg (by decide), if_pos rfl]

end

def sessionResponse (session : Session) : Bytes :=
  (sidDiagnosticSessionControl + positiveResponseOffset) :: session.code :: sessionParameterRecord

/-- The request asks not to be answered if it succeeds. -/
def AsksSilence (request : Bytes) : Prop := byteAt request 1 &&& suppressPosRspBit ≠ 0

instance (request : Bytes) : Decidable (AsksSilence request) := inferInstanceAs (Decidable (_ ≠ _))

section
variable (app : Application σ) (ctx : Context) (user : σ) (nowMs : UInt32) {capacity : Nat}

theorem answerSessionChange_positive (session : Session) (room : 6 ≤ capacity) :
    answerSessionChange session.code false capacity = (.ok, sessionResponse session) := by
  rw [answerSessionChange, if_neg (by decide), if_neg (Nat.not_lt.mpr room), sessionResponse]

theorem handleRequest_asksDefault {request : Bytes} (asked : IsSessionRequest .default request) :
    handleRequest app ctx user request nowMs capacity =
      .reply ((poll ctx nowMs).touch nowMs).relock user
        (answerSessionChange Session.default.code (AsksSilence request) capacity) [] := by
  rw [handleRequest_passes (by rw [asked.2.1]; decide) (fun needs => absurd needs (by rw [asked.2.1]; decide))
    (fun reset => absurd (asked.2.1.symm.trans reset) (by decide)), dispatch_control asked.2.1,
    handleDiagnosticSessionControl, if_neg (not_not.mpr asked.1)]
  dsimp only
  rw [if_pos asked.2.2, asked.2.2]
  rfl

theorem handleRequest_asksExtended {request : Bytes} (asked : IsSessionRequest .extended request) :
    handleRequest app ctx user request nowMs capacity =
      .reply ((poll ctx nowMs).touch nowMs).enterExtended user
        (answerSessionChange Session.extended.code (AsksSilence request) capacity) [] := by
  have other : ¬ subfunction request = Session.default.code := by
    rw [asked.2.2]
    decide
  rw [handleRequest_passes (by rw [asked.2.1]; decide) (fun needs => absurd needs (by rw [asked.2.1]; decide))
    (fun reset => absurd (asked.2.1.symm.trans reset) (by decide)), dispatch_control asked.2.1,
    handleDiagnosticSessionControl, if_neg (not_not.mpr asked.1)]
  dsimp only
  rw [if_neg other, if_pos asked.2.2, asked.2.2]
  rfl

theorem handleRequest_toDefault (room : 6 ≤ capacity) :
    handleRequest app ctx user [0x10, 0x01] nowMs capacity =
      .reply ((poll ctx nowMs).touch nowMs).relock user (.ok, sessionResponse .default) [] := by
  have plain : decide (AsksSilence [0x10, 0x01]) = false := by decide
  rw [handleRequest_asksDefault app ctx user nowMs (by decide), plain, answerSessionChange_positive .default room]

theorem handleRequest_toExtended (room : 6 ≤ capacity) :
    handleRequest app ctx user [0x10, 0x03] nowMs capacity =
      .reply ((poll ctx nowMs).touch nowMs).enterExtended user (.ok, sessionResponse .extended) [] := by
  have plain : decide (AsksSilence [0x10, 0x03]) = false := by decide
  rw [handleRequest_asksExtended app ctx user nowMs (by decide), plain, answerSessionChange_positive .extended room]

theorem handleRequest_read {didRead : UInt16 → Nat → σ → Result × Bytes × σ} {high low : UInt8} {data : Bytes}
    {after : σ} (installed : app.didRead = some didRead)
    (read : didRead (high.toUInt16 <<< 8 ||| low.toUInt16) (capacity - rdbiHeaderLen) user = (.ok, data, after))
    (room : rdbiHeaderLen ≤ capacity) (fits : rdbiHeaderLen + data.length < 0x10000) :
    let did := high.toUInt16 <<< 8 ||| low.toUInt16
    handleRequest app ctx user [0x22, high, low] nowMs capacity =
      .reply ((poll ctx nowMs).touch nowMs) after
        (.ok, (sidReadDataByIdentifier + positiveResponseOffset) :: (did >>> 8).toUInt8 :: did.toUInt8 :: data)
        [.didRead did] := by
  have sid : byteAt [0x22, high, low] 0 = sidReadDataByIdentifier := rfl
  have known : findRule sidReadDataByIdentifier ≠ none := by decide
  have free : ¬ NeedsExtended sidReadDataByIdentifier := by decide
  have enough : ¬ capacity < negativeResponseLen := Nat.not_lt.mpr room
  have whole : ∀ a b c : UInt8, (a :: b :: c :: data).take (rdbiHeaderLen + data.length) = a :: b :: c :: data := by
    intro a b c
    rw [List.take_of_length_le]
    simp only [List.length_cons, rdbiHeaderLen]
    omega
  rw [handleRequest_passes (by rwa [sid]) (by rw [sid]; exact fun needs => absurd needs free)
    (fun reset => absurd (sid.symm.trans reset) (by decide)), dispatch_read sid, handleReadDataByIdentifier]
  dsimp only
  rw [if_neg enough, if_neg (fun length => length rfl), installed]
  dsimp only
  rw [if_neg (Nat.not_lt.mpr room), byteAt_succ, byteAt_zero, byteAt_succ, byteAt_succ, byteAt_zero, read]
  dsimp only
  rw [Nat.mod_eq_of_lt fits, whole]

variable {ctx nowMs} {request : Bytes}

theorem handleRequest_seedZero (session : (poll ctx nowMs).session ≠ .default)
    (free : (poll ctx nowMs).lockedOut = false) (unlocked : (poll ctx nowMs).securityLevel ≠ .locked)
    (seed : IsSeedRequest request) (room : 6 ≤ capacity) :
    handleRequest app ctx user request nowMs capacity =
      .reply ((poll ctx nowMs).touch nowMs).dropSeed user (.ok, seedResponse 0) [] := by
  have long : ¬ request.length < 2 := by rw [seed.1]; decide
  have enough : ¬ capacity < 2 + securitySeedLen := Nat.not_lt.mpr room
  have allowed : ¬ ((poll ctx nowMs).touch nowMs).lockedOut = true := by simp [free]
  have unlocked : ((poll ctx nowMs).touch nowMs).securityLevel ≠ .locked := unlocked
  rw [handleRequest_passes (by rw [seed.2.1]; decide) (fun _ => session)
      (fun reset => absurd (seed.2.1.symm.trans reset) (by decide)), dispatch_access seed.2.1, handleSecurityAccess]
  dsimp only
  rw [if_neg long, if_neg allowed, if_pos seed.2.2, if_neg (not_not.mpr seed.1), if_neg enough,
    if_pos unlocked]
  rfl

theorem handleRequest_seed (session : (poll ctx nowMs).session ≠ .default)
    (free : (poll ctx nowMs).lockedOut = false) (locked : (poll ctx nowMs).securityLevel = .locked)
    (seed : IsSeedRequest request) (room : 6 ≤ capacity) :
    handleRequest app ctx user request nowMs capacity =
      .reply ((((poll ctx nowMs).touch nowMs).reseed (nextSeed ctx.seedState).1).awaitKey (nextSeed ctx.seedState).2)
        user (.ok, seedResponse (nextSeed ctx.seedState).2) [.seedDrawn (nextSeed ctx.seedState).2] := by
  have long : ¬ request.length < 2 := by rw [seed.1]; decide
  have enough : ¬ capacity < 2 + securitySeedLen := Nat.not_lt.mpr room
  have allowed : ¬ ((poll ctx nowMs).touch nowMs).lockedOut = true := by simp [free]
  have notUnlocked : ¬ ((poll ctx nowMs).touch nowMs).securityLevel ≠ .locked := not_not.mpr locked
  rw [handleRequest_passes (by rw [seed.2.1]; decide) (fun _ => session)
      (fun reset => absurd (seed.2.1.symm.trans reset) (by decide)), dispatch_access seed.2.1, handleSecurityAccess]
  dsimp only
  rw [if_neg long, if_neg allowed, if_pos seed.2.2, if_neg (not_not.mpr seed.1), if_neg enough,
    if_neg notUnlocked, Context.touch_seedState, poll_seedState]
  rfl

theorem handleRequest_comparesKey (key : IsKey request) (session : (poll ctx nowMs).session ≠ .default)
    (free : (poll ctx nowMs).lockedOut = false) (pending : (poll ctx nowMs).seedPending = true) :
    handleRequest app ctx user request nowMs capacity =
      let c := poll ctx nowMs
      let compared := [Effect.keyCompared (keyOf request) (demoKeyFromSeed c.currentSeed)]
      if keyOf request ≠ demoKeyFromSeed c.currentSeed then
        if c.failedAttempts + 1 ≥ securityMaxAttempts then
          .refuse (((c.touch nowMs).countFailure (c.failedAttempts + 1)).lockOut (nowMs + securityLockoutMs)) user
            sidSecurityAccess nrcExceedNumberOfAttempts capacity compared
        else
          .refuse ((c.touch nowMs).countFailure (c.failedAttempts + 1)) user sidSecurityAccess nrcInvalidKey capacity
            compared
      else
        .reply (c.touch nowMs).unlock user
          (if capacity < 2 then (.errBufferTooSmall, [])
            else (.ok, [sidSecurityAccess + positiveResponseOffset, securitySendKey])) compared := by
  have long : ¬ request.length < 2 := by rw [key.1]; decide
  have allowed : ¬ ((poll ctx nowMs).touch nowMs).lockedOut = true := by simp [free]
  have notSeed : ¬ subfunction request = securityRequestSeed :=
    fun seed => absurd (key.2.2.symm.trans seed) (by decide)
  have length : ¬ request.length ≠ 2 + securityKeyLen := not_not.mpr key.1
  have awaited : ¬ (!((poll ctx nowMs).touch nowMs).seedPending) = true := by simp [pending]
  rw [handleRequest_passes (by rw [key.2.1]; decide) (fun _ => session)
      (fun reset => absurd (key.2.1.symm.trans reset) (by decide)), dispatch_access key.2.1, handleSecurityAccess]
  dsimp only
  rw [if_neg long, if_neg allowed, if_neg notSeed, if_pos key.2.2, if_neg length, if_neg awaited]
  rfl

theorem handleRequest_key (accepts : AcceptsKey (poll ctx nowMs) request) (room : 2 ≤ capacity) :
    handleRequest app ctx user request nowMs capacity =
      .reply ((poll ctx nowMs).touch nowMs).unlock user
        (.ok, [sidSecurityAccess + positiveResponseOffset, securitySendKey])
        [.keyCompared (keyOf request) (demoKeyFromSeed (poll ctx nowMs).currentSeed)] := by
  obtain ⟨key, session, free, pending, right⟩ := accepts
  rw [handleRequest_comparesKey app user key session free pending]
  dsimp only
  rw [if_neg (not_not.mpr right), if_neg (Nat.not_lt.mpr room)]

theorem handleRequest_asksReset {ecuReset : UInt8 → σ → Result × σ} (performs : PerformsReset (poll ctx nowMs) request)
    (installed : app.ecuReset = some ecuReset) :
    handleRequest app ctx user request nowMs capacity =
      let done := ecuReset (subfunction request) user
      if done.1 ≠ .ok then
        .refuse ((poll ctx nowMs).touch nowMs) done.2 sidEcuReset nrcConditionsNotCorrect capacity
          [.ecuReset (subfunction request) done.1]
      else
        .reply ((poll ctx nowMs).touch nowMs).relock done.2
          (if capacity < 2 then (.errBufferTooSmall, [])
            else (.ok, [sidEcuReset + positiveResponseOffset, subfunction request]))
          [.ecuReset (subfunction request) done.1] := by
  obtain ⟨⟨length, sid, kind⟩, session, unlocked⟩ := performs
  have known : ¬ (subfunction request ≠ resetHard ∧ subfunction request ≠ resetSoft) :=
    fun other => kind.elim other.1 other.2
  rw [handleRequest_passes (by rw [sid]; decide) (fun _ => session) (fun _ => by rw [unlocked]; decide),
    dispatch_reset sid, handleEcuReset]
  dsimp only
  rw [if_neg (not_not.mpr length), if_neg known, installed]
  rfl

theorem handleRequest_reset {ecuReset : UInt8 → σ → Result × σ} (performs : PerformsReset (poll ctx nowMs) request)
    (installed : app.ecuReset = some ecuReset) (done : (ecuReset (subfunction request) user).1 = .ok)
    (room : 2 ≤ capacity) :
    handleRequest app ctx user request nowMs capacity =
      .reply ((poll ctx nowMs).touch nowMs).relock (ecuReset (subfunction request) user).2
        (.ok, [sidEcuReset + positiveResponseOffset, subfunction request])
        [.ecuReset (subfunction request) .ok] := by
  rw [handleRequest_asksReset app user performs installed]
  dsimp only
  rw [if_neg (not_not.mpr done), if_neg (Nat.not_lt.mpr room), done]

end

theorem room : 6 ≤ maxResponseSize := by decide

theorem isReset_hard : IsReset [0x11, 0x01] := by decide

theorem key_of_writeWord (key : UInt32) :
    IsKey ([0x27, 0x02] ++ writeWord key) ∧ keyOf ([0x27, 0x02] ++ writeWord key) = key := by
  have sendKey : (0x02 : UInt8) &&& subfunctionMask = securitySendKey := by decide
  refine ⟨⟨rfl, rfl, sendKey⟩, ?_⟩
  simpa [keyOf] using readWord_writeWord [0x27, 0x02] key []

theorem next_soon (nowMs : UInt32) : nowMs + 1 - nowMs < s3ServerTimeoutMs := by
  have one : nowMs + 1 - nowMs = 1 := by grind
  rw [one]
  decide

/-! ## A live session -/

/-- A server in the extended session, active at `nowMs`, not locked out. -/
structure Live (ctx : Context) (nowMs : UInt32) (level : SecurityLevel) : Prop where
  session : ctx.session = .extended
  free : ctx.lockedOut = false
  active : ctx.lastActivityMs = nowMs
  level : ctx.securityLevel = level

section
variable {ctx : Context} {before nowMs : UInt32} {level : SecurityLevel} {request : Bytes} {capacity : Nat}

theorem Live.poll (live : Live ctx before level) (soon : nowMs - before < s3ServerTimeoutMs) :
    poll ctx nowMs = ctx :=
  poll_idle live.free (by rwa [live.active])

theorem Live.privileged (live : Live ctx before level) : ctx.session ≠ .default := by
  rw [live.session]
  decide

theorem Live.acceptsKey (live : Live ctx before level) (soon : nowMs - before < s3ServerTimeoutMs)
    (key : IsKey request) (pending : ctx.seedPending = true)
    (right : keyOf request = demoKeyFromSeed ctx.currentSeed) : AcceptsKey (Uds.poll ctx nowMs) request := by
  rw [live.poll soon]
  exact ⟨key, live.privileged, live.free, pending, right⟩

theorem Live.touch (live : Live ctx before level) (soon : nowMs - before < s3ServerTimeoutMs) :
    Live ((Uds.poll ctx nowMs).touch nowMs) nowMs level := by
  rw [live.poll soon]
  exact ⟨live.session, live.free, rfl, live.level⟩

variable (app : Application σ) (user : σ)

theorem live_toExtended (free : (Uds.poll ctx nowMs).lockedOut = false) (room : 6 ≤ capacity) :
    Live (handleRequest app ctx user [0x10, 0x03] nowMs capacity).ctx nowMs (Uds.poll ctx nowMs).securityLevel := by
  rw [handleRequest_toExtended app ctx user nowMs room]
  exact ⟨rfl, free, rfl, rfl⟩

theorem toExtended_seedState (room : 6 ≤ capacity) :
    (handleRequest app ctx user [0x10, 0x03] nowMs capacity).ctx.seedState = ctx.seedState := by
  rw [handleRequest_toExtended app ctx user nowMs room]
  exact poll_seedState

theorem Live.seed (live : Live ctx before .locked) (soon : nowMs - before < s3ServerTimeoutMs)
    (seed : IsSeedRequest request) (room : 6 ≤ capacity) :
    let r := handleRequest app ctx user request nowMs capacity
    Live r.ctx nowMs .locked ∧ r.ctx.seedPending = true ∧ r.ctx.currentSeed = (nextSeed ctx.seedState).2 ∧
      r.result = .ok ∧ r.response = seedResponse (nextSeed ctx.seedState).2 := by
  have polled := live.poll soon
  rw [handleRequest_seed app user (by rw [polled]; exact live.privileged) (by rw [polled]; exact live.free)
    (by rw [polled]; exact live.level) seed room, polled]
  refine ⟨⟨?_, ?_, ?_, ?_⟩, rfl, rfl, rfl, rfl⟩
  · exact live.session
  · exact live.free
  · rfl
  · exact live.level

theorem Live.seedZero (live : Live ctx before .level1) (soon : nowMs - before < s3ServerTimeoutMs)
    (seed : IsSeedRequest request) (room : 6 ≤ capacity) :
    let r := handleRequest app ctx user request nowMs capacity
    Live r.ctx nowMs .level1 ∧ r.result = .ok ∧ r.response = seedResponse 0 := by
  have polled := live.poll soon
  rw [handleRequest_seedZero app user (by rw [polled]; exact live.privileged) (by rw [polled]; exact live.free)
    (by rw [polled, live.level]; decide) seed room, polled]
  exact ⟨⟨live.session, live.free, rfl, live.level⟩, rfl, rfl⟩

theorem Live.key (live : Live ctx before level) (soon : nowMs - before < s3ServerTimeoutMs)
    (key : IsKey request) (pending : ctx.seedPending = true)
    (right : keyOf request = demoKeyFromSeed ctx.currentSeed) (room : 2 ≤ capacity) :
    let r := handleRequest app ctx user request nowMs capacity
    Live r.ctx nowMs .level1 ∧ r.result = .ok ∧
      r.response = [sidSecurityAccess + positiveResponseOffset, securitySendKey] := by
  have polled := live.poll soon
  rw [handleRequest_key app user (live.acceptsKey soon key pending right) room, polled]
  exact ⟨⟨live.session, live.free, rfl, rfl⟩, rfl, rfl⟩

theorem Live.reset {ecuReset : UInt8 → σ → Result × σ} (live : Live ctx before .level1)
    (soon : nowMs - before < s3ServerTimeoutMs) (reset : IsReset request) (installed : app.ecuReset = some ecuReset)
    (done : (ecuReset (subfunction request) user).1 = .ok) (room : 2 ≤ capacity) :
    let r := handleRequest app ctx user request nowMs capacity
    r.result = .ok ∧ r.response = [sidEcuReset + positiveResponseOffset, subfunction request] ∧
      r.effects = [.ecuReset (subfunction request) .ok] := by
  have performs : PerformsReset (Uds.poll ctx nowMs) request := by
    rw [live.poll soon]
    exact ⟨reset, live.privileged, live.level⟩
  rw [handleRequest_reset app user performs installed done room]
  exact ⟨rfl, rfl, rfl⟩

end

end DiagnosticGateway.Uds
