import DiagnosticGateway.Uds.Answers
import DiagnosticGateway.Uds.Invariant

/-! What a refused request leaves behind.

A negative response leaves authority, seeds and application data as the timers
left them, but for the count of wrong keys. The S3server deadline is another
matter: access control comes before the activity is recorded, the handlers after.
-/

set_option autoImplicit false

namespace DiagnosticGateway.Uds
open BigEndian

variable {σ : Type}

/-- The answer is `7F <sid> <nrc>`. -/
def Refuses (request : Bytes) (outcome : Outcome σ) : Prop :=
  outcome.result = .ok ∧ ∃ nrc, outcome.response = [negativeResponseSid, byteAt request 0, nrc]

/-- The table has no rule for the service, or the state does not meet the rule. -/
def AccessRefused (c : Context) (request : Bytes) : Prop :=
  findRule (byteAt request 0) = none ∨ (NeedsExtended (byteAt request 0) ∧ c.session = .default) ∨
    (byteAt request 0 = sidEcuReset ∧ c.securityLevel = .locked)

section
variable {app : Application σ} {ctx : Context} {user : σ} {request : Bytes} {nowMs : UInt32} {capacity : Nat}
  {outcome : Outcome σ}

@[simp] theorem reply_effects (answer : Result × Bytes) (effects : List Effect) :
    (Outcome.reply ctx user answer effects).effects = effects := rfl

theorem Refuses.first (refuses : Refuses request outcome) : byteAt outcome.response 0 = negativeResponseSid := by
  obtain ⟨-, nrc, response⟩ := refuses
  rw [response, byteAt_zero]

theorem not_refuses_of_first (first : byteAt outcome.response 0 ≠ negativeResponseSid) : ¬ Refuses request outcome :=
  fun refuses => first refuses.first

theorem refuses_refuse {sid nrc : UInt8} {effects : List Effect} (same : byteAt request 0 = sid) (room : 3 ≤ capacity) :
    Refuses request (.refuse ctx user sid nrc capacity effects) := by
  have answered : ¬ capacity < negativeResponseLen := Nat.not_lt.mpr room
  simp [Refuses, Outcome.refuse, Outcome.reply, makeNegativeResponse, answered, same]

theorem handleRequest_accessRefused (nonempty : request ≠ []) (refused : AccessRefused (poll ctx nowMs) request) :
    ∃ nrc, handleRequest app ctx user request nowMs capacity =
      .refuse (poll ctx nowMs) user (byteAt request 0) nrc capacity [] := by
  have ends := handleRequest_ends app ctx user request nowMs capacity
  generalize handleRequest app ctx user request nowMs capacity = outcome at ends ⊢
  cases ends with
  | empty empty => exact absurd empty nonempty
  | unknown | outsideSession => exact ⟨_, rfl⟩
  | denied _ sid => exact ⟨_, by rw [sid]⟩
  | dispatched _ known session unlocked =>
    rcases refused with unknown | outside | denied
    · exact absurd unknown known
    · exact absurd outside.2 (session outside.1)
    · exact absurd denied.2 (unlocked denied.1)

@[simp] theorem poll_lastActivityMs : (poll ctx nowMs).lastActivityMs = ctx.lastActivityMs := by
  by_cases expired : Expired ctx nowMs
  · simp [poll_expired expired]
  · simp [poll_alive expired]

end

def clearAnswer (clearRes : Result) (capacity : Nat) : Result × Bytes :=
  if clearRes ≠ .ok then makeNegativeResponse sidClearDiagnosticInformation nrcRequestOutOfRange capacity
  else if capacity < 1 then (.errBufferTooSmall, [])
  else (.ok, [sidClearDiagnosticInformation + positiveResponseOffset])

theorem clearAnswer_first (capacity : Nat) : byteAt (clearAnswer .ok capacity).2 0 ≠ negativeResponseSid := by
  rw [clearAnswer, if_neg (not_not.mpr rfl)]
  split <;> decide

section
variable {app : Application σ} {ctx : Context} {user : σ} {request : Bytes} {nowMs : UInt32} {capacity : Nat}
  {outcome : Outcome σ}

theorem handleClearDiagnosticInformation_called {dtcClear : UInt32 → σ → Result × σ} (length : request.length = 4)
    (installed : app.dtcClear = some dtcClear) :
    handleClearDiagnosticInformation app ctx user request capacity =
      .reply ctx (dtcClear (groupOf request) user).2 (clearAnswer (dtcClear (groupOf request) user).1 capacity)
        [.dtcClear (groupOf request) (dtcClear (groupOf request) user).1] := by
  unfold handleClearDiagnosticInformation
  dsimp only
  rw [if_neg (not_not.mpr length), installed]
  unfold clearAnswer groupOf
  dsimp only
  split <;> rfl

theorem handleRequest_clear {dtcClear : UInt32 → σ → Result × σ} (clear : IsClear request)
    (session : (poll ctx nowMs).session ≠ .default) (installed : app.dtcClear = some dtcClear) :
    handleRequest app ctx user request nowMs capacity =
      .reply ((poll ctx nowMs).touch nowMs) (dtcClear (groupOf request) user).2
        (clearAnswer (dtcClear (groupOf request) user).1 capacity)
        [.dtcClear (groupOf request) (dtcClear (groupOf request) user).1] := by
  rw [handleRequest_passes (by rw [clear.2]; decide) (fun _ => session)
    (fun reset => absurd (clear.2.symm.trans reset) (by decide)), dispatch_clear clear.2,
    handleClearDiagnosticInformation_called clear.1 installed]

def Effect.sid : Effect → UInt8
  | .didRead _ => sidReadDataByIdentifier
  | .dtcRead _ => sidReadDtcInformation
  | .dtcClear _ _ => sidClearDiagnosticInformation
  | .ecuReset _ _ => sidEcuReset
  | .seedDrawn _ | .keyCompared _ _ => sidSecurityAccess

theorem effects_none {sid : UInt8} {answer : Result × Bytes} :
    ∀ effect ∈ (Outcome.reply ctx user answer []).effects, effect.sid = sid :=
  fun _ member => absurd member List.not_mem_nil

theorem effects_own {effect : Effect} {answer : Result × Bytes} :
    ∀ other ∈ (Outcome.reply ctx user answer [effect]).effects, other.sid = effect.sid :=
  fun _ member => congrArg Effect.sid (List.mem_singleton.mp member)

theorem DispatchEnds.effects (ends : DispatchEnds app ctx user request nowMs capacity outcome) :
    ∀ effect ∈ outcome.effects, effect.sid = byteAt request 0 := by
  cases ends with
  | control sid ends =>
    rw [sid]
    cases ends with
    | rejected | toDefault | toExtended => exact effects_none
  | reset sid ends =>
    rw [sid]
    cases ends with
    | rejected => exact effects_none
    | failed | reset => exact effects_own
  | clear sid ends =>
    rw [sid]
    cases ends with
    | rejected => exact effects_none
    | failed | cleared => exact effects_own
  | report sid ends =>
    rw [sid]
    cases ends with
    | rejected | noRoom => exact effects_none
    | failed | reported => exact effects_own
  | read sid ends =>
    rw [sid]
    cases ends with
    | rejected | noRoom => exact effects_none
    | failed | read => exact effects_own
  | access sid ends =>
    rw [sid]
    cases ends with
    | malformed | delayed | seedNoRoom | seedZero | keyUnexpected => exact effects_none
    | seedIssued | keyWrong | keyExceeded | keyAccepted => exact effects_own
  | present sid ends =>
    rw [sid]
    cases ends with
    | rejected | silent | noRoom | answered => exact effects_none
  | unknown => exact effects_none

theorem handleRequest_clears {group : UInt32} {result : Result}
    (called : .dtcClear group result ∈ (handleRequest app ctx user request nowMs capacity).effects) :
    IsClear request ∧ (poll ctx nowMs).session ≠ .default ∧ ∃ dtcClear, app.dtcClear = some dtcClear := by
  have ends := handleRequest_ends app ctx user request nowMs capacity
  generalize handleRequest app ctx user request nowMs capacity = outcome at ends called
  cases ends with
  | empty | unknown | outsideSession | denied => exact absurd called List.not_mem_nil
  | dispatched _ _ session _ ends =>
    have sid : byteAt request 0 = sidClearDiagnosticInformation := (ends.effects _ called).symm
    have session : (poll ctx nowMs).session ≠ .default := session (.inr (.inl sid))
    cases ends with
    | clear _ ends =>
      cases ends with
      | rejected => exact absurd called List.not_mem_nil
      | failed dtcClear _ _ clear installed => exact ⟨clear, session, dtcClear, installed⟩
      | cleared dtcClear _ clear installed => exact ⟨clear, session, dtcClear, installed⟩
    | unknown unknown => exact absurd called List.not_mem_nil
    | control other | reset other | report other | read other | access other | present other =>
      exact absurd (sid.symm.trans other) (by decide)

end

/-- A refusal by access control leaves the S3server deadline where it was; every
other request is an activity, also when its handler refuses it. -/
theorem refusal_deadline (app : Application σ) (ctx : Context) (user : σ) (request : Bytes) (nowMs : UInt32)
    (capacity : Nat) :
    (AccessRefused (poll ctx nowMs) request →
      (handleRequest app ctx user request nowMs capacity).ctx.lastActivityMs = ctx.lastActivityMs ∧
        (request ≠ [] → 3 ≤ capacity → Refuses request (handleRequest app ctx user request nowMs capacity))) ∧
    (¬ AccessRefused (poll ctx nowMs) request →
      (handleRequest app ctx user request nowMs capacity).ctx.lastActivityMs = nowMs) := by
  constructor
  · intro refused
    cases request with
    | nil => exact ⟨poll_lastActivityMs, fun nonempty => absurd rfl nonempty⟩
    | cons sid rest =>
      obtain ⟨nrc, same⟩ :=
        @handleRequest_accessRefused _ app ctx user (sid :: rest) nowMs capacity (List.cons_ne_nil _ _) refused
      rw [same]
      exact ⟨poll_lastActivityMs, fun _ room => refuses_refuse rfl room⟩
  · intro passed
    obtain ⟨known, session, unlocked⟩ := by simpa only [AccessRefused, not_or, not_and] using passed
    exact (handleRequest_handled app ctx user request nowMs capacity).lastActivityMs_eq known session unlocked

/-! ## What a handler serves -/

/-- The handler of the service finds nothing to refuse. -/
def HandlerServes (app : Application σ) (c : Context) (user : σ) (request : Bytes) (capacity : Nat) : Prop :=
  if byteAt request 0 = sidDiagnosticSessionControl then
    IsSessionRequest .default request ∨ IsSessionRequest .extended request
  else if byteAt request 0 = sidEcuReset then
    IsReset request ∧ ∃ ecuReset, app.ecuReset = some ecuReset ∧ (ecuReset (subfunction request) user).1 = .ok
  else if byteAt request 0 = sidClearDiagnosticInformation then
    IsClear request ∧ ∃ dtcClear, app.dtcClear = some dtcClear ∧ (dtcClear (groupOf request) user).1 = .ok
  else if byteAt request 0 = sidReadDtcInformation then
    IsReport request ∧ ∃ dtcRead, app.dtcRead = some dtcRead ∧
      (dtcRead (byteAt request 2) (capacity - 3) user).1 = .ok
  else if byteAt request 0 = sidReadDataByIdentifier then
    IsRead request ∧ ∃ didRead, app.didRead = some didRead ∧
      (didRead (didOf request) (capacity - rdbiHeaderLen) user).1 = .ok
  else if byteAt request 0 = sidSecurityAccess then
    c.lockedOut = false ∧ (IsSeedRequest request ∨
      (IsKey request ∧ c.seedPending = true ∧ keyOf request = demoKeyFromSeed c.currentSeed))
  else IsTesterPresent request

section
variable {app : Application σ} {ctx c : Context} {user : σ} {request : Bytes} {nowMs : UInt32} {capacity : Nat}
  {outcome : Outcome σ}

theorem SessionControlEnds.refuses_iff (ends : SessionControlEnds ctx user request capacity outcome)
    (sid : byteAt request 0 = sidDiagnosticSessionControl) (room : 3 ≤ capacity) :
    Refuses request outcome ↔ ¬ HandlerServes app c user request capacity := by
  rw [HandlerServes, if_pos sid]
  cases ends with
  | rejected nrc _ notDefault notExtended =>
    exact iff_of_true (refuses_refuse sid room) (not_or.mpr ⟨notDefault, notExtended⟩)
  | toDefault asked =>
    exact iff_of_false (not_refuses_of_first (answerSessionChange_first _ _)) (not_not.mpr (.inl asked))
  | toExtended asked =>
    exact iff_of_false (not_refuses_of_first (answerSessionChange_first _ _)) (not_not.mpr (.inr asked))

-- Four services have this shape: a form, and a callback that may be missing or fail.
theorem unserved_of_unavailable {Callback : Type} {form : Prop} {slot : Option Callback} {done : Callback → Prop}
    (unavailable : form → slot = none) : ¬ (form ∧ ∃ callback, slot = some callback ∧ done callback) := by
  rintro ⟨asked, callback, installed, -⟩
  exact absurd (installed.symm.trans (unavailable asked)) (Option.some_ne_none _)

theorem unserved_of_failed {Callback : Type} {form : Prop} {slot : Option Callback} {done : Callback → Prop}
    {callback : Callback} (installed : slot = some callback) (failed : ¬ done callback) :
    ¬ (form ∧ ∃ callback, slot = some callback ∧ done callback) := by
  rintro ⟨-, other, same, served⟩
  obtain rfl : callback = other := Option.some.inj (installed.symm.trans same)
  exact failed served

theorem EcuResetEnds.refuses_iff (ends : EcuResetEnds app ctx user request capacity outcome)
    (sid : byteAt request 0 = sidEcuReset) (room : 3 ≤ capacity) :
    Refuses request outcome ↔ ¬ HandlerServes app c user request capacity := by
  rw [HandlerServes, sid, if_neg (by decide), if_pos rfl]
  cases ends with
  | rejected nrc _ unavailable => exact iff_of_true (refuses_refuse sid room) (unserved_of_unavailable unavailable)
  | failed ecuReset next resetRes asked installed called failed =>
    exact iff_of_true (refuses_refuse sid room) (unserved_of_failed installed (by rwa [called]))
  | reset ecuReset next asked installed called =>
    refine iff_of_false (not_refuses_of_first (positive_first (by decide))) (not_not.mpr ?_)
    exact ⟨asked, ecuReset, installed, congrArg Prod.fst called⟩

theorem DtcClearEnds.refuses_iff (ends : DtcClearEnds app ctx user request capacity outcome)
    (sid : byteAt request 0 = sidClearDiagnosticInformation) (room : 3 ≤ capacity) :
    Refuses request outcome ↔ ¬ HandlerServes app c user request capacity := by
  rw [HandlerServes, sid, if_neg (by decide), if_neg (by decide), if_pos rfl]
  cases ends with
  | rejected nrc _ unavailable => exact iff_of_true (refuses_refuse sid room) (unserved_of_unavailable unavailable)
  | failed dtcClear next clearRes clear installed called failed =>
    exact iff_of_true (refuses_refuse sid room) (unserved_of_failed installed (by rwa [called]))
  | cleared dtcClear next clear installed called =>
    refine iff_of_false (not_refuses_of_first (clearAnswer_first capacity)) (not_not.mpr ?_)
    exact ⟨clear, dtcClear, installed, congrArg Prod.fst called⟩

-- The length is reduced modulo 2^16, so there may be no first byte at all.
theorem take_first {first : UInt8} (distinct : first ≠ negativeResponseSid) (rest : Bytes) (limit : Nat) :
    byteAt ((first :: rest).take limit) 0 ≠ negativeResponseSid := by
  cases limit with
  | zero => exact (by decide : byteAt [] 0 ≠ negativeResponseSid)
  | succ limit => exact distinct

theorem DtcReportEnds.refuses_iff (ends : DtcReportEnds app ctx user request capacity outcome)
    (sid : byteAt request 0 = sidReadDtcInformation) (room : 3 ≤ capacity) :
    Refuses request outcome ↔ ¬ HandlerServes app c user request capacity := by
  rw [HandlerServes, sid, if_neg (by decide), if_neg (by decide), if_neg (by decide), if_pos rfl]
  cases ends with
  | noRoom small => exact absurd small (Nat.not_lt.mpr room)
  | rejected nrc _ unavailable => exact iff_of_true (refuses_refuse sid room) (unserved_of_unavailable unavailable)
  | failed dtcRead res data next nrc _ report installed reads failed =>
    exact iff_of_true (refuses_refuse sid room) (unserved_of_failed installed (by rwa [reads]))
  | reported dtcRead data next report installed reads =>
    refine iff_of_false (not_refuses_of_first (take_first (by decide) _ _)) (not_not.mpr ?_)
    exact ⟨report, dtcRead, installed, congrArg Prod.fst reads⟩

theorem ReadDataEnds.refuses_iff (ends : ReadDataEnds app ctx user request capacity outcome)
    (sid : byteAt request 0 = sidReadDataByIdentifier) (room : 3 ≤ capacity) :
    Refuses request outcome ↔ ¬ HandlerServes app c user request capacity := by
  rw [HandlerServes, sid, if_neg (by decide), if_neg (by decide), if_neg (by decide), if_neg (by decide), if_pos rfl]
  cases ends with
  | noRoom small => exact absurd small (Nat.not_lt.mpr room)
  | rejected nrc _ unavailable => exact iff_of_true (refuses_refuse sid room) (unserved_of_unavailable unavailable)
  | failed didRead providerRes data next nrc _ asked installed reads failed =>
    exact iff_of_true (refuses_refuse sid room) (unserved_of_failed installed (by rwa [reads]))
  | read didRead data next asked installed reads =>
    refine iff_of_false (not_refuses_of_first (take_first (by decide) _ _)) (not_not.mpr ?_)
    exact ⟨asked, didRead, installed, congrArg Prod.fst reads⟩

theorem SecurityAccessEnds.refuses_iff (ends : SecurityAccessEnds ctx user request nowMs capacity outcome)
    (sid : byteAt request 0 = sidSecurityAccess) (room : 3 ≤ capacity) :
    Refuses request outcome ↔ ¬ HandlerServes app ctx user request capacity := by
  rw [HandlerServes, sid, if_neg (by decide), if_neg (by decide), if_neg (by decide), if_neg (by decide),
    if_neg (by decide), if_pos rfl]
  have notBoth : IsKey request → ¬ IsSeedRequest request := fun key seed =>
    absurd (seed.2.2.symm.trans key.2.2) (by decide)
  cases ends with
  | malformed nrc _ notSeed notKey =>
    refine iff_of_true (refuses_refuse sid room) ?_
    rintro ⟨-, seed | key⟩
    · exact notSeed seed
    · exact notKey key.1
  | delayed long locked =>
    refine iff_of_true (refuses_refuse sid room) (fun serves => ?_)
    exact Bool.false_ne_true (serves.1.symm.trans locked)
  | seedNoRoom seed free =>
    have silent : byteAt [] 0 ≠ negativeResponseSid := by decide
    exact iff_of_false (not_refuses_of_first silent) (not_not.mpr ⟨free, .inl seed⟩)
  | seedZero seed free | seedIssued seed free =>
    have first : sidSecurityAccess + positiveResponseOffset ≠ negativeResponseSid := by decide
    exact iff_of_false (not_refuses_of_first first) (not_not.mpr ⟨free, .inl seed⟩)
  | keyUnexpected key free idle =>
    refine iff_of_true (refuses_refuse sid room) ?_
    rintro ⟨-, seed | ⟨-, pending, -⟩⟩
    · exact notBoth key seed
    · exact Bool.false_ne_true (idle.symm.trans pending)
  | keyWrong key free pending wrong | keyExceeded key free pending wrong =>
    refine iff_of_true (refuses_refuse sid room) ?_
    rintro ⟨-, seed | ⟨-, -, right⟩⟩
    · exact notBoth key seed
    · exact wrong right
  | keyAccepted key free pending right =>
    exact iff_of_false (not_refuses_of_first (positive_first (by decide)))
      (not_not.mpr ⟨free, .inr ⟨key, pending, right⟩⟩)

theorem TesterPresentEnds.refuses_iff (ends : TesterPresentEnds ctx user request capacity outcome)
    (sid : byteAt request 0 = sidTesterPresent) (room : 3 ≤ capacity) :
    Refuses request outcome ↔ ¬ HandlerServes app c user request capacity := by
  rw [HandlerServes, sid, if_neg (by decide), if_neg (by decide), if_neg (by decide), if_neg (by decide),
    if_neg (by decide), if_neg (by decide)]
  cases ends with
  | rejected nrc _ other =>
    exact iff_of_true (refuses_refuse sid room) (fun asked => other ⟨asked.1, asked.2.2⟩)
  | silent length known | noRoom _ length known | answered _ length known =>
    refine iff_of_false (not_refuses_of_first ?_) (not_not.mpr ⟨length, sid, known⟩)
    simp only [Outcome.reply]
    decide

/-- Behind access control, a request is refused exactly when its handler does not serve it. -/
theorem handleRequest_refuses_iff (passed : ¬ AccessRefused (poll ctx nowMs) request) (room : 3 ≤ capacity) :
    Refuses request (handleRequest app ctx user request nowMs capacity) ↔
      ¬ HandlerServes app (poll ctx nowMs) user request capacity := by
  have ends := handleRequest_ends app ctx user request nowMs capacity
  generalize handleRequest app ctx user request nowMs capacity = outcome at ends ⊢
  cases ends with
  | empty empty =>
    subst empty
    exact absurd (.inl (by decide)) passed
  | unknown _ unknown => exact absurd (.inl unknown) passed
  | outsideSession _ needs session => exact absurd (.inr (.inl ⟨needs, session⟩)) passed
  | denied _ sid _ locked => exact absurd (.inr (.inr ⟨sid, locked⟩)) passed
  | dispatched _ known _ _ ends =>
    cases ends with
    | control sid ends | reset sid ends | clear sid ends | report sid ends | read sid ends | present sid ends =>
      exact ends.refuses_iff sid room
    | access sid ends => exact ends.refuses_iff sid room
    | unknown unknown => exact absurd unknown known

end

/-- When a refused request leaves the S3server deadline alone: access control
refuses it, its handler serves it after all, or the clock has not moved. -/
theorem refused_keeps_deadline_iff (app : Application σ) (ctx : Context) (user : σ) (request : Bytes)
    (nowMs : UInt32) (capacity : Nat) (room : 3 ≤ capacity) :
    (Refuses request (handleRequest app ctx user request nowMs capacity) →
      (handleRequest app ctx user request nowMs capacity).ctx.lastActivityMs = ctx.lastActivityMs) ↔
      AccessRefused (poll ctx nowMs) request ∨ HandlerServes app (poll ctx nowMs) user request capacity ∨
        nowMs = ctx.lastActivityMs := by
  obtain ⟨kept, moved⟩ := refusal_deadline app ctx user request nowMs capacity
  by_cases denied : AccessRefused (poll ctx nowMs) request
  · exact iff_of_true (fun _ => (kept denied).1) (.inl denied)
  rw [moved denied, handleRequest_refuses_iff denied room]
  constructor
  · intro keeps
    by_cases serves : HandlerServes app (poll ctx nowMs) user request capacity
    · exact .inr (.inl serves)
    · exact .inr (.inr (keeps serves))
  · rintro (refused | serves | same) unserved
    · exact absurd refused denied
    · exact absurd serves unserved
    · exact same

theorem refused_keeps_deadline_unknown :
    let bare : Application Unit := ⟨none, none, none, none⟩
    let extended : Context := { init with session := .extended }
    Refuses [0x99] (handleRequest bare extended () [0x99] 4000 3) →
      (handleRequest bare extended () [0x99] 4000 3).ctx.lastActivityMs = 0 :=
  (refused_keeps_deadline_iff _ _ _ _ _ _ (by decide)).mpr (.inl (.inl (by decide)))

/-- Four seconds into an extended session, a `3E` without its sub-function is
refused and starts the five seconds again. -/
theorem malformed_request_prolongs :
    let bare : Application Unit := ⟨none, none, none, none⟩
    let server := Traces.final (step bare) (.init ()) [.request [0x10, 0x03] 0 6]
    let outcome := handleRequest bare server.ctx server.user [0x3E] 4000 3
    Refuses [0x3E] outcome ∧ outcome.ctx.lastActivityMs ≠ server.ctx.lastActivityMs := by
  refine ⟨⟨rfl, nrcIncorrectMessageLength, rfl⟩, ?_⟩
  decide

/-- A refusal changes neither authority nor seed, comes with no clear and no reset
that succeeded, and counts only a wrong key. -/
theorem refusal_frame (app : Application σ) (ctx : Context) (user : σ) (request : Bytes) (nowMs : UInt32)
    (capacity : Nat) (refuses : Refuses request (handleRequest app ctx user request nowMs capacity)) :
    let c := poll ctx nowMs
    let outcome := handleRequest app ctx user request nowMs capacity
    (outcome.ctx.session = c.session ∧ outcome.ctx.securityLevel = c.securityLevel ∧
      outcome.ctx.currentSeed = c.currentSeed ∧ outcome.ctx.seedState = c.seedState) ∧
    (∀ group result, .dtcClear group result ∈ outcome.effects → result ≠ .ok) ∧
    (∀ resetType result, .ecuReset resetType result ∈ outcome.effects → result ≠ .ok) ∧
    ((outcome.ctx.failedAttempts = c.failedAttempts ∧ outcome.ctx.seedPending = c.seedPending ∧
        outcome.ctx.lockedOut = c.lockedOut) ∨
      (IsKey request ∧ c.lockedOut = false ∧ c.seedPending = true ∧
        keyOf request ≠ demoKeyFromSeed c.currentSeed)) := by
  dsimp only
  have clears : ∀ group result, .dtcClear group result ∈ (handleRequest app ctx user request nowMs capacity).effects →
      result ≠ .ok := by
    rintro group _ called rfl
    obtain ⟨clear, session, dtcClear, installed⟩ := handleRequest_clears called
    rw [handleRequest_clear clear session installed] at called refuses
    have done : (dtcClear (groupOf request) user).1 = .ok := by
      rw [reply_effects, List.mem_singleton, Effect.dtcClear.injEq] at called
      exact called.2.symm
    refine absurd refuses.first ?_
    rw [done]
    exact clearAnswer_first capacity
  have handled := handleRequest_handled app ctx user request nowMs capacity
  generalize handleRequest app ctx user request nowMs capacity = outcome at handled refuses clears
  cases handled with
  | empty | unknown | outsideSession | denied | accessMalformed | accessDelayed | seedNoRoom | keyUnexpected =>
    exact ⟨⟨rfl, rfl, rfl, rfl⟩, clears, by simp [Outcome.refuse], .inl ⟨rfl, rfl, rfl⟩⟩
  | plain _ _ _ _ _ _ plain =>
    exact ⟨⟨rfl, rfl, rfl, rfl⟩, clears, fun _ _ called => (plain _ called).elim, .inl ⟨rfl, rfl, rfl⟩⟩
  | toDefault _ answer | toExtended _ answer =>
    subst answer
    exact absurd refuses.first (answerSessionChange_first _ _)
  | resetFailed _ _ _ _ _ failed =>
    refine ⟨⟨rfl, rfl, rfl, rfl⟩, clears, fun _ _ called => ?_, .inl ⟨rfl, rfl, rfl⟩⟩
    obtain ⟨-, rfl⟩ := by simpa [Outcome.refuse] using called
    exact failed
  | reset => exact absurd refuses.first (positive_first (by decide))
  | seedZero | seedIssued =>
    have first : sidSecurityAccess + positiveResponseOffset ≠ negativeResponseSid := by decide
    exact absurd refuses.first first
  | keyWrong key _ free pending wrong | keyExceeded key _ free pending wrong =>
    exact ⟨⟨rfl, rfl, rfl, rfl⟩, clears, by simp [Outcome.refuse], .inr ⟨key, free, pending, wrong⟩⟩
  | keyAccepted => exact absurd refuses.first (positive_first (by decide))

/-- The third wrong key. -/
theorem refusal_frame_wrong :
    let bare : Application Unit := ⟨none, none, none, none⟩
    let c : Context := { init with session := .extended, seedPending := true, failedAttempts := 2 }
    (handleRequest bare c () [0x27, 0x02, 0, 0, 0, 0] 7 3).ctx.securityLevel = .locked :=
  (refusal_frame _ _ _ _ _ _ ⟨by decide, nrcExceedNumberOfAttempts, by decide⟩).1.2.1

end DiagnosticGateway.Uds
