import DiagnosticGateway.Uds.Refusals
import DiagnosticGateway.Uds.Responses

/-! The suppress bit, on two runs of the same request.

All five services with a sub-function mask the bit off, and `10` and `3E` act on
it. `11`, `19` and `27` answer as if it were not there, so the twin of a request
they serve is answered too.
-/

set_option autoImplicit false

namespace DiagnosticGateway.Uds
open BigEndian

variable {σ : Type}

/-- The two requests differ in the suppress bit only, and `twin` has it. -/
structure Twins (request twin : Bytes) : Prop where
  nonempty : request ≠ []
  length : twin.length = request.length
  sid : byteAt twin 0 = byteAt request 0
  subfunction : subfunction twin = subfunction request
  data : ∀ index, byteAt twin (index + 2) = byteAt request (index + 2)
  audible : ¬ AsksSilence request
  silent : AsksSilence twin

theorem or_and_distrib (a b c : UInt8) : (a ||| b) &&& c = (a &&& c) ||| (b &&& c) :=
  UInt8.toBitVec_inj.mp BitVec.and_or_distrib_right

theorem twins_of_clear (sid second : UInt8) (rest : Bytes) (clear : second &&& suppressPosRspBit = 0) :
    Twins (sid :: second :: rest) (sid :: (second ||| suppressPosRspBit) :: rest) where
  nonempty := List.cons_ne_nil _ _
  length := rfl
  sid := rfl
  subfunction := by
    have dropped : suppressPosRspBit &&& subfunctionMask = 0 := by decide
    simp only [subfunction, byteAt_succ, byteAt_zero, or_and_distrib, dropped, UInt8.or_zero]
  data := fun _ => rfl
  audible := not_not.mpr clear
  silent := by
    have bit : suppressPosRspBit &&& suppressPosRspBit = suppressPosRspBit := by decide
    simp only [AsksSilence, byteAt_succ, byteAt_zero, or_and_distrib, clear, bit, UInt8.zero_or]
    decide

def HasSubfunction (sid : UInt8) : Prop :=
  sid = sidDiagnosticSessionControl ∨ sid = sidEcuReset ∨ sid = sidReadDtcInformation ∨ sid = sidSecurityAccess ∨
    sid = sidTesterPresent

/-- What the suppress bit is for: a refusal stays, a positive answer is left out,
and nothing else changes. -/
structure Silenced (request : Bytes) (first twin : Outcome σ) : Prop where
  ctx : twin.ctx = first.ctx
  user : twin.user = first.user
  effects : twin.effects = first.effects
  refused : ∀ nrc, first.answer = (.ok, [negativeResponseSid, byteAt request 0, nrc]) → twin.answer = first.answer
  served : ∀ rest, first.answer = (.ok, (byteAt request 0 + positiveResponseOffset) :: rest) →
    twin.answer = (.noResponse, [])

section
variable {app : Application σ} {ctx : Context} {user : σ} {request twin : Bytes} {nowMs : UInt32} {capacity : Nat}
  {outcome : Outcome σ}

theorem handleEcuReset_twin (twins : Twins request twin) :
    handleEcuReset app ctx user twin capacity = handleEcuReset app ctx user request capacity := by
  unfold handleEcuReset
  rw [twins.length, twins.subfunction]

theorem handleReadDtcInformation_twin (twins : Twins request twin) :
    handleReadDtcInformation app ctx user twin capacity = handleReadDtcInformation app ctx user request capacity := by
  unfold handleReadDtcInformation
  rw [twins.length, twins.subfunction, twins.data 0]

theorem handleSecurityAccess_twin (twins : Twins request twin) :
    handleSecurityAccess ctx user twin nowMs capacity = handleSecurityAccess ctx user request nowMs capacity := by
  have key : readWord twin 2 = readWord request 2 := by
    have first := twins.data 0
    have second := twins.data 1
    have third := twins.data 2
    have fourth := twins.data 3
    simp only [readWord, first, second, third, fourth]
  unfold handleSecurityAccess
  rw [twins.length, twins.subfunction, key]

def IgnoresSuppression (sid : UInt8) : Prop :=
  sid = sidEcuReset ∨ sid = sidReadDtcInformation ∨ sid = sidSecurityAccess

instance (sid : UInt8) : Decidable (IgnoresSuppression sid) := inferInstanceAs (Decidable (_ ∨ _ ∨ _))

theorem dispatch_twin (twins : Twins request twin) (deaf : IgnoresSuppression (byteAt request 0)) :
    dispatch app ctx user (byteAt twin 0) twin nowMs capacity =
      dispatch app ctx user (byteAt request 0) request nowMs capacity := by
  rcases deaf with sid | sid | sid
  · rw [dispatch_reset sid, dispatch_reset (twins.sid.trans sid), handleEcuReset_twin twins]
  · rw [dispatch_report sid, dispatch_report (twins.sid.trans sid), handleReadDtcInformation_twin twins]
  · rw [dispatch_access sid, dispatch_access (twins.sid.trans sid), handleSecurityAccess_twin twins]

theorem handleRequest_twin (twins : Twins request twin) (deaf : IgnoresSuppression (byteAt request 0)) :
    handleRequest app ctx user twin nowMs capacity = handleRequest app ctx user request nowMs capacity := by
  have same := fun ctx : Context => @dispatch_twin _ app ctx user _ _ nowMs capacity twins deaf
  obtain ⟨sid, rest, rfl⟩ := List.exists_cons_of_ne_nil twins.nonempty
  cases twin with
  | nil => exact absurd twins.length (by simp)
  | cons other more =>
    obtain rfl : other = sid := twins.sid
    simp only [byteAt_zero] at same
    simp only [handleRequest, same]

/-- The request is of one of these services and is answered positively. -/
def Served (app : Application σ) (c : Context) (user : σ) (request : Bytes) (capacity : Nat) : Prop :=
  (PerformsReset c request ∧ ∃ ecuReset, app.ecuReset = some ecuReset ∧
      (ecuReset (subfunction request) user).1 = .ok) ∨
    (IsSeedRequest request ∧ c.session ≠ .default ∧ c.lockedOut = false) ∨ AcceptsKey c request ∨
    (IsReport request ∧ ∃ dtcRead, app.dtcRead = some dtcRead ∧
      (dtcRead (byteAt request 2) (capacity - 3) user).1 = .ok)

def Positive (request : Bytes) (outcome : Outcome σ) : Prop :=
  ∃ rest, outcome.answer = (.ok, (byteAt request 0 + positiveResponseOffset) :: rest)

theorem not_positive_of_negative {sid nrc : UInt8} {after : Context} {next : σ} {effects : List Effect}
    (same : byteAt request 0 = sid) (distinct : sid + positiveResponseOffset ≠ negativeResponseSid) :
    ¬ Positive request (.reply after next (makeNegativeResponse sid nrc capacity) effects) := by
  rintro ⟨rest, answer⟩
  simp only [Outcome.answer, Outcome.reply, makeNegativeResponse] at answer
  split at answer
  · simp at answer
  · simp only [Prod.mk.injEq, List.cons.injEq] at answer
    rw [same] at answer
    exact distinct answer.2.1.symm

theorem EcuResetEnds.positive (ends : EcuResetEnds app ctx user request capacity outcome)
    (sid : byteAt request 0 = sidEcuReset) (positive : Positive request outcome) :
    IsReset request ∧ ∃ ecuReset, app.ecuReset = some ecuReset ∧ (ecuReset (subfunction request) user).1 = .ok := by
  cases ends with
  | rejected | failed => exact absurd positive (not_positive_of_negative sid (by decide))
  | reset ecuReset next asked installed called => exact ⟨asked, ecuReset, installed, by rw [called]⟩

theorem DtcReportEnds.positive (ends : DtcReportEnds app ctx user request capacity outcome)
    (sid : byteAt request 0 = sidReadDtcInformation) (positive : Positive request outcome) :
    IsReport request ∧ ∃ dtcRead, app.dtcRead = some dtcRead ∧
      (dtcRead (byteAt request 2) (capacity - 3) user).1 = .ok := by
  cases ends with
  | rejected | failed => exact absurd positive (not_positive_of_negative sid (by decide))
  | noRoom =>
    obtain ⟨rest, answer⟩ := positive
    simp [Outcome.answer, Outcome.reply] at answer
  | reported dtcRead data next report installed reads => exact ⟨report, dtcRead, installed, by rw [reads]⟩

theorem SecurityAccessEnds.positive (ends : SecurityAccessEnds ctx user request nowMs capacity outcome)
    (sid : byteAt request 0 = sidSecurityAccess) (positive : Positive request outcome) :
    ctx.lockedOut = false ∧ (IsSeedRequest request ∨
      (IsKey request ∧ ctx.seedPending = true ∧ keyOf request = demoKeyFromSeed ctx.currentSeed)) := by
  cases ends with
  | malformed | delayed | keyUnexpected | keyWrong | keyExceeded =>
    exact absurd positive (not_positive_of_negative sid (by decide))
  | seedNoRoom seed free | seedZero seed free | seedIssued seed free => exact ⟨free, .inl seed⟩
  | keyAccepted key free pending right => exact ⟨free, .inr ⟨key, pending, right⟩⟩

theorem served_of_positive (deaf : IgnoresSuppression (byteAt request 0))
    (positive : Positive request (handleRequest app ctx user request nowMs capacity)) :
    Served app (poll ctx nowMs) user request capacity := by
  have distinct : byteAt request 0 + positiveResponseOffset ≠ negativeResponseSid := by
    rcases deaf with sid | sid | sid <;> rw [sid] <;> decide
  have ends := handleRequest_ends app ctx user request nowMs capacity
  generalize handleRequest app ctx user request nowMs capacity = outcome at ends positive
  cases ends with
  | empty empty =>
    subst empty
    exact absurd deaf (by decide)
  | unknown | outsideSession => exact absurd positive (not_positive_of_negative rfl distinct)
  | denied _ sid => exact absurd positive (not_positive_of_negative sid (by decide))
  | dispatched _ known session unlocked ends =>
    cases ends with
    | reset sid ends =>
      obtain ⟨asked, performed⟩ := ends.positive sid positive
      exact .inl ⟨⟨asked, session (by rw [sid]; decide), level1_of_unlocked (unlocked sid)⟩, performed⟩
    | report sid ends => exact .inr (.inr (.inr (ends.positive sid positive)))
    | access sid ends =>
      have session := session (by rw [sid]; decide)
      obtain ⟨free, seed | ⟨key, pending, right⟩⟩ := ends.positive sid positive
      · exact .inr (.inl ⟨seed, session, free⟩)
      · exact .inr (.inr (.inl ⟨key, session, free, pending, right⟩))
    | control other | clear other | read other | present other =>
      rw [other] at deaf
      exact absurd deaf (by decide)
    | unknown unknown => exact absurd unknown known

theorem handleRequest_report {dtcRead : UInt8 → Nat → σ → Result × Bytes × σ} (keeps : KeepsRoom app)
    (report : IsReport request) (installed : app.dtcRead = some dtcRead)
    (done : (dtcRead (byteAt request 2) (capacity - 3) user).1 = .ok) (enough : 3 ≤ capacity)
    (word : capacity < 0x10000) : Positive request (handleRequest app ctx user request nowMs capacity) := by
  have free : ¬ NeedsExtended sidReadDtcInformation := by decide
  rw [handleRequest_passes (by rw [report.2.1]; decide) (fun needs => absurd (report.2.1 ▸ needs) free)
    (fun reset => absurd (report.2.1.symm.trans reset) (by decide)), dispatch_report report.2.1,
    handleReadDtcInformation, installed, report.1]
  dsimp only
  rw [if_neg (by decide), if_neg (not_not.mpr report.2.2), if_neg (by decide), if_neg (Nat.not_lt.mpr enough)]
  generalize read : dtcRead (byteAt request 2) (capacity - 3) user = answer at done ⊢
  obtain ⟨res, data, after⟩ := answer
  have done : res = .ok := done
  subst done
  have room := keeps.dtcRead _ _ _ _ _ _ installed read
  have narrow : (3 + data.length) % 0x10000 = data.length + 1 + 1 + 1 := by omega
  simp [Positive, Outcome.answer, Outcome.reply, narrow, report.2.1]

theorem positive_of_served (keeps : KeepsRoom app) (enough : 6 ≤ capacity) (word : capacity < 0x10000)
    (served : Served app (poll ctx nowMs) user request capacity) :
    Positive request (handleRequest app ctx user request nowMs capacity) := by
  have short : 2 ≤ capacity := Nat.le_trans (by decide) enough
  rcases served with ⟨performs, ecuReset, installed, done⟩ | ⟨seed, session, free⟩ | accepts |
    ⟨report, dtcRead, installed, done⟩
  · rw [handleRequest_reset app user performs installed done short, Positive, performs.1.2.1]
    exact ⟨_, rfl⟩
  · rw [Positive, seed.2.1]
    by_cases locked : (poll ctx nowMs).securityLevel = .locked
    · rw [handleRequest_seed app user session free locked seed enough]
      exact ⟨_, rfl⟩
    · rw [handleRequest_seedZero app user session free locked seed enough]
      exact ⟨_, rfl⟩
  · rw [handleRequest_key app user accepts short, Positive, accepts.1.2.1]
    exact ⟨_, rfl⟩
  · exact handleRequest_report keeps report installed done (Nat.le_trans (by decide) enough) word

/-! ## The two services that act on the bit -/

theorem Silenced.refusal {sid nrc : UInt8} {after : Context} (same : byteAt request 0 = sid)
    (distinct : sid + positiveResponseOffset ≠ negativeResponseSid) :
    let outcome := Outcome.reply after user (makeNegativeResponse sid nrc capacity) []
    Silenced request outcome outcome where
  ctx := rfl
  user := rfl
  effects := rfl
  refused := fun _ _ => rfl
  served := fun rest answer => absurd ⟨rest, answer⟩ (not_positive_of_negative same distinct)

theorem Silenced.answer {after : Context} {rest : Bytes}
    (distinct : byteAt request 0 + positiveResponseOffset ≠ negativeResponseSid) :
    Silenced request (.reply after user (.ok, (byteAt request 0 + positiveResponseOffset) :: rest) [])
      (.reply after user (.noResponse, []) []) where
  ctx := rfl
  user := rfl
  effects := rfl
  refused := by
    intro nrc answer
    simp only [Outcome.answer, Outcome.reply, Prod.mk.injEq, List.cons.injEq] at answer
    exact absurd answer.2.1 distinct
  served := fun _ _ => rfl

theorem answerSessionChange_silent (code : UInt8) : answerSessionChange code true capacity = (.noResponse, []) := rfl

theorem handleDiagnosticSessionControl_silenced (twins : Twins request twin)
    (sid : byteAt request 0 = sidDiagnosticSessionControl) (enough : 6 ≤ capacity) :
    Silenced request (handleDiagnosticSessionControl ctx user request capacity)
      (handleDiagnosticSessionControl ctx user twin capacity) := by
  have audible : decide (byteAt request 1 &&& suppressPosRspBit ≠ 0) = false := decide_eq_false twins.audible
  have silent : decide (byteAt twin 1 &&& suppressPosRspBit ≠ 0) = true := decide_eq_true twins.silent
  have distinct : byteAt request 0 + positiveResponseOffset ≠ negativeResponseSid := by
    rw [sid]
    decide
  unfold handleDiagnosticSessionControl
  rw [twins.length, twins.subfunction, audible, silent]
  split
  · exact .refusal sid (by decide)
  · dsimp only
    split
    · rename_i asked
      rw [asked, answerSessionChange_positive .default enough, answerSessionChange_silent, sessionResponse, ← sid]
      exact .answer distinct
    · split
      · rename_i asked
        rw [asked, answerSessionChange_positive .extended enough, answerSessionChange_silent, sessionResponse, ← sid]
        exact .answer distinct
      · exact .refusal sid (by decide)

theorem handleTesterPresent_silenced (twins : Twins request twin) (sid : byteAt request 0 = sidTesterPresent)
    (enough : 6 ≤ capacity) :
    Silenced request (handleTesterPresent ctx user request capacity) (handleTesterPresent ctx user twin capacity) := by
  have audible : ¬ byteAt request 1 &&& suppressPosRspBit ≠ 0 := twins.audible
  have silent : byteAt twin 1 &&& suppressPosRspBit ≠ 0 := twins.silent
  have distinct : byteAt request 0 + positiveResponseOffset ≠ negativeResponseSid := by
    rw [sid]
    decide
  have room : ¬ capacity < 2 := Nat.not_lt.mpr (Nat.le_trans (by decide) enough)
  unfold handleTesterPresent
  rw [twins.length, twins.subfunction]
  dsimp only
  split
  · exact .refusal sid (by decide)
  · split
    · exact .refusal sid (by decide)
    · rw [← sid]
      exact .answer distinct

theorem handleRequest_silenced (twins : Twins request twin) (enough : 6 ≤ capacity)
    (hears : byteAt request 0 = sidDiagnosticSessionControl ∨ byteAt request 0 = sidTesterPresent) :
    Silenced request (handleRequest app ctx user request nowMs capacity)
      (handleRequest app ctx user twin nowMs capacity) := by
  have known : findRule (byteAt request 0) ≠ none := by
    rcases hears with sid | sid <;> rw [sid] <;> decide
  have free : ¬ NeedsExtended (byteAt request 0) := by
    rcases hears with sid | sid <;> rw [sid] <;> decide
  have notReset : byteAt request 0 ≠ sidEcuReset := fun reset => free (.inr (.inr reset))
  rw [handleRequest_passes known (fun needs => absurd needs free) (fun reset => absurd reset notReset),
    handleRequest_passes (by rwa [twins.sid]) (by rw [twins.sid]; exact fun needs => absurd needs free)
      (by rw [twins.sid]; exact fun reset => absurd reset notReset)]
  rcases hears with sid | sid
  · rw [dispatch_control sid, dispatch_control (twins.sid.trans sid)]
    exact handleDiagnosticSessionControl_silenced twins sid enough
  · rw [dispatch_present sid, dispatch_present (twins.sid.trans sid)]
    exact handleTesterPresent_silenced twins sid enough

theorem silenced_iff_not_served (keeps : KeepsRoom app) (twins : Twins request twin)
    (deaf : IgnoresSuppression (byteAt request 0)) (enough : 6 ≤ capacity) (word : capacity < 0x10000) :
    Silenced request (handleRequest app ctx user request nowMs capacity)
        (handleRequest app ctx user twin nowMs capacity) ↔
      ¬ Served app (poll ctx nowMs) user request capacity := by
  rw [handleRequest_twin twins deaf]
  constructor
  · intro silenced served
    obtain ⟨rest, answer⟩ := positive_of_served keeps enough word served
    have silent := silenced.served rest answer
    rw [answer] at silent
    cases silent
  · intro unserved
    exact ⟨rfl, rfl, rfl, fun _ _ => rfl,
      fun rest answer => absurd (served_of_positive deaf ⟨rest, answer⟩) unserved⟩

end

/-- The suppress bit does what it is for exactly on the two services that know it,
and on the requests of the other three that are not served. -/
theorem suppression_iff (app : Application σ) (keeps : KeepsRoom app) (ctx : Context) (user : σ) (sid second : UInt8)
    (rest : Bytes) (nowMs : UInt32) (capacity : Nat) (known : HasSubfunction sid)
    (clear : second &&& suppressPosRspBit = 0) (enough : 6 ≤ capacity) (word : capacity < 0x10000) :
    let request := sid :: second :: rest
    let twin := sid :: (second ||| suppressPosRspBit) :: rest
    Silenced request (handleRequest app ctx user request nowMs capacity)
        (handleRequest app ctx user twin nowMs capacity) ↔
      sid = sidDiagnosticSessionControl ∨ sid = sidTesterPresent ∨
        ¬ Served app (poll ctx nowMs) user request capacity := by
  dsimp only
  have twins := twins_of_clear sid second rest clear
  by_cases deaf : IgnoresSuppression sid
  · have other : sid ≠ sidDiagnosticSessionControl ∧ sid ≠ sidTesterPresent := by
      rcases deaf with rfl | rfl | rfl <;> decide
    rw [or_iff_right other.1, or_iff_right other.2]
    exact silenced_iff_not_served keeps twins deaf enough word
  · have hears : sid = sidDiagnosticSessionControl ∨ sid = sidTesterPresent := by
      rcases known with control | reset | report | access | present
      · exact .inl control
      · exact absurd (.inl reset) deaf
      · exact absurd (.inr (.inl report)) deaf
      · exact absurd (.inr (.inr access)) deaf
      · exact .inr present
    exact iff_of_true (handleRequest_silenced twins enough hears) (or_assoc.mp (.inl hears))

theorem keepsRoom_bare : KeepsRoom (⟨none, none, none, none⟩ : Application Unit) where
  didRead := by
    intro _ _ _ _ _ _ installed
    cases installed
  dtcRead := by
    intro _ _ _ _ _ _ installed
    cases installed

/-- A tester present with the bit. -/
theorem suppression_iff_present :
    let bare : Application Unit := ⟨none, none, none, none⟩
    Silenced [0x3E, 0x00] (handleRequest bare init () [0x3E, 0x00] 7 6) (handleRequest bare init () [0x3E, 0x80] 7 6) :=
  (suppression_iff _ keepsRoom_bare init () 0x3E 0x00 [] 7 6 (by simp [HasSubfunction]) rfl (by decide)
    (by decide)).mpr (.inr (.inl rfl))

/-- In the extended session `27 81` is answered with a seed. -/
theorem suppressed_seed_answered :
    let bare : Application Unit := ⟨none, none, none, none⟩
    let server := Traces.final (step bare) (.init ()) [.request [0x10, 0x03] 0 6]
    ¬ Silenced [0x27, 0x01] (handleRequest bare server.ctx () [0x27, 0x01] 1 6)
      (handleRequest bare server.ctx () [0x27, 0x81] 1 6) := by
  intro bare server silenced
  have twins : Twins [0x27, 0x01] [0x27, 0x81] := twins_of_clear 0x27 0x01 [] rfl
  refine (silenced_iff_not_served keepsRoom_bare twins (by decide) (by decide) (by decide)).mp silenced ?_
  exact .inr (.inl ⟨by decide, by decide, by decide⟩)

end DiagnosticGateway.Uds
