import DiagnosticGateway.Uds.Requests

/-! The grammar of the responses.

With room for six bytes and readers that keep to the room they are given, every
request is answered `7F <sid> <nrc>`, answered `<sid + 40> ...`, or met with the
silence it asked for.
-/

set_option autoImplicit false

namespace DiagnosticGateway.Uds
open BigEndian

variable {σ : Type}

/-- The readers write at most what they are given room for. -/
structure KeepsRoom (app : Application σ) : Prop where
  didRead : ∀ read did room user data after, app.didRead = some read → read did room user = (.ok, data, after) →
    data.length ≤ room
  dtcRead : ∀ read mask room user data after, app.dtcRead = some read → read mask room user = (.ok, data, after) →
    data.length ≤ room

/-- A `10` or `3E` that succeeds, with the suppress bit. -/
def Suppresses (request : Bytes) : Prop :=
  request.length = 2 ∧ byteAt request 1 &&& suppressPosRspBit ≠ 0 ∧
    ((byteAt request 0 = sidDiagnosticSessionControl ∧
        (subfunction request = Session.default.code ∨ subfunction request = Session.extended.code)) ∨
      (byteAt request 0 = sidTesterPresent ∧ subfunction request = testerPresentSubfn))

/-- A code and a response a tester can tell apart. -/
inductive Answers (request : Bytes) (capacity : Nat) : Result × Bytes → Prop where
  | negative (nrc : UInt8) (audible : ¬ Suppresses request) :
      Answers request capacity (.ok, [negativeResponseSid, byteAt request 0, nrc])
  | positive (rest : Bytes) (audible : ¬ Suppresses request)
      (distinct : byteAt request 0 + positiveResponseOffset ≠ negativeResponseSid) (fits : rest.length < capacity) :
      Answers request capacity (.ok, (byteAt request 0 + positiveResponseOffset) :: rest)
  | silent (suppressed : Suppresses request) : Answers request capacity (.noResponse, [])

def Outcome.answer (outcome : Outcome σ) : Result × Bytes := (outcome.result, outcome.response)

section
variable {app : Application σ} {ctx : Context} {user : σ} {request : Bytes} {nowMs : UInt32} {capacity : Nat}
  {outcome : Outcome σ}

theorem audible_of_sid (control : byteAt request 0 ≠ sidDiagnosticSessionControl)
    (present : byteAt request 0 ≠ sidTesterPresent) : ¬ Suppresses request := by
  rintro ⟨_, _, asked | asked⟩
  · exact control asked.1
  · exact present asked.1

theorem Answers.refusal {sid : UInt8} (same : byteAt request 0 = sid) (enough : 6 ≤ capacity) (nrc : UInt8)
    (audible : ¬ Suppresses request) : Answers request capacity (makeNegativeResponse sid nrc capacity) := by
  have room : ¬ capacity < negativeResponseLen := Nat.not_lt.mpr (Nat.le_trans (by decide) enough)
  rw [makeNegativeResponse, if_neg room, ← same]
  exact .negative nrc audible

theorem Answers.positiveSid {sid : UInt8} (same : byteAt request 0 = sid) (rest : Bytes)
    (audible : ¬ Suppresses request) (fits : rest.length < capacity)
    (distinct : sid + positiveResponseOffset ≠ negativeResponseSid := by decide) :
    Answers request capacity (.ok, (sid + positiveResponseOffset) :: rest) := by
  subst same
  exact .positive rest audible distinct fits

theorem Answers.data {sid : UInt8} (same : byteAt request 0 = sid) (enough : 6 ≤ capacity) (word : capacity < 0x10000)
    (second third : UInt8) {data : Bytes} (room : data.length ≤ capacity - 3) (audible : ¬ Suppresses request)
    (distinct : sid + positiveResponseOffset ≠ negativeResponseSid := by decide) :
    Answers request capacity
      (.ok, ((sid + positiveResponseOffset) :: second :: third :: data).take ((3 + data.length) % 0x10000)) := by
  have narrow : (3 + data.length) % 0x10000 = 3 + data.length := Nat.mod_eq_of_lt (by omega)
  have whole : ((sid + positiveResponseOffset) :: second :: third :: data).take (3 + data.length) =
      (sid + positiveResponseOffset) :: second :: third :: data := by
    apply List.take_of_length_le
    simp only [List.length_cons]
    omega
  rw [narrow, whole]
  refine .positiveSid same _ audible ?_ distinct
  simp only [List.length_cons]
  omega

/-! ## The handlers -/

theorem answerSessionChange_answers {session : Session} (asked : IsSessionRequest session request)
    (known : session = .default ∨ session = .extended) (enough : 6 ≤ capacity) :
    Answers request capacity (answerSessionChange session.code
      (decide (byteAt request 1 &&& suppressPosRspBit ≠ 0)) capacity) := by
  obtain ⟨length, sid, code⟩ := asked
  have room : ¬ capacity < dscResponseLen := Nat.not_lt.mpr enough
  have code : subfunction request = Session.default.code ∨ subfunction request = Session.extended.code := by
    rcases known with rfl | rfl
    · exact .inl code
    · exact .inr code
  rw [answerSessionChange]
  by_cases bit : byteAt request 1 &&& suppressPosRspBit ≠ 0
  · rw [if_pos (decide_eq_true bit)]
    exact .silent ⟨length, bit, .inl ⟨sid, code⟩⟩
  · rw [if_neg (by simpa using bit), if_neg room]
    exact .positiveSid sid _ (fun suppressed => bit suppressed.2.1) enough

theorem SessionControlEnds.answers (ends : SessionControlEnds ctx user request capacity outcome)
    (sid : byteAt request 0 = sidDiagnosticSessionControl) (enough : 6 ≤ capacity) :
    Answers request capacity outcome.answer := by
  cases ends with
  | rejected nrc code notDefault notExtended =>
    refine .refusal sid enough nrc ?_
    rintro ⟨length, _, ⟨_, asked⟩ | present⟩
    · exact asked.elim (fun code => notDefault ⟨length, sid, code⟩) (fun code => notExtended ⟨length, sid, code⟩)
    · exact absurd (sid.symm.trans present.1) (by decide)
  | toDefault asked => exact answerSessionChange_answers asked (.inl rfl) enough
  | toExtended asked => exact answerSessionChange_answers asked (.inr rfl) enough

theorem TesterPresentEnds.answers (ends : TesterPresentEnds ctx user request capacity outcome)
    (sid : byteAt request 0 = sidTesterPresent) (enough : 6 ≤ capacity) :
    Answers request capacity outcome.answer := by
  cases ends with
  | rejected nrc code other =>
    refine .refusal sid enough nrc ?_
    rintro ⟨length, _, control | present⟩
    · exact absurd (sid.symm.trans control.1) (by decide)
    · exact other ⟨length, present.2⟩
  | silent length known bit => exact .silent ⟨length, bit, .inr ⟨sid, known⟩⟩
  | noRoom small => omega
  | answered plain =>
    refine .positiveSid sid [testerPresentSubfn] (fun suppressed => plain suppressed.2.1) ?_
    exact Nat.lt_of_lt_of_le (by decide : 1 < 6) enough

theorem ReadDataEnds.answers (ends : ReadDataEnds app ctx user request capacity outcome) (keeps : KeepsRoom app)
    (sid : byteAt request 0 = sidReadDataByIdentifier) (enough : 6 ≤ capacity) (word : capacity < 0x10000) :
    Answers request capacity outcome.answer := by
  have audible : ¬ Suppresses request := audible_of_sid (by rw [sid]; decide) (by rw [sid]; decide)
  cases ends with
  | noRoom small => omega
  | rejected nrc | failed _ _ _ _ nrc => exact .refusal sid enough nrc audible
  | read didRead data next _ installed reads =>
    exact .data sid enough word _ _ (keeps.didRead _ _ _ _ _ _ installed reads) audible

theorem DtcReportEnds.answers (ends : DtcReportEnds app ctx user request capacity outcome) (keeps : KeepsRoom app)
    (sid : byteAt request 0 = sidReadDtcInformation) (enough : 6 ≤ capacity) (word : capacity < 0x10000) :
    Answers request capacity outcome.answer := by
  have audible : ¬ Suppresses request := audible_of_sid (by rw [sid]; decide) (by rw [sid]; decide)
  cases ends with
  | noRoom small => omega
  | rejected nrc | failed _ _ _ _ nrc => exact .refusal sid enough nrc audible
  | reported dtcRead data next report installed reads =>
    exact .data sid enough word _ _ (keeps.dtcRead _ _ _ _ _ _ installed reads) audible

theorem DtcClearEnds.answers (ends : DtcClearEnds app ctx user request capacity outcome)
    (sid : byteAt request 0 = sidClearDiagnosticInformation) (enough : 6 ≤ capacity) :
    Answers request capacity outcome.answer := by
  have audible : ¬ Suppresses request := audible_of_sid (by rw [sid]; decide) (by rw [sid]; decide)
  cases ends with
  | rejected nrc => exact .refusal sid enough nrc audible
  | failed => exact .refusal sid enough nrcRequestOutOfRange audible
  | cleared =>
    rw [if_neg (by omega)]
    exact .positiveSid sid [] audible (Nat.lt_of_lt_of_le (by decide) enough)

theorem EcuResetEnds.answers (ends : EcuResetEnds app ctx user request capacity outcome)
    (sid : byteAt request 0 = sidEcuReset) (enough : 6 ≤ capacity) : Answers request capacity outcome.answer := by
  have audible : ¬ Suppresses request := audible_of_sid (by rw [sid]; decide) (by rw [sid]; decide)
  cases ends with
  | rejected nrc => exact .refusal sid enough nrc audible
  | failed => exact .refusal sid enough nrcConditionsNotCorrect audible
  | reset =>
    rw [if_neg (by omega)]
    exact .positiveSid sid [subfunction request] audible (Nat.lt_of_lt_of_le (by simp) enough)

theorem SecurityAccessEnds.answers (ends : SecurityAccessEnds ctx user request nowMs capacity outcome)
    (sid : byteAt request 0 = sidSecurityAccess) (enough : 6 ≤ capacity) : Answers request capacity outcome.answer := by
  have audible : ¬ Suppresses request := audible_of_sid (by rw [sid]; decide) (by rw [sid]; decide)
  have refusal := fun nrc => Answers.refusal sid enough nrc audible
  have seeds : ∀ seed, Answers request capacity (.ok, seedResponse seed) :=
    fun seed => .positiveSid sid (securityRequestSeed :: writeWord seed) audible enough
  cases ends with
  | malformed | delayed | keyUnexpected | keyWrong | keyExceeded => exact refusal _
  | seedNoRoom _ _ small => omega
  | seedZero | seedIssued => exact seeds _
  | keyAccepted =>
    rw [if_neg (by omega)]
    exact .positiveSid sid [securitySendKey] audible (Nat.lt_of_lt_of_le (by simp) enough)

theorem audible_of_unknown (unknown : findRule (byteAt request 0) = none) : ¬ Suppresses request := by
  refine audible_of_sid ?_ ?_
  · intro sid
    rw [sid] at unknown
    cases unknown
  · intro sid
    rw [sid] at unknown
    cases unknown

theorem audible_of_needs (needs : NeedsExtended (byteAt request 0)) : ¬ Suppresses request := by
  refine audible_of_sid ?_ ?_
  · intro sid
    rw [sid] at needs
    exact absurd needs (by decide)
  · intro sid
    rw [sid] at needs
    exact absurd needs (by decide)

theorem DispatchEnds.answers (ends : DispatchEnds app ctx user request nowMs capacity outcome) (keeps : KeepsRoom app)
    (enough : 6 ≤ capacity) (word : capacity < 0x10000) : Answers request capacity outcome.answer := by
  cases ends with
  | control sid ends => exact ends.answers sid enough
  | reset sid ends => exact ends.answers sid enough
  | clear sid ends => exact ends.answers sid enough
  | report sid ends => exact ends.answers keeps sid enough word
  | read sid ends => exact ends.answers keeps sid enough word
  | access sid ends => exact ends.answers sid enough
  | present sid ends => exact ends.answers sid enough
  | unknown unknown => exact .refusal rfl enough _ (audible_of_unknown unknown)

theorem handleRequest_answers (keeps : KeepsRoom app) (nonempty : request ≠ []) (enough : 6 ≤ capacity)
    (word : capacity < 0x10000) :
    Answers request capacity (handleRequest app ctx user request nowMs capacity).answer := by
  have ends := handleRequest_ends app ctx user request nowMs capacity
  generalize handleRequest app ctx user request nowMs capacity = outcome at ends ⊢
  cases ends with
  | empty empty => exact absurd empty nonempty
  | unknown _ unknown => exact .refusal rfl enough _ (audible_of_unknown unknown)
  | outsideSession _ needs => exact .refusal rfl enough _ (audible_of_needs needs)
  | denied _ sid => exact .refusal sid enough _ (audible_of_needs (.inr (.inr sid)))
  | dispatched _ _ _ _ ends => exact ends.answers keeps enough word

end

/-- Every response is well formed, and silence is what was asked for. -/
theorem responses_unambiguous (app : Application σ) (keeps : KeepsRoom app) (ctx : Context) (user : σ) (request : Bytes)
    (nowMs : UInt32) (capacity : Nat) (enough : 6 ≤ capacity) (word : capacity < 0x10000) :
    let outcome := handleRequest app ctx user request nowMs capacity
    (outcome.result = .ok ∨ outcome.result = .noResponse) ∧
    (outcome.result = .ok →
      1 ≤ outcome.response.length ∧ outcome.response.length ≤ capacity ∧
      ((∃ nrc, outcome.response = [negativeResponseSid, byteAt request 0, nrc]) ∨
        ((∃ rest, outcome.response = (byteAt request 0 + positiveResponseOffset) :: rest) ∧
          byteAt request 0 + positiveResponseOffset ≠ negativeResponseSid))) ∧
    (outcome.result = .noResponse → outcome.response = []) ∧
    (outcome.result = .noResponse ↔ request = [] ∨ Suppresses request) := by
  by_cases empty : request = []
  · subst empty
    exact ⟨.inr rfl, (fun ok => by cases ok), fun _ => rfl, iff_of_true rfl (.inl rfl)⟩
  · have answers := @handleRequest_answers _ app ctx user request nowMs capacity keeps empty enough word
    generalize handleRequest app ctx user request nowMs capacity = outcome at answers
    obtain ⟨after, next, result, response, effects⟩ := outcome
    rw [Outcome.answer] at answers
    dsimp only at answers ⊢
    rw [or_iff_right empty]
    cases answers with
    | negative nrc audible =>
      refine ⟨.inl rfl, fun _ => ⟨by simp, ?_, .inl ⟨nrc, rfl⟩⟩, (fun silence => by cases silence),
        iff_of_false Result.noConfusion audible⟩
      exact Nat.le_trans (by simp) enough
    | positive rest audible distinct fits =>
      exact ⟨.inl rfl, fun _ => ⟨by simp, fits, .inr ⟨⟨rest, rfl⟩, distinct⟩⟩, (fun silence => by cases silence),
        iff_of_false Result.noConfusion audible⟩
    | silent suppressed =>
      exact ⟨.inr rfl, (fun ok => by cases ok), fun _ => rfl, iff_of_true rfl suppressed⟩

def twoByteReader : Application Unit where
  didRead := some fun _ room user => if 2 ≤ room then (.ok, [1, 2], user) else (.errBufferTooSmall, [], user)
  dtcRead := none
  dtcClear := none
  ecuReset := none

theorem twoByteReader_keepsRoom : KeepsRoom twoByteReader where
  didRead := by
    intro read did room user data after installed reads
    cases installed
    dsimp only at reads
    split at reads
    · rename_i fits
      cases reads
      exact fits
    · cases reads
  dtcRead := by
    intro read mask room user data after installed
    cases installed

theorem responses_unambiguous_read :
    let outcome := handleRequest twoByteReader init () [0x22, 0xF1, 0x90] 0 8
    outcome.response.length ≤ 8 ∧ outcome.result ≠ .noResponse := by
  obtain ⟨_, answered, _, silent⟩ :=
    responses_unambiguous twoByteReader twoByteReader_keepsRoom init () [0x22, 0xF1, 0x90] 0 8 (by decide) (by decide)
  refine ⟨(answered rfl).2.1, fun silence => ?_⟩
  rcases silent.mp silence with empty | suppressed
  · cases empty
  · exact absurd suppressed.1 (by decide)

end DiagnosticGateway.Uds
