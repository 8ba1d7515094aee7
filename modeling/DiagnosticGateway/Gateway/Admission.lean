import DiagnosticGateway.Uds.Authority

/-! The admission gateway (`gateway.c`): a UDS server of its own, the shadow,
handles every request first, and the refusals it answers for reasons of access
are what the gateway keeps from the ECU.
-/

set_option autoImplicit false

namespace DiagnosticGateway
open BigEndian Uds

def shadowDid (_did : UInt16) (cap : Nat) (ctx : Unit) : Result × Bytes × Unit :=
  if cap < 1 then (.errBufferTooSmall, [], ctx) else (.ok, [0x00], ctx)

def shadowDtcRead (_mask : UInt8) (_cap : Nat) (ctx : Unit) : Result × Bytes × Unit := (.ok, [], ctx)

def shadowDtcClear (_group : UInt32) (ctx : Unit) : Result × Unit := (.ok, ctx)

def shadowReset (_type : UInt8) (ctx : Unit) : Result × Unit := (.ok, ctx)

def shadowApplication : Application Unit where
  didRead := some shadowDid
  dtcRead := some shadowDtcRead
  dtcClear := some shadowDtcClear
  ecuReset := some shadowReset

theorem shadowApplication_resets : shadowApplication.Resets := ⟨shadowReset, rfl, fun _ _ => rfl⟩

inductive InvariantId where
  | secNoUnauthEffect
  | secRelockOnDefault
  deriving DecidableEq, Repr

inductive Verdict where
  | allow
  | drop
  deriving DecidableEq, Repr

/-- `gw_t`; the `-1` of `last_invariant` is `none`. -/
structure Gateway where
  shadow : Context
  statSeen : UInt32
  statAllowed : UInt32
  statDropped : UInt32
  lastInvariant : Option InvariantId
  lastNrc : UInt8
  deriving DecidableEq, Repr

structure Request where
  bytes : Bytes
  nowMs : UInt32
  deriving DecidableEq, Repr

/-- What `gw_admit_ex` gives back: its verdict, `resp[0 .. *resp_len)` and the new state. -/
structure Decision where
  verdict : Verdict
  response : Bytes
  gateway : Gateway
  deriving DecidableEq, Repr

namespace Gateway

def init : Gateway where
  shadow := Uds.init
  statSeen := 0
  statAllowed := 0
  statDropped := 0
  lastInvariant := none
  lastNrc := 0

/-- The codes of a refusal of access. -/
def IsAccessNrc (nrc : UInt8) : Prop :=
  nrc = nrcSecurityAccessDenied ∨ nrc = nrcServiceNotSupportedInSession ∨ nrc = nrcInvalidKey ∨
    nrc = nrcExceedNumberOfAttempts ∨ nrc = nrcRequiredTimeDelayNotExpired

instance (nrc : UInt8) : Decidable (IsAccessNrc nrc) :=
  inferInstanceAs (Decidable (_ ∨ _ ∨ _ ∨ _ ∨ _))

def admitEx (gw : Gateway) (request : Bytes) (nowMs : UInt32) (respCapacity : Nat) : Decision :=
  if respCapacity < maxResponseSize then ⟨.drop, [], gw⟩
  else
    let gw := { gw with statSeen := gw.statSeen + 1 }
    let r := handleRequest shadowApplication gw.shadow () request nowMs respCapacity
    let gw := { gw with shadow := r.ctx }
    let nrc := byteAt r.response 2
    if (r.result = .ok ∧ r.response.length = negativeResponseLen ∧
        byteAt r.response 0 = negativeResponseSid) ∧ IsAccessNrc nrc then
      ⟨.drop, r.response,
        { gw with
          statDropped := gw.statDropped + 1
          lastNrc := nrc
          lastInvariant := some
            (if nrc = nrcServiceNotSupportedInSession then .secRelockOnDefault else .secNoUnauthEffect) }⟩
    else ⟨.allow, r.response, { gw with statAllowed := gw.statAllowed + 1 }⟩

def gwAdmit (gw : Gateway) (request : Bytes) (nowMs : UInt32) : Decision :=
  gw.admitEx request nowMs maxResponseSize

def observeResponse (gw : Gateway) (response : Bytes) : Gateway :=
  if 6 ≤ response.length ∧ byteAt response 0 = sidSecurityAccess + positiveResponseOffset ∧
      byteAt response 1 = securityRequestSeed then
    let seed := readWord response 2
    -- A zero seed says that the ECU is already unlocked.
    if seed ≠ 0 then { gw with shadow := { gw.shadow with currentSeed := seed, seedPending := true } }
    else gw
  else gw

end Gateway

/-! ## The verdict as a condition on the polled shadow -/

def RefusesKey (c : Context) (request : Bytes) : Prop :=
  IsKey request ∧ c.session ≠ .default ∧ c.lockedOut = false ∧ c.seedPending = true ∧
    keyOf request ≠ demoKeyFromSeed c.currentSeed

instance (c : Context) (request : Bytes) : Decidable (RefusesKey c request) :=
  inferInstanceAs (Decidable (_ ∧ _ ∧ _ ∧ _ ∧ _))

/-- The shadow refuses the request for a reason of access. -/
def Blocked (c : Context) (request : Bytes) : Prop :=
  (NeedsExtended (byteAt request 0) ∧ c.session = .default) ∨
    (byteAt request 0 = sidEcuReset ∧ c.securityLevel = .locked) ∨
    (byteAt request 0 = sidSecurityAccess ∧ 2 ≤ request.length ∧ c.lockedOut = true) ∨
    RefusesKey c request

instance (c : Context) (request : Bytes) : Decidable (Blocked c request) :=
  inferInstanceAs (Decidable (_ ∨ _ ∨ _ ∨ _))

def Refused {σ : Type} (r : Outcome σ) : Prop :=
  (r.result = .ok ∧ r.response.length = negativeResponseLen ∧ byteAt r.response 0 = negativeResponseSid) ∧
    Gateway.IsAccessNrc (byteAt r.response 2)

section
variable {c : Context} {request : Bytes}

theorem not_blocked_of_sid (unprotected : ¬ NeedsExtended (byteAt request 0)) : ¬ Blocked c request := by
  rintro (⟨needs, _⟩ | ⟨sid, _⟩ | ⟨sid, _⟩ | refuses)
  · exact unprotected needs
  · exact unprotected (.inr (.inr sid))
  · exact unprotected (.inl sid)
  · exact unprotected (.inl refuses.1.2.1)

theorem blocked_access_iff (sid : byteAt request 0 = sidSecurityAccess) (session : c.session ≠ .default) :
    Blocked c request ↔ (2 ≤ request.length ∧ c.lockedOut = true) ∨ RefusesKey c request := by
  constructor
  · rintro (⟨_, default⟩ | ⟨reset, _⟩ | ⟨_, delayed⟩ | refuses)
    · exact absurd default session
    · exact absurd (sid.symm.trans reset) (by decide)
    · exact .inl delayed
    · exact .inr refuses
  · rintro (delayed | refuses)
    · exact .inr (.inr (.inl ⟨sid, delayed⟩))
    · exact .inr (.inr (.inr refuses))

theorem not_blocked_of_passes (session : NeedsExtended (byteAt request 0) → c.session ≠ .default)
    (unlocked : byteAt request 0 = sidEcuReset → c.securityLevel ≠ .locked)
    (notAccess : byteAt request 0 ≠ sidSecurityAccess) : ¬ Blocked c request := by
  rintro (⟨needs, default⟩ | ⟨sid, locked⟩ | ⟨sid, _⟩ | refuses)
  · exact session needs default
  · exact unlocked sid locked
  · exact notAccess sid
  · exact notAccess refuses.1.2.1

theorem not_blocked_of_free (sid : byteAt request 0 = sidSecurityAccess) (session : c.session ≠ .default)
    (free : c.lockedOut = false) (accepted : ¬ RefusesKey c request) : ¬ Blocked c request := by
  rw [blocked_access_iff sid session]
  rintro (⟨_, delayed⟩ | refuses)
  · exact absurd (free.symm.trans delayed) (by decide)
  · exact accepted refuses

theorem Blocked.unmoved (blocked : Blocked c request) : Unmoved c request := by
  rcases blocked with ⟨needs, session⟩ | ⟨sid, locked⟩ | ⟨sid, _, delayed⟩ | refuses
  · exact unmoved_of_sid (fun control => absurd needs (by rw [control]; decide)) (fun reset => reset.2.1 session)
      (fun accepts => accepts.2.1 session)
  · refine unmoved_of_sid (by rw [sid]; decide) (fun reset => ?_) (not_acceptsKey_of_sid (by rw [sid]; decide))
    exact absurd (locked.symm.trans reset.2.2) (by decide)
  · exact unmoved_of_access sid (fun accepts => absurd (delayed.symm.trans accepts.2.2.1) (by decide))
  · exact unmoved_of_access refuses.1.2.1 (fun accepts => refuses.2.2.2.2 accepts.2.2.2.2)

theorem not_blocked_of_acceptsKey (accepts : AcceptsKey c request) : ¬ Blocked c request :=
  fun blocked => blocked.unmoved.key accepts

variable {σ : Type} {app : Application σ} {user : σ} {nowMs : UInt32} {capacity : Nat} {r : Outcome σ}

theorem refused_refuse {ctx : Context} {sid nrc : UInt8} {effects : List Effect} (room : 3 ≤ capacity) :
    Refused (.refuse ctx user sid nrc capacity effects) ↔ Gateway.IsAccessNrc nrc := by
  have answered : ¬ capacity < negativeResponseLen := Nat.not_lt.mpr room
  simp [Refused, Outcome.refuse, Outcome.reply, makeNegativeResponse, answered]

theorem not_refused_of_first {answer : Result × Bytes} {ctx : Context} {effects : List Effect}
    (first : byteAt answer.2 0 ≠ negativeResponseSid) : ¬ Refused (.reply ctx user answer effects) :=
  fun refused => first refused.1.2.2

theorem not_refused_of_plain {sid : UInt8} {answer : Result × Bytes} {ctx : Context} {effects : List Effect}
    (answered : PlainAnswer sid capacity answer) : ¬ Refused (.reply ctx user answer effects) := by
  cases answered with
  | negative code =>
    by_cases room : 3 ≤ capacity
    · rw [← Outcome.refuse, refused_refuse room]
      revert code
      simp only [handlerNrcs, List.mem_cons, List.not_mem_nil, or_false]
      rintro (rfl | rfl | rfl | rfl | rfl | rfl | rfl) <;> decide
    · have short : capacity < negativeResponseLen := Nat.not_le.mp room
      simp [Refused, Outcome.reply, makeNegativeResponse, short]
  | silent => exact not_refused_of_first (by decide)
  | noRoom => exact not_refused_of_first (by decide)
  | @positive rest size other =>
    cases size with
    | zero => exact not_refused_of_first (by rw [List.take_zero]; decide)
    | succ size => exact not_refused_of_first other

/-- The list of codes the gateway reads back singles out the refusals of access. -/
theorem Uds.Handled.refused_iff (handled : Handled app c user request nowMs capacity r)
    (room : maxResponseSize ≤ capacity) : Refused r ↔ Blocked c request := by
  have three : 3 ≤ capacity := Nat.le_trans (by decide) room
  cases handled with
  | empty none =>
    subst none
    exact iff_of_false (not_refused_of_first (by decide)) (not_blocked_of_sid (by decide))
  | unknown _ unknown =>
    refine iff_of_false (fun refused => absurd ((refused_refuse three).mp refused) (by decide)) ?_
    refine not_blocked_of_sid (fun needs => ?_)
    rcases needs with sid | sid | sid <;>
    · rw [sid] at unknown
      simp [findRule, serviceRules] at unknown
  | outsideSession _ needs session =>
    exact iff_of_true ((refused_refuse three).mpr (by decide)) (.inl ⟨needs, session⟩)
  | denied _ sid _ locked => exact iff_of_true ((refused_refuse three).mpr (by decide)) (.inr (.inl ⟨sid, locked⟩))
  | plain _ notAccess session unlocked _ answered =>
    exact iff_of_false (not_refused_of_plain answered) (not_blocked_of_passes session unlocked notAccess)
  | toDefault asked same | toExtended asked same =>
    subst same
    exact iff_of_false (not_refused_of_first (answerSessionChange_first _ _))
      (not_blocked_of_sid (by rw [asked.2.1]; decide))
  | resetFailed asked session unlocked =>
    refine iff_of_false (fun refused => absurd ((refused_refuse three).mp refused) (by decide)) ?_
    exact not_blocked_of_passes (fun _ => session) (fun _ => unlocked) (by rw [asked.2.1]; decide)
  | reset asked session unlocked =>
    exact iff_of_false (not_refused_of_first (positive_first (by decide)))
      (not_blocked_of_passes (fun _ => session) (fun _ => unlocked) (by rw [asked.2.1]; decide))
  | accessMalformed sid session code notSeed notKey free =>
    -- A malformed SecurityAccess may be one byte long, before the lockout is looked at.
    rw [blocked_access_iff sid session]
    refine iff_of_false (fun refused => ?_) ?_
    · have access := (refused_refuse three).mp refused
      rcases code with rfl | rfl <;> exact absurd access (by decide)
    · rintro (⟨long, delayed⟩ | refuses)
      · exact absurd ((free long).symm.trans delayed) (by decide)
      · exact notKey refuses.1
  | accessDelayed sid session long delayed =>
    exact iff_of_true ((refused_refuse three).mpr (by decide)) (.inr (.inr (.inl ⟨sid, long, delayed⟩)))
  | seedNoRoom seed session free room' => exact absurd (Nat.le_trans (by decide) room) (Nat.not_le.mpr room')
  | seedZero seed session free | seedIssued seed session free =>
    have first : sidSecurityAccess + positiveResponseOffset ≠ negativeResponseSid := by decide
    exact iff_of_false (not_refused_of_first first)
      (not_blocked_of_free seed.2.1 session free (fun refuses => not_isKey_of_seed seed refuses.1))
  | keyUnexpected key session free idle =>
    -- NRC 0x22 is not one of the codes the gateway reads back.
    refine iff_of_false (fun refused => absurd ((refused_refuse three).mp refused) (by decide)) ?_
    exact not_blocked_of_free key.2.1 session free
      (fun refuses => absurd (idle.symm.trans refuses.2.2.2.1) (by decide))
  | keyWrong key session free pending wrong | keyExceeded key session free pending wrong =>
    exact iff_of_true ((refused_refuse three).mpr (by decide))
      (.inr (.inr (.inr ⟨key, session, free, pending, wrong⟩)))
  | keyAccepted key session free pending right =>
    exact iff_of_false (not_refused_of_first (positive_first (by decide)))
      (not_blocked_of_free key.2.1 session free (fun refuses => refuses.2.2.2.2 right))

end

def CarriesSeed (seed : UInt32) (response : Bytes) : Prop :=
  6 ≤ response.length ∧ byteAt response 0 = sidSecurityAccess + positiveResponseOffset ∧
    byteAt response 1 = securityRequestSeed ∧ readWord response 2 = seed

instance (seed : UInt32) (response : Bytes) : Decidable (CarriesSeed seed response) :=
  inferInstanceAs (Decidable (_ ∧ _ ∧ _ ∧ _))

namespace Gateway

section
variable (gw : Gateway) (request : Bytes) (nowMs : UInt32)

theorem admitEx_noRoom {respCapacity : Nat} (short : respCapacity < maxResponseSize) :
    gw.admitEx request nowMs respCapacity = ⟨.drop, [], gw⟩ := by
  rw [admitEx, if_pos short]

variable {respCapacity : Nat} (room : maxResponseSize ≤ respCapacity)
include room

theorem admitEx_shadow : (gw.admitEx request nowMs respCapacity).gateway.shadow =
    (handleRequest shadowApplication gw.shadow () request nowMs respCapacity).ctx := by
  unfold admitEx
  rw [if_neg (Nat.not_lt.mpr room)]
  dsimp only
  split <;> rfl

theorem admitEx_response : (gw.admitEx request nowMs respCapacity).response =
    (handleRequest shadowApplication gw.shadow () request nowMs respCapacity).response := by
  unfold admitEx
  rw [if_neg (Nat.not_lt.mpr room)]
  dsimp only
  split <;> rfl

theorem admitEx_drop_iff : (gw.admitEx request nowMs respCapacity).verdict = .drop ↔
    Blocked (poll gw.shadow nowMs) request := by
  rw [← (handleRequest_handled shadowApplication gw.shadow () request nowMs respCapacity).refused_iff room]
  unfold admitEx
  rw [if_neg (Nat.not_lt.mpr room)]
  dsimp only
  split
  next refused => exact iff_of_true rfl refused
  next allowed => exact iff_of_false (fun dropped => by cases dropped) allowed

theorem admitEx_allow_iff : (gw.admitEx request nowMs respCapacity).verdict = .allow ↔
    ¬ Blocked (poll gw.shadow nowMs) request := by
  rw [← admitEx_drop_iff gw request nowMs room]
  cases (gw.admitEx request nowMs respCapacity).verdict <;> decide

theorem admitEx_session : (gw.admitEx request nowMs respCapacity).gateway.shadow.session =
    sessionAfter (poll gw.shadow nowMs) request := by
  rw [admitEx_shadow gw request nowMs room]
  exact (handleRequest_handled shadowApplication gw.shadow () request nowMs respCapacity).session_eq
    shadowApplication_resets

theorem admitEx_securityLevel : (gw.admitEx request nowMs respCapacity).gateway.shadow.securityLevel =
    securityAfter (poll gw.shadow nowMs) request := by
  rw [admitEx_shadow gw request nowMs room]
  exact (handleRequest_handled shadowApplication gw.shadow () request nowMs respCapacity).securityLevel_eq
    shadowApplication_resets

end

/-- Observing a response hands the shadow the seed it carries, if that is not zero. -/
theorem observeResponse_shadow (gw : Gateway) (response : Bytes) : (gw.observeResponse response).shadow =
    if CarriesSeed (readWord response 2) response ∧ readWord response 2 ≠ 0 then
      gw.shadow.awaitKey (readWord response 2)
    else gw.shadow := by
  unfold observeResponse
  split
  next shape =>
    dsimp only
    split
    next seed => rw [if_pos ⟨⟨shape.1, shape.2.1, shape.2.2, rfl⟩, seed⟩]; rfl
    next zero => rw [if_neg (fun carried => zero carried.2)]
  next other => rw [if_neg (fun carried => other ⟨carried.1.1, carried.1.2.1, carried.1.2.2.1⟩)]

section
variable (gw : Gateway) (response : Bytes)

@[simp] theorem observeResponse_session : (gw.observeResponse response).shadow.session = gw.shadow.session := by
  rw [observeResponse_shadow]
  split <;> rfl

@[simp] theorem observeResponse_securityLevel :
    (gw.observeResponse response).shadow.securityLevel = gw.shadow.securityLevel := by
  rw [observeResponse_shadow]
  split <;> rfl

@[simp] theorem observeResponse_lastActivityMs :
    (gw.observeResponse response).shadow.lastActivityMs = gw.shadow.lastActivityMs := by
  rw [observeResponse_shadow]
  split <;> rfl

variable {gw response}

theorem observe_adopts {seed : UInt32} (carries : CarriesSeed seed response) (nonzero : seed ≠ 0) :
    (gw.observeResponse response).shadow = gw.shadow.awaitKey seed := by
  rw [observeResponse_shadow, carries.2.2.2, if_pos ⟨carries, nonzero⟩]

theorem observe_ignores (other : ∀ seed, CarriesSeed seed response → ¬ seed ≠ 0) :
    (gw.observeResponse response).shadow = gw.shadow := by
  rw [observeResponse_shadow, if_neg]
  rintro ⟨carries, nonzero⟩
  exact other _ carries nonzero

end

end Gateway

end DiagnosticGateway
