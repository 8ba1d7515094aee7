import DiagnosticGateway.Uds.Requests

/-! What a request does to the session and to the security level, as functions
of the polled context and the request alone.

The exact guards are what two servers are compared on: two contexts that agree
on session and level take the same step unless one of them accepts a key the
other does not.
-/

set_option autoImplicit false

namespace DiagnosticGateway.Uds
open BigEndian

variable {σ : Type}

theorem rotate_inverse (k : UInt32) : (k <<< 3 ||| k >>> 29) >>> 3 ||| (k <<< 3 ||| k >>> 29) <<< 29 = k := by
  apply UInt32.toBitVec_inj.mp
  apply BitVec.eq_of_getLsbD_eq
  intro i hi
  have shift3 : BitVec.toNat (UInt32.toBitVec 3 % 32) = 3 := rfl
  have shift29 : BitVec.toNat (UInt32.toBitVec 29 % 32) = 29 := rfl
  simp only [UInt32.toBitVec_or, UInt32.toBitVec_shiftLeft, UInt32.toBitVec_shiftRight, BitVec.getLsbD_or,
    BitVec.shiftLeft_eq', BitVec.ushiftRight_eq', shift3, shift29, BitVec.getLsbD_shiftLeft,
    BitVec.getLsbD_ushiftRight]
  by_cases low : i < 29
  · have beyond : k.toBitVec.getLsbD (29 + (3 + i)) = false := BitVec.getLsbD_of_ge _ _ (by omega)
    simp [low, beyond, show 3 + i < 32 by omega]
  · simp [low, hi, show ¬ 3 + i < 32 by omega, show i - 29 < 32 by omega, show i - 29 < 3 by omega,
      show 29 + (i - 29) = i by omega, show 32 ≤ 29 + (3 + i) by omega]

theorem demoKeyFromSeed_injective {a b : UInt32} (same : demoKeyFromSeed a = demoKeyFromSeed b) : a = b := by
  unfold demoKeyFromSeed at same
  have rotated := (UInt32.add_left_inj _).mp same
  have scrambled := congrArg (fun r : UInt32 => r >>> 3 ||| r <<< 29) rotated
  simp only [rotate_inverse] at scrambled
  exact (UInt32.xor_left_inj _).mp scrambled

theorem readWord_seedResponse (seed : UInt32) : readWord (seedResponse seed) 2 = seed := by
  simpa [seedResponse] using readWord_writeWord [sidSecurityAccess + positiveResponseOffset, securityRequestSeed] seed []

/-- The key is evaluated and it is the right one. -/
def AcceptsKey (c : Context) (request : Bytes) : Prop :=
  IsKey request ∧ c.session ≠ .default ∧ c.lockedOut = false ∧ c.seedPending = true ∧
    keyOf request = demoKeyFromSeed c.currentSeed

def PerformsReset (c : Context) (request : Bytes) : Prop :=
  IsReset request ∧ c.session ≠ .default ∧ c.securityLevel = .level1

instance (c : Context) (request : Bytes) : Decidable (AcceptsKey c request) :=
  inferInstanceAs (Decidable (_ ∧ _ ∧ _ ∧ _ ∧ _))
instance (c : Context) (request : Bytes) : Decidable (PerformsReset c request) :=
  inferInstanceAs (Decidable (_ ∧ _ ∧ _))

/-- The request takes the server back to the default session. -/
def Relocks (c : Context) (request : Bytes) : Prop :=
  IsSessionRequest .default request ∨ PerformsReset c request

instance (c : Context) (request : Bytes) : Decidable (Relocks c request) :=
  inferInstanceAs (Decidable (_ ∨ _))

def sessionAfter (c : Context) (request : Bytes) : Session :=
  if Relocks c request then .default
  else if IsSessionRequest .extended request then .extended
  else c.session

def securityAfter (c : Context) (request : Bytes) : SecurityLevel :=
  if Relocks c request then .locked
  else if AcceptsKey c request then .level1
  else c.securityLevel

/-- The application performs every reset it is asked for. -/
def Application.Resets (app : Application σ) : Prop :=
  ∃ ecuReset, app.ecuReset = some ecuReset ∧ ∀ resetType user, (ecuReset resetType user).1 = .ok

/-! ## The step, by the guards -/

section
variable {app : Application σ} {c : Context} {user : σ} {request : Bytes} {nowMs : UInt32} {capacity : Nat}
  {outcome : Outcome σ}

theorem not_acceptsKey_of_sid (other : byteAt request 0 ≠ sidSecurityAccess) : ¬ AcceptsKey c request :=
  fun accepts => other accepts.1.2.1

theorem not_session_of_sid (other : byteAt request 0 ≠ sidDiagnosticSessionControl) (session : Session) :
    ¬ IsSessionRequest session request :=
  fun asked => other asked.2.1

theorem not_relocks_of_sid (session : byteAt request 0 ≠ sidDiagnosticSessionControl)
    (reset : ¬ PerformsReset c request) : ¬ Relocks c request :=
  fun relocks => relocks.elim (not_session_of_sid session .default) reset

theorem sid_ne_of_unknown {sid : UInt8} (unknown : findRule (byteAt request 0) = none)
    (known : findRule sid ≠ none) : byteAt request 0 ≠ sid :=
  fun same => known (same ▸ unknown)

structure Unmoved (c : Context) (request : Bytes) : Prop where
  relocks : ¬ Relocks c request
  extended : ¬ IsSessionRequest .extended request
  key : ¬ AcceptsKey c request

theorem unmoved_of_sid (session : byteAt request 0 ≠ sidDiagnosticSessionControl)
    (reset : ¬ PerformsReset c request) (key : ¬ AcceptsKey c request) : Unmoved c request :=
  ⟨not_relocks_of_sid session reset, not_session_of_sid session .extended, key⟩

theorem unmoved_of_access (sid : byteAt request 0 = sidSecurityAccess) (key : ¬ AcceptsKey c request) :
    Unmoved c request :=
  unmoved_of_sid (by rw [sid]; decide) (fun reset => absurd (sid.symm.trans reset.1.2.1) (by decide)) key

theorem not_isKey_of_seed (seed : IsSeedRequest request) : ¬ IsKey request :=
  fun key => absurd (seed.2.2.symm.trans key.2.2) (by decide)

theorem Handled.authority_cases (resets : app.Resets) (handled : Handled app c user request nowMs capacity outcome) :
    (Unmoved c request ∧ outcome.ctx.session = c.session ∧ outcome.ctx.securityLevel = c.securityLevel) ∨
      (Relocks c request ∧ outcome.ctx = (c.touch nowMs).relock) ∨
      (IsSessionRequest .extended request ∧ outcome.ctx = (c.touch nowMs).enterExtended) ∨
      (AcceptsKey c request ∧ outcome.ctx = (c.touch nowMs).unlock) := by
  obtain ⟨installed, same, always⟩ := resets
  cases handled with
  | empty none =>
    -- Every shape has a length, so none fits.
    subst none
    refine .inl ⟨⟨?_, ?_, ?_⟩, rfl, rfl⟩
    · exact fun relocks => relocks.elim (fun asked => absurd asked.1 (by decide))
        (fun reset => absurd reset.1.1 (by decide))
    · exact fun asked => absurd asked.1 (by decide)
    · exact fun accepts => absurd accepts.1.1 (by decide)
  | unknown _ unknown =>
    -- Every shape names a service of the table.
    have other {sid : UInt8} (known : findRule sid ≠ none) := sid_ne_of_unknown unknown known
    exact .inl ⟨unmoved_of_sid (other (by simp [findRule, serviceRules]))
      (fun reset => other (by simp [findRule, serviceRules]) reset.1.2.1)
      (not_acceptsKey_of_sid (other (by simp [findRule, serviceRules]))), rfl, rfl⟩
  | outsideSession _ needs session =>
    have notControl : byteAt request 0 ≠ sidDiagnosticSessionControl :=
      fun control => absurd needs (by rw [control]; decide)
    exact .inl ⟨unmoved_of_sid notControl (fun reset => reset.2.1 session) (fun accepts => accepts.2.1 session),
      rfl, rfl⟩
  | denied _ sid session locked =>
    refine .inl ⟨unmoved_of_sid (by rw [sid]; decide) (fun reset => ?_)
      (not_acceptsKey_of_sid (by rw [sid]; decide)), rfl, rfl⟩
    exact absurd (locked.symm.trans reset.2.2) (by decide)
  | plain _ notAccess _ _ inert =>
    refine .inl ⟨⟨fun relocks => ?_, inert.2.1, not_acceptsKey_of_sid notAccess⟩, rfl, rfl⟩
    rcases relocks with asked | reset
    · exact inert.1 asked
    · exact absurd (same.symm.trans (inert.2.2 reset.1)) (by simp)
  | toDefault asked => exact .inr (.inl ⟨.inl asked, rfl⟩)
  | toExtended asked => exact .inr (.inr (.inl ⟨asked, rfl⟩))
  | resetFailed _ _ _ other failed notOk =>
    -- The installed callback is the one that always performs the reset.
    obtain rfl : installed = _ := Option.some.inj (same.symm.trans other)
    exact absurd ((congrArg Prod.fst failed).symm.trans (always _ _)) notOk
  | reset isReset session unlocked _ _ =>
    exact .inr (.inl ⟨.inr ⟨isReset, session, level1_of_unlocked unlocked⟩, rfl⟩)
  | accessMalformed sid _ _ _ notKey => exact .inl ⟨unmoved_of_access sid (fun accepts => notKey accepts.1), rfl, rfl⟩
  | accessDelayed sid _ _ delayed =>
    refine .inl ⟨unmoved_of_access sid (fun accepts => ?_), rfl, rfl⟩
    exact absurd (delayed.symm.trans accepts.2.2.1) (by decide)
  | seedNoRoom seed | seedZero seed | seedIssued seed =>
    exact .inl ⟨unmoved_of_access seed.2.1 (fun accepts => not_isKey_of_seed seed accepts.1), rfl, rfl⟩
  | keyUnexpected key _ _ idle =>
    refine .inl ⟨unmoved_of_access key.2.1 (fun accepts => ?_), rfl, rfl⟩
    exact absurd (idle.symm.trans accepts.2.2.2.1) (by decide)
  | keyWrong key _ _ _ wrong | keyExceeded key _ _ _ wrong =>
    exact .inl ⟨unmoved_of_access key.2.1 (fun accepts => wrong accepts.2.2.2.2), rfl, rfl⟩
  | keyAccepted key session free pending right =>
    exact .inr (.inr (.inr ⟨⟨key, session, free, pending, right⟩, rfl⟩))

theorem not_relocks_of_key (key : IsKey request) : ¬ Relocks c request := by
  rintro (asked | reset)
  · exact absurd (key.2.1.symm.trans asked.2.1) (by decide)
  · exact absurd (key.2.1.symm.trans reset.1.2.1) (by decide)

theorem not_relocks_of_extended (asked : IsSessionRequest .extended request) : ¬ Relocks c request := by
  rintro (other | reset)
  · exact absurd (asked.2.2.symm.trans other.2.2) (by decide)
  · exact absurd (asked.2.1.symm.trans reset.1.2.1) (by decide)

theorem Handled.session_eq (resets : app.Resets) (handled : Handled app c user request nowMs capacity outcome) :
    outcome.ctx.session = sessionAfter c request := by
  unfold sessionAfter
  rcases handled.authority_cases resets with ⟨unmoved, session, _⟩ | ⟨relocks, same⟩ | ⟨asked, same⟩ | ⟨accepts, same⟩
  · rw [if_neg unmoved.relocks, if_neg unmoved.extended, session]
  · rw [if_pos relocks, same, Context.relock_session]
  · rw [if_neg (not_relocks_of_extended asked), if_pos asked, same, Context.enterExtended_session]
  · rw [if_neg (not_relocks_of_key accepts.1), if_neg, same, Context.unlock_session, Context.touch_session]
    exact fun asked => absurd (accepts.1.2.1.symm.trans asked.2.1) (by decide)

theorem Handled.securityLevel_eq (resets : app.Resets)
    (handled : Handled app c user request nowMs capacity outcome) :
    outcome.ctx.securityLevel = securityAfter c request := by
  unfold securityAfter
  rcases handled.authority_cases resets with ⟨unmoved, _, level⟩ | ⟨relocks, same⟩ | ⟨asked, same⟩ | ⟨accepts, same⟩
  · rw [if_neg unmoved.relocks, if_neg unmoved.key, level]
  · rw [if_pos relocks, same, Context.relock_securityLevel]
  · rw [if_neg (not_relocks_of_extended asked), if_neg, same, Context.enterExtended_securityLevel,
      Context.touch_securityLevel]
    exact fun accepts => absurd (accepts.1.2.1.symm.trans asked.2.1) (by decide)
  · rw [if_neg (not_relocks_of_key accepts.1), if_pos accepts, same, Context.unlock_securityLevel]

theorem securityAfter_of_key (accepts : AcceptsKey c request) : securityAfter c request = .level1 := by
  rw [securityAfter, if_neg (not_relocks_of_key accepts.1), if_pos accepts]

theorem securityAfter_cases (unlocked : securityAfter c request = .level1) :
    c.securityLevel = .level1 ∨ (c.securityLevel = .locked ∧ AcceptsKey c request) := by
  cases level : c.securityLevel with
  | level1 => exact .inl rfl
  | locked =>
    refine .inr ⟨rfl, ?_⟩
    by_contra refused
    rw [securityAfter, if_neg refused, level] at unlocked
    split at unlocked <;> cases unlocked

/-- A request leaves the server unlocked that accepts its key, or that was
unlocked and is not taken back. -/
theorem securityAfter_level1_iff : securityAfter c request = .level1 ↔
    AcceptsKey c request ∨ (¬ Relocks c request ∧ c.securityLevel = .level1) := by
  constructor
  · intro unlocked
    rcases securityAfter_cases unlocked with before | ⟨_, accepts⟩
    · refine .inr ⟨fun relocks => ?_, before⟩
      rw [securityAfter, if_pos relocks] at unlocked
      cases unlocked
    · exact .inl accepts
  · rintro (accepts | ⟨kept, before⟩)
    · exact securityAfter_of_key accepts
    · rw [securityAfter, if_neg kept]
      split
      · rfl
      · exact before

theorem sessionAfter_of_extended (asked : IsSessionRequest .extended request) :
    sessionAfter c request = .extended := by
  rw [sessionAfter, if_neg (not_relocks_of_extended asked), if_pos asked]

theorem not_acceptsKey_of_session {session : Session} (asked : IsSessionRequest session request) :
    ¬ AcceptsKey c request :=
  not_acceptsKey_of_sid (by rw [asked.2.1]; decide)

theorem securityAfter_of_extended (asked : IsSessionRequest .extended request) :
    securityAfter c request = c.securityLevel := by
  rw [securityAfter, if_neg (not_relocks_of_extended asked), if_neg (not_acceptsKey_of_session asked)]

theorem Unmoved.sessionAfter_eq (unmoved : Unmoved c request) : sessionAfter c request = c.session := by
  rw [sessionAfter, if_neg unmoved.relocks, if_neg unmoved.extended]

theorem Unmoved.securityAfter_eq (unmoved : Unmoved c request) : securityAfter c request = c.securityLevel := by
  rw [securityAfter, if_neg unmoved.relocks, if_neg unmoved.key]

end

end DiagnosticGateway.Uds
