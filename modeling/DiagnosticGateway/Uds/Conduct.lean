import DiagnosticGateway.Uds.Invariant

/-! What the adversaries look for in a step of the server, and that it is not there.

All of them compare the authority before a step with the one behind it and read
two kinds of positive response, `51` and `67 02`. The lemmas here are about one
step from any valid state, whatever the request and the application. The last
section is about the application: its data are what the effects make of them.
-/

set_option autoImplicit false

namespace DiagnosticGateway.Uds
open BigEndian

variable {σ : Type}

def AnswersReset (response : Bytes) : Prop := byteAt response 0 = sidEcuReset + positiveResponseOffset

def AnswersKey (response : Bytes) : Prop :=
  byteAt response 0 = sidSecurityAccess + positiveResponseOffset ∧ byteAt response 1 = securitySendKey

instance (response : Bytes) : Decidable (AnswersReset response) := inferInstanceAs (Decidable (_ = _))
instance (response : Bytes) : Decidable (AnswersKey response) := inferInstanceAs (Decidable (_ ∧ _))

/-- A step that violates none of the invariants SEC-1 to SEC-5 and XL-2. -/
structure Lawful (pre post : Context) (response : Bytes) : Prop where
  authorised : AnswersReset response → pre.securityLevel = .level1
  bound : AnswersKey response → pre.seedPending = true
  relocked : AnswersReset response → post.securityLevel = .locked ∧ post.seedPending = false
  defaultLocked : post.session = .default → post.securityLevel = .locked
  counted : post.failedAttempts < pre.failedAttempts →
    AnswersKey response ∨ (pre.lockedOut = true ∧ post.lockedOut = false)

structure Unremarkable (response : Bytes) : Prop where
  noReset : ¬ AnswersReset response
  noKey : ¬ AnswersKey response

theorem unremarkable_of_first {response : Bytes} (noReset : byteAt response 0 ≠ sidEcuReset + positiveResponseOffset)
    (noKey : byteAt response 0 ≠ sidSecurityAccess + positiveResponseOffset) : Unremarkable response :=
  ⟨noReset, fun key => noKey key.1⟩

theorem first_ne {first other : UInt8} (distinct : first ≠ other) {rest : Bytes} : byteAt (first :: rest) 0 ≠ other :=
  distinct

theorem unremarkable_nil : Unremarkable [] := unremarkable_of_first (by decide) (by decide)

theorem unremarkable_refusal (sid nrc : UInt8) (capacity : Nat) :
    Unremarkable (makeNegativeResponse sid nrc capacity).2 := by
  unfold makeNegativeResponse
  split
  · exact unremarkable_nil
  · exact unremarkable_of_first (first_ne (by decide)) (first_ne (by decide))

theorem unremarkable_take {first : UInt8} (noReset : first ≠ sidEcuReset + positiveResponseOffset)
    (noKey : first ≠ sidSecurityAccess + positiveResponseOffset) (rest : Bytes) (size : Nat) :
    Unremarkable ((first :: rest).take size) := by
  cases size with
  | zero => exact unremarkable_nil
  | succ size => exact unremarkable_of_first noReset noKey

theorem unremarkable_sessionChange (subfunction : UInt8) (suppress : Bool) (capacity : Nat) :
    Unremarkable (answerSessionChange subfunction suppress capacity).2 := by
  unfold answerSessionChange
  split
  · exact unremarkable_nil
  · split
    · exact unremarkable_nil
    · exact unremarkable_of_first (first_ne (by decide)) (first_ne (by decide))

theorem unremarkable_seed (seed : UInt32) : Unremarkable (seedResponse seed) where
  noReset := first_ne (by decide)
  noKey := fun key => absurd key.2 (by rw [seedResponse, byteAt_succ]; exact first_ne (by decide))

section
variable {app : Application σ} {c : Context} {user : σ} {request : Bytes} {nowMs : UInt32} {capacity : Nat}
  {outcome : Outcome σ}

/-- What a positive response says of the state `c` the handlers met. -/
structure Vindicated (c : Context) (outcome : Outcome σ) : Prop where
  reset : AnswersReset outcome.response →
    c.securityLevel = .level1 ∧ outcome.ctx.securityLevel = .locked ∧ outcome.ctx.seedPending = false
  key : AnswersKey outcome.response → c.seedPending = true

theorem Vindicated.unremarkable (plain : Unremarkable outcome.response) : Vindicated c outcome :=
  ⟨fun reset => absurd reset plain.noReset, fun key => absurd key plain.noKey⟩

theorem EcuResetEnds.justified (ends : EcuResetEnds app (c.touch nowMs) user request capacity outcome)
    (unlocked : c.securityLevel ≠ .locked) : Vindicated c outcome := by
  cases ends with
  | rejected | failed => exact .unremarkable (unremarkable_refusal _ _ _)
  | reset =>
    refine ⟨fun _ => ⟨level1_of_unlocked unlocked, rfl, rfl⟩, fun key => ?_⟩
    obtain ⟨first, -⟩ := key
    dsimp only [Outcome.reply] at first
    split at first
    · exact absurd first (by decide)
    · exact absurd first (first_ne (by decide))

theorem SecurityAccessEnds.justified (ends : SecurityAccessEnds (c.touch nowMs) user request nowMs capacity outcome) :
    Vindicated c outcome := by
  cases ends with
  | malformed | delayed | keyUnexpected | keyWrong | keyExceeded => exact .unremarkable (unremarkable_refusal _ _ _)
  | seedNoRoom => exact .unremarkable unremarkable_nil
  | seedZero | seedIssued => exact .unremarkable (unremarkable_seed _)
  | keyAccepted key free pending =>
    refine ⟨fun reset => ?_, fun _ => pending⟩
    dsimp only [AnswersReset, Outcome.reply] at reset
    split at reset
    · exact absurd reset (by decide)
    · exact absurd reset (first_ne (by decide))

theorem DispatchEnds.justified (ends : DispatchEnds app (c.touch nowMs) user request nowMs capacity outcome)
    (unlocked : byteAt request 0 = sidEcuReset → c.securityLevel ≠ .locked) : Vindicated c outcome := by
  cases ends with
  | control sid ends =>
    refine .unremarkable ?_
    cases ends with
    | rejected => exact unremarkable_refusal _ _ _
    | toDefault | toExtended => exact unremarkable_sessionChange _ _ _
  | reset sid ends => exact ends.justified (unlocked sid)
  | clear sid ends =>
    refine .unremarkable ?_
    cases ends with
    | rejected | failed => exact unremarkable_refusal _ _ _
    | cleared =>
      dsimp only [Outcome.reply]
      split
      · exact unremarkable_nil
      · exact unremarkable_of_first (by decide) (by decide)
  | report sid ends =>
    refine .unremarkable ?_
    cases ends with
    | rejected | failed => exact unremarkable_refusal _ _ _
    | noRoom => exact unremarkable_nil
    | reported => exact unremarkable_take (by decide) (by decide) _ _
  | read sid ends =>
    refine .unremarkable ?_
    cases ends with
    | rejected | failed => exact unremarkable_refusal _ _ _
    | noRoom => exact unremarkable_nil
    | read => exact unremarkable_take (by decide) (by decide) _ _
  | access sid ends => exact ends.justified
  | present sid ends =>
    refine .unremarkable ?_
    cases ends with
    | rejected => exact unremarkable_refusal _ _ _
    | silent | noRoom => exact unremarkable_nil
    | answered => exact unremarkable_of_first (first_ne (by decide)) (first_ne (by decide))
  | unknown => exact .unremarkable (unremarkable_refusal _ _ _)

theorem handleRequest_justified (app : Application σ) (ctx : Context) (user : σ) (request : Bytes) (nowMs : UInt32)
    (capacity : Nat) : Vindicated (poll ctx nowMs) (handleRequest app ctx user request nowMs capacity) := by
  have ends := handleRequest_ends app ctx user request nowMs capacity
  generalize handleRequest app ctx user request nowMs capacity = outcome at ends ⊢
  cases ends with
  | empty => exact .unremarkable unremarkable_nil
  | unknown | outsideSession | denied => exact .unremarkable (unremarkable_refusal _ _ _)
  | dispatched _ _ _ unlocked ends => exact ends.justified unlocked

theorem poll_attempts (ctx : Context) (nowMs : UInt32) :
    ((poll ctx nowMs).failedAttempts = ctx.failedAttempts ∧ (poll ctx nowMs).lockedOut = ctx.lockedOut) ∨
      (ctx.lockedOut = true ∧ (poll ctx nowMs).lockedOut = false) := by
  have locks : (pollLockout ctx nowMs = ctx) ∨ (ctx.lockedOut = true ∧ (pollLockout ctx nowMs).lockedOut = false) := by
    unfold pollLockout
    split
    next ended => exact .inr ⟨ended.1, rfl⟩
    next => exact .inl rfl
  by_cases expired : Expired ctx nowMs
  · rw [poll_expired expired]
    rcases locks with same | ended
    · rw [same]
      exact .inl ⟨rfl, rfl⟩
    · exact .inr ended
  · rw [poll_alive expired]
    rcases locks with same | ended
    · rw [same]
      exact .inl ⟨rfl, rfl⟩
    · exact .inr ended

theorem Handled.attempts_cases (handled : Handled app c user request nowMs capacity outcome) (valid : Valid c)
    (room : 2 ≤ capacity) :
    (outcome.ctx.failedAttempts = c.failedAttempts ∧ outcome.ctx.lockedOut = c.lockedOut) ∨
      (c.failedAttempts ≤ outcome.ctx.failedAttempts ∧ outcome.ctx.lockedOut = false) ∨
      outcome.ctx.failedAttempts = 3 ∨ AnswersKey outcome.response := by
  cases handled with
  | keyWrong _ _ free _ _ few =>
    refine .inr (.inl ⟨?_, free⟩)
    -- Below the limit the count does not wrap.
    have low : c.failedAttempts.toNat ≤ 3 := valid.attempts
    have counted : (c.failedAttempts + 1).toNat = c.failedAttempts.toNat + 1 := by
      rw [UInt8.toNat_add, show (1 : UInt8).toNat = 1 from rfl]
      omega
    exact UInt8.le_iff_toNat_le.mpr (Nat.le_trans (Nat.le_succ _) (Nat.le_of_eq counted.symm))
  | keyExceeded _ _ _ pending _ exceeded => exact .inr (.inr (.inl (valid.limit pending exceeded)))
  | keyAccepted =>
    refine .inr (.inr (.inr ?_))
    dsimp only [Outcome.reply]
    rw [if_neg (by omega)]
    exact ⟨rfl, rfl⟩
  | _ => exact .inl ⟨rfl, rfl⟩

/-! ## Every step is lawful -/

theorem lawful_poll {ctx : Context} (valid : Valid ctx) (nowMs : UInt32) : Lawful ctx (poll ctx nowMs) [] where
  authorised := fun reset => absurd reset unremarkable_nil.noReset
  bound := fun key => absurd key unremarkable_nil.noKey
  relocked := fun reset => absurd reset unremarkable_nil.noReset
  defaultLocked := fun session => ((valid.poll nowMs).defaultLocked session).1
  counted := fun fewer => by
    rcases poll_attempts ctx nowMs with ⟨same, -⟩ | ended
    · exact absurd (same ▸ fewer) (UInt8.lt_irrefl _)
    · exact .inr ended

theorem lawful_request (app : Application σ) {ctx : Context} (valid : Valid ctx) (user : σ) (request : Bytes)
    (nowMs : UInt32) {capacity : Nat} (room : 2 ≤ capacity) :
    let outcome := handleRequest app ctx user request nowMs capacity
    Lawful ctx outcome.ctx outcome.response := by
  have justified := handleRequest_justified app ctx user request nowMs capacity
  have handled := handleRequest_handled app ctx user request nowMs capacity
  have after := (valid.poll nowMs).handled handled
  dsimp only
  generalize handleRequest app ctx user request nowMs capacity = outcome at justified handled after ⊢
  exact {
    authorised := fun reset => unlocked_of_poll (justified.reset reset).1
    bound := fun key => seedPending_of_poll (justified.key key)
    relocked := fun reset => (justified.reset reset).2
    defaultLocked := fun session => (after.defaultLocked session).1
    counted := fun fewer => by
      have cases := handled.attempts_cases (valid.poll nowMs) room
      rcases cases with ⟨attempts, locked⟩ | ⟨attempts, free⟩ | limit | key
      · rcases poll_attempts ctx nowMs with ⟨same, -⟩ | ⟨before, ended⟩
        · exact absurd (attempts.trans same ▸ fewer) (UInt8.lt_irrefl _)
        · exact .inr ⟨before, locked.trans ended⟩
      · rcases poll_attempts ctx nowMs with ⟨same, -⟩ | ⟨before, -⟩
        · exact absurd (same ▸ attempts) (UInt8.not_le.mpr fewer)
        · exact .inr ⟨before, free⟩
      · exact absurd (limit ▸ valid.attempts) (UInt8.not_le.mpr fewer)
      · exact .inl key }

end

structure OnlyReads (app : Application σ) : Prop where
  didRead : ∀ read did room user, app.didRead = some read → (read did room user).2.2 = user
  dtcRead : ∀ read mask room user, app.dtcRead = some read → (read mask room user).2.2 = user

def Effect.run (app : Application σ) (user : σ) : Effect → σ
  | .dtcClear group _ => (app.dtcClear.map fun clear => (clear group user).2).getD user
  | .ecuReset resetType _ => (app.ecuReset.map fun reset => (reset resetType user).2).getD user
  | .didRead _ | .dtcRead _ | .seedDrawn _ | .keyCompared _ _ => user

def runEffects (app : Application σ) (user : σ) (effects : List Effect) : σ :=
  effects.foldl (fun user effect => effect.run app user) user

/-- The data after a request are what its effects make of the data before it. -/
def Accounted (app : Application σ) (user : σ) (outcome : Outcome σ) : Prop :=
  outcome.user = runEffects app user outcome.effects

section
variable {app : Application σ} {ctx : Context} {user : σ} {request : Bytes} {nowMs : UInt32} {capacity : Nat}

theorem SessionControlEnds.accounted {outcome : Outcome σ} (ends : SessionControlEnds ctx user request capacity outcome) :
    Accounted app user outcome := by
  cases ends with
  | rejected | toDefault | toExtended => rfl

theorem TesterPresentEnds.accounted {outcome : Outcome σ} (ends : TesterPresentEnds ctx user request capacity outcome) :
    Accounted app user outcome := by
  cases ends with
  | rejected | silent | noRoom | answered => rfl

theorem SecurityAccessEnds.accounted {outcome : Outcome σ}
    (ends : SecurityAccessEnds ctx user request nowMs capacity outcome) : Accounted app user outcome := by
  cases ends with
  | _ => rfl

theorem DtcClearEnds.accounted {outcome : Outcome σ} (ends : DtcClearEnds app ctx user request capacity outcome) :
    Accounted app user outcome := by
  cases ends with
  | rejected => rfl
  | failed dtcClear next clearRes clear installed called | cleared dtcClear next clear installed called =>
    simp [Accounted, runEffects, Effect.run, Outcome.refuse, Outcome.reply, installed, called]

theorem EcuResetEnds.accounted {outcome : Outcome σ} (ends : EcuResetEnds app ctx user request capacity outcome) :
    Accounted app user outcome := by
  cases ends with
  | rejected => rfl
  | failed ecuReset next resetRes asked installed called | reset ecuReset next asked installed called =>
    simp [Accounted, runEffects, Effect.run, Outcome.refuse, Outcome.reply, installed, called]

theorem ReadDataEnds.accounted {outcome : Outcome σ} (ends : ReadDataEnds app ctx user request capacity outcome)
    (reads : OnlyReads app) : Accounted app user outcome := by
  cases ends with
  | noRoom | rejected => rfl
  | failed didRead _ _ next _ _ _ installed called | read didRead _ next _ installed called =>
    have same := reads.didRead didRead (didOf request) (capacity - rdbiHeaderLen) user installed
    rw [called] at same
    exact same

theorem DtcReportEnds.accounted {outcome : Outcome σ} (ends : DtcReportEnds app ctx user request capacity outcome)
    (reads : OnlyReads app) : Accounted app user outcome := by
  cases ends with
  | noRoom | rejected => rfl
  | failed dtcRead _ _ next _ _ _ installed called | reported dtcRead _ next _ installed called =>
    have same := reads.dtcRead dtcRead (byteAt request 2) (capacity - 3) user installed
    rw [called] at same
    exact same

theorem DispatchEnds.accounted {outcome : Outcome σ}
    (ends : DispatchEnds app ctx user request nowMs capacity outcome) (reads : OnlyReads app) :
    Accounted app user outcome := by
  cases ends with
  | control _ ends | reset _ ends | clear _ ends | access _ ends | present _ ends => exact ends.accounted
  | report _ ends | read _ ends => exact ends.accounted reads
  | unknown => rfl

theorem handleRequest_accounted (reads : OnlyReads app) :
    Accounted app user (handleRequest app ctx user request nowMs capacity) := by
  have ends := handleRequest_ends app ctx user request nowMs capacity
  generalize handleRequest app ctx user request nowMs capacity = outcome at ends ⊢
  cases ends with
  | empty | unknown | outsideSession | denied => rfl
  | dispatched _ _ _ _ ends => exact ends.accounted reads

theorem RequestEnds.clear_cases {outcome : Outcome σ} (ends : RequestEnds app ctx user request nowMs capacity outcome)
    {group : UInt32} {result : Result} (cleared : .dtcClear group result ∈ outcome.effects) :
    IsClear request ∧ group = groupOf request := by
  cases ends with
  | empty | unknown | outsideSession | denied => simp [Outcome.refuse, Outcome.reply] at cleared
  | dispatched _ _ _ _ ends =>
    cases ends with
    | control _ ends => cases ends <;> simp [Outcome.refuse, Outcome.reply] at cleared
    | reset _ ends => cases ends <;> simp [Outcome.refuse, Outcome.reply] at cleared
    | report _ ends => cases ends <;> simp [Outcome.refuse, Outcome.reply] at cleared
    | read _ ends => cases ends <;> simp [Outcome.refuse, Outcome.reply] at cleared
    | access _ ends => cases ends <;> simp [Outcome.refuse, Outcome.reply] at cleared
    | present _ ends => cases ends <;> simp [Outcome.refuse, Outcome.reply] at cleared
    | unknown => simp [Outcome.refuse, Outcome.reply] at cleared
    | clear _ ends =>
      cases ends with
      | rejected => simp [Outcome.refuse, Outcome.reply] at cleared
      | failed _ _ _ clear | cleared _ _ clear =>
        simp only [Outcome.refuse, Outcome.reply, List.mem_singleton, Effect.dtcClear.injEq] at cleared
        exact ⟨clear, cleared.1⟩

def Effect.performsReset : Effect → Bool
  | .ecuReset _ .ok => true
  | _ => false

theorem RequestEnds.resets {outcome : Outcome σ} (ends : RequestEnds app ctx user request nowMs capacity outcome)
    (room : 2 ≤ capacity) :
    outcome.effects.countP Effect.performsReset =
      if byteAt request 0 = sidEcuReset ∧ AnswersReset outcome.response then 1 else 0 := by
  cases ends with
  | empty empty =>
    rw [if_neg fun answered => unremarkable_nil.noReset answered.2]
    rfl
  | unknown | outsideSession | denied =>
    rw [if_neg fun answered => (unremarkable_refusal _ _ _).noReset answered.2]
    rfl
  | dispatched _ _ _ _ ends =>
    cases ends with
    | reset sid ends =>
      cases ends with
      | rejected =>
        rw [if_neg fun answered => (unremarkable_refusal _ _ _).noReset answered.2]
        rfl
      | failed _ _ resetRes _ _ _ failed =>
        rw [if_neg fun answered => (unremarkable_refusal _ _ _).noReset answered.2]
        cases resetRes with
        | ok => exact absurd rfl failed
        | _ => rfl
      | reset =>
        rw [if_neg (Nat.not_lt.mpr room), if_pos ⟨sid, rfl⟩]
        rfl
    | unknown =>
      rw [if_neg fun answered => (unremarkable_refusal _ _ _).noReset answered.2]
      rfl
    | control sid ends =>
      rw [if_neg fun answered => absurd (sid.symm.trans answered.1) (by decide)]
      cases ends <;> rfl
    | clear sid ends =>
      rw [if_neg fun answered => absurd (sid.symm.trans answered.1) (by decide)]
      cases ends <;> rfl
    | report sid ends =>
      rw [if_neg fun answered => absurd (sid.symm.trans answered.1) (by decide)]
      cases ends <;> rfl
    | read sid ends =>
      rw [if_neg fun answered => absurd (sid.symm.trans answered.1) (by decide)]
      cases ends <;> rfl
    | access sid ends =>
      rw [if_neg fun answered => absurd (sid.symm.trans answered.1) (by decide)]
      cases ends <;> rfl
    | present sid ends =>
      rw [if_neg fun answered => absurd (sid.symm.trans answered.1) (by decide)]
      cases ends <;> rfl

end

end DiagnosticGateway.Uds
