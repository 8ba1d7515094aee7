import DiagnosticGateway.Uds.Refusals

/-! Responses that do not fit.

The readers and `27 01` look at the room before they do anything, the others
after. A request that is answered with `UDS_ERR_BUFFER_TOO_SMALL` has had no
effect exactly when the answer to what it would have done fits.
-/

set_option autoImplicit false

namespace DiagnosticGateway.Uds
open BigEndian

variable {σ : Type}

/-- Session, security and seeds are those of the polled context. -/
structure Untouched (after c : Context) : Prop where
  session : after.session = c.session
  securityLevel : after.securityLevel = c.securityLevel
  currentSeed : after.currentSeed = c.currentSeed
  seedPending : after.seedPending = c.seedPending
  failedAttempts : after.failedAttempts = c.failedAttempts
  lockedOut : after.lockedOut = c.lockedOut
  seedState : after.seedState = c.seedState

def NothingDone (effects : List Effect) : Prop :=
  (∀ group result, .dtcClear group result ∉ effects) ∧ ∀ resetType result, .ecuReset resetType result ∉ effects

/-- An answer that does not fit comes with no effect. -/
def Atomic (c : Context) (outcome : Outcome σ) : Prop :=
  outcome.result = .errBufferTooSmall → Untouched outcome.ctx c ∧ NothingDone outcome.effects

/-- There is room for the answer of every effect the request has. -/
structure Fits (app : Application σ) (c : Context) (user : σ) (request : Bytes) (capacity : Nat) : Prop where
  toDefault : IsSessionRequest .default request → c.session ≠ .default → ¬ AsksSilence request → 6 ≤ capacity
  toExtended : IsSessionRequest .extended request → c.session ≠ .extended → ¬ AsksSilence request → 6 ≤ capacity
  reset : PerformsReset c request → ∀ ecuReset, app.ecuReset = some ecuReset →
    if (ecuReset (subfunction request) user).1 = .ok then 2 ≤ capacity else 3 ≤ capacity
  clear : IsClear request → c.session ≠ .default → ∀ dtcClear, app.dtcClear = some dtcClear →
    if (dtcClear (groupOf request) user).1 = .ok then 1 ≤ capacity else 3 ≤ capacity
  key : IsKey request → c.session ≠ .default → c.lockedOut = false → c.seedPending = true →
    if keyOf request = demoKeyFromSeed c.currentSeed then 2 ≤ capacity else 3 ≤ capacity

section
variable {app : Application σ} {ctx : Context} {user : σ} {request : Bytes} {nowMs : UInt32} {capacity : Nat}

theorem makeNegativeResponse_short (sid nrc : UInt8) (short : capacity < 3) :
    makeNegativeResponse sid nrc capacity = (.errBufferTooSmall, []) := by
  rw [makeNegativeResponse, if_pos short]

theorem makeNegativeResponse_fits (sid nrc : UInt8) (room : 3 ≤ capacity) :
    (makeNegativeResponse sid nrc capacity).1 ≠ .errBufferTooSmall := by
  rw [makeNegativeResponse, if_neg (Nat.not_lt.mpr room)]
  exact Result.noConfusion

theorem answerSessionChange_result (code : UInt8) (suppress : Bool) :
    (answerSessionChange code suppress capacity).1 = .errBufferTooSmall ↔ suppress = false ∧ capacity < 6 := by
  unfold answerSessionChange
  split
  · simp_all
  · split
    · simp_all
    · rename_i room
      exact iff_of_false Result.noConfusion fun short => room short.2

/-! ## The effect of an answer that does not fit -/

theorem Atomic.toDefault (atomic : Atomic (poll ctx nowMs) (handleRequest app ctx user request nowMs capacity))
    (asked : IsSessionRequest .default request) (session : (poll ctx nowMs).session ≠ .default)
    (audible : ¬ AsksSilence request) : 6 ≤ capacity := by
  by_contra short
  rw [handleRequest_asksDefault app ctx user nowMs asked] at atomic
  have tooSmall := (answerSessionChange_result Session.default.code (decide (AsksSilence request))).mpr
    ⟨decide_eq_false audible, Nat.not_le.mp short⟩
  exact session (atomic tooSmall).1.session.symm

theorem Atomic.toExtended (atomic : Atomic (poll ctx nowMs) (handleRequest app ctx user request nowMs capacity))
    (asked : IsSessionRequest .extended request) (session : (poll ctx nowMs).session ≠ .extended)
    (audible : ¬ AsksSilence request) : 6 ≤ capacity := by
  by_contra short
  rw [handleRequest_asksExtended app ctx user nowMs asked] at atomic
  have tooSmall := (answerSessionChange_result Session.extended.code (decide (AsksSilence request))).mpr
    ⟨decide_eq_false audible, Nat.not_le.mp short⟩
  exact session (atomic tooSmall).1.session.symm

theorem Atomic.reset {ecuReset : UInt8 → σ → Result × σ}
    (atomic : Atomic (poll ctx nowMs) (handleRequest app ctx user request nowMs capacity))
    (performs : PerformsReset (poll ctx nowMs) request) (installed : app.ecuReset = some ecuReset) :
    if (ecuReset (subfunction request) user).1 = .ok then 2 ≤ capacity else 3 ≤ capacity := by
  rw [handleRequest_asksReset app user performs installed] at atomic
  dsimp only at atomic
  split
  · rename_i done
    by_contra short
    rw [if_neg (not_not.mpr done), if_pos (Nat.not_le.mp short)] at atomic
    exact (atomic rfl).2.2 _ _ (List.mem_singleton.mpr rfl)
  · rename_i failed
    by_contra short
    rw [if_pos failed, Outcome.refuse, makeNegativeResponse_short _ _ (Nat.not_le.mp short)] at atomic
    exact (atomic rfl).2.2 _ _ (List.mem_singleton.mpr rfl)

theorem Atomic.clear {dtcClear : UInt32 → σ → Result × σ}
    (atomic : Atomic (poll ctx nowMs) (handleRequest app ctx user request nowMs capacity)) (clear : IsClear request)
    (session : (poll ctx nowMs).session ≠ .default) (installed : app.dtcClear = some dtcClear) :
    if (dtcClear (groupOf request) user).1 = .ok then 1 ≤ capacity else 3 ≤ capacity := by
  rw [handleRequest_clear clear session installed, clearAnswer] at atomic
  split
  · rename_i done
    by_contra short
    rw [if_neg (not_not.mpr done), if_pos (Nat.not_le.mp short)] at atomic
    exact (atomic rfl).2.1 _ _ (List.mem_singleton.mpr rfl)
  · rename_i failed
    by_contra short
    rw [if_pos failed, makeNegativeResponse_short _ _ (Nat.not_le.mp short)] at atomic
    exact (atomic rfl).2.1 _ _ (List.mem_singleton.mpr rfl)

theorem succ_ne_self (count : UInt8) : count + 1 ≠ count := by
  intro same
  simp at same

theorem Atomic.key (atomic : Atomic (poll ctx nowMs) (handleRequest app ctx user request nowMs capacity))
    (valid : Valid (poll ctx nowMs)) (key : IsKey request) (session : (poll ctx nowMs).session ≠ .default)
    (free : (poll ctx nowMs).lockedOut = false) (pending : (poll ctx nowMs).seedPending = true) :
    if keyOf request = demoKeyFromSeed (poll ctx nowMs).currentSeed then 2 ≤ capacity else 3 ≤ capacity := by
  rw [handleRequest_comparesKey app user key session free pending] at atomic
  dsimp only at atomic
  split
  · rename_i right
    by_contra short
    rw [if_neg (not_not.mpr right), if_pos (Nat.not_le.mp short)] at atomic
    -- The key unlocked a server that was locked.
    have level : SecurityLevel.level1 = (poll ctx nowMs).securityLevel := (atomic rfl).1.securityLevel
    rw [(valid.pendingLocked pending).1] at level
    cases level
  · rename_i wrong
    by_contra short
    simp only [Outcome.refuse, makeNegativeResponse_short _ _ (Nat.not_le.mp short), if_pos wrong] at atomic
    split at atomic
    · exact succ_ne_self _ (atomic rfl).1.failedAttempts
    · exact succ_ne_self _ (atomic rfl).1.failedAttempts

theorem atomic_of_touch {c : Context} {next : σ} {answer : Result × Bytes} {effects : List Effect}
    (nothing : answer.1 = .errBufferTooSmall → NothingDone effects) :
    Atomic c (.reply (c.touch nowMs) next answer effects) :=
  fun tooSmall => ⟨⟨rfl, rfl, rfl, rfl, rfl, rfl, rfl⟩, nothing tooSmall⟩

theorem nothingDone_nil : NothingDone [] := ⟨by simp, by simp⟩

/-- The step lemma: every way a request ends is atomic where its answer fits. -/
theorem Fits.atomic (valid : Valid (poll ctx nowMs)) (fits : Fits app (poll ctx nowMs) user request capacity) :
    Atomic (poll ctx nowMs) (handleRequest app ctx user request nowMs capacity) := by
  have clears : ∀ group result, .dtcClear group result ∈ (handleRequest app ctx user request nowMs capacity).effects →
      (handleRequest app ctx user request nowMs capacity).result ≠ .errBufferTooSmall := by
    intro group result called
    obtain ⟨clear, session, dtcClear, installed⟩ := handleRequest_clears called
    have room := fits.clear clear session dtcClear installed
    rw [handleRequest_clear clear session installed, Outcome.reply, clearAnswer]
    split at room
    · rename_i done
      rw [if_neg (not_not.mpr done), if_neg (Nat.not_lt.mpr room)]
      exact Result.noConfusion
    · rename_i failed
      rw [if_pos failed]
      exact makeNegativeResponse_fits _ _ room
  have handled := handleRequest_handled app ctx user request nowMs capacity
  generalize poll ctx nowMs = c at valid fits handled ⊢
  generalize handleRequest app ctx user request nowMs capacity = outcome at handled clears ⊢
  cases handled with
  | empty | unknown | outsideSession | denied =>
    exact fun _ => ⟨⟨rfl, rfl, rfl, rfl, rfl, rfl, rfl⟩, nothingDone_nil⟩
  | plain _ _ _ _ _ _ plain =>
    exact atomic_of_touch fun tooSmall =>
      ⟨fun _ _ called => clears _ _ called tooSmall, fun _ _ called => (plain _ called).elim⟩
  | toDefault asked same =>
    intro tooSmall
    subst same
    obtain ⟨audible, short⟩ := (answerSessionChange_result _ _).mp tooSmall
    have audible : ¬ AsksSilence request := of_decide_eq_false audible
    -- In the default session the change changes nothing.
    have session : c.session = .default := by
      by_contra other
      exact absurd (fits.toDefault asked other audible) (Nat.not_le.mpr short)
    obtain ⟨locked, idle⟩ := valid.defaultLocked session
    exact ⟨⟨session.symm, locked.symm, rfl, idle.symm, rfl, rfl, rfl⟩, nothingDone_nil⟩
  | toExtended asked same =>
    intro tooSmall
    subst same
    obtain ⟨audible, short⟩ := (answerSessionChange_result _ _).mp tooSmall
    have audible : ¬ AsksSilence request := of_decide_eq_false audible
    have session : c.session = .extended := by
      by_contra other
      exact absurd (fits.toExtended asked other audible) (Nat.not_le.mpr short)
    exact ⟨⟨session.symm, rfl, rfl, rfl, rfl, rfl, rfl⟩, nothingDone_nil⟩
  | resetFailed asked session unlocked installed failed notOk =>
    have performs : PerformsReset c request := ⟨asked, session, level1_of_unlocked unlocked⟩
    have room := fits.reset performs _ installed
    rw [failed, if_neg notOk] at room
    exact fun tooSmall => absurd tooSmall (makeNegativeResponse_fits _ _ room)
  | reset asked session unlocked installed done =>
    have performs : PerformsReset c request := ⟨asked, session, level1_of_unlocked unlocked⟩
    have room := fits.reset performs _ installed
    rw [done, if_pos rfl] at room
    rw [if_neg (Nat.not_lt.mpr room)]
    exact fun tooSmall => Result.noConfusion tooSmall
  | accessMalformed | accessDelayed | seedNoRoom | keyUnexpected => exact atomic_of_touch fun _ => nothingDone_nil
  | seedZero | seedIssued => exact fun tooSmall => Result.noConfusion tooSmall
  | keyWrong key session free pending wrong | keyExceeded key session free pending wrong =>
    have room := fits.key key session free pending
    rw [if_neg wrong] at room
    exact fun tooSmall => absurd tooSmall (makeNegativeResponse_fits _ _ room)
  | keyAccepted key session free pending right =>
    have room := fits.key key session free pending
    rw [if_pos right] at room
    rw [if_neg (Nat.not_lt.mpr room)]
    exact fun tooSmall => Result.noConfusion tooSmall

end

/-- In every reachable state, a response buffer that is too small keeps the
request from having an effect exactly when the answer of the effect fits. -/
theorem too_small_atomic_iff (app : Application σ) (user : σ) (actions : List Action) (request : Bytes)
    (nowMs : UInt32) (capacity : Nat) :
    let server := Traces.final (step app) (.init user) actions
    Atomic (poll server.ctx nowMs) (handleRequest app server.ctx server.user request nowMs capacity) ↔
      Fits app (poll server.ctx nowMs) server.user request capacity := by
  have valid := (reachable_valid app user actions).poll nowMs
  exact ⟨fun atomic => ⟨atomic.toDefault, atomic.toExtended, fun performs _ => atomic.reset performs,
    fun clear session _ => atomic.clear clear session, atomic.key valid⟩, fun fits => fits.atomic valid⟩

/-- A `10 03` into five bytes opens the extended session. -/
theorem too_small_extends :
    let bare : Application Unit := ⟨none, none, none, none⟩
    ¬ Atomic (poll (Server.init ()).ctx 0) (handleRequest bare (Server.init ()).ctx () [0x10, 0x03] 0 5) := by
  intro bare atomic
  exact absurd (atomic rfl).1.session (by decide)

end DiagnosticGateway.Uds
