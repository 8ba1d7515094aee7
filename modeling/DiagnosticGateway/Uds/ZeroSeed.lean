import DiagnosticGateway.Uds.Answers
import DiagnosticGateway.Uds.Provenance

/-! The zero seed, which tells a tester that the server is unlocked already.

An unlocked server always sends it. The generator goes through all its states, and
exactly one of them is followed by a zero seed as well, for a locked server.
-/

set_option autoImplicit false

namespace DiagnosticGateway.Uds
open BigEndian Traces

variable {σ : Type}

/-- The state whose successor is hidden by the mask of the seed. -/
def zeroSeedState : UInt32 := 0x8A17EA05

theorem next_injective {a b : UInt32} (same : a * 1103515245 + 12345 = b * 1103515245 + 12345) : a = b := by
  have scaled : a * 1103515245 = b * 1103515245 := (UInt32.add_left_inj _).mp same
  have unit : (1103515245 : UInt32) * 0xEEB9EB65 = 1 := by decide
  calc a = a * 1103515245 * 0xEEB9EB65 := by rw [UInt32.mul_assoc, unit, UInt32.mul_one]
    _ = b * 1103515245 * 0xEEB9EB65 := by rw [scaled]
    _ = b := by rw [UInt32.mul_assoc, unit, UInt32.mul_one]

theorem nextSeed_eq_zero_iff (seedState : UInt32) : (nextSeed seedState).2 = 0 ↔ seedState = zeroSeedState := by
  have target : zeroSeedState * 1103515245 + 12345 = 0x5A5A5A5A := by decide
  simp only [nextSeed, UInt32.xor_eq_zero_iff]
  rw [← target]
  exact ⟨next_injective, fun same => by rw [same]⟩

/-! ## Answers to `27 01` -/

/-- A `27 01` answered positively carries a zero seed exactly when it was handled
by an unlocked server. -/
def ZeroMeansUnlocked (e : Step σ) : Prop :=
  ∀ bytes nowMs capacity, e.action = .request bytes nowMs capacity → IsSeedRequest bytes →
    byteAt e.output.response 0 = sidSecurityAccess + positiveResponseOffset →
      (readWord e.output.response 2 = 0 ↔ (poll e.before.ctx nowMs).securityLevel ≠ .locked)

/-- A locked server that answers `27 01` does not draw the zero seed. -/
def DrawsNonzero (e : Step σ) : Prop :=
  ∀ bytes nowMs capacity, e.action = .request bytes nowMs capacity → IsSeedRequest bytes →
    (poll e.before.ctx nowMs).session ≠ .default → (poll e.before.ctx nowMs).lockedOut = false → 6 ≤ capacity →
      (poll e.before.ctx nowMs).securityLevel = .locked → e.before.ctx.seedState ≠ zeroSeedState

section
variable {app : Application σ} {c : Context} {user : σ} {request : Bytes} {nowMs : UInt32} {capacity : Nat}
  {outcome : Outcome σ}

theorem Handled.seed_answer (handled : Handled app c user request nowMs capacity outcome) (seed : IsSeedRequest request)
    (positive : byteAt outcome.response 0 = sidSecurityAccess + positiveResponseOffset) :
    c.session ≠ .default ∧ c.lockedOut = false ∧ 6 ≤ capacity ∧
      ((c.securityLevel ≠ .locked ∧ outcome.response = seedResponse 0) ∨
        (c.securityLevel = .locked ∧ outcome.response = seedResponse (nextSeed c.seedState).2)) := by
  have refused : ∀ sid nrc, byteAt (makeNegativeResponse sid nrc capacity).2 0 ≠
      sidSecurityAccess + positiveResponseOffset := by
    intro sid nrc
    have other : negativeResponseSid ≠ sidSecurityAccess + positiveResponseOffset := by decide
    unfold makeNegativeResponse
    split
    · decide
    · exact other
  have sid := seed.2.1
  cases handled with
  | empty none =>
    subst none
    exact absurd seed.1 (by decide)
  | unknown | outsideSession | denied | resetFailed | accessMalformed | accessDelayed | keyUnexpected | keyWrong
  | keyExceeded => exact absurd positive (refused _ _)
  | plain _ notAccess => exact absurd sid notAccess
  | toDefault asked | toExtended asked => exact absurd (sid.symm.trans asked.2.1) (by decide)
  | reset asked => exact absurd (sid.symm.trans asked.2.1) (by decide)
  | seedNoRoom => cases positive
  | seedZero _ session free room unlocked => exact ⟨session, free, room, .inl ⟨unlocked, rfl⟩⟩
  | seedIssued _ session free room locked => exact ⟨session, free, room, .inr ⟨locked, rfl⟩⟩
  | keyAccepted key => exact absurd key (not_isKey_of_seed seed)

end

theorem zeroMeansUnlocked_iff (app : Application σ) (server : Server σ) (action : Action) :
    ZeroMeansUnlocked (event (step app) server action) ↔ DrawsNonzero (event (step app) server action) := by
  constructor
  · rintro means bytes nowMs capacity rfl seed session free room locked drawn
    have answered := handleRequest_seed app server.user session free locked seed room
    have response : (event (step app) server (.request bytes nowMs capacity)).output.response =
        seedResponse (nextSeed server.ctx.seedState).2 := congrArg Outcome.response answered
    have zero : (nextSeed server.ctx.seedState).2 = 0 := (nextSeed_eq_zero_iff _).mpr drawn
    refine (means bytes nowMs capacity rfl seed ?_).mp ?_ locked
    · rw [response, seedResponse, byteAt_zero]
    · rw [response, readWord_seedResponse, zero]
  · rintro draws bytes nowMs capacity rfl seed positive
    have handled := handleRequest_handled app server.ctx server.user bytes nowMs capacity
    obtain ⟨session, free, room, ⟨unlocked, response⟩ | ⟨locked, response⟩⟩ := handled.seed_answer seed positive
    · refine iff_of_true ?_ unlocked
      simp only [event, step, response, readWord_seedResponse]
    · have nonzero := draws bytes nowMs capacity rfl seed session free room locked
      refine iff_of_false (fun zero => ?_) (not_not.mpr locked)
      simp only [event, step, response, readWord_seedResponse, nextSeed_eq_zero_iff, poll_seedState] at zero
      exact nonzero zero

/-- In a run the zero seed means an unlocked server, exactly when no locked server
answers `27 01` out of the one state that precedes the zero seed. -/
theorem zero_seed_means_unlocked_iff (app : Application σ) (user : σ) (actions : List Action) :
    (∀ e ∈ trace (step app) (.init user) actions, ZeroMeansUnlocked e) ↔
      ∀ e ∈ trace (step app) (.init user) actions, DrawsNonzero e :=
  forall_trace_congr (step app) (zeroMeansUnlocked_iff app) (.init user) actions

/-- With the right entropy, the first seed of a locked server is zero. -/
theorem zero_seed_locked :
    ¬ ∀ e ∈ trace (step (⟨none, none, none, none⟩ : Application Unit)) (.init ())
      [.seedEntropy 0x9823BC7D, .request [0x10, 0x03] 0 6, .request [0x27, 0x01] 1 6], ZeroMeansUnlocked e := by
  intro means
  have last := means _ (List.mem_cons_of_mem _ (List.mem_cons_of_mem _ (List.mem_cons_self ..)))
  exact (zeroMeansUnlocked_iff _ _ _).mp last [0x27, 0x01] 1 6 rfl (by decide) (by decide) (by decide) (by decide)
    (by decide) (by decide)

end DiagnosticGateway.Uds
