import DiagnosticGateway.Gateway.Mediation

/-! The shadow's server invariant under observation.

The server on its own never holds authority in the default session, nor a
pending seed during a lockout: every request and every poll keeps that. The
seeds the gateway observes are written into the shadow past the server's access
rules, so the invariant holds of a run exactly when these come in season.
-/

set_option autoImplicit false

namespace DiagnosticGateway.Gateway
open BigEndian Uds Traces

/-- No authority in the default session, and no seed pending during a lockout. -/
structure Coherent (c : Context) : Prop where
  defaultLocked : c.session = .default → c.securityLevel = .locked ∧ c.seedPending = false
  pendingFree : c.seedPending = true → c.lockedOut = false

theorem coherent_init : Coherent init.shadow where
  defaultLocked := fun _ => ⟨rfl, rfl⟩
  pendingFree := fun pending => by cases pending

section
variable {c : Context}

theorem Coherent.relock (c : Context) : Coherent c.relock where
  defaultLocked := fun _ => ⟨rfl, rfl⟩
  pendingFree := fun pending => by cases pending

theorem coherent_of_session (session : c.session ≠ .default) (free : c.seedPending = true → c.lockedOut = false) :
    Coherent c where
  defaultLocked := fun default => absurd default session
  pendingFree := free

variable (coherent : Coherent c)
include coherent

theorem Coherent.touch (nowMs : UInt32) : Coherent (c.touch nowMs) := ⟨coherent.1, coherent.2⟩

theorem Coherent.pollLockout (nowMs : UInt32) : Coherent (pollLockout c nowMs) := by
  unfold Uds.pollLockout
  split
  · exact ⟨coherent.defaultLocked, fun _ => rfl⟩
  · exact coherent

theorem Coherent.poll (nowMs : UInt32) : Coherent (poll c nowMs) := by
  by_cases expired : Expired c nowMs
  · rw [poll_expired expired]
    exact Coherent.relock _
  · rw [poll_alive expired]
    exact coherent.pollLockout nowMs

theorem Coherent.handled {σ : Type} {app : Application σ} {user : σ} {request : Bytes} {nowMs : UInt32} {capacity : Nat}
    {outcome : Outcome σ} (handled : Handled app c user request nowMs capacity outcome) : Coherent outcome.ctx := by
  cases handled with
  | empty | unknown | outsideSession | denied => exact coherent
  | plain | resetFailed | accessMalformed | accessDelayed | seedNoRoom | keyUnexpected =>
    exact coherent.touch nowMs
  | toDefault | reset => exact Coherent.relock _
  | toExtended => exact coherent_of_session Session.noConfusion coherent.pendingFree
  | seedIssued _ session free => exact coherent_of_session session (fun _ => free)
  -- The others leave no seed pending.
  | seedZero _ session | keyWrong _ session | keyExceeded _ session | keyAccepted _ session =>
    exact coherent_of_session session (fun pending => by cases pending)

end

theorem coherent_admitEx {gw : Gateway} (coherent : Coherent gw.shadow) (request : Bytes) (nowMs : UInt32)
    (respCapacity : Nat) : Coherent (gw.admitEx request nowMs respCapacity).gateway.shadow := by
  by_cases room : maxResponseSize ≤ respCapacity
  · rw [admitEx_shadow gw request nowMs room]
    exact (coherent.poll nowMs).handled (handleRequest_handled shadowApplication gw.shadow () request nowMs respCapacity)
  · rwa [admitEx_noRoom gw request nowMs (Nat.not_le.mp room)]

/-! ## Seeds out of season -/

def Consumes (seed : UInt32) (e : Step) : Prop :=
  ∃ request nowMs respCapacity, e.action = .admitEx request nowMs respCapacity ∧ maxResponseSize ≤ respCapacity ∧
    IsKey request ∧ (poll e.before.shadow nowMs).session ≠ .default ∧ (poll e.before.shadow nowMs).lockedOut = false ∧
    (poll e.before.shadow nowMs).seedPending = true ∧ (poll e.before.shadow nowMs).currentSeed = seed

/-- A response with this seed was observed, and a key compared with it since. -/
def Consumed (seed : UInt32) (past : List Step) : Prop :=
  ∃ before e after, past = before ++ e :: after ∧ Consumes seed e ∧ ∃ earlier ∈ before, ObservesSeed seed earlier

/-- After the step a key is expected that was not expected before it. -/
def Arms (e : Step) : Prop :=
  e.after.shadow.seedPending = true ∧
    (e.before.shadow.seedPending = false ∨ e.after.shadow.currentSeed ≠ e.before.shadow.currentSeed)

/-- The shadow keeps the server's invariant, and no seed that comes outside the
extended session, during a lockout or after it was used up is armed. -/
def KeepsInvariant (past : List Step) (e : Step) : Prop :=
  Coherent e.after.shadow ∧
    ∀ seed, ObservesSeed seed e →
      e.before.shadow.session ≠ .extended ∨ e.before.shadow.lockedOut = true ∨ Consumed seed past → ¬ Arms e

/-- A nonzero seed that is observed is the one already pending, or it comes in
the extended session, outside a lockout, and was not used up before. -/
def InSeason (past : List Step) (e : Step) : Prop :=
  ∀ seed, seed ≠ 0 → ObservesSeed seed e →
    (e.before.shadow.seedPending = true ∧ e.before.shadow.currentSeed = seed) ∨
      (e.before.shadow.session = .extended ∧ e.before.shadow.lockedOut = false ∧ ¬ Consumed seed past)

section
variable {gw : Gateway} {response : Bytes}

theorem arms_observe_iff : Arms (event step gw (.observe response)) ↔
    ∃ seed, CarriesSeed seed response ∧ seed ≠ 0 ∧
      ¬ (gw.shadow.seedPending = true ∧ gw.shadow.currentSeed = seed) := by
  change (gw.observeResponse response).shadow.seedPending = true ∧
    (gw.shadow.seedPending = false ∨ (gw.observeResponse response).shadow.currentSeed ≠ gw.shadow.currentSeed) ↔ _
  by_cases carried : ∃ seed, CarriesSeed seed response ∧ seed ≠ 0
  · obtain ⟨seed, carries, nonzero⟩ := carried
    rw [observe_adopts carries nonzero, Context.awaitKey_seedPending, Context.awaitKey_currentSeed]
    constructor
    · rintro ⟨_, idle | replaced⟩
      · exact ⟨seed, carries, nonzero, fun same => Bool.noConfusion (idle.symm.trans same.1)⟩
      · exact ⟨seed, carries, nonzero, fun same => replaced same.2.symm⟩
    · rintro ⟨other, otherCarries, _, fresh⟩
      obtain rfl : seed = other := carries.2.2.2.symm.trans otherCarries.2.2.2
      refine ⟨rfl, ?_⟩
      by_cases pending : gw.shadow.seedPending = true
      · exact .inr (fun same => fresh ⟨pending, same.symm⟩)
      · exact .inl (Bool.eq_false_iff.mpr pending)
  · rw [observe_ignores (fun seed carries nonzero => carried ⟨seed, carries, nonzero⟩)]
    constructor
    · rintro ⟨pending, idle | moved⟩
      · exact Bool.noConfusion (idle.symm.trans pending)
      · exact absurd rfl moved
    · rintro ⟨seed, carries, nonzero, _⟩
      exact absurd ⟨seed, carries, nonzero⟩ carried

theorem coherent_observe_iff (coherent : Coherent gw.shadow) : Coherent (gw.observeResponse response).shadow ↔
    ∀ seed, CarriesSeed seed response → seed ≠ 0 → gw.shadow.session ≠ .default ∧ gw.shadow.lockedOut = false := by
  constructor
  · intro kept seed carries nonzero
    rw [observe_adopts carries nonzero] at kept
    exact ⟨fun default => Bool.noConfusion (kept.defaultLocked default).2, kept.pendingFree rfl⟩
  · intro room
    by_cases carried : ∃ seed, CarriesSeed seed response ∧ seed ≠ 0
    · obtain ⟨seed, carries, nonzero⟩ := carried
      obtain ⟨session, free⟩ := room seed carries nonzero
      rw [observe_adopts carries nonzero]
      exact coherent_of_session session (fun _ => free)
    · rwa [observe_ignores (fun seed carries nonzero => carried ⟨seed, carries, nonzero⟩)]

end

theorem keepsInvariant_iff (past : List Step) (gw : Gateway) (action : Action) (coherent : Coherent gw.shadow)
    (known : gw.shadow.session ≠ .programming) :
    KeepsInvariant past (event step gw action) ↔ InSeason past (event step gw action) := by
  cases action with
  | admitEx request nowMs respCapacity =>
    -- Nothing is observed.
    refine iff_of_true ⟨coherent_admitEx coherent request nowMs respCapacity, ?_⟩ ?_
    · rintro seed ⟨_, ⟨⟩, _⟩
    · rintro seed _ ⟨_, ⟨⟩, _⟩
  | observe response =>
    constructor
    · rintro ⟨kept, unarmed⟩ seed nonzero ⟨_, ⟨⟩, carries⟩
      obtain ⟨session, free⟩ := (coherent_observe_iff coherent).mp kept seed carries nonzero
      by_cases same : gw.shadow.seedPending = true ∧ gw.shadow.currentSeed = seed
      · exact .inl same
      · refine .inr ⟨session_cases known session, free, fun consumed => ?_⟩
        have armed : Arms (event step gw (.observe response)) := arms_observe_iff.mpr ⟨seed, carries, nonzero, same⟩
        exact unarmed seed ⟨response, rfl, carries⟩ (.inr (.inr consumed)) armed
    · intro season
      constructor
      · apply (coherent_observe_iff coherent).mpr
        intro seed carries nonzero
        rcases season seed nonzero ⟨response, rfl, carries⟩ with ⟨pending, _⟩ | ⟨session, free, _⟩
        · refine ⟨fun default => ?_, coherent.pendingFree pending⟩
          exact Bool.noConfusion (pending.symm.trans (coherent.defaultLocked default).2)
        · exact ⟨fun default => Session.noConfusion (session.symm.trans default), free⟩
      · rintro seed ⟨_, ⟨⟩, carries⟩ outside armed
        obtain ⟨other, otherCarries, nonzero, idle⟩ := arms_observe_iff.mp armed
        obtain rfl : seed = other := carries.2.2.2.symm.trans otherCarries.2.2.2
        rcases season seed nonzero ⟨response, rfl, carries⟩ with same | ⟨session, free, fresh⟩
        · exact idle same
        · rcases outside with elsewhere | delayed | consumed
          · exact elsewhere session
          · exact Bool.noConfusion (free.symm.trans delayed)
          · exact fresh consumed

/-- In a run the shadow keeps the server's invariant, and arms no seed that is out
of season, exactly when every seed it observes comes in season. -/
theorem observed_seeds_in_season_iff (actions : List Action) :
    AllEvents KeepsInvariant (trace step init actions) ↔ AllEvents InSeason (trace step init actions) :=
  allEvents_iff step (fun _ gw => Coherent gw.shadow ∧ gw.shadow.session ≠ .programming)
    ⟨coherent_init, by decide⟩
    (fun _ _ action reached kept => ⟨kept.1, step_session reached.2 action⟩)
    (fun past gw action reached => keepsInvariant_iff past gw action reached.1 reached.2) actions

/-- A seed response in the default session leaves a seed pending there. -/
theorem default_session_armed :
    ¬ Coherent (final step init [.observe [0x67, 0x01, 0x00, 0x00, 0x00, 0x01]]).shadow :=
  fun coherent => absurd (coherent.defaultLocked (by decide)).2 (by decide)

end DiagnosticGateway.Gateway
