import DiagnosticGateway.Uds.Invariant

/-! Where the authority to reset comes from.

Every call of the reset callback is traced back to the `27 01` that issued a
seed and the `27 02` that answered it. The invariant says the same of the two
flags the server keeps: a pending seed has an issuing event behind it with
nothing drawn or compared since, and an unlocked server has the matching key
behind it, sent while that seed was pending.
-/

set_option autoImplicit false

namespace DiagnosticGateway.Uds
open BigEndian Traces

variable {σ : Type}

abbrev Step (σ : Type) : Type := Event (Server σ) Action Reply

def polled (server : Server σ) : Action → Context
  | .poll nowMs | .request _ nowMs _ => poll server.ctx nowMs
  | .seedEntropy _ => server.ctx

/-- Neither the timers nor the request took the server to the default session. -/
def Privileged (step : Step σ) : Prop :=
  (polled step.before step.action).session ≠ .default ∧ step.after.ctx.session ≠ .default

/-- A `27 01` answered with `seed`, freshly drawn. -/
def IssuesSeed (seed : UInt32) (step : Step σ) : Prop :=
  ∃ bytes nowMs capacity, step.action = .request bytes nowMs capacity ∧ IsSeedRequest bytes ∧
    step.output.effects = [.seedDrawn seed] ∧ step.output.response = seedResponse seed

/-- A six-byte `27 02` whose key was evaluated and is the key for `seed`. -/
def SubmitsKey (seed : UInt32) (step : Step σ) : Prop :=
  ∃ bytes nowMs capacity, step.action = .request bytes nowMs capacity ∧ IsKey bytes ∧
    keyOf bytes = demoKeyFromSeed seed ∧
    step.output.effects = [.keyCompared (demoKeyFromSeed seed) (demoKeyFromSeed seed)]

def CallsReset (step : Step σ) : Prop :=
  ∃ resetType result, Effect.ecuReset resetType result ∈ step.output.effects

/-! ## The invariant -/

def Awaiting (seed : UInt32) (past : List (Step σ)) : Prop :=
  Since (fun step => Privileged step ∧ Quiet step.output.effects)
    (fun _ step => Privileged step ∧ IssuesSeed seed step) past

def Authorized (past : List (Step σ)) : Prop :=
  ∃ seed, Since Privileged (fun before step => Privileged step ∧ SubmitsKey seed step ∧ Awaiting seed before) past

structure Justified (past : List (Step σ)) (server : Server σ) : Prop where
  valid : Valid server.ctx
  pending : server.ctx.seedPending = true → Awaiting server.ctx.currentSeed past
  unlocked : server.ctx.securityLevel = .level1 → Authorized past

/-- Authority after a step was there once the timers had been evaluated, or the
request brought it; either way the step stayed out of the default session. -/
theorem event_privileged (app : Application σ) {server : Server σ} {action : Action} (valid : Valid server.ctx)
    (after : (step app server action).1.ctx.securityLevel = .level1 ∨
      (step app server action).1.ctx.seedPending = true) :
    Privileged (event (step app) server action) := by
  refine ⟨?_, (valid.step app server action).privileged after⟩
  cases action with
  | poll nowMs => exact (valid.poll nowMs).privileged after
  | seedEntropy entropy => exact valid.privileged after
  | request bytes nowMs capacity =>
    have handled := handleRequest_handled app server.ctx server.user bytes nowMs capacity
    -- Authority after the request was there before it, or comes from a handler
    -- that only runs in a privileged session.
    rcases after with unlocked | pending
    · rcases handled.unlocked_cases unlocked with before | ⟨session, _⟩
      · exact (valid.poll nowMs).privileged (.inl before)
      · exact session
    · rcases handled.pending_cases pending with ⟨before, _⟩ | ⟨session, _⟩
      · exact (valid.poll nowMs).privileged (.inr before)
      · exact session

theorem step_pending (app : Application σ) {server : Server σ} {action : Action}
    (pending : (step app server action).1.ctx.seedPending = true) :
    (server.ctx.seedPending = true ∧ (step app server action).1.ctx.currentSeed = server.ctx.currentSeed ∧
        Quiet (step app server action).2.effects) ∨
      IssuesSeed (step app server action).1.ctx.currentSeed (event (step app) server action) := by
  cases action with
  | poll nowMs => exact .inl ⟨seedPending_of_poll pending, poll_currentSeed, quiet_nil⟩
  | seedEntropy entropy => exact .inl ⟨pending, rfl, quiet_nil⟩
  | request bytes nowMs capacity =>
    have handled := handleRequest_handled app server.ctx server.user bytes nowMs capacity
    rcases handled.pending_cases pending with ⟨before, same, quiet⟩ | ⟨_, _, isSeed, drawn, answered⟩
    · exact .inl ⟨seedPending_of_poll before, same.trans poll_currentSeed, quiet⟩
    · exact .inr ⟨bytes, nowMs, capacity, rfl, isSeed, drawn, answered⟩

theorem step_unlocked (app : Application σ) {server : Server σ} {action : Action}
    (unlocked : (step app server action).1.ctx.securityLevel = .level1) :
    server.ctx.securityLevel = .level1 ∨
      (server.ctx.seedPending = true ∧ SubmitsKey server.ctx.currentSeed (event (step app) server action)) := by
  cases action with
  | poll nowMs => exact .inl (unlocked_of_poll unlocked)
  | seedEntropy entropy => exact .inl unlocked
  | request bytes nowMs capacity =>
    have handled := handleRequest_handled app server.ctx server.user bytes nowMs capacity
    rcases handled.unlocked_cases unlocked with before | ⟨_, isKey, right, pending, compared⟩
    · exact .inl (unlocked_of_poll before)
    · rw [poll_currentSeed] at right compared
      rw [right] at compared
      exact .inr ⟨seedPending_of_poll pending, bytes, nowMs, capacity, rfl, isKey, right, compared⟩

theorem Justified.step (app : Application σ) {past : List (Step σ)} {server : Server σ} (action : Action)
    (justified : Justified past server) :
    Justified (past ++ [event (step app) server action]) (step app server action).1 where
  valid := justified.valid.step app server action
  pending := by
    intro pending
    have privileged := event_privileged app justified.valid (.inr pending)
    -- The seed was pending and nothing touched it, or it is issued now.
    rcases step_pending app pending with ⟨before, same, quiet⟩ | issued
    · rw [same]
      exact (justified.pending before).step ⟨privileged, quiet⟩
    · exact .now ⟨privileged, issued⟩
  unlocked := by
    intro unlocked
    have privileged := event_privileged app justified.valid (.inl unlocked)
    -- Unlocked before, or by the key of the seed that was pending.
    rcases step_unlocked app unlocked with before | ⟨pending, submitted⟩
    · obtain ⟨seed, earlier⟩ := justified.unlocked before
      exact ⟨seed, earlier.step privileged⟩
    · exact ⟨server.ctx.currentSeed, .now ⟨privileged, submitted, justified.pending pending⟩⟩

theorem run_justified (app : Application σ) (user : σ) (actions : List Action) :
    Justified (trace (step app) (.init user) actions) (final (step app) (.init user) actions) :=
  run_induction (step app) Justified
    ⟨valid_init, fun pending => (by cases pending), fun unlocked => (by cases unlocked)⟩
    (fun _ _ action justified => justified.step app action) actions

theorem callsReset_unlocked (app : Application σ) {server : Server σ} {action : Action}
    (called : CallsReset (event (step app) server action)) :
    server.ctx.securityLevel = .level1 ∧ (polled server action).session ≠ .default := by
  obtain ⟨resetType, result, member⟩ := called
  cases action with
  | poll nowMs => exact absurd member List.not_mem_nil
  | seedEntropy entropy => exact absurd member List.not_mem_nil
  | request bytes nowMs capacity =>
    obtain ⟨session, unlocked⟩ := (handleRequest_handled app server.ctx server.user bytes nowMs capacity).reset_cases member
    exact ⟨unlocked_of_poll unlocked, session⟩

/-- Every call of the reset callback, in every run, is justified by an earlier
seed and the key that answered it: no other seed was drawn and no other key
evaluated between the two, and from the seed to the reset the server never was
in the default session. -/
theorem reset_provenance (app : Application σ) (user : σ) (actions : List Action) :
    AllEvents
      (fun past reset => CallsReset reset →
        ∃ seed before issue between key after, past = before ++ issue :: between ++ key :: after ∧
          IssuesSeed seed issue ∧ SubmitsKey seed key ∧
          (∀ step ∈ between, Quiet step.output.effects) ∧
          (∀ step ∈ issue :: between ++ key :: after, Privileged step) ∧
          (polled reset.before reset.action).session ≠ .default)
      (trace (step app) (.init user) actions) := by
  refine every_event (step app) actions fun done action called => ?_
  obtain ⟨unlocked, session⟩ := callsReset_unlocked app called
  obtain ⟨seed, split, key, after, same, ⟨keyPrivileged, submitted, awaiting⟩, held⟩ :=
    (run_justified app user done).unlocked unlocked
  obtain ⟨before, issue, between, rfl, ⟨issuePrivileged, issued⟩, quiet⟩ := awaiting
  refine ⟨seed, before, issue, between, key, after, same, issued, submitted,
    fun step member => (quiet step member).2, fun step member => ?_, session⟩
  rcases List.mem_append.mp member with first | second
  · rcases List.mem_cons.mp first with rfl | middle
    · exact issuePrivileged
    · exact (quiet step middle).1
  · rcases List.mem_cons.mp second with rfl | later
    · exact keyPrivileged
    · exact held step later

end DiagnosticGateway.Uds
