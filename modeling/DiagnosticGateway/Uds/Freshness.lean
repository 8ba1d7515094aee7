import DiagnosticGateway.Library.Congruential
import DiagnosticGateway.Uds.Authority
import DiagnosticGateway.Uds.Provenance

/-! Every seed is new, and every key unlocks once.

The seeds of a run are the outputs of one generator from one state on, in order,
so that they only repeat after its whole period. A key that unlocks uses up the
seed it answers, and two seeds never share a key.
-/

set_option autoImplicit false

namespace DiagnosticGateway.Uds
open BigEndian Traces

variable {σ : Type}

def advance (seedState : UInt32) : UInt32 := (nextSeed seedState).1

/-- The seed that is drawn after `index` others. -/
def seedAt (seedState : UInt32) (index : Nat) : UInt32 := (nextSeed (advance^[index] seedState)).2

theorem advance_toNat (seedState : UInt32) :
    (advance seedState).toNat = (1103515245 * seedState.toNat + 12345) % 2 ^ 32 := by
  simp only [advance, nextSeed, UInt32.toNat_add, UInt32.toNat_mul]
  rw [Nat.mod_add_mod, Nat.mul_comm]
  rfl

theorem advance_iterate (seedState : UInt32) (n : Nat) :
    ((advance^[n] seedState).toNat : ℤ) ≡ (Congruential.next 1103515245 12345)^[n] seedState.toNat [ZMOD 2 ^ 32] := by
  induction n with
  | zero => rfl
  | succ n ih =>
    rw [Function.iterate_succ_apply', Function.iterate_succ_apply', advance_toNat]
    push_cast
    exact (Int.mod_modEq _ _).trans ((ih.mul_left 1103515245).add_right 12345)

theorem seedAt_eq (seedState : UInt32) (index : Nat) :
    seedAt seedState index = advance^[index] (advance seedState) ^^^ 0x5A5A5A5A := by
  rw [← Function.iterate_succ_apply, Function.iterate_succ_apply']
  rfl

theorem seedAt_injective {seedState : UInt32} {i j : Nat} (first : i < 2 ^ 32) (second : j < 2 ^ 32)
    (same : seedAt seedState i = seedAt seedState j) : i = j := by
  rw [seedAt_eq, seedAt_eq, UInt32.xor_left_inj] at same
  refine @Congruential.iterate_injective 1103515245 12345 (advance seedState).toNat (by decide) (by decide) (by decide)
    32 i j first second ?_
  refine (advance_iterate (advance seedState) i).symm.trans ?_
  rw [same]
  exact advance_iterate (advance seedState) j

def AnswersSeed (c : Context) (request response : Bytes) : Prop :=
  IsSeedRequest request ∧ c.securityLevel = .locked ∧
    byteAt response 0 = sidSecurityAccess + positiveResponseOffset

instance (c : Context) (request response : Bytes) : Decidable (AnswersSeed c request response) :=
  inferInstanceAs (Decidable (_ ∧ _ ∧ _))

/-- The seed in the answer to a `27 01`, of a server that is locked. -/
def issuedSeed? (step : Step σ) : Option UInt32 :=
  match step.action with
  | .request bytes _ _ =>
    if AnswersSeed (polled step.before step.action) bytes step.output.response then
      some (readWord step.output.response 2)
    else none
  | .poll _ | .seedEntropy _ => none

def unlockingKey? (step : Step σ) : Option UInt32 :=
  match step.action with
  | .request bytes _ _ =>
    if step.before.ctx.securityLevel = .locked ∧ step.after.ctx.securityLevel = .level1 then some (keyOf bytes)
    else none
  | .poll _ | .seedEntropy _ => none

def Action.isRequest : Action → Bool
  | .request _ _ _ => true
  | .poll _ | .seedEntropy _ => false

def Action.isEntropy : Action → Bool
  | .seedEntropy _ => true
  | .poll _ | .request _ _ _ => false

/-- `uds_seed_entropy` is called before the first request only. -/
def EntropyFirst (actions : List Action) : Prop :=
  actions.Pairwise fun earlier later => ¬ (earlier.isRequest = true ∧ later.isEntropy = true)

instance (actions : List Action) : Decidable (EntropyFirst actions) :=
  inferInstanceAs (Decidable (actions.Pairwise _))

/-- What a request does to the generator and to the seed that is awaited. -/
inductive Drew (c : Context) (request : Bytes) (after : Context) (response : Bytes) : Prop where
  | kept : ¬ AnswersSeed c request response → after.seedState = c.seedState →
      (after.seedPending = true → c.seedPending = true ∧ after.currentSeed = c.currentSeed) →
      Drew c request after response
  | drew : AnswersSeed c request response → response = seedResponse (nextSeed c.seedState).2 →
      after.seedState = (nextSeed c.seedState).1 → after.currentSeed = (nextSeed c.seedState).2 →
      after.securityLevel = .locked → Drew c request after response

section
variable {app : Application σ} {c : Context} {user : σ} {request : Bytes} {nowMs : UInt32} {capacity : Nat}
  {outcome : Outcome σ}

theorem IsSeedRequest.not_isKey (seed : IsSeedRequest request) : ¬ IsKey request := by
  intro key
  have codes : securityRequestSeed = securitySendKey := seed.2.2.symm.trans key.2.2
  cases codes

theorem not_answersSeed_refuse (sid nrc : UInt8) :
    ¬ AnswersSeed c request (makeNegativeResponse sid nrc capacity).2 := by
  rintro ⟨-, -, positive⟩
  rw [makeNegativeResponse] at positive
  split at positive <;> cases positive

theorem not_answersSeed_sid {response : Bytes} (other : byteAt request 0 ≠ sidSecurityAccess) :
    ¬ AnswersSeed c request response := fun answers => other answers.1.2.1

theorem Handled.drew (handled : Handled app c user request nowMs capacity outcome) :
    Drew c request outcome.ctx outcome.response := by
  cases handled with
  | empty none => exact .kept (fun answers => by rw [none] at answers; cases answers.1.1) rfl fun pending => ⟨pending, rfl⟩
  | unknown | outsideSession | denied | resetFailed | accessMalformed | accessDelayed | keyUnexpected =>
    exact .kept (not_answersSeed_refuse _ _) rfl fun pending => ⟨pending, rfl⟩
  | plain _ other => exact .kept (not_answersSeed_sid other) rfl fun pending => ⟨pending, rfl⟩
  | toDefault asked =>
    exact .kept (not_answersSeed_sid (by rw [asked.2.1]; decide)) rfl fun pending => by cases pending
  | toExtended asked =>
    exact .kept (not_answersSeed_sid (by rw [asked.2.1]; decide)) rfl fun pending => ⟨pending, rfl⟩
  | reset asked => exact .kept (not_answersSeed_sid (by rw [asked.2.1]; decide)) rfl fun pending => by cases pending
  | seedNoRoom => exact .kept (fun answers => by cases answers.2.2) rfl fun pending => ⟨pending, rfl⟩
  | seedZero _ _ _ _ unlocked => exact .kept (fun answers => unlocked answers.2.1) rfl fun pending => by cases pending
  | seedIssued isSeed _ _ _ locked => exact .drew ⟨isSeed, locked, rfl⟩ rfl rfl rfl locked
  | keyWrong | keyExceeded => exact .kept (not_answersSeed_refuse _ _) rfl fun pending => by cases pending
  | keyAccepted isKey => exact .kept (fun answers => answers.1.not_isKey isKey) rfl fun pending => by cases pending

end

/-! ## The invariant -/

/-- The seeds are the first outputs from `start` on. The keys that unlocked
answer some of them, in order, and none of them the seed that is pending. -/
structure Fresh (start : UInt32) (seeds keys : List UInt32) (ctx : Context) : Prop where
  valid : Valid ctx
  seedState : ctx.seedState = advance^[seeds.length] start
  drawn : seeds = (List.range seeds.length).map (seedAt start)
  used : keys.Sublist (seeds.map demoKeyFromSeed)
  pending : ctx.seedPending = true →
    (keys ++ [demoKeyFromSeed ctx.currentSeed]).Sublist (seeds.map demoKeyFromSeed)

section
variable {start : UInt32} {seeds keys : List UInt32} {ctx after : Context}

theorem Fresh.poll (fresh : Fresh start seeds keys ctx) (nowMs : UInt32) : Fresh start seeds keys (poll ctx nowMs) where
  valid := fresh.valid.poll nowMs
  seedState := poll_seedState.trans fresh.seedState
  drawn := fresh.drawn
  used := fresh.used
  pending := by
    intro pending
    rw [poll_currentSeed]
    exact fresh.pending (seedPending_of_poll pending)

theorem Fresh.kept (fresh : Fresh start seeds keys ctx) (valid : Valid after) (same : after.seedState = ctx.seedState)
    (pending : after.seedPending = true → ctx.seedPending = true ∧ after.currentSeed = ctx.currentSeed) :
    Fresh start seeds keys after where
  valid := valid
  seedState := same.trans fresh.seedState
  drawn := fresh.drawn
  used := fresh.used
  pending := by
    intro now
    obtain ⟨before, seed⟩ := pending now
    rw [seed]
    exact fresh.pending before

theorem Fresh.unlock (fresh : Fresh start seeds keys ctx) (valid : Valid after) (same : after.seedState = ctx.seedState)
    (pending : ctx.seedPending = true) (unlocked : after.securityLevel = .level1) :
    Fresh start seeds (keys ++ [demoKeyFromSeed ctx.currentSeed]) after where
  valid := valid
  seedState := same.trans fresh.seedState
  drawn := fresh.drawn
  used := fresh.pending pending
  pending := by
    intro still
    have locked := (valid.pendingLocked still).1
    rw [unlocked] at locked
    cases locked

theorem Fresh.drew (fresh : Fresh start seeds keys ctx) (valid : Valid after)
    (advanced : after.seedState = (nextSeed ctx.seedState).1) (seed : after.currentSeed = (nextSeed ctx.seedState).2) :
    Fresh start (seeds ++ [(nextSeed ctx.seedState).2]) keys after where
  valid := valid
  seedState := by
    rw [advanced, fresh.seedState, List.length_append, List.length_singleton, Function.iterate_succ_apply']
    rfl
  drawn := by
    rw [List.length_append, List.length_singleton, List.range_succ, List.map_append, ← fresh.drawn, fresh.seedState]
    rfl
  used := by
    rw [List.map_append]
    exact fresh.used.trans (List.sublist_append_left _ _)
  pending := by
    intro _
    rw [seed, List.map_append]
    exact fresh.used.append (List.Sublist.refl _)

theorem Fresh.entropy (fresh : Fresh start [] [] ctx) (entropy : UInt32) :
    Fresh (ctx.seedState ^^^ entropy) [] [] (seedEntropy ctx entropy) where
  valid := fresh.valid.seedEntropy entropy
  seedState := rfl
  drawn := rfl
  used := List.Sublist.refl _
  pending := fresh.pending

end

theorem Fresh.request {start : UInt32} {seeds keys : List UInt32} {server : Server σ}
    (fresh : Fresh start seeds keys server.ctx) (app : Application σ) (bytes : Bytes) (nowMs : UInt32) (capacity : Nat) :
    Fresh start (seeds ++ (issuedSeed? (event (step app) server (.request bytes nowMs capacity))).toList)
      (keys ++ (unlockingKey? (event (step app) server (.request bytes nowMs capacity))).toList)
      (step app server (.request bytes nowMs capacity)).1.ctx := by
  have polled := fresh.poll nowMs
  have handled := handleRequest_handled app server.ctx server.user bytes nowMs capacity
  have valid := polled.valid.handled handled
  have drew := handled.drew
  cases handled.drew with
  | kept silent same pending =>
    have issued : issuedSeed? (event (step app) server (.request bytes nowMs capacity)) = none := if_neg silent
    rw [issued, Option.toList_none, List.append_nil]
    by_cases unlocks : server.ctx.securityLevel = .locked ∧
        (step app server (.request bytes nowMs capacity)).1.ctx.securityLevel = .level1
    · have unlocking : unlockingKey? (event (step app) server (.request bytes nowMs capacity)) = some (keyOf bytes) :=
        if_pos unlocks
      rcases handled.unlocked_cases unlocks.2 with before | ⟨-, -, key, awaited, -⟩
      · have level := unlocked_of_poll before
        rw [unlocks.1] at level
        cases level
      · rw [unlocking, key]
        exact polled.unlock valid same awaited unlocks.2
    · have unlocking : unlockingKey? (event (step app) server (.request bytes nowMs capacity)) = none := if_neg unlocks
      rw [unlocking, Option.toList_none, List.append_nil]
      exact polled.kept valid same pending
  | drew answers response advanced seed locked =>
    have issued : issuedSeed? (event (step app) server (.request bytes nowMs capacity)) =
        some (nextSeed (Uds.poll server.ctx nowMs).seedState).2 := by
      refine (if_pos answers).trans (congrArg some ?_)
      exact (congrArg (readWord · 2) response).trans (readWord_seedResponse _)
    have unlocking : unlockingKey? (event (step app) server (.request bytes nowMs capacity)) = none := by
      refine if_neg fun unlocks => ?_
      have level := locked.symm.trans unlocks.2
      cases level
    rw [issued, unlocking, Option.toList_none, List.append_nil]
    exact polled.drew valid advanced seed

theorem EntropyFirst.guard {actions : List Action} (entropyFirst : EntropyFirst actions) (app : Application σ)
    (server : Server σ) :
    AllEvents (fun past e => e.action.isEntropy = true → ∀ earlier ∈ past, earlier.action.isRequest = false)
      (trace (step app) server actions) := by
  intro past e future same entropy earlier member
  have split := congrArg (List.map Event.action) same
  rw [trace_actions, List.map_append, List.map_cons] at split
  rw [EntropyFirst, split] at entropyFirst
  have ordered := (List.pairwise_append.mp entropyFirst).2.2 earlier.action (List.mem_map_of_mem member) e.action (by simp)
  simpa [entropy] using ordered

theorem issuedSeed?_not_request {e : Step σ} (other : e.action.isRequest = false) : issuedSeed? e = none := by
  cases same : e.action with
  | request => simp [same, Action.isRequest] at other
  | _ => simp [issuedSeed?, same]

theorem unlockingKey?_not_request {e : Step σ} (other : e.action.isRequest = false) : unlockingKey? e = none := by
  cases same : e.action with
  | request => simp [same, Action.isRequest] at other
  | _ => simp [unlockingKey?, same]

theorem filterMap_concat {α β : Type} (f : α → Option β) (earlier : List α) (last : α) :
    (earlier ++ [last]).filterMap f = earlier.filterMap f ++ (f last).toList := by
  cases found : f last <;> simp [List.filterMap_append, found]

theorem fresh_init (seedState : UInt32) : Fresh seedState [] [] (init.reseed seedState) where
  valid := valid_init.reseed seedState
  seedState := rfl
  drawn := rfl
  used := List.Sublist.refl _
  pending := fun pending => by cases pending

theorem run_fresh (app : Application σ) (user : σ) (seedState : UInt32) (actions : List Action)
    (entropyFirst : EntropyFirst actions) :
    ∃ start, Fresh start ((trace (step app) ⟨init.reseed seedState, user⟩ actions).filterMap issuedSeed?)
      ((trace (step app) ⟨init.reseed seedState, user⟩ actions).filterMap unlockingKey?)
      (final (step app) ⟨init.reseed seedState, user⟩ actions).ctx := by
  refine guarded_run (step app) (fun past e => e.action.isEntropy = true → ∀ earlier ∈ past, earlier.action.isRequest = false)
    (fun past server => ∃ start, Fresh start (past.filterMap issuedSeed?) (past.filterMap unlockingKey?) server.ctx)
    ?_ ?_ actions (entropyFirst.guard app _)
  · exact ⟨seedState, fresh_init seedState⟩
  rintro past server action ⟨start, fresh⟩ guard
  rw [filterMap_concat, filterMap_concat]
  cases action with
  | poll nowMs =>
    rw [issuedSeed?_not_request rfl, unlockingKey?_not_request rfl, Option.toList_none, List.append_nil, List.append_nil]
    exact ⟨start, fresh.poll nowMs⟩
  | seedEntropy entropy =>
    have before := guard rfl
    rw [issuedSeed?_not_request rfl, unlockingKey?_not_request rfl, Option.toList_none, List.append_nil, List.append_nil]
    rw [List.filterMap_eq_nil_iff.mpr fun e member => issuedSeed?_not_request (before e member),
      List.filterMap_eq_nil_iff.mpr fun e member => unlockingKey?_not_request (before e member)] at fresh ⊢
    exact ⟨_, fresh.entropy entropy⟩
  | request bytes nowMs capacity => exact ⟨start, fresh.request app bytes nowMs capacity⟩

/-- Before the generator has gone through its period, no seed is issued twice
and no key unlocks twice. -/
theorem seeds_distinct_keys_once (app : Application σ) (user : σ) (seedState : UInt32) (actions : List Action)
    (entropyFirst : EntropyFirst actions)
    (few : ((trace (step app) ⟨init.reseed seedState, user⟩ actions).filterMap issuedSeed?).length < 2 ^ 32) :
    ((trace (step app) ⟨init.reseed seedState, user⟩ actions).filterMap issuedSeed?).Nodup ∧
      ((trace (step app) ⟨init.reseed seedState, user⟩ actions).filterMap unlockingKey?).Nodup := by
  obtain ⟨start, fresh⟩ := run_fresh app user seedState actions entropyFirst
  have distinct : ((trace (step app) ⟨init.reseed seedState, user⟩ actions).filterMap issuedSeed?).Nodup := by
    rw [fresh.drawn]
    refine List.nodup_range.map_on fun i first j second same => ?_
    rw [List.mem_range] at first second
    exact seedAt_injective (first.trans few) (second.trans few) same
  exact ⟨distinct, (distinct.map fun _ _ => demoKeyFromSeed_injective).sublist fresh.used⟩

def twoSeeds : List Action :=
  [.seedEntropy 0xCAFE, .request [0x10, 0x03] 0 8, .request [0x27, 0x01] 1 8,
    .request ([0x27, 0x02] ++ writeWord (demoKeyFromSeed (seedAt (7 ^^^ 0xCAFE) 0))) 2 8,
    .request [0x10, 0x01] 3 8, .request [0x10, 0x03] 4 8, .request [0x27, 0x01] 5 8]

theorem seeds_distinct_keys_once_two :
    let events := trace (step ⟨none, none, none, none⟩) ⟨init.reseed 7, ()⟩ twoSeeds
    (events.filterMap issuedSeed?).length = 2 ∧ (events.filterMap unlockingKey?).length = 1 ∧
      (events.filterMap issuedSeed?).Nodup := by
  intro events
  have two : (events.filterMap issuedSeed?).length = 2 := by decide +kernel
  have one : (events.filterMap unlockingKey?).length = 1 := by decide +kernel
  obtain ⟨distinct, -⟩ := seeds_distinct_keys_once ⟨none, none, none, none⟩ () 7 twoSeeds (by decide)
    (two.trans_lt (by decide))
  exact ⟨two, one, distinct⟩

end DiagnosticGateway.Uds
