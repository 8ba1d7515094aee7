import DiagnosticGateway.Gateway.HardenedEcu

/-! A legitimate flow after an attack, through the gateway to the project's own
server.

The flow opens a session on both sides and gets the seed of the ECU. It fails
where the ECU was left unlocked behind a locked shadow: the ECU then answers
with a zero seed, the tester has no key to send, and the shadow refuses the
reset.
-/

set_option autoImplicit false

namespace DiagnosticGateway.Hardened
open BigEndian Uds Gateway Traces

def returnedSeed (answer : Answer) : UInt32 :=
  if byteAt answer.toTester 0 = sidSecurityAccess + positiveResponseOffset ∧
      byteAt answer.toTester 1 = securityRequestSeed then readWord answer.toTester 2
  else 0

/-- `10 03`, `27 01`, the key of a seed that is not zero, and `11 01`, one a millisecond. -/
def honestFlow (pair : Pair) (nowMs : UInt32) : Pair × Answer :=
  let opened := (step pair ⟨[0x10, 0x03], nowMs⟩).1
  let asked := step opened ⟨[0x27, 0x01], nowMs + 1⟩
  let seed := returnedSeed asked.2
  let ready :=
    if seed ≠ 0 then (step asked.1 ⟨[0x27, 0x02] ++ writeWord (demoKeyFromSeed seed), nowMs + 2⟩).1
    else asked.1
  step ready ⟨[0x11, 0x01], nowMs + 3⟩

/-- The ECU performs the reset and the tester receives `51 01`. -/
def Succeeds (flow : Pair × Answer) : Prop :=
  Effect.ecuReset resetHard .ok ∈ flow.2.effects ∧ flow.2.toTester = [0x51, 0x01]

instance (flow : Pair × Answer) : Decidable (Succeeds flow) := inferInstanceAs (Decidable (_ ∧ _))

/-- Both sides are in a live session. -/
structure LivePair (pair : Pair) (nowMs : UInt32) (shadowLevel ecuLevel : SecurityLevel) : Prop where
  shadow : Live pair.gateway.shadow nowMs shadowLevel
  ecu : Live pair.ecu.ctx nowMs ecuLevel

section
variable {pair : Pair} {before nowMs : UInt32} {shadowLevel ecuLevel : SecurityLevel}

theorem live_observeResponse {gw : Gateway} {level : SecurityLevel} (live : Live gw.shadow nowMs level)
    (response : Bytes) : Live (gw.observeResponse response).shadow nowMs level := by
  rw [observeResponse_shadow]
  split
  · exact ⟨live.session, live.free, live.active, live.level⟩
  · exact live

theorem open_step (shadowFree : (poll pair.gateway.shadow nowMs).lockedOut = false)
    (ecuFree : (poll pair.ecu.ctx nowMs).lockedOut = false) :
    let opened := (step pair ⟨[0x10, 0x03], nowMs⟩).1
    LivePair opened nowMs (poll pair.gateway.shadow nowMs).securityLevel (poll pair.ecu.ctx nowMs).securityLevel ∧
      opened.ecu.ctx.seedState = pair.ecu.ctx.seedState := by
  have allowed : ¬ Blocked (polledShadow pair ⟨[0x10, 0x03], nowMs⟩) [0x10, 0x03] :=
    not_blocked_of_sid (by decide)
  dsimp only
  rw [step_allowed pair _ allowed]
  dsimp only
  rw [toExtended_seedState _ _ room]
  refine ⟨⟨live_observeResponse ?_ _, live_toExtended Ecu.application pair.ecu.user ecuFree room⟩, rfl⟩
  rw [gwAdmit, admitEx_shadow _ _ _ (Nat.le_refl maxResponseSize)]
  exact live_toExtended _ _ shadowFree room

theorem seed_allowed (live : LivePair pair before shadowLevel ecuLevel)
    (soon : nowMs - before < s3ServerTimeoutMs) :
    ¬ Blocked (polledShadow pair ⟨[0x27, 0x01], nowMs⟩) [0x27, 0x01] := by
  rw [polledShadow, live.shadow.poll soon]
  exact not_blocked_of_free (by decide) live.shadow.privileged live.shadow.free
    (fun refuses => absurd refuses.1 (by decide))

theorem live_seed {σ : Type} (app : Application σ) (user : σ) {ctx : Context} {level : SecurityLevel}
    (live : Live ctx before level) (soon : nowMs - before < s3ServerTimeoutMs) :
    Live (handleRequest app ctx user [0x27, 0x01] nowMs maxResponseSize).ctx nowMs level := by
  cases level with
  | locked => exact (live.seed app user soon (by decide) room).1
  | level1 => exact (live.seedZero app user soon (by decide) room).1

theorem returnedSeed_seedResponse (verdict : Verdict) (seed : UInt32) (effects : List Effect) :
    returnedSeed ⟨verdict, seedResponse seed, effects⟩ = seed := by
  rw [returnedSeed, if_pos ⟨rfl, rfl⟩]
  exact readWord_seedResponse seed

theorem carriesSeed_seedResponse (seed : UInt32) : CarriesSeed seed (seedResponse seed) := by
  refine ⟨by simp [seedResponse], rfl, rfl, ?_⟩
  exact readWord_seedResponse seed

theorem seed_step_unlocked (live : LivePair pair before shadowLevel .level1)
    (soon : nowMs - before < s3ServerTimeoutMs) :
    let asked := step pair ⟨[0x27, 0x01], nowMs⟩
    LivePair asked.1 nowMs shadowLevel .level1 ∧ returnedSeed asked.2 = 0 := by
  obtain ⟨ecu, _, answered⟩ := live.ecu.seedZero Ecu.application pair.ecu.user soon
    (by decide : IsSeedRequest [0x27, 0x01]) room
  dsimp only
  rw [step_allowed pair _ (seed_allowed live soon)]
  refine ⟨⟨live_observeResponse ?_ _, ecu⟩, ?_⟩
  · rw [gwAdmit, admitEx_shadow _ _ _ (Nat.le_refl maxResponseSize)]
    exact live_seed _ _ live.shadow soon
  · dsimp only
    rw [answered, returnedSeed_seedResponse]

theorem seed_step_locked (live : LivePair pair before shadowLevel .locked)
    (soon : nowMs - before < s3ServerTimeoutMs) :
    let asked := step pair ⟨[0x27, 0x01], nowMs⟩
    let seed := (nextSeed pair.ecu.ctx.seedState).2
    LivePair asked.1 nowMs shadowLevel .locked ∧ returnedSeed asked.2 = seed ∧
      (asked.1.ecu.ctx.seedPending = true ∧ asked.1.ecu.ctx.currentSeed = seed) ∧
      (seed ≠ 0 → asked.1.gateway.shadow.seedPending = true ∧ asked.1.gateway.shadow.currentSeed = seed) := by
  obtain ⟨ecu, pending, current, _, answered⟩ := live.ecu.seed Ecu.application pair.ecu.user soon
    (by decide : IsSeedRequest [0x27, 0x01]) room
  dsimp only
  rw [step_allowed pair _ (seed_allowed live soon)]
  refine ⟨⟨live_observeResponse ?_ _, ecu⟩, ?_, ⟨pending, current⟩, fun nonzero => ?_⟩
  · rw [gwAdmit, admitEx_shadow _ _ _ (Nat.le_refl maxResponseSize)]
    exact live_seed _ _ live.shadow soon
  · dsimp only
    rw [answered, returnedSeed_seedResponse]
  · have carries := carriesSeed_seedResponse (nextSeed pair.ecu.ctx.seedState).2
    dsimp only
    rw [answered, observe_adopts carries nonzero]
    exact ⟨rfl, rfl⟩

theorem key_step {seed : UInt32} {request : Bytes} (live : LivePair pair before shadowLevel ecuLevel)
    (soon : nowMs - before < s3ServerTimeoutMs)
    (ecu : pair.ecu.ctx.seedPending = true ∧ pair.ecu.ctx.currentSeed = seed)
    (shadow : pair.gateway.shadow.seedPending = true ∧ pair.gateway.shadow.currentSeed = seed)
    (key : IsKey request) (right : keyOf request = demoKeyFromSeed seed) :
    LivePair (step pair ⟨request, nowMs⟩).1 nowMs .level1 .level1 := by
  have accepts := live.shadow.acceptsKey soon key shadow.1 (by rw [shadow.2, right])
  rw [step_allowed pair ⟨request, nowMs⟩ (not_blocked_of_acceptsKey accepts)]
  refine ⟨live_observeResponse ?_ _, (live.ecu.key _ _ soon key ecu.1 (by rw [ecu.2, right]) (by decide)).1⟩
  rw [gwAdmit, admitEx_shadow _ _ _ (Nat.le_refl maxResponseSize)]
  exact (live.shadow.key _ _ soon key shadow.1 (by rw [shadow.2, right]) (by decide)).1

theorem reset_step (live : LivePair pair before shadowLevel ecuLevel) (soon : nowMs - before < s3ServerTimeoutMs) :
    Succeeds (step pair ⟨[0x11, 0x01], nowMs⟩) ↔ shadowLevel = .level1 ∧ ecuLevel = .level1 := by
  cases shadowLevel with
  | locked =>
    -- The shadow keeps the request from the ECU.
    have blocked : Blocked (polledShadow pair ⟨[0x11, 0x01], nowMs⟩) [0x11, 0x01] := by
      rw [polledShadow, live.shadow.poll soon]
      exact .inr (.inl ⟨isReset_hard.2.1, live.shadow.level⟩)
    refine iff_of_false (fun succeeds => ?_) (fun both => by cases both.1)
    rw [step_blocked pair _ blocked] at succeeds
    exact absurd succeeds.1 List.not_mem_nil
  | level1 =>
    have allowed : ¬ Blocked (polledShadow pair ⟨[0x11, 0x01], nowMs⟩) [0x11, 0x01] := by
      rw [polledShadow, live.shadow.poll soon]
      exact not_blocked_of_passes (fun _ => live.shadow.privileged) (fun _ => by rw [live.shadow.level]; decide)
        (by decide)
    cases ecuLevel with
    | locked =>
      -- The ECU itself refuses it.
      refine iff_of_false (fun succeeds => ?_) (fun both => by cases both.2)
      rw [step_allowed pair _ allowed] at succeeds
      have unlocked := ((handleRequest_handled Ecu.application pair.ecu.ctx pair.ecu.user [0x11, 0x01] nowMs
        maxResponseSize).reset_cases succeeds.1).2
      rw [live.ecu.poll soon, live.ecu.level] at unlocked
      cases unlocked
    | level1 =>
      refine iff_of_true ?_ ⟨rfl, rfl⟩
      have enough : 2 ≤ maxResponseSize := by decide
      obtain ⟨_, answered, effects⟩ := live.ecu.reset Ecu.application pair.ecu.user soon isReset_hard
        (rfl : Ecu.application.ecuReset = some Ecu.reset) rfl enough
      rw [step_allowed pair _ allowed]
      dsimp only [Succeeds]
      rw [answered, effects]
      exact ⟨List.mem_singleton.mpr rfl, rfl⟩

end

/-! ## When the flow succeeds -/

theorem soon_of_sub {nowMs later earlier : UInt32} (close : later - earlier < s3ServerTimeoutMs) :
    nowMs + later - (nowMs + earlier) < s3ServerTimeoutMs := by
  have same : nowMs + later - (nowMs + earlier) = later - earlier := by grind
  rwa [same]

/-- With neither side locked out, the flow succeeds exactly when the ECU was not
left unlocked behind a locked shadow, and the seed a locked ECU draws is not zero. -/
theorem honestFlow_succeeds_iff (pair : Pair) (nowMs : UInt32)
    (shadowFree : (poll pair.gateway.shadow nowMs).lockedOut = false)
    (ecuFree : (poll pair.ecu.ctx nowMs).lockedOut = false) :
    Succeeds (honestFlow pair nowMs) ↔
      ¬ ((poll pair.gateway.shadow nowMs).securityLevel = .locked ∧
          (poll pair.ecu.ctx nowMs).securityLevel = .level1) ∧
        ((poll pair.ecu.ctx nowMs).securityLevel = .locked → (nextSeed pair.ecu.ctx.seedState).2 ≠ 0) := by
  obtain ⟨opened, seedState⟩ := open_step shadowFree ecuFree
  unfold honestFlow
  dsimp only
  generalize (step pair ⟨[0x10, 0x03], nowMs⟩).1 = first at opened seedState ⊢
  generalize (poll pair.gateway.shadow nowMs).securityLevel = shadowLevel at opened ⊢
  cases level : (poll pair.ecu.ctx nowMs).securityLevel with
  | level1 =>
    -- No key is sent, so the shadow has to be unlocked already.
    rw [level] at opened
    obtain ⟨asked, returned⟩ := seed_step_unlocked opened (next_soon nowMs)
    rw [returned, if_neg (not_not.mpr rfl), reset_step asked (soon_of_sub (by decide))]
    cases shadowLevel <;> simp
  | locked =>
    -- A fresh seed, and the key of a nonzero one unlocks both sides.
    rw [level] at opened
    obtain ⟨asked, returned, ecu, shadow⟩ := seed_step_locked opened (next_soon nowMs)
    rw [seedState] at returned ecu shadow
    rw [returned]
    by_cases zero : (nextSeed pair.ecu.ctx.seedState).2 = 0
    · rw [if_neg (not_not.mpr zero), reset_step asked (soon_of_sub (by decide))]
      simp [zero]
    · obtain ⟨key, right⟩ := key_of_writeWord (demoKeyFromSeed (nextSeed pair.ecu.ctx.seedState).2)
      have soon : nowMs + 2 - (nowMs + 1) < s3ServerTimeoutMs := soon_of_sub (by decide)
      have unlocked := key_step asked soon ecu (shadow zero) key right
      rw [if_pos zero, reset_step unlocked (soon_of_sub (by decide))]
      simp [zero]

theorem honestFlow_init_succeeds : Succeeds (honestFlow init 0) :=
  (honestFlow_succeeds_iff init 0 (by decide) (by decide)).mpr ⟨by decide, by decide⟩

/-- After the split key neither side is locked out, and the flow fails. -/
theorem honestFlow_splitKey_fails : splitKey.Pairwise (fun first second => first.nowMs ≤ second.nowMs) ∧
    (poll (final step init splitKey).gateway.shadow 1).lockedOut = false ∧
    (poll (final step init splitKey).ecu.ctx 1).lockedOut = false ∧
    ¬ Succeeds (honestFlow (final step init splitKey) 1) := by
  decide

end DiagnosticGateway.Hardened
