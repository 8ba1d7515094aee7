import DiagnosticGateway.Gateway.Loop

/-! The permissive ECU of the bench (`bench_core.h`) behind the gateway.

The ECU grants a reset to any extended session. What keeps it from doing so
unauthorized is that an unlocked shadow has an unlocked ECU behind it, and this
needs the two to read alike the requests that lock: the shadow takes a `10 01`
of two bytes and a reset of two bytes and a known type, the ECU any length.
-/

set_option autoImplicit false

namespace DiagnosticGateway.Bench
open BigEndian Uds Traces

structure Ecu where
  session : Nat
  security : Nat
  seed : UInt32
  seedCtr : UInt32
  resets : UInt64
  unauthorizedResets : UInt64
  deriving DecidableEq, Repr

namespace Ecu

def init : Ecu where
  session := 1
  security := 0
  seed := 0
  seedCtr := 0
  resets := 0
  unauthorizedResets := 0

def recvSession (e : Ecu) (req : Bytes) : Ecu × Bytes :=
  if 2 ≤ req.length then
    let sub := byteAt req 1 &&& 0x7F
    let e :=
      if sub = 1 then { e with session := 1, security := 0 }
      else if sub = 3 then { e with session := 3 }
      else e
    (e, [0x50, sub])
  else (e, [])

def seedOf (seedCtr : UInt32) : UInt32 :=
  let seed := 0xA5A50000 ^^^ (seedCtr * 2654435761)
  if seed = 0 then 1 else seed

def recvSecurity (e : Ecu) (req : Bytes) : Ecu × Bytes :=
  if 2 ≤ req.length then
    let sub := byteAt req 1 &&& 0x7F
    if sub = 1 then
      let seedCtr := e.seedCtr + 1
      let seed := seedOf seedCtr
      ({ e with seedCtr := seedCtr, seed := seed }, 0x67 :: 1 :: writeWord seed)
    else if sub = 2 ∧ 6 ≤ req.length then
      if readWord req 2 = demoKeyFromSeed e.seed then ({ e with security := 1 }, [0x67, 2])
      else (e, [0x7F, 0x27, 0x35])
    else (e, [])
  else (e, [])

/-- Permissive: the reset is gated on the session alone. -/
def recvReset (e : Ecu) : Ecu × Bytes :=
  let authorized := e.security = 1
  if e.session = 3 then
    ({ e with
        resets := e.resets + 1
        unauthorizedResets := if authorized then e.unauthorizedResets else e.unauthorizedResets + 1
        session := 1
        security := 0 },
      [0x51, 1])
  else (e, [0x7F, 0x11, if e.session ≠ 3 then 0x7F else 0x33])

def recv (e : Ecu) (req : Bytes) : Ecu × Bytes :=
  if req.length < 1 then (e, [])
  else if byteAt req 0 = 0x10 then e.recvSession req
  else if byteAt req 0 = 0x27 then e.recvSecurity req
  else if byteAt req 0 = 0x11 then e.recvReset
  else if byteAt req 0 = 0x22 then
    (e, [0x62, if 1 < req.length then byteAt req 1 else 0, if 2 < req.length then byteAt req 2 else 0, 0])
  else if byteAt req 0 = 0x3E then (e, [0x7E, 0])
  else (e, [0x7F, byteAt req 0, 0x11])

theorem seedOf_ne_zero (seedCtr : UInt32) : seedOf seedCtr ≠ 0 := by
  unfold seedOf
  dsimp only
  split
  · decide
  next nonzero => exact nonzero

def Locks (e : Ecu) (req : Bytes) : Prop :=
  (byteAt req 0 = sidDiagnosticSessionControl ∧ 2 ≤ req.length ∧ subfunction req = Session.default.code) ∨
    (byteAt req 0 = sidEcuReset ∧ e.session = 3)

instance (e : Ecu) (req : Bytes) : Decidable (Locks e req) :=
  inferInstanceAs (Decidable (_ ∨ _))

section
variable (e : Ecu) {req : Bytes}

theorem recv_of_control (sid : byteAt req 0 = sidDiagnosticSessionControl) : e.recv req = e.recvSession req := by
  cases req with
  | nil => exact absurd sid (by decide)
  | cons first rest => rw [recv, if_neg (by simp), if_pos sid]

theorem recv_of_access (sid : byteAt req 0 = sidSecurityAccess) : e.recv req = e.recvSecurity req := by
  cases req with
  | nil => exact absurd sid (by decide)
  | cons first rest => rw [recv, if_neg (by simp), if_neg (by rw [sid]; decide), if_pos sid]

theorem recv_of_reset (sid : byteAt req 0 = sidEcuReset) : e.recv req = e.recvReset := by
  cases req with
  | nil => exact absurd sid (by decide)
  | cons first rest =>
    rw [recv, if_neg (by simp), if_neg (by rw [sid]; decide), if_neg (by rw [sid]; decide), if_pos sid]

/-- Every way the ECU takes a request. Only the answer to a `27 01` carries a seed. -/
inductive Received (e : Ecu) (req : Bytes) : Ecu × Bytes → Prop where
  | kept (resp : Bytes) (notSeed : ¬ AsksSeed req) (seedless : ∀ seed, ¬ CarriesSeed seed resp) :
      Received e req (e, resp)
  | toDefault (locks : Locks e req) (notSeed : ¬ AsksSeed req) (sub : UInt8) :
      Received e req ({ e with session := 1, security := 0 }, [0x50, sub])
  | toExtended (notSeed : ¬ AsksSeed req) (sub : UInt8) : Received e req ({ e with session := 3 }, [0x50, sub])
  | seeded (asks : AsksSeed req) (seedCtr seed : UInt32) (resp : Bytes) :
      Received e req ({ e with seedCtr := seedCtr, seed := seed }, resp)
  | unlocked (notSeed : ¬ AsksSeed req) : Received e req ({ e with security := 1 }, [0x67, 2])
  | reset (sid : byteAt req 0 = sidEcuReset) (extended : e.session = 3) (resets unauthorizedResets : UInt64)
      (counted : e.security = 1 → unauthorizedResets = e.unauthorizedResets) :
      Received e req ({ e with
        resets := resets, unauthorizedResets := unauthorizedResets, session := 1, security := 0 }, [0x51, 1])

theorem not_asksSeed_of_sid (other : byteAt req 0 ≠ sidSecurityAccess) : ¬ AsksSeed req :=
  fun asks => other asks.2.1

theorem seedless_of_short {resp : Bytes} (short : resp.length < 6) (seed : UInt32) : ¬ CarriesSeed seed resp :=
  fun carries => Nat.not_le.mpr short carries.1

theorem recvSession_received (sid : byteAt req 0 = sidDiagnosticSessionControl) :
    Received e req (e.recvSession req) := by
  have notSeed : ¬ AsksSeed req := not_asksSeed_of_sid (by rw [sid]; decide)
  unfold recvSession
  split
  next long =>
    dsimp only
    split
    next sub => exact .toDefault (.inl ⟨sid, long, sub⟩) notSeed _
    · split
      · exact .toExtended notSeed _
      · exact .kept _ notSeed (seedless_of_short (by simp))
  · exact .kept _ notSeed (seedless_of_short (by simp))

theorem recvSecurity_received (sid : byteAt req 0 = sidSecurityAccess) : Received e req (e.recvSecurity req) := by
  unfold recvSecurity
  split
  next long =>
    dsimp only
    split
    next sub => exact .seeded ⟨long, sid, sub⟩ _ _ _
    next other =>
      have notSeed : ¬ AsksSeed req := fun asks => other asks.2.2
      split
      · split
        · exact .unlocked notSeed
        · exact .kept _ notSeed (seedless_of_short (by simp))
      · exact .kept _ notSeed (seedless_of_short (by simp))
  next short => exact .kept _ (fun asks => short asks.1) (seedless_of_short (by simp))

theorem recvReset_received (sid : byteAt req 0 = sidEcuReset) : Received e req e.recvReset := by
  unfold recvReset
  dsimp only
  split
  next extended => exact .reset sid extended _ _ (fun authorized => if_pos authorized)
  · exact .kept _ (not_asksSeed_of_sid (by rw [sid]; decide)) (seedless_of_short (by simp))

theorem recv_received : Received e req (e.recv req) := by
  by_cases control : byteAt req 0 = sidDiagnosticSessionControl
  · rw [recv_of_control e control]
    exact recvSession_received e control
  by_cases access : byteAt req 0 = sidSecurityAccess
  · rw [recv_of_access e access]
    exact recvSecurity_received e access
  by_cases reset : byteAt req 0 = sidEcuReset
  · rw [recv_of_reset e reset]
    exact recvReset_received e reset
  -- The other services leave the ECU as it was.
  have notSeed := not_asksSeed_of_sid access
  rw [recv, if_neg control, if_neg access, if_neg reset]
  split
  · exact .kept _ notSeed (seedless_of_short (by simp))
  split
  · exact .kept _ notSeed (seedless_of_short (by simp))
  split
  · exact .kept _ notSeed (seedless_of_short (by simp))
  · exact .kept _ notSeed (seedless_of_short (by simp))

theorem recv_security (unlocked : e.security = 1) (kept : ¬ Locks e req) : (e.recv req).1.security = 1 := by
  have received := @recv_received e req
  generalize e.recv req = outcome at received ⊢
  cases received with
  | toDefault locks => exact absurd locks kept
  | reset sid extended => exact absurd (.inr ⟨sid, extended⟩) kept
  | unlocked => rfl
  | kept | toExtended | seeded => exact unlocked

theorem recv_unauthorizedResets (authorized : byteAt req 0 = sidEcuReset → e.session = 3 → e.security = 1) :
    (e.recv req).1.unauthorizedResets = e.unauthorizedResets := by
  have received := @recv_received e req
  generalize e.recv req = outcome at received ⊢
  cases received with
  | reset sid extended _ _ counted => exact counted (authorized sid extended)
  | kept | toDefault | toExtended | seeded | unlocked => rfl

theorem recv_keepsSeed (other : ¬ AsksSeed req) :
    (e.recv req).1.seed = e.seed ∧ ∀ seed, ¬ CarriesSeed seed (e.recv req).2 := by
  have received := @recv_received e req
  generalize e.recv req = outcome at received ⊢
  cases received with
  | kept _ _ seedless => exact ⟨rfl, seedless⟩
  | seeded asks => exact absurd asks other
  | toDefault | toExtended | unlocked | reset => exact ⟨rfl, seedless_of_short (by simp)⟩

theorem recv_key (key : IsKey req) (right : keyOf req = demoKeyFromSeed e.seed) : (e.recv req).1.security = 1 := by
  have notSeed : ¬ byteAt req 1 &&& 0x7F = 1 := fun sub => absurd (key.2.2.symm.trans sub) (by decide)
  have sendKey : byteAt req 1 &&& 0x7F = 2 := key.2.2
  have length : 6 ≤ req.length := Nat.le_of_eq key.1.symm
  rw [recv_of_access e key.2.1, recvSecurity, if_pos (by omega)]
  dsimp only
  rw [if_neg notSeed, if_pos ⟨sendKey, length⟩, if_pos (by exact right)]

theorem recv_locks (locks : Locks e req) : (e.recv req).1.session = 1 ∧ (e.recv req).1.security = 0 := by
  rcases locks with ⟨sid, long, sub⟩ | ⟨sid, extended⟩
  · have sub : byteAt req 1 &&& 0x7F = 1 := sub
    rw [recv_of_control e sid, recvSession, if_pos long]
    dsimp only
    rw [if_pos sub]
    exact ⟨rfl, rfl⟩
  · rw [recv_of_reset e sid, recvReset, if_pos extended]
    exact ⟨rfl, rfl⟩

theorem recv_asksSeed (asks : AsksSeed req) :
    CarriesSeed (e.recv req).1.seed (e.recv req).2 ∧ (e.recv req).1.seed ≠ 0 := by
  have sub : byteAt req 1 &&& 0x7F = 1 := asks.2.2
  rw [recv_of_access e asks.2.1, recvSecurity, if_pos asks.1]
  dsimp only
  rw [if_pos sub]
  refine ⟨⟨by simp, rfl, rfl, ?_⟩, seedOf_ne_zero _⟩
  simpa using readWord_writeWord [0x67, 1] (seedOf (e.seedCtr + 1)) []

end

end Ecu

/-! ## The gateway in front of it -/

structure Bus where
  gateway : Gateway
  ecu : Ecu
  deriving DecidableEq, Repr

def init : Bus := ⟨Gateway.init, Ecu.init⟩

/-- The S2 branch of `bench_replay`, for one request. -/
def step (bus : Bus) (req : Request) : Bus × Verdict :=
  let decision := bus.gateway.gwAdmit req.bytes req.nowMs
  match decision.verdict with
  | .allow =>
    let (ecu, resp) := bus.ecu.recv req.bytes
    (⟨decision.gateway.observeResponse resp, ecu⟩, .allow)
  | .drop => (⟨decision.gateway, bus.ecu⟩, .drop)

section
variable (bus : Bus) (req : Request)

def polled : Context := poll bus.gateway.shadow req.nowMs

theorem step_blocked (blocked : Blocked (polled bus req) req.bytes) :
    step bus req = (⟨(bus.gateway.gwAdmit req.bytes req.nowMs).gateway, bus.ecu⟩, .drop) := by
  have dropped : (bus.gateway.gwAdmit req.bytes req.nowMs).verdict = .drop :=
    (Gateway.admitEx_drop_iff _ _ _ (Nat.le_refl maxResponseSize)).mpr blocked
  simp only [step, dropped]

theorem step_allowed (allowed : ¬ Blocked (polled bus req) req.bytes) :
    step bus req = (⟨(bus.gateway.gwAdmit req.bytes req.nowMs).gateway.observeResponse (bus.ecu.recv req.bytes).2,
      (bus.ecu.recv req.bytes).1⟩, .allow) := by
  have admitted : (bus.gateway.gwAdmit req.bytes req.nowMs).verdict = .allow :=
    (Gateway.admitEx_allow_iff _ _ _ (Nat.le_refl maxResponseSize)).mpr allowed
  simp only [step, admitted]

theorem step_ecu_blocked (blocked : Blocked (polled bus req) req.bytes) : (step bus req).1.ecu = bus.ecu := by
  rw [step_blocked bus req blocked]

theorem step_ecu_allowed (allowed : ¬ Blocked (polled bus req) req.bytes) :
    (step bus req).1.ecu = (bus.ecu.recv req.bytes).1 := by
  rw [step_allowed bus req allowed]

theorem step_gateway : (step bus req).1.gateway =
    (Loop.step bus.gateway ⟨req.bytes, req.nowMs, .answered (bus.ecu.recv req.bytes).2⟩).1 := by
  unfold step Loop.step
  dsimp only
  cases (bus.gateway.gwAdmit req.bytes req.nowMs).verdict <;> rfl

theorem step_session : (step bus req).1.gateway.shadow.session = sessionAfter (polled bus req) req.bytes := by
  rw [step_gateway]
  exact Loop.step_session _ _

theorem step_securityLevel :
    (step bus req).1.gateway.shadow.securityLevel = securityAfter (polled bus req) req.bytes := by
  rw [step_gateway]
  exact Loop.step_securityLevel _ _

end

/-- An unlocked shadow has an unlocked ECU behind it, and a pending seed is the
ECU's own. -/
structure Synced (bus : Bus) : Prop where
  privileged : bus.gateway.shadow.securityLevel = .level1 → bus.gateway.shadow.session ≠ .default
  unlocked : bus.gateway.shadow.securityLevel = .level1 → bus.ecu.security = 1
  seed : bus.gateway.shadow.seedPending = true → bus.gateway.shadow.currentSeed = bus.ecu.seed
  authorized : bus.ecu.unauthorizedResets = 0

theorem synced_init : Synced init where
  privileged := fun unlocked => by cases unlocked
  unlocked := fun unlocked => by cases unlocked
  seed := fun pending => by cases pending
  authorized := rfl

/-- While the shadow is unlocked, what locks the ECU is a request the shadow
locks on too: the `10 01` and the reset of exactly two bytes. -/
def ReadsAlike (bus : Bus) (req : Request) : Prop :=
  (polled bus req).securityLevel = .level1 → bus.ecu.Locks req.bytes →
    IsSessionRequest .default req.bytes ∨ IsReset req.bytes

instance (bus : Bus) (req : Request) : Decidable (ReadsAlike bus req) :=
  inferInstanceAs (Decidable (_ → _ → _))

section
variable {bus : Bus} {req : Request} (synced : Synced bus)
include synced

theorem Synced.seed_step (pending : (step bus req).1.gateway.shadow.seedPending = true) :
    (step bus req).1.gateway.shadow.currentSeed = (step bus req).1.ecu.seed := by
  have handled := handleRequest_handled shadowApplication bus.gateway.shadow () req.bytes req.nowMs maxResponseSize
  have shadow : (bus.gateway.gwAdmit req.bytes req.nowMs).gateway.shadow = _ :=
    Gateway.admitEx_shadow bus.gateway req.bytes req.nowMs (Nat.le_refl maxResponseSize)
  by_cases blocked : Blocked (polled bus req) req.bytes
  · rw [step_blocked bus req blocked] at pending ⊢
    rw [shadow] at pending ⊢
    rcases handled.pending_cases pending with ⟨before, same, _⟩ | ⟨session, free, isSeed, _⟩
    · rw [same, poll_currentSeed]
      exact synced.seed (seedPending_of_poll before)
    · -- A drawn seed was asked for, and a seed request outside a lockout is not blocked.
      exact absurd blocked
        (not_blocked_of_free isSeed.2.1 session free (fun refuses => not_isKey_of_seed isSeed refuses.1))
  · rw [step_allowed bus req blocked] at pending ⊢
    dsimp only at pending ⊢
    rw [Gateway.observeResponse_shadow] at pending ⊢
    by_cases asks : AsksSeed req.bytes
    · -- The observed seed replaces the one the shadow drew for itself.
      obtain ⟨carries, nonzero⟩ := bus.ecu.recv_asksSeed asks
      rw [carries.2.2.2, if_pos ⟨carries, nonzero⟩, Context.awaitKey_currentSeed]
    · obtain ⟨same, none⟩ := bus.ecu.recv_keepsSeed asks
      rw [if_neg (fun carried => none _ carried.1), shadow] at pending ⊢
      rcases handled.pending_cases pending with ⟨before, kept, _⟩ | ⟨_, _, isSeed, _⟩
      · rw [kept, poll_currentSeed, same]
        exact synced.seed (seedPending_of_poll before)
      · exact absurd isSeed.asksSeed asks

theorem Synced.polled_privileged (unlocked : (polled bus req).securityLevel = .level1) :
    (polled bus req).session ≠ .default := by
  have before := synced.privileged (unlocked_of_poll unlocked)
  unfold polled at unlocked ⊢
  by_cases expired : Expired bus.gateway.shadow req.nowMs
  · rw [poll_expired expired] at unlocked
    cases unlocked
  · rwa [poll_alive expired, pollLockout_session]

theorem Synced.unlocked_step (alike : ReadsAlike bus req)
    (unlocked : (step bus req).1.gateway.shadow.securityLevel = .level1) : (step bus req).1.ecu.security = 1 := by
  rw [step_securityLevel] at unlocked
  have notRelocks : ¬ Relocks (polled bus req) req.bytes := fun relocks => by
    rw [securityAfter, if_pos relocks] at unlocked
    cases unlocked
  rcases securityAfter_cases unlocked with before | ⟨_, accepts⟩
  · -- Unlocked before and not relocked: the ECU must not have locked either.
    have security := synced.unlocked (unlocked_of_poll before)
    by_cases blocked : Blocked (polled bus req) req.bytes
    · rw [step_ecu_blocked bus req blocked]
      exact security
    · rw [step_ecu_allowed bus req blocked]
      refine bus.ecu.recv_security security (fun locks => notRelocks ?_)
      rcases alike before locks with asked | reset
      · exact .inl asked
      · exact .inr ⟨reset, synced.polled_privileged before, before⟩
  · rw [step_ecu_allowed bus req (not_blocked_of_acceptsKey accepts)]
    refine bus.ecu.recv_key accepts.1 ?_
    have right := accepts.2.2.2.2
    rwa [polled, poll_currentSeed, synced.seed (seedPending_of_poll accepts.2.2.2.1)] at right

/-- The step lemma. No step resets the ECU without authority; the condition is
what keeps the two locks together. -/
theorem Synced.step (alike : ReadsAlike bus req) : Synced (step bus req).1 where
  privileged := by
    intro unlocked
    rw [step_securityLevel] at unlocked
    rw [step_session, sessionAfter, if_neg]
    · split
      · decide
      · rcases securityAfter_cases unlocked with before | ⟨_, accepts⟩
        · exact synced.polled_privileged before
        · exact accepts.2.1
    · intro relocks
      rw [securityAfter, if_pos relocks] at unlocked
      cases unlocked
  unlocked := synced.unlocked_step alike
  seed := synced.seed_step
  authorized := by
    by_cases blocked : Blocked (polled bus req) req.bytes
    · rw [step_ecu_blocked bus req blocked]
      exact synced.authorized
    · rw [step_ecu_allowed bus req blocked]
      refine (bus.ecu.recv_unauthorizedResets fun sid _ => ?_).trans synced.authorized
      cases level : (polled bus req).securityLevel with
      | locked => exact absurd (.inr (.inl ⟨sid, level⟩)) blocked
      | level1 => exact synced.unlocked (unlocked_of_poll level)

end

theorem run_synced (requests : List Request)
    (alike : ∀ e ∈ trace step init requests, ReadsAlike e.before e.action) : Synced (final step init requests) :=
  guarded_run step (fun _ e => ReadsAlike e.before e.action) (fun _ => Synced) synced_init
    (fun _ _ _ synced alike => synced.step alike) requests ((allEvents_forall _ _).mpr alike)

def exploit (nowMs : UInt32) : List Request := [⟨[0x10, 0x03], nowMs⟩, ⟨[0x11, 0x01], nowMs⟩]

structure Diverged (bus : Bus) (nowMs : UInt32) : Prop where
  unlocked : bus.gateway.shadow.securityLevel = .level1
  session : bus.gateway.shadow.session ≠ .default
  active : bus.gateway.shadow.lastActivityMs = nowMs
  locked : bus.ecu.security = 0
  authorized : bus.ecu.unauthorizedResets = 0

theorem Diverged.polled {bus : Bus} (req : Request) (diverged : Diverged bus req.nowMs) :
    (polled bus req).securityLevel = .level1 ∧ (polled bus req).session ≠ .default := by
  rw [Bench.polled, poll_alive (not_expired_now diverged.active), pollLockout_securityLevel, pollLockout_session]
  exact ⟨diverged.unlocked, diverged.session⟩

theorem Diverged.extended {bus : Bus} {nowMs : UInt32} (diverged : Diverged bus nowMs) :
    Diverged (step bus ⟨[0x10, 0x03], nowMs⟩).1 nowMs ∧ (step bus ⟨[0x10, 0x03], nowMs⟩).1.ecu.session = 3 := by
  have asked : IsSessionRequest .extended [0x10, 0x03] := by decide
  have polled := Diverged.polled ⟨[0x10, 0x03], nowMs⟩ diverged
  have received : (bus.ecu.recv [0x10, 0x03]).1 = { bus.ecu with session := 3 } := rfl
  have ecu := step_ecu_allowed bus ⟨[0x10, 0x03], nowMs⟩
    (not_blocked_of_sid (by decide : ¬ NeedsExtended (byteAt [0x10, 0x03] 0)))
  rw [received] at ecu
  refine ⟨⟨?_, ?_, ?_, ?_, ?_⟩, by rw [ecu]⟩
  · rw [step_securityLevel, securityAfter_of_extended asked]
    exact polled.1
  · rw [step_session, sessionAfter_of_extended asked]
    decide
  · have known : findRule (byteAt [0x10, 0x03] 0) ≠ none := by decide
    have free : ¬ NeedsExtended (byteAt [0x10, 0x03] 0) := by decide
    have notReset : byteAt [0x10, 0x03] 0 ≠ sidEcuReset := by decide
    rw [step_gateway]
    exact Loop.step_lastActivityMs bus.gateway _ known (fun needs => absurd needs free)
      (fun reset => absurd reset notReset)
  · rw [ecu]
    exact diverged.locked
  · rw [ecu]
    exact diverged.authorized

theorem Diverged.exploited {bus : Bus} {nowMs : UInt32} (diverged : Diverged bus nowMs) :
    (final step bus (exploit nowMs)).ecu.unauthorizedResets = 1 := by
  obtain ⟨extended, session⟩ := diverged.extended
  simp only [exploit, final]
  generalize (step bus ⟨[0x10, 0x03], nowMs⟩).1 = between at extended session ⊢
  have polled := Diverged.polled ⟨[0x11, 0x01], nowMs⟩ extended
  have notAccess : byteAt [0x11, 0x01] 0 ≠ sidSecurityAccess := by decide
  have allowed : ¬ Blocked (Bench.polled between ⟨[0x11, 0x01], nowMs⟩) [0x11, 0x01] :=
    not_blocked_of_passes (fun _ => polled.2) (fun _ => by rw [polled.1]; decide) notAccess
  have sid : byteAt [0x11, 0x01] 0 = sidEcuReset := by decide
  rw [step_ecu_allowed between _ allowed, Ecu.recv_of_reset _ sid, Ecu.recvReset, if_pos session]
  simp [extended.locked, extended.authorized]

theorem Synced.diverges {bus : Bus} {req : Request} (synced : Synced bus) (differs : ¬ ReadsAlike bus req) :
    Diverged (Bench.step bus req).1 req.nowMs := by
  obtain ⟨unlocked, locks, other⟩ : (polled bus req).securityLevel = .level1 ∧ bus.ecu.Locks req.bytes ∧
      ¬ (IsSessionRequest .default req.bytes ∨ IsReset req.bytes) := by
    simpa only [ReadsAlike, not_forall, exists_prop] using differs
  have session := synced.polled_privileged unlocked
  have sid : byteAt req.bytes 0 = sidDiagnosticSessionControl ∨ byteAt req.bytes 0 = sidEcuReset :=
    locks.imp And.left And.left
  have notAccess : byteAt req.bytes 0 ≠ sidSecurityAccess := by
    rcases sid with sid | sid <;> rw [sid] <;> decide
  have unmoved : Unmoved (polled bus req) req.bytes := by
    refine ⟨fun relocks => other (relocks.imp_right And.left), fun asked => ?_, not_acceptsKey_of_sid notAccess⟩
    rcases locks with ⟨_, _, sub⟩ | ⟨reset, _⟩
    · exact absurd (sub.symm.trans asked.2.2) (by decide)
    · exact absurd (reset.symm.trans asked.2.1) (by decide)
  have allowed : ¬ Blocked (polled bus req) req.bytes :=
    not_blocked_of_passes (fun _ => session) (fun _ => by rw [unlocked]; decide) notAccess
  obtain ⟨_, locked⟩ := bus.ecu.recv_locks locks
  -- The shadow stays where it was, and the ECU has gone back to its default session.
  refine ⟨?_, ?_, ?_, ?_, ?_⟩
  · rw [step_securityLevel, unmoved.securityAfter_eq]
    exact unlocked
  · rw [step_session, unmoved.sessionAfter_eq]
    exact session
  · rw [step_gateway]
    refine Loop.step_lastActivityMs bus.gateway _ ?_ (fun _ => session) (fun _ lockedShadow => ?_)
    · rcases sid with sid | sid <;> rw [sid] <;> decide
    · exact absurd (lockedShadow.symm.trans unlocked) (by decide)
  · rw [step_ecu_allowed bus req allowed]
    exact locked
  · rw [step_ecu_allowed bus req allowed]
    exact (bus.ecu.recv_unauthorizedResets fun _ _ => synced.unlocked (unlocked_of_poll unlocked)).trans
      synced.authorized

/-- Runs of requests both sides read alike never reset the ECU without
authority, and the condition is the exact one: after such a run, a further
request meets it unless the two requests of the exploit then succeed. -/
theorem unauthorized_resets_zero (requests : List Request)
    (alike : ∀ e ∈ trace step init requests, ReadsAlike e.before e.action) :
    (final step init requests).ecu.unauthorizedResets = 0 ∧
      ∀ req, ReadsAlike (final step init requests) req ↔
        (final step init (requests ++ req :: exploit req.nowMs)).ecu.unauthorizedResets = 0 := by
  have synced := run_synced requests alike
  refine ⟨synced.authorized, fun req => ?_⟩
  rw [final_append, final]
  constructor
  · intro alike
    have control : ∀ bus, ReadsAlike bus ⟨[0x10, 0x03], req.nowMs⟩ := fun bus _ locks => by
      rcases locks with ⟨_, _, sub⟩ | ⟨sid, _⟩
      · exact absurd (show subfunction [0x10, 0x03] = Session.default.code from sub) (by decide)
      · exact absurd (show byteAt [0x10, 0x03] 0 = sidEcuReset from sid) (by decide)
    have reset : ∀ bus, ReadsAlike bus ⟨[0x11, 0x01], req.nowMs⟩ := fun bus _ _ =>
      .inr (show IsReset [0x11, 0x01] by decide)
    simp only [exploit, final]
    exact (((synced.step alike).step (control _)).step (reset _)).authorized
  · intro none
    by_contra differs
    rw [(synced.diverges differs).exploited] at none
    exact absurd none (by decide)

def legitimate : List Request :=
  [⟨[0x10, 0x03], 0⟩, ⟨[0x27, 0x01], 2⟩, ⟨[0x27, 0x02] ++ writeWord (demoKeyFromSeed (Ecu.seedOf 1)), 4⟩,
    ⟨[0x11, 0x01], 6⟩]

theorem legitimate_authorized : (final step init legitimate).ecu.unauthorizedResets = 0 :=
  (unauthorized_resets_zero legitimate (by decide)).1

def overlong : List Request :=
  legitimate.take 3 ++ ⟨[0x10, 0x01, 0x00], 6⟩ :: exploit 6

/-- The ECU locks on the three bytes and the shadow does not. -/
theorem overlong_resets : overlong.Pairwise (fun first second => first.nowMs ≤ second.nowMs) ∧
    (final step init overlong).ecu.unauthorizedResets = 1 := by
  decide

end DiagnosticGateway.Bench
