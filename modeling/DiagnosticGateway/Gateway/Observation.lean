import DiagnosticGateway.Library.Traces
import DiagnosticGateway.Gateway.Admission

/-! Runs of the gateway's two operations, against any requests and any
responses: which keys are forwarded, and which seed a key is checked against.

The shadow draws a seed of its own on every `27 01` and keeps it until a
response is observed, and a `27 02` it refuses as out of sequence or malformed
is forwarded. Each law below therefore comes with the exact condition on the
requests under which the gateway meets it.
-/

set_option autoImplicit false

namespace DiagnosticGateway.Gateway
open BigEndian Uds Traces

inductive Action where
  | admitEx (request : Bytes) (nowMs : UInt32) (respCapacity : Nat)
  | observe (response : Bytes)
  deriving DecidableEq, Repr

def step (gw : Gateway) : Action → Gateway × Option Verdict
  | .admitEx request nowMs respCapacity =>
    let decision := gw.admitEx request nowMs respCapacity
    (decision.gateway, some decision.verdict)
  | .observe response => (gw.observeResponse response, none)

abbrev Step : Type := Event Gateway Action (Option Verdict)

/-- The shadow accepts the key of a forwarded `27 02`: it was the key of the
pending seed, and it unlocked the shadow. -/
def VerifiesKey (e : Step) : Prop :=
  ∀ request nowMs respCapacity, e.action = .admitEx request nowMs respCapacity → e.output = some .allow →
    IsSendKey request →
      (poll e.before.shadow nowMs).seedPending = true ∧ IsKey request ∧
        keyOf request = demoKeyFromSeed (poll e.before.shadow nowMs).currentSeed ∧
        e.after.shadow.securityLevel = .level1

/-- A `27 02` comes in sequence: the shadow refuses SecurityAccess as a whole,
or the request has its six bytes and a seed is pending. -/
def InSequence (e : Step) : Prop :=
  ∀ request nowMs respCapacity, e.action = .admitEx request nowMs respCapacity → maxResponseSize ≤ respCapacity →
    IsSendKey request →
      (poll e.before.shadow nowMs).session = .default ∨ (poll e.before.shadow nowMs).lockedOut = true ∨
        (request.length = 6 ∧ (poll e.before.shadow nowMs).seedPending = true)

section
variable {c : Context} {request : Bytes}

theorem not_blocked_outOfSequence (key : IsSendKey request) (session : c.session ≠ .default)
    (free : c.lockedOut ≠ true) (outside : ¬ (request.length = 6 ∧ c.seedPending = true)) : ¬ Blocked c request :=
  not_blocked_of_free key.2.1 session (Bool.eq_false_iff.mpr free)
    (fun refuses => outside ⟨refuses.1.1, refuses.2.2.2.1⟩)

theorem acceptsKey_of_not_blocked (key : IsSendKey request) (allowed : ¬ Blocked c request)
    (sequence : c.session = .default ∨ c.lockedOut = true ∨ (request.length = 6 ∧ c.seedPending = true)) :
    AcceptsKey c request := by
  have session : c.session ≠ .default := fun default => allowed (.inl ⟨.inl key.2.1, default⟩)
  rw [blocked_access_iff key.2.1 session] at allowed
  have free : c.lockedOut ≠ true := fun delayed => allowed (.inl ⟨key.1, delayed⟩)
  rcases sequence with default | delayed | ⟨length, pending⟩
  · exact absurd default session
  · exact absurd delayed free
  · have isKey : IsKey request := ⟨length, key.2⟩
    have free : c.lockedOut = false := Bool.eq_false_iff.mpr free
    refine ⟨isKey, session, free, pending, ?_⟩
    by_contra wrong
    exact allowed (.inr ⟨isKey, session, free, pending, wrong⟩)

end

theorem verifiesKey_iff (gw : Gateway) (action : Action) :
    VerifiesKey (event step gw action) ↔ InSequence (event step gw action) := by
  constructor
  · rintro verifies request nowMs respCapacity rfl room key
    by_contra outside
    obtain ⟨session, free, outside⟩ := by simpa only [not_or] using outside
    have allowed := (admitEx_allow_iff gw request nowMs room).mpr (not_blocked_outOfSequence key session free outside)
    obtain ⟨pending, isKey, _⟩ := verifies request nowMs respCapacity rfl (congrArg some allowed) key
    exact outside ⟨isKey.1, pending⟩
  · rintro sequence request nowMs respCapacity rfl allowed key
    have allowed : (gw.admitEx request nowMs respCapacity).verdict = .allow := Option.some.inj allowed
    have room : maxResponseSize ≤ respCapacity := by
      by_contra short
      rw [admitEx_noRoom gw request nowMs (Nat.not_le.mp short)] at allowed
      cases allowed
    have accepts := acceptsKey_of_not_blocked key ((admitEx_allow_iff gw request nowMs room).mp allowed)
      (sequence request nowMs respCapacity rfl room key)
    refine ⟨accepts.2.2.2.1, accepts.1, accepts.2.2.2.2, ?_⟩
    exact (admitEx_securityLevel gw request nowMs room).trans (securityAfter_of_key accepts)

/-- A run forwards no key the shadow did not accept, exactly when every `27 02`
in it comes in sequence. -/
theorem forwarded_keys_verified_iff (actions : List Action) :
    (∀ e ∈ trace step init actions, VerifiesKey e) ↔ ∀ e ∈ trace step init actions, InSequence e :=
  forall_trace_congr step verifiesKey_iff init actions

/-- In the extended session a `27 02` without a seed is forwarded. -/
theorem unverified_key_forwarded : ¬ ∀ actions, ∀ e ∈ trace step init actions, VerifiesKey e := by
  intro verified
  have unlocked := verified [.admitEx [0x10, 0x03] 0 512, .admitEx [0x27, 0x02, 0x00, 0x00, 0x00, 0x00] 1 512]
    (event step (final step init [.admitEx [0x10, 0x03] 0 512]) (.admitEx [0x27, 0x02, 0x00, 0x00, 0x00, 0x00] 1 512))
    (List.mem_cons_of_mem _ (List.mem_cons_self ..)) _ _ _ rfl (by decide) (by decide)
  exact absurd unlocked.2.2.2 (by decide)

/-! ## The seed a key is checked against -/

def KeepsSeed (e : Step) : Prop :=
  ∀ request nowMs respCapacity, e.action = .admitEx request nowMs respCapacity → e.output = some .allow →
    ¬ AsksSeed request

def ObservesSeed (seed : UInt32) (e : Step) : Prop :=
  ∃ response, e.action = .observe response ∧ CarriesSeed seed response

/-- A `67 01` with this seed was observed after the last admitted `27 01`. -/
def Observed (seed : UInt32) (past : List Step) : Prop :=
  Since KeepsSeed (fun _ e => ObservesSeed seed e) past

/-- A request that unlocks the shadow carries the key of a seed the ECU issued. -/
def UsesObservedSeed (past : List Step) (e : Step) : Prop :=
  ∀ request nowMs respCapacity, e.action = .admitEx request nowMs respCapacity →
    e.before.shadow.securityLevel = .locked → e.after.shadow.securityLevel = .level1 →
      ∃ seed, Observed seed past ∧ keyOf request = demoKeyFromSeed seed

/-- When the locked shadow gets a key it accepts, the ECU's seed has been observed:
one that is not zero, or else the very seed the shadow holds. -/
def SeedWasObserved (past : List Step) (e : Step) : Prop :=
  ∀ request nowMs respCapacity, e.action = .admitEx request nowMs respCapacity → maxResponseSize ≤ respCapacity →
    e.before.shadow.securityLevel = .locked → AcceptsKey (poll e.before.shadow nowMs) request →
      ∃ seed, Observed seed past ∧ (seed ≠ 0 ∨ seed = e.before.shadow.currentSeed)

/-- The invariant: from the first nonzero seed observed until the next `27 01`,
the seed the shadow holds is an observed one. -/
def Aligned (past : List Step) (gw : Gateway) : Prop :=
  ∀ seed, seed ≠ 0 → Observed seed past → Observed gw.shadow.currentSeed past

theorem admitEx_currentSeed (gw : Gateway) {request : Bytes} {nowMs : UInt32} {respCapacity : Nat}
    (keeps : KeepsSeed (event step gw (.admitEx request nowMs respCapacity))) :
    (gw.admitEx request nowMs respCapacity).gateway.shadow.currentSeed = gw.shadow.currentSeed := by
  by_cases room : maxResponseSize ≤ respCapacity
  · rw [admitEx_shadow gw request nowMs room]
    have handled := handleRequest_handled shadowApplication gw.shadow () request nowMs respCapacity
    rcases handled.currentSeed_cases with same | ⟨seed, session, free, _⟩
    · exact same.trans poll_currentSeed
    · have allowed : ¬ Blocked (poll gw.shadow nowMs) request :=
        not_blocked_of_free seed.2.1 session free (fun refuses => not_isKey_of_seed seed refuses.1)
      exact absurd seed.asksSeed
        (keeps _ _ _ rfl (congrArg some ((admitEx_allow_iff gw request nowMs room).mpr allowed)))
  · rw [admitEx_noRoom gw request nowMs (Nat.not_le.mp room)]

theorem Aligned.step (past : List Step) (gw : Gateway) (action : Action) (aligned : Aligned past gw) :
    Aligned (past ++ [event step gw action]) (step gw action).1 := by
  intro seed nonzero observed
  rcases (since_concat _ _ _ _).mp observed with ⟨response, same, carries⟩ | ⟨keeps, earlier⟩
  · -- The seed is observed now: the shadow takes it over.
    change action = .observe response at same
    subst same
    change Observed (gw.observeResponse response).shadow.currentSeed _
    rw [observe_adopts carries nonzero]
    exact .now ⟨response, rfl, carries⟩
  · cases action with
    | admitEx request nowMs respCapacity =>
      change Observed (gw.admitEx request nowMs respCapacity).gateway.shadow.currentSeed _
      rw [admitEx_currentSeed gw keeps]
      exact (aligned seed nonzero earlier).step keeps
    | observe response =>
      change Observed (gw.observeResponse response).shadow.currentSeed _
      rw [observeResponse_shadow]
      split
      next carried => exact .now ⟨response, rfl, carried.1⟩
      next => exact (aligned seed nonzero earlier).step keeps

theorem acceptsKey_of_unlocks {gw : Gateway} {request : Bytes} {nowMs : UInt32} {respCapacity : Nat}
    (locked : gw.shadow.securityLevel = .locked)
    (unlocks : (gw.admitEx request nowMs respCapacity).gateway.shadow.securityLevel = .level1) :
    maxResponseSize ≤ respCapacity ∧ AcceptsKey (poll gw.shadow nowMs) request := by
  by_cases room : maxResponseSize ≤ respCapacity
  · refine ⟨room, ?_⟩
    rw [admitEx_securityLevel gw request nowMs room] at unlocks
    rcases securityAfter_cases unlocks with before | ⟨_, accepts⟩
    · exact absurd (locked.symm.trans (unlocked_of_poll before)) (by decide)
    · exact accepts
  · rw [admitEx_noRoom gw request nowMs (Nat.not_le.mp room)] at unlocks
    exact absurd (locked.symm.trans unlocks) (by decide)

theorem usesObservedSeed_iff (past : List Step) (gw : Gateway) (action : Action) (aligned : Aligned past gw) :
    UsesObservedSeed past (event step gw action) ↔ SeedWasObserved past (event step gw action) := by
  constructor
  · -- The seed the key answers is the shadow's own, since the key function is injective.
    rintro uses request nowMs respCapacity rfl room locked accepts
    obtain ⟨seed, observed, key⟩ := uses request nowMs respCapacity rfl locked
      ((admitEx_securityLevel gw request nowMs room).trans (securityAfter_of_key accepts))
    refine ⟨seed, observed, .inr (demoKeyFromSeed_injective ?_)⟩
    have right := accepts.2.2.2.2
    rw [poll_currentSeed] at right
    exact key.symm.trans right
  · rintro wasObserved request nowMs respCapacity rfl locked unlocks
    obtain ⟨room, accepts⟩ := acceptsKey_of_unlocks locked unlocks
    have right := accepts.2.2.2.2
    rw [poll_currentSeed] at right
    refine ⟨gw.shadow.currentSeed, ?_, right⟩
    obtain ⟨seed, observed, nonzero | same⟩ := wasObserved request nowMs respCapacity rfl room locked accepts
    · exact aligned seed nonzero observed
    · exact same ▸ observed

/-- Every key that unlocks the shadow in a run answers a seed the ECU issued,
exactly when a seed was observed before each key the locked shadow accepts. -/
theorem observed_seed_used_iff (actions : List Action) :
    AllEvents UsesObservedSeed (trace step init actions) ↔ AllEvents SeedWasObserved (trace step init actions) :=
  allEvents_iff step Aligned (fun _ _ observed => absurd observed (not_since_nil _ _))
    (fun past gw action aligned _ => aligned.step past gw action) usesObservedSeed_iff actions

/-- With no response observed at all, the shadow is unlocked with the key of its own seed. -/
theorem own_seed_unlocks : ¬ ∀ actions, AllEvents UsesObservedSeed (trace step init actions) := by
  intro all
  let asked : List Action := [.admitEx [0x10, 0x03] 0 512, .admitEx [0x27, 0x01] 1 512]
  let key : Action := .admitEx [0x27, 0x02, 0xE0, 0xAF, 0xB1, 0xB3] 2 512
  have used := all (asked ++ [key]) (trace step init asked) (event step (final step init asked) key) []
    (trace_concat step init asked key)
  obtain ⟨seed, ⟨before, e, after, same, ⟨response, observed, _⟩, _⟩, _⟩ :=
    used _ _ _ rfl (by decide) (by decide)
  -- Both events of the past are admissions.
  have member : e ∈ trace step init asked := by simp [same]
  simp only [asked, trace, List.mem_cons, List.not_mem_nil, or_false] at member
  rcases member with rfl | rfl <;> cases observed

end DiagnosticGateway.Gateway
