import DiagnosticGateway.Gateway.PermissiveEcu

/-! The benchmark of the three systems (`bench_core.h`): the permissive ECU alone, behind
a filter without state, and behind the gateway.

The filter knows the services and nothing else, and so it changes nothing; what the
gateway stops is what the benchmark counts.
-/

set_option autoImplicit false

namespace DiagnosticGateway.Bench
open BigEndian Uds Traces

def benchRng (s : UInt32) : UInt32 :=
  let s := s ^^^ (s <<< 13)
  let s := s ^^^ (s >>> 17)
  s ^^^ (s <<< 5)

inductive Act where
  | sessionExt
  | sessionDef
  | seed
  | keyCorrect
  | keyWrong
  | reset
  | read
  | present
  | garbage
  deriving DecidableEq, Repr

def Act.all : List Act :=
  [.sessionExt, .sessionDef, .seed, .keyCorrect, .keyWrong, .reset, .read, .present, .garbage]

abbrev actCount : UInt32 := 9

def Act.draw (value : UInt32) : Act := Act.all.getD (value % actCount).toNat .sessionExt

def build (lastSeed : UInt32) : Act → Bytes
  | .sessionExt => [0x10, 0x03]
  | .sessionDef => [0x10, 0x01]
  | .seed => [0x27, 0x01]
  | .keyCorrect => [0x27, 0x02] ++ writeWord (demoKeyFromSeed lastSeed)
  | .keyWrong => [0x27, 0x02, 0xDE, 0xAD, 0xBE, 0xEF]
  | .reset => [0x11, 0x01]
  | .read => [0x22, 0xF1, 0x90]
  | .present => [0x3E, 0x00]
  | .garbage => [0x99, 0x00]

def drawActs : Nat → UInt32 → List Act × UInt32
  | 0, rng => ([], rng)
  | n + 1, rng =>
    let rng := benchRng rng
    let drawn := drawActs n rng
    (Act.draw rng :: drawn.1, drawn.2)

def legit : List Act := [.sessionExt, .seed, .keyCorrect, .reset]

def make (rng : UInt32) : List Act × UInt32 :=
  let rng := benchRng rng
  let pick := rng % 100
  if pick < 40 then ([.sessionExt, .reset], rng)
  else if pick < 60 then (legit, rng)
  else
    let rng := benchRng rng
    drawActs ((rng % 6).toNat + 1) rng

def firewall (req : Bytes) : Bool :=
  if req.length < 1 then false
  else [0x10, 0x11, 0x14, 0x19, 0x22, 0x27, 0x3E].contains (byteAt req 0)

/-- How each system takes a request: its state behind it and the response, empty where
there is none. -/
def serveS0 (ecu : Ecu) (req : Bytes) (_nowMs : UInt32) : Ecu × Bytes := ecu.recv req

def serveS1 (ecu : Ecu) (req : Bytes) (_nowMs : UInt32) : Ecu × Bytes :=
  if firewall req then ecu.recv req else (ecu, [])

def serveS2 (bus : Bus) (req : Bytes) (nowMs : UInt32) : Bus × Bytes :=
  let decision := bus.gateway.gwAdmit req nowMs
  match decision.verdict with
  | .allow =>
    let received := bus.ecu.recv req
    (⟨decision.gateway.observeResponse received.2, received.1⟩, received.2)
  | .drop => (⟨decision.gateway, bus.ecu⟩, [])

def noteSeed (lastSeed : UInt32) (resp : Bytes) : UInt32 :=
  if resp.length ≥ 6 ∧ byteAt resp 0 = 0x67 ∧ byteAt resp 1 = 0x01 then readWord resp 2 else lastSeed

section
variable {S : Type} (serve : S → Bytes → UInt32 → S × Bytes)

def replayFrom (state : S) (lastSeed nowMs : UInt32) : List Act → S
  | [] => state
  | act :: rest =>
    let served := serve state (build lastSeed act) nowMs
    replayFrom served.1 (noteSeed lastSeed served.2) (nowMs + 2) rest

def replay (state : S) (nowMs : UInt32) (scenario : List Act) : S := replayFrom serve state 0 nowMs scenario

def availLegit (ecuOf : S → Ecu) (state : S) (nowMs : UInt32) : UInt64 :=
  let before := (ecuOf state).resets - (ecuOf state).unauthorizedResets
  let after := ecuOf (replay serve state nowMs legit)
  if after.resets - after.unauthorizedResets > before then 1 else 0

end

structure Results where
  scenarios : UInt64
  s0Unauth : UInt64
  s1Unauth : UInt64
  s2Unauth : UInt64
  availTotal : UInt64
  s0Avail : UInt64
  s2Avail : UInt64
  gwSeen : UInt32
  gwAllowed : UInt32
  gwDropped : UInt32

/-- The three systems side by side. -/
structure Systems where
  e0 : Ecu
  e1 : Ecu
  s2 : Bus

def playAll : Nat → Systems → UInt32 → UInt32 → Systems
  | 0, systems, _, _ => systems
  | n + 1, systems, rng, nowMs =>
    let sc := make rng
    let systems : Systems := {
      e0 := replay serveS0 systems.e0 nowMs sc.1
      e1 := replay serveS1 systems.e1 nowMs sc.1
      s2 := replay serveS2 systems.s2 nowMs sc.1 }
    playAll n systems sc.2 (nowMs + 10)

def availAll : Nat → UInt64 × UInt64 → UInt64 × UInt64
  | 0, avail => avail
  | n + 1, avail =>
    availAll n (avail.1 + availLegit serveS0 id Ecu.init 1000, avail.2 + availLegit serveS2 Bus.ecu init 1000)

def benchRun (scenarios : UInt64) (seed : UInt32) (availCount : UInt64) : Results :=
  let systems := playAll scenarios.toNat ⟨Ecu.init, Ecu.init, init⟩ (if seed ≠ 0 then seed else 1) 1000
  let avail := availAll availCount.toNat (0, 0)
  { scenarios
    s0Unauth := systems.e0.unauthorizedResets
    s1Unauth := systems.e1.unauthorizedResets
    s2Unauth := systems.s2.ecu.unauthorizedResets
    availTotal := availCount
    s0Avail := avail.1
    s2Avail := avail.2
    gwSeen := systems.s2.gateway.statSeen
    gwAllowed := systems.s2.gateway.statAllowed
    gwDropped := systems.s2.gateway.statDropped }

theorem noteSeed_short (lastSeed : UInt32) {resp : Bytes} (short : resp.length < 6) : noteSeed lastSeed resp = lastSeed :=
  if_neg fun shape => Nat.not_le.mpr short shape.1

theorem firewall_build (lastSeed : UInt32) {act : Act} (known : act ≠ .garbage) :
    firewall (build lastSeed act) = true := by
  cases act with
  | garbage => exact absurd rfl known
  | sessionExt | sessionDef | seed | keyCorrect | keyWrong | reset | read | present => rfl

/-- The service the filter does not know is one the ECU does not know either. -/
theorem serveS1_kept (ecu : Ecu) (lastSeed : UInt32) (act : Act) (nowMs : UInt32) :
    (serveS1 ecu (build lastSeed act) nowMs).1 = (serveS0 ecu (build lastSeed act) nowMs).1 ∧
      noteSeed lastSeed (serveS1 ecu (build lastSeed act) nowMs).2 =
        noteSeed lastSeed (serveS0 ecu (build lastSeed act) nowMs).2 := by
  by_cases known : act = .garbage
  · have refused : ecu.recv [0x99, 0x00] = (ecu, [0x7F, 0x99, 0x11]) := rfl
    have filtered : firewall [0x99, 0x00] = false := rfl
    rw [known, build, serveS1, filtered, if_neg Bool.false_ne_true, serveS0, refused]
    have silent : noteSeed lastSeed [] = lastSeed := noteSeed_short lastSeed (by decide)
    have negative : noteSeed lastSeed [0x7F, 0x99, 0x11] = lastSeed := noteSeed_short lastSeed (by decide)
    exact ⟨rfl, silent.trans negative.symm⟩
  · rw [serveS1, firewall_build lastSeed known, if_pos rfl, serveS0]
    exact ⟨rfl, rfl⟩

theorem replay_firewall (acts : List Act) (ecu : Ecu) (lastSeed nowMs : UInt32) :
    replayFrom serveS1 ecu lastSeed nowMs acts = replayFrom serveS0 ecu lastSeed nowMs acts := by
  induction acts generalizing ecu lastSeed nowMs with
  | nil => rfl
  | cons act rest ih =>
    obtain ⟨state, seed⟩ := serveS1_kept ecu lastSeed act nowMs
    rw [replayFrom, replayFrom, state, seed]
    exact ih ..

/-! ## The gateway stops every reset without authority -/

theorem serveS2_step (bus : Bus) (req : Bytes) (nowMs : UInt32) :
    (serveS2 bus req nowMs).1 = (step bus ⟨req, nowMs⟩).1 := by
  unfold serveS2 step
  dsimp only
  cases (bus.gateway.gwAdmit req nowMs).verdict <;> rfl

/-- What holds of the gateway and the ECU behind it at any time. -/
structure Guarded (bus : Bus) : Prop where
  synced : Synced bus
  counted : bus.gateway.statSeen = bus.gateway.statAllowed + bus.gateway.statDropped

theorem guarded_init : Guarded init := ⟨synced_init, rfl⟩

theorem build_sid (lastSeed : UInt32) (act : Act) : byteAt (build lastSeed act) 0 = byteAt (build 0 act) 0 := by
  have sid : ∀ key, byteAt ([0x27, 0x02] ++ writeWord key) 0 = 0x27 := fun _ => rfl
  cases act with
  | keyCorrect => rw [build, build, sid, sid]
  | sessionExt | sessionDef | seed | keyWrong | reset | read | present | garbage => rfl

theorem build_readsAlike (bus : Bus) (lastSeed nowMs : UInt32) (act : Act) :
    ReadsAlike bus ⟨build lastSeed act, nowMs⟩ := by
  rintro - (⟨sid, -, sub⟩ | ⟨sid, -⟩)
  · rw [build_sid] at sid
    cases act with
    | sessionDef => exact .inl (show IsSessionRequest .default [0x10, 0x01] by decide)
    | sessionExt => exact absurd (show subfunction [0x10, 0x03] = Session.default.code from sub) (by decide)
    | seed | keyCorrect | keyWrong | reset | read | present | garbage => exact absurd sid (by decide)
  · rw [build_sid] at sid
    cases act with
    | reset => exact .inr (show IsReset [0x11, 0x01] by decide)
    | sessionExt | sessionDef | seed | keyCorrect | keyWrong | read | present | garbage =>
      exact absurd sid (by decide)

theorem admit_counted {gw : Gateway} (counted : gw.statSeen = gw.statAllowed + gw.statDropped) (req : Bytes)
    (nowMs : UInt32) : (gw.gwAdmit req nowMs).gateway.statSeen =
      (gw.gwAdmit req nowMs).gateway.statAllowed + (gw.gwAdmit req nowMs).gateway.statDropped := by
  unfold Gateway.gwAdmit Gateway.admitEx
  rw [if_neg (Nat.lt_irrefl _)]
  dsimp only
  split
  · change gw.statSeen + 1 = gw.statAllowed + (gw.statDropped + 1)
    rw [counted, UInt32.add_assoc]
  · change gw.statSeen + 1 = gw.statAllowed + 1 + gw.statDropped
    rw [counted, UInt32.add_assoc, UInt32.add_assoc, UInt32.add_comm 1]

theorem observe_counters (gw : Gateway) (response : Bytes) :
    (gw.observeResponse response).statSeen = gw.statSeen ∧ (gw.observeResponse response).statAllowed = gw.statAllowed ∧
      (gw.observeResponse response).statDropped = gw.statDropped := by
  unfold Gateway.observeResponse
  split
  · dsimp only
    split <;> exact ⟨rfl, rfl, rfl⟩
  · exact ⟨rfl, rfl, rfl⟩

theorem Guarded.serve {bus : Bus} (guarded : Guarded bus) (lastSeed nowMs : UInt32) (act : Act) :
    Guarded (serveS2 bus (build lastSeed act) nowMs).1 where
  synced := by
    rw [serveS2_step]
    exact guarded.synced.step (build_readsAlike bus lastSeed nowMs act)
  counted := by
    have admitted := admit_counted guarded.counted (build lastSeed act) nowMs
    unfold serveS2
    dsimp only
    cases (bus.gateway.gwAdmit (build lastSeed act) nowMs).verdict with
    | drop => exact admitted
    | allow =>
      obtain ⟨seen, allowed, dropped⟩ := observe_counters (bus.gateway.gwAdmit (build lastSeed act) nowMs).gateway
        (bus.ecu.recv (build lastSeed act)).2
      change (Gateway.observeResponse _ _).statSeen = _
      rw [seen, admitted, allowed, dropped]

theorem Guarded.replay {bus : Bus} (guarded : Guarded bus) (lastSeed nowMs : UInt32) (acts : List Act) :
    Guarded (replayFrom serveS2 bus lastSeed nowMs acts) := by
  induction acts generalizing bus lastSeed nowMs with
  | nil => exact guarded
  | cons act rest ih => exact ih (guarded.serve lastSeed nowMs act) ..

theorem playAll_keeps (n : Nat) {systems : Systems} (alike : systems.e1 = systems.e0) (guarded : Guarded systems.s2)
    (rng nowMs : UInt32) :
    (playAll n systems rng nowMs).e1 = (playAll n systems rng nowMs).e0 ∧ Guarded (playAll n systems rng nowMs).s2 := by
  induction n generalizing systems rng nowMs with
  | zero => exact ⟨alike, guarded⟩
  | succ n ih =>
    refine ih ?_ (guarded.replay ..) ..
    change replay serveS1 systems.e1 _ _ = replay serveS0 systems.e0 _ _
    rw [alike]
    exact replay_firewall ..

theorem availLegit_both : availLegit serveS0 id Ecu.init 1000 = 1 ∧ availLegit serveS2 Bus.ecu init 1000 = 1 := by
  decide

theorem availAll_counts (n : Nat) (avail : UInt64 × UInt64) :
    availAll n avail = (avail.1 + n.toUInt64, avail.2 + n.toUInt64) := by
  induction n generalizing avail with
  | zero => exact Prod.ext (UInt64.add_zero _).symm (UInt64.add_zero _).symm
  | succ n ih =>
    have next : (n + 1).toUInt64 = 1 + n.toUInt64 := by
      rw [Nat.add_comm]
      exact UInt64.ofNat_add ..
    rw [availAll, ih, availLegit_both.1, availLegit_both.2, next, UInt64.add_assoc, UInt64.add_assoc]

/-- Whatever the seed and the number of scenarios, the gateway lets no reset without
authority through and accounts for all it has seen, the filter lets through every one
that the ECU alone would perform, and no legitimate flow is stopped. -/
theorem benchRun_results (scenarios : UInt64) (seed : UInt32) (availCount : UInt64) :
    (benchRun scenarios seed availCount).s2Unauth = 0 ∧
      (benchRun scenarios seed availCount).s1Unauth = (benchRun scenarios seed availCount).s0Unauth ∧
      (benchRun scenarios seed availCount).gwSeen =
        (benchRun scenarios seed availCount).gwAllowed + (benchRun scenarios seed availCount).gwDropped ∧
      (benchRun scenarios seed availCount).s0Avail = (benchRun scenarios seed availCount).availTotal ∧
      (benchRun scenarios seed availCount).s2Avail = (benchRun scenarios seed availCount).availTotal := by
  obtain ⟨alike, guarded⟩ := @playAll_keeps scenarios.toNat ⟨Ecu.init, Ecu.init, init⟩ rfl guarded_init
    (if seed ≠ 0 then seed else 1) 1000
  have avail : availAll availCount.toNat (0, 0) = (availCount, availCount) := by
    have count : availCount.toNat.toUInt64 = availCount := UInt64.ofNat_toNat
    rw [availAll_counts, count, UInt64.zero_add]
  refine ⟨guarded.synced.authorized, congrArg Ecu.unauthorizedResets alike, guarded.counted, ?_, ?_⟩
  · exact congrArg Prod.fst avail
  · exact congrArg Prod.snd avail

end DiagnosticGateway.Bench
