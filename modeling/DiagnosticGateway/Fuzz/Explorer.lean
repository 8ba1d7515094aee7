import DiagnosticGateway.Fuzz.Minimizer
import DiagnosticGateway.Uds.Server

/-! The adversary of the state space (`ahdg_explore_core.h`), and what it hands to its
minimiser.

A sequence is cut where it first violates something, and a replay stops there with
the same verdict. So every sequence found is one the minimiser can start from.
-/

set_option autoImplicit false

namespace DiagnosticGateway.Fuzz
open BigEndian Uds

def ahdgDidRead (did : UInt16) (cap : Nat) (user : Unit) : Result × Bytes × Unit :=
  if cap < 2 then (.errBufferTooSmall, [], user) else (.ok, [(did >>> 8).toUInt8, did.toUInt8], user)

def ahdgDtcRead (_mask : UInt8) (_cap : Nat) (user : Unit) : Result × Bytes × Unit := (.ok, [], user)

def ahdgDtcClear (group : UInt32) (user : Unit) : Result × Unit :=
  (if group = 0xFFFFFF then .ok else .errDidNotFound, user)

def ahdgEcuReset (_type : UInt8) (user : Unit) : Result × Unit := (.ok, user)

def application : Application Unit where
  didRead := some ahdgDidRead
  dtcRead := some ahdgDtcRead
  dtcClear := some ahdgDtcClear
  ecuReset := some ahdgEcuReset

inductive Action where
  | sessionDefault
  | sessionExtended
  | sessionProgramming
  | readDid
  | testerPresent
  | seedRequest
  | keyCorrect
  | keyWrong
  | keyReplay
  | ecuReset
  | clearDtc
  | clockPastS3
  | clockSmall
  | clockPastLockout
  deriving DecidableEq, Repr

structure Attacker where
  clock : UInt32
  lastKey : Bytes
  haveLastKey : Bool
  deriving DecidableEq, Repr

structure Target where
  ctx : Context
  attacker : Attacker
  deriving DecidableEq, Repr

def ahdgResetCtx : Target := ⟨Uds.init, ⟨1000, [0, 0, 0, 0], false⟩⟩

namespace Target

variable (target : Target)

def request (bytes : Bytes) : Target × Bytes :=
  let outcome := handleRequest application target.ctx () bytes target.attacker.clock 64
  ({ target with ctx := outcome.ctx }, outcome.response)

def sendKey (key : Bytes) : Target × Bytes :=
  { target with attacker := { target.attacker with lastKey := key, haveLastKey := true } }.request ([0x27, 0x02] ++ key)

def advance (ms : UInt32) : Target × Bytes :=
  let clock := target.attacker.clock + ms
  (⟨poll target.ctx clock, { target.attacker with clock }⟩, [])

end Target

/-- The server after an action, and the response; it is empty when the clock moves. -/
def ahdgApply (target : Target) (action : Action) : Target × Bytes :=
  match action with
  | .sessionDefault => target.request [0x10, 0x01]
  | .sessionExtended => target.request [0x10, 0x03]
  | .sessionProgramming => target.request [0x10, 0x02]
  | .readDid => target.request [0x22, 0xF1, 0x90]
  | .testerPresent => target.request [0x3E, 0x00]
  | .seedRequest => target.request [0x27, 0x01]
  | .keyCorrect => target.sendKey (writeWord (demoKeyFromSeed target.ctx.currentSeed))
  | .keyWrong => target.sendKey [0xDE, 0xAD, 0xBE, 0xEF]
  | .keyReplay =>
    target.request ([0x27, 0x02] ++ if target.attacker.haveLastKey then target.attacker.lastKey else [0, 0, 0, 0])
  | .ecuReset => target.request [0x11, 0x01]
  | .clearDtc => target.request [0x14, 0xFF, 0xFF, 0xFF]
  | .clockPastS3 => target.advance (s3ServerTimeoutMs + 10)
  | .clockSmall => target.advance 5
  | .clockPastLockout => target.advance (securityLockoutMs + 10)

/-! ## The verdict on a step -/

structure Snapshot where
  session : Session
  securityLevel : SecurityLevel
  seedPending : Bool
  failedAttempts : UInt8
  lockedOut : Bool
  deriving DecidableEq, Repr

def ahdgSnapshot (ctx : Context) : Snapshot :=
  ⟨ctx.session, ctx.securityLevel, ctx.seedPending, ctx.failedAttempts, ctx.lockedOut⟩

-- The identifiers of `invariants.h` that a step can violate.
abbrev secNoUnauthEffect : Int := 0
abbrev secSeedKeyBinding : Int := 1
abbrev secRelockOnReset : Int := 2
abbrev secRelockOnDefault : Int := 3
abbrev secMonotonicAttempts : Int := 4
abbrev xlNoAuthorityCarryover : Int := 6

def ahdgCheck (pre : Snapshot) (post : Context) (action : Action) (resp : Bytes) : Int :=
  let positiveReset := decide (resp.length ≥ 1 ∧ byteAt resp 0 = 0x51)
  let positiveKey := decide (resp.length ≥ 2 ∧ byteAt resp 0 = 0x67 ∧ byteAt resp 1 = 0x02)
  if positiveReset ∧ pre.securityLevel = .locked then secNoUnauthEffect
  else if positiveKey ∧ pre.seedPending = false then secSeedKeyBinding
  else if positiveReset ∧ post.securityLevel ≠ .locked then secRelockOnReset
  else if positiveReset ∧ post.seedPending = true then xlNoAuthorityCarryover
  else if post.session = .default ∧ post.securityLevel ≠ .locked then secRelockOnDefault
  else if post.failedAttempts < pre.failedAttempts ∧ positiveKey = false ∧ action ≠ .clockPastLockout ∧
      ¬ (pre.lockedOut = true ∧ post.lockedOut = false) then secMonotonicAttempts
  else -1

def verdict (target : Target) (action : Action) : Int :=
  let (after, resp) := ahdgApply target action
  ahdgCheck (ahdgSnapshot target.ctx) after.ctx action resp

def replayFrom (target : Target) : List Action → Int
  | [] => -1
  | action :: rest =>
    if verdict target action ≥ 0 then verdict target action else replayFrom (ahdgApply target action).1 rest

def ahdgReplay (seq : List Action) : Int := replayFrom ahdgResetCtx seq

/-- One sequence of `ahdg_run`, for the actions its generator would draw: the part up
to the first violation, and its verdict. -/
def exploreFrom (target : Target) : List Action → Option (List Action × Int)
  | [] => none
  | action :: rest =>
    if verdict target action ≥ 0 then some ([action], verdict target action)
    else (exploreFrom (ahdgApply target action).1 rest).map fun (seq, found) => (action :: seq, found)

theorem explore_replays {target : Target} {drawn seq : List Action} {found : Int}
    (explored : exploreFrom target drawn = some (seq, found)) :
    seq.length ≤ drawn.length ∧ 0 ≤ found ∧ replayFrom target seq = found := by
  induction drawn generalizing target seq with
  | nil => cases explored
  | cons action rest ih =>
    rw [exploreFrom] at explored
    by_cases violated : verdict target action ≥ 0
    · rw [if_pos violated] at explored
      cases explored
      exact ⟨Nat.le_add_left _ _, violated, if_pos violated⟩
    · rw [if_neg violated] at explored
      obtain ⟨⟨later, value⟩, explored, same⟩ := Option.map_eq_some_iff.mp explored
      cases same
      obtain ⟨fewer, positive, replays⟩ := ih explored
      exact ⟨Nat.succ_le_succ fewer, positive, (if_neg violated).trans replays⟩

/-- What the explorer stores of a violation it finds is a part of what it drew, shows
this violation again, and needs every action. -/
theorem explore_minimal {drawn seq : List Action} {found : Int} (fits : drawn.length ≤ ahdgMaxSeq)
    (explored : exploreFrom ahdgResetCtx drawn = some (seq, found)) :
    ∃ stored, ahdgMinimize ahdgReplay found seq = some stored ∧ stored.Sublist seq ∧ ahdgReplay stored = found ∧
      OneMinimal ahdgReplay found stored := by
  obtain ⟨fewer, -, replays⟩ := explore_replays explored
  obtain ⟨stored, returned⟩ := ahdgMinimize_returns ahdgReplay found (Nat.le_trans fewer fits)
  exact ⟨stored, returned, ahdgMinimize_minimal ahdgReplay found returned replays⟩

end DiagnosticGateway.Fuzz
