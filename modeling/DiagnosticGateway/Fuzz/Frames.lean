import DiagnosticGateway.Ecu.Pipeline
import DiagnosticGateway.Fuzz.Assurance
import DiagnosticGateway.Isotp.Bounds

/-! The adversary at the level of CAN frames (`ahdg_frames.c`).

Its checks are passed by every history of frames, not only by those of its alphabet:
the transport keeps its lengths honest, and every message that comes out of it is one
more request to a server whose steps are all lawful.
-/

set_option autoImplicit false

namespace DiagnosticGateway.Fuzz
open BigEndian Uds
open Ecu (Model Data)
open Isotp (process pollTimeout maxPayloadSize nCrTimeoutMs)

abbrev xlTransportCannotForgeAuthority : Int := 5
abbrev tpLengthHonesty : Int := 9
abbrev availNoWedgedContext : Int := 15

def checkUds (pre : Snapshot) (post : Context) (resp : Bytes) : Int :=
  let positiveReset := decide (resp.length ≥ 1 ∧ byteAt resp 0 = 0x51)
  let positiveKey := decide (resp.length ≥ 2 ∧ byteAt resp 0 = 0x67 ∧ byteAt resp 1 = 0x02)
  if positiveReset ∧ pre.securityLevel = .locked then secNoUnauthEffect
  else if positiveKey ∧ pre.seedPending = false then secSeedKeyBinding
  else if positiveReset ∧ post.securityLevel ≠ .locked then secRelockOnReset
  else if positiveReset ∧ post.seedPending = true then xlNoAuthorityCarryover
  else if post.session = .default ∧ post.securityLevel ≠ .locked then secRelockOnDefault
  else -1

def outcomeOf (resp : Bytes) : UInt32 :=
  if resp.length < 1 then 0
  else if byteAt resp 0 = 0x7F ∧ resp.length ≥ 3 then 0x100 ||| (byteAt resp 2).toUInt32
  else (byteAt resp 0).toUInt32

structure Finding where
  verdict : Int
  outcome : UInt32
  deriving DecidableEq, Repr

def Finding.none : Finding := ⟨-1, 0⟩

def feed (m : Model) (frame : Bytes) : Model × Finding :=
  let clock := m.clock + 1
  let received := process m.rx frame clock
  let rx := received.1
  let rxo := received.2
  if rx.receivedLength > rx.expectedLength then (⟨rx, m.uds, clock⟩, ⟨tpLengthHonesty, 0⟩)
  else if rxo.event = .messageReady then
    if rxo.message.length > maxPayloadSize then (⟨rx, m.uds, clock⟩, ⟨xlTransportCannotForgeAuthority, 0⟩)
    else
      let outcome := handleRequest Ecu.application m.uds.ctx m.uds.user rxo.message clock maxResponseSize
      (⟨rx, ⟨outcome.ctx, outcome.user⟩, clock⟩,
        ⟨checkUds (ahdgSnapshot m.uds.ctx) outcome.ctx outcome.response, outcomeOf outcome.response⟩)
  else (⟨rx, m.uds, clock⟩, .none)

def positive (first : UInt8) (r : Model × Option Reply) : Bool :=
  match r.2 with
  | some reply => decide (reply.response.length ≥ 1 ∧ byteAt reply.response 0 = first)
  | none => false

def goldenOk (m : Model) : Bool :=
  let first := m.feed [0x02, 0x10, 0x03, 0, 0, 0, 0, 0]
  let second := first.1.feed [0x03, 0x22, 0xF1, 0x89, 0, 0, 0, 0]
  positive 0x50 first && positive 0x62 second

/-- What an action amounts to: a frame, or a jump of the clock and the poll behind it. -/
inductive Move where
  | frame (bytes : Bytes)
  | transportTimeout (ms : UInt32)
  | serverPoll (ms : UInt32)
  deriving DecidableEq, Repr

def perform (m : Model) : Move → Model × Finding
  | .frame bytes => feed m bytes
  | .transportTimeout ms =>
    let clock := m.clock + ms
    ({ m with clock, rx := (pollTimeout m.rx clock).1 }, .none)
  | .serverPoll ms =>
    let clock := m.clock + ms
    ({ m with clock, uds := ⟨poll m.uds.ctx clock, m.uds.user⟩ }, .none)

def replayMoves (m : Model) : List Move → Int
  | [] => if goldenOk m = false then availNoWedgedContext else -1
  | move :: rest =>
    if (perform m move).2.verdict ≥ 0 then (perform m move).2.verdict else replayMoves (perform m move).1 rest

inductive Act where
  | sessExt
  | sessDef
  | seed
  | keyOk
  | keyBad
  | reset
  | read
  | present
  | clear
  | ff
  | cfOk
  | cfBad
  | garbage
  | fc
  | ncr
  | tick
  | s3
  | lockout
  | interleave
  deriving DecidableEq, Repr

def garbageFrame (first second : UInt32) : Bytes :=
  (((first % 12 + 4) <<< 4).toUInt8 :: [0, 0, 0, 0, 0, 0, 0]).take ((second % 8).toUInt8 + 1).toNat

/-- What an action does to a model, and the generator behind it. The keys are sent with
a length byte of 5, one short of the six bytes of a `27 02`. -/
def Act.move (m : Model) (rng : UInt32) : Act → Move × UInt32
  | .sessExt => (.frame [0x02, 0x10, 0x03, 0, 0, 0, 0, 0], rng)
  | .sessDef => (.frame [0x02, 0x10, 0x01, 0, 0, 0, 0, 0], rng)
  | .seed => (.frame [0x02, 0x27, 0x01, 0, 0, 0, 0, 0], rng)
  | .keyOk => (.frame ([0x05, 0x27, 0x02] ++ writeWord (demoKeyFromSeed m.uds.ctx.currentSeed) ++ [0]), rng)
  | .keyBad => (.frame [0x05, 0x27, 0x02, 0xDE, 0xAD, 0xBE, 0xEF, 0], rng)
  | .reset => (.frame [0x02, 0x11, 0x01, 0, 0, 0, 0, 0], rng)
  | .read => (.frame [0x03, 0x22, 0xF1, 0x90, 0, 0, 0, 0], rng)
  | .present => (.frame [0x02, 0x3E, 0x00, 0, 0, 0, 0, 0], rng)
  | .clear => (.frame [0x04, 0x14, 0xFF, 0xFF, 0xFF, 0, 0, 0], rng)
  | .ff => (.frame [0x10, 0x14, 0x22, 0xF1, 0x90, 0xAA, 0xBB, 0xCC], rng)
  | .cfOk => (.frame [0x20 ||| (m.rx.nextSequenceNumber &&& 0x0F), 1, 2, 3, 4, 5, 6, 7], rng)
  | .cfBad => (.frame [0x2F, 1, 2, 3, 4, 5, 6, 7], rng)
  | .garbage =>
    let first := ahdgRngNext rng
    let second := ahdgRngNext first
    (.frame (garbageFrame first second), second)
  | .fc => (.frame [0x30, 0, 0, 0, 0, 0, 0, 0], rng)
  | .ncr => (.transportTimeout (nCrTimeoutMs + 10), rng)
  | .tick => (.serverPoll 5, rng)
  | .s3 => (.serverPoll (s3ServerTimeoutMs + 10), rng)
  | .lockout => (.serverPoll (securityLockoutMs + 10), rng)
  | .interleave => (.frame [0x10, 0x0C, 0x22, 0x01, 0x00, 0xDD, 0xEE, 0xFF], rng)

def applyAct (m : Model) (a : Act) (rng : UInt32) : (Model × Finding) × UInt32 :=
  (perform m (a.move m rng).1, (a.move m rng).2)

/-- The alphabet of `ahdg_frames.c` has no `14` and leaves the server's timers alone. -/
inductive FrameAct where
  | sfSessionExt
  | sfSessionDef
  | sfSeed
  | sfKeyCorrect
  | sfKeyWrong
  | sfReset
  | sfRead
  | sfPresent
  | ff20
  | cfGood
  | cfBad
  | garbage
  | unexpectedFc
  | clockNcr
  | interleaveFf
  deriving DecidableEq, Repr

def FrameAct.toAct : FrameAct → Act
  | .sfSessionExt => .sessExt
  | .sfSessionDef => .sessDef
  | .sfSeed => .seed
  | .sfKeyCorrect => .keyOk
  | .sfKeyWrong => .keyBad
  | .sfReset => .reset
  | .sfRead => .read
  | .sfPresent => .present
  | .ff20 => .ff
  | .cfGood => .cfOk
  | .cfBad => .cfBad
  | .garbage => .garbage
  | .unexpectedFc => .fc
  | .clockNcr => .ncr
  | .interleaveFf => .interleave

def applyFrame (m : Model) (a : FrameAct) (rng : UInt32) : (Model × Finding) × UInt32 := applyAct m a.toAct rng

/-- A replay of frames. It draws from the generator of the campaign, which it does not
set back. -/
def replayFrames (m : Model) (rng : UInt32) : List FrameAct → Int × UInt32
  | [] => (if goldenOk m = false then availNoWedgedContext else -1, rng)
  | a :: rest =>
    let applied := applyFrame m a rng
    if applied.1.2.verdict ≥ 0 then (applied.1.2.verdict, applied.2) else replayFrames applied.1.1 applied.2 rest

def FrameAct.all : List FrameAct :=
  [.sfSessionExt, .sfSessionDef, .sfSeed, .sfKeyCorrect, .sfKeyWrong, .sfReset, .sfRead, .sfPresent, .ff20, .cfGood,
    .cfBad, .garbage, .unexpectedFc, .clockNcr, .interleaveFf]

def FrameAct.draw (value : UInt32) : FrameAct := FrameAct.all.getD (value % 15).toNat .sfSessionExt

def frameSteps : Nat → Model → UInt32 → (Model × Int) × UInt32
  | 0, m, rng => ((m, -1), rng)
  | left + 1, m, rng =>
    let rng := ahdgRngNext rng
    let applied := applyFrame m (FrameAct.draw rng) rng
    if applied.1.2.verdict ≥ 0 then ((applied.1.1, applied.1.2.verdict), applied.2)
    else frameSteps left applied.1.1 applied.2

/-- The loop over `n`, up to the first violation; the code then minimises the sequence,
prints it and goes on. -/
def frameSequences (buffer : Vector UInt8 maxPayloadSize) : Nat → UInt32 → Option Int
  | 0, _ => none
  | budget + 1, rng =>
    let rng := ahdgRngNext rng
    let played := frameSteps ((rng % 20).toNat + 1) (.init buffer) rng
    if played.1.2 ≥ 0 then some played.1.2
    else if goldenOk played.1.1 = false then some availNoWedgedContext
    else frameSequences buffer budget played.2

def exploreFrames (buffer : Vector UInt8 maxPayloadSize) (budget : Nat) (seed : UInt32) : Option Int :=
  frameSequences buffer budget (if seed ≠ 0 then seed else 1)

/-! ## Nothing is ever found -/

structure Sane (m : Model) : Prop where
  rx : Isotp.Bounded m.rx
  uds : Reached m.uds.ctx

theorem sane_init (buffer : Vector UInt8 maxPayloadSize) : Sane (.init buffer) :=
  ⟨.idle ⟨rfl, rfl, rfl⟩, reached_init⟩

theorem checkUds_lawful {pre post : Context} {resp : Bytes} (lawful : Lawful pre post resp) :
    checkUds (ahdgSnapshot pre) post resp = -1 := by
  have passes := passes_lawful lawful
  simp only [checkUds, decide_eq_true_eq]
  rw [if_neg passes.authorised, if_neg passes.bound, if_neg passes.relocked, if_neg passes.dropped,
    if_neg passes.defaultLocked]

theorem message_length {ctx : Isotp.RxContext} (bounded : Isotp.Bounded ctx) (frame : Bytes) (nowMs : UInt32) :
    (process ctx frame nowMs).2.message.length ≤ maxPayloadSize := by
  have processed := Isotp.process_processed ctx frame nowMs
  generalize process ctx frame nowMs = outcome at processed ⊢
  cases processed with
  | single _ payload decoded => exact Nat.le_trans (Isotp.decodeSingleFrame_ok decoded).2.2.1 (by decide)
  | completed => exact Nat.le_trans (List.length_take_le _ _) bounded.expected
  | _ => exact Nat.zero_le _

section
variable {m : Model}

theorem feed_model (sane : Sane m) (frame : Bytes) : (feed m frame).1 = (m.feed frame).1 := by
  have honest := (sane.rx.process frame (m.clock + 1)).received
  have short := message_length sane.rx frame (m.clock + 1)
  rw [feed, if_neg (Nat.not_lt.mpr honest)]
  unfold Model.feed
  dsimp only
  split
  · rw [if_neg (Nat.not_lt.mpr short)]
    rfl
  · rfl

theorem feed_sane (sane : Sane m) (frame : Bytes) : Sane (feed m frame).1 := by
  rw [feed_model sane]
  refine ⟨?_, ?_⟩
  · unfold Model.feed
    dsimp only
    split
    · exact sane.rx.process frame (m.clock + 1)
    · exact sane.rx.process frame (m.clock + 1)
  · unfold Model.feed
    dsimp only
    split
    · exact reached_request Ecu.application sane.uds _ _ _ _
    · exact sane.uds

theorem feed_verdict (sane : Sane m) (frame : Bytes) : (feed m frame).2.verdict = -1 := by
  have honest := (sane.rx.process frame (m.clock + 1)).received
  have short := message_length sane.rx frame (m.clock + 1)
  rw [feed, if_neg (Nat.not_lt.mpr honest)]
  dsimp only
  split
  · rw [if_neg (Nat.not_lt.mpr short)]
    have lawful := lawful_request Ecu.application sane.uds.valid m.uds.user
      (process m.rx frame (m.clock + 1)).2.message (m.clock + 1) (by decide : 2 ≤ maxResponseSize)
    exact checkUds_lawful lawful
  · rfl

theorem perform_sane (sane : Sane m) (move : Move) : Sane (perform m move).1 := by
  cases move with
  | frame bytes => exact feed_sane sane bytes
  | transportTimeout ms => exact ⟨sane.rx.pollTimeout _, sane.uds⟩
  | serverPoll ms => exact ⟨sane.rx, sane.uds.poll _⟩

theorem perform_verdict (sane : Sane m) (move : Move) : (perform m move).2.verdict = -1 := by
  cases move with
  | frame bytes => exact feed_verdict sane bytes
  | transportTimeout | serverPoll => rfl

theorem positive_of_answer {first : UInt8} {r : Model × Option Reply} {rest : Bytes}
    (answered : Ecu.answer r = some (first :: rest)) : positive first r = true := by
  obtain ⟨model, reply⟩ := r
  cases reply with
  | none => cases answered
  | some reply =>
    rw [Ecu.answer, Option.bind_some] at answered
    split at answered
    · simp [positive, Option.some.inj answered]
    · cases answered

theorem goldenOk_always (m : Model) : goldenOk m = true := by
  have first := (Ecu.send_toExtended m).2.2
  have second := (Ecu.send_version (m.send [0x10, 0x03]).1).2.2
  rw [goldenOk, Bool.and_eq_true]
  exact ⟨positive_of_answer first, positive_of_answer second⟩

theorem replayMoves_sane (sane : Sane m) (moves : List Move) : replayMoves m moves = -1 := by
  induction moves generalizing m with
  | nil => rw [replayMoves, goldenOk_always, if_neg (by decide)]
  | cons move rest ih =>
    rw [replayMoves, perform_verdict sane, if_neg (by decide)]
    exact ih (perform_sane sane move)

def frameMoves (m : Model) (rng : UInt32) : List FrameAct → List Move
  | [] => []
  | a :: rest =>
    (a.toAct.move m rng).1 :: frameMoves (applyFrame m a rng).1.1 (applyFrame m a rng).2 rest

theorem replayFrames_moves (m : Model) (rng : UInt32) (seq : List FrameAct) :
    (replayFrames m rng seq).1 = replayMoves m (frameMoves m rng seq) := by
  induction seq generalizing m rng with
  | nil => rfl
  | cons a rest ih =>
    have performed : perform m (a.toAct.move m rng).1 = (applyFrame m a rng).1 := rfl
    rw [replayFrames, frameMoves, replayMoves, performed, ← ih]
    by_cases violated : (applyFrame m a rng).1.2.verdict ≥ 0
    · rw [if_pos violated, if_pos violated]
    · rw [if_neg violated, if_neg violated]

theorem frameSteps_sane (sane : Sane m) (left : Nat) (rng : UInt32) :
    Sane (frameSteps left m rng).1.1 ∧ (frameSteps left m rng).1.2 = -1 := by
  induction left generalizing m rng with
  | zero => exact ⟨sane, rfl⟩
  | succ left ih =>
    have verdict (a : FrameAct) (rng : UInt32) : (applyFrame m a rng).1.2.verdict = -1 := perform_verdict sane _
    rw [frameSteps, verdict, if_neg (by decide)]
    exact ih (perform_sane sane _) _

theorem frameSequences_none (buffer : Vector UInt8 maxPayloadSize) (budget : Nat) (rng : UInt32) :
    frameSequences buffer budget rng = none := by
  induction budget generalizing rng with
  | zero => rfl
  | succ budget ih =>
    have verdict (left : Nat) (rng : UInt32) : (frameSteps left (.init buffer) rng).1.2 = -1 :=
      (frameSteps_sane (sane_init buffer) left rng).2
    rw [frameSequences, verdict, if_neg (by decide), goldenOk_always, if_neg (by decide)]
    exact ih _

end

/-- No stream of frames, whatever their bytes and lengths, with jumps of the clock
between them, trips a check of the pipeline, and the golden probe behind it succeeds. -/
theorem frames_assured (buffer : Vector UInt8 maxPayloadSize) (moves : List Move) :
    replayMoves (.init buffer) moves = -1 := replayMoves_sane (sane_init buffer) moves

theorem replayFrames_assured (buffer : Vector UInt8 maxPayloadSize) (rng : UInt32) (seq : List FrameAct) :
    (replayFrames (.init buffer) rng seq).1 = -1 := by
  rw [replayFrames_moves]
  exact replayMoves_sane (sane_init buffer) (frameMoves (.init buffer) rng seq)

/-- The campaign of `ahdg_frames.c` reports no counterexample, whatever its budget and
seed. -/
theorem exploreFrames_none (buffer : Vector UInt8 maxPayloadSize) (budget : Nat) (seed : UInt32) :
    exploreFrames buffer budget seed = none := frameSequences_none buffer budget _

end DiagnosticGateway.Fuzz
