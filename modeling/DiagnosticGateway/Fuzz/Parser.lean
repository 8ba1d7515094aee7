import DiagnosticGateway.Fuzz.Assurance
import DiagnosticGateway.Isotp.Bounds
import DiagnosticGateway.Uds.Responses

/-! The fuzzer of the two parsers (`fuzz_parser.c`): bursts of degraded frames for the
receiver, requests for the server, and the checks it makes behind each of them.

One check is made too late. It reads the security level behind the reset, and every
reset locks again, so that the fuzzer reports each reset that was granted, and nothing
else.
-/

set_option autoImplicit false

namespace DiagnosticGateway.Fuzz
open BigEndian Uds
open Isotp (RxContext RxResult Bounded maxPayloadSize canFrameSize nCrTimeoutMs)

/-- The length follows from the identifier, and may be more than there is room for. -/
def fuzzDidRead (did : UInt16) (outCapacity : Nat) (user : Unit) : Result × Bytes × Unit :=
  if did &&& 0x0F = 0x0F then (.errDidNotFound, [], user)
  else
    let want := (did % 600).toNat + 1
    if want > outCapacity then (.errBufferTooSmall, [], user)
    else (.ok, (List.range want).map fun i => (i.toUInt16 ^^^ did).toUInt8, user)

def fuzzDtcRead (statusMask : UInt8) (outCapacity : Nat) (user : Unit) : Result × Bytes × Unit :=
  let count := (statusMask % 40).toNat
  if count * 4 > outCapacity then (.errBufferTooSmall, [], user)
  else (.ok, (List.range (count * 4)).map fun i => i.toUInt8, user)

def fuzzDtcClear (group : UInt32) (user : Unit) : Result × Unit :=
  (if group = 0xFFFFFF then .ok else .errDidNotFound, user)

def fuzzReset (_type : UInt8) (user : Unit) : Result × Unit := (.ok, user)

def fuzzApplication : Application Unit where
  didRead := some fuzzDidRead
  dtcRead := some fuzzDtcRead
  dtcClear := some fuzzDtcClear
  ecuReset := some fuzzReset

structure FuzzStats where
  cases : UInt64
  isotpFrames : UInt64
  udsRequests : UInt64
  messagesAssembled : UInt64
  sequenceErrors : UInt64
  overflows : UInt64
  timeouts : UInt64
  negativeResponses : UInt64
  positiveResponses : UInt64

/-- The globals of the program, what it printed and what its server did. An anomaly is
printed with the state of the generator when the case began. -/
structure Fuzzer where
  rng : UInt32
  rx : RxContext
  uds : Context
  nowMs : UInt32
  stats : FuzzStats
  anomalies : List (String × UInt32)
  effects : List Effect

def Fuzzer.report (f : Fuzzer) (what : String) (before : UInt32) : Fuzzer :=
  { f with anomalies := f.anomalies ++ [(what, before)] }

def rngByte (rng : UInt32) : UInt8 := (rng &&& 0xFF).toUInt8

def rngBytes : Nat → UInt32 → Bytes × UInt32
  | 0, rng => ([], rng)
  | n + 1, rng =>
    let rng := ahdgRngNext rng
    let drawn := rngBytes n rng
    (rngByte rng :: drawn.1, drawn.2)

def firstByte (rx : RxContext) (choice : UInt32) (drawn : UInt8) (rng : UInt32) : UInt8 × UInt32 :=
  let one := ahdgRngNext rng
  if choice < 25 then (0x10 ||| (rngByte one &&& 0x0F), one)
  else if choice < 70 then
    -- One time in three the sequence number is right.
    if one % 3 = 0 then (0x20 ||| rx.nextSequenceNumber, one)
    else
      let two := ahdgRngNext one
      (0x20 ||| (rngByte two &&& 0x0F), two)
  else if choice < 85 then (rngByte one &&& 0x07, one)
  else if choice < 95 then (0x30 ||| (rngByte one &&& 0x0F), one)
  else (drawn, rng)

def burstFrame (rx : RxContext) (rng : UInt32) : Bytes × UInt32 :=
  let rng := ahdgRngNext rng
  let choice := rng % 100
  let drawn := rngBytes canFrameSize rng
  let first := firstByte rx choice (byteAt drawn.1 0) drawn.2
  let rng := ahdgRngNext first.2
  ((first.1 :: drawn.1.drop 1).take (rng % 9).toNat, rng)

def checkReceiver (before : UInt32) (out : RxResult) (f : Fuzzer) : Fuzzer :=
  let f :=
    if f.rx.receivedLength > f.rx.expectedLength then
      { f.report "plus d'octets recus qu'annonces" before with rx := f.rx.goIdle }
    else f
  let f :=
    if f.rx.expectedLength > maxPayloadSize then
      { f.report "longueur annoncee au-dela du tampon" before with rx := f.rx.goIdle }
    else f
  match out.event with
  | .messageReady =>
    let f := { f with stats := { f.stats with messagesAssembled := f.stats.messagesAssembled + 1 } }
    if out.message.length > maxPayloadSize then f.report "message plus grand que le tampon" before else f
  | .sendFlowControl =>
    let f := if out.fcFrame.length ≠ canFrameSize then f.report "Flow Control de taille incorrecte" before else f
    if out.reason = .errOverflow then { f with stats := { f.stats with overflows := f.stats.overflows + 1 } } else f
  | .aborted =>
    let f :=
      if out.reason = .errSequenceNumber then
        { f with stats := { f.stats with sequenceErrors := f.stats.sequenceErrors + 1 } }
      else f
    if f.rx.state ≠ .idle then f.report "abandon sans retour au repos" before else f
  | .none => f

def Fuzzer.received (f : Fuzzer) (rng : UInt32) (rx : RxContext) : Fuzzer :=
  { f with rng, rx, stats := { f.stats with isotpFrames := f.stats.isotpFrames + 1 } }

def burstStep (before : UInt32) (f : Fuzzer) : Fuzzer :=
  let frame := burstFrame f.rx f.rng
  let processed := Isotp.process f.rx frame.1 f.nowMs
  checkReceiver before processed.2 (f.received frame.2 processed.1)

def burstFrom (before : UInt32) : Nat → Fuzzer → Fuzzer
  | 0, f => f
  | left + 1, f => burstFrom before left (burstStep before f)

def burstSilence (before : UInt32) (f : Fuzzer) : Fuzzer :=
  let f := { f with rng := ahdgRngNext f.rng }
  if f.rng % 4 = 0 then
    let polled := Isotp.pollTimeout f.rx (f.nowMs + nCrTimeoutMs)
    let f := { f with rx := polled.1 }
    if polled.2.event = .aborted then
      let f := { f with stats := { f.stats with timeouts := f.stats.timeouts + 1 } }
      if f.rx.state ≠ .idle then f.report "timeout sans retour au repos" before else f
    else f
  else f

def fuzzIsotpBurst (f : Fuzzer) : Fuzzer :=
  let before := f.rng
  let f := { f with rng := ahdgRngNext f.rng }
  burstSilence before (burstFrom before ((f.rng % 12).toNat + 1) f)

def interestingSids : List UInt8 := [0x10, 0x11, 0x14, 0x19, 0x22, 0x27, 0x3E]

/-- `request[0 .. request_len)`; three times in four the service is one there is. -/
def fuzzRequest (rng : UInt32) : Bytes × UInt32 :=
  let rng := ahdgRngNext rng
  let requestLen := (rng % 33).toNat
  let drawn := rngBytes 32 rng
  if requestLen > 0 then
    let one := ahdgRngNext drawn.2
    if one % 4 ≠ 0 then
      let two := ahdgRngNext one
      ((interestingSids.getD (two % 7).toNat 0 :: drawn.1.drop 1).take requestLen, two)
    else (drawn.1.take requestLen, one)
  else ([], drawn.2)

def resetWhileLocked : String := "ECUReset accepte alors que la securite est verrouillee"

def checkResponse (before : UInt32) (request : Bytes) (outcome : Outcome Unit) (f : Fuzzer) : Fuzzer :=
  if outcome.response.length > maxResponseSize then f.report "reponse plus grande que le tampon" before
  else if outcome.response.length = 0 then f.report "reponse annoncee mais vide" before
  else if byteAt outcome.response 0 = negativeResponseSid then
    let f := { f with stats := { f.stats with negativeResponses := f.stats.negativeResponses + 1 } }
    if outcome.response.length ≠ negativeResponseLen then f.report "reponse negative de taille incorrecte" before else f
  else
    let f := { f with stats := { f.stats with positiveResponses := f.stats.positiveResponses + 1 } }
    if request.length > 0 ∧ byteAt outcome.response 0 ≠ byteAt request 0 + positiveResponseOffset then
      f.report "reponse positive sans rapport avec la requete" before
    else f

/-- The invariants of the server, checked behind each request. The security level is the
one the request has left. -/
def checkServer (before : UInt32) (request : Bytes) (outcome : Outcome Unit) (f : Fuzzer) : Fuzzer :=
  let f :=
    if outcome.result ≠ .ok ∧ outcome.result ≠ .noResponse then
      f.report "uds_handle_request a renvoye une erreur interne" before
    else f
  let f := if outcome.result = .ok then checkResponse before request outcome f else f
  if request.length ≥ 1 ∧ byteAt request 0 = sidEcuReset ∧ outcome.result = .ok ∧ byteAt outcome.response 0 = 0x51 ∧
      f.uds.securityLevel = .locked then
    f.report resetWhileLocked before
  else f

def Fuzzer.served (f : Fuzzer) (rng : UInt32) (outcome : Outcome Unit) : Fuzzer :=
  { f with
    rng
    uds := outcome.ctx
    stats := { f.stats with udsRequests := f.stats.udsRequests + 1 }
    effects := f.effects ++ outcome.effects }

def fuzzUdsRequest (f : Fuzzer) : Fuzzer :=
  let request := fuzzRequest f.rng
  let outcome := handleRequest fuzzApplication f.uds () request.1 f.nowMs maxResponseSize
  checkServer f.rng request.1 outcome (f.served request.2 outcome)

/-- One turn of the loop of `main`. Both parsers start anew now and then. -/
def fuzzTurn (f : Fuzzer) : Fuzzer :=
  let rng := ahdgRngNext f.rng
  let f := fuzzUdsRequest (fuzzIsotpBurst { f with rng, nowMs := f.nowMs + rng % 40 })
  let f := { f with rng := ahdgRngNext f.rng }
  let f := if f.rng % 5000 = 0 then { f with rx := .init f.rx.buffer, uds := Uds.init } else f
  { f with stats := { f.stats with cases := f.stats.cases + 1 } }

def fuzzTurns : Nat → Fuzzer → Fuzzer
  | 0, f => f
  | left + 1, f => fuzzTurns left (fuzzTurn f)

def Fuzzer.init (buffer : Vector UInt8 maxPayloadSize) (seed : UInt32) : Fuzzer where
  rng := if seed ≠ 0 then seed else 1
  rx := .init buffer
  uds := Uds.init
  nowMs := 0
  stats := ⟨0, 0, 0, 0, 0, 0, 0, 0, 0⟩
  anomalies := []
  effects := []

def fuzzMain (buffer : Vector UInt8 maxPayloadSize) (iterations : UInt64) (seed : UInt32) : Fuzzer :=
  fuzzTurns iterations.toNat (.init buffer seed)

structure Quiet (f after : Fuzzer) : Prop where
  uds : after.uds = f.uds
  anomalies : after.anomalies = f.anomalies
  effects : after.effects = f.effects
  cases : after.stats.cases = f.stats.cases
  requests : after.stats.udsRequests = f.stats.udsRequests

theorem Quiet.refl (f : Fuzzer) : Quiet f f := ⟨rfl, rfl, rfl, rfl, rfl⟩

theorem Quiet.trans {f mid after : Fuzzer} (first : Quiet f mid) (second : Quiet mid after) : Quiet f after where
  uds := second.uds.trans first.uds
  anomalies := second.anomalies.trans first.anomalies
  effects := second.effects.trans first.effects
  cases := second.cases.trans first.cases
  requests := second.requests.trans first.requests

structure Sound (rx : RxContext) (out : RxResult) : Prop where
  fits : out.message.length ≤ maxPayloadSize
  flowControl : out.event = .sendFlowControl → out.fcFrame.length = canFrameSize
  aborted : out.event = .aborted → rx.state = .idle

theorem process_sound (ctx : RxContext) (frame : Bytes) (nowMs : UInt32) :
    Sound (Isotp.process ctx frame nowMs).1 (Isotp.process ctx frame nowMs).2 := by
  have processed := Isotp.process_processed ctx frame nowMs
  generalize Isotp.process ctx frame nowMs = outcome at processed ⊢
  cases processed with
  | empty | rejected | extended => exact ⟨Nat.zero_le _, nofun, nofun⟩
  | single base payload decoded idle same =>
    refine ⟨Nat.le_trans (Isotp.decodeSingleFrame_ok decoded).2.2.1 (by decide), nofun, nofun⟩
  | opened | overflowed => exact ⟨Nat.zero_le _, fun _ => rfl, nofun⟩
  | outOfSequence | tooLong => exact ⟨Nat.zero_le _, nofun, fun _ => rfl⟩
  | completed => exact ⟨by simp [Buffer.readPrefix, RxResult.ready], nofun, nofun⟩

theorem checkReceiver_quiet (before : UInt32) {out : RxResult} {f : Fuzzer} (bounded : Bounded f.rx)
    (sound : Sound f.rx out) :
    (checkReceiver before out f).rx = f.rx ∧ Quiet f (checkReceiver before out f) := by
  unfold checkReceiver
  rw [if_neg (Nat.not_lt.mpr bounded.received)]
  dsimp only
  rw [if_neg (Nat.not_lt.mpr bounded.expected)]
  cases event : out.event with
  | none => exact ⟨rfl, .refl f⟩
  | messageReady =>
    dsimp only
    rw [if_neg (Nat.not_lt.mpr sound.fits)]
    exact ⟨rfl, rfl, rfl, rfl, rfl, rfl⟩
  | sendFlowControl =>
    dsimp only
    rw [if_neg (not_not.mpr (sound.flowControl event))]
    split <;> exact ⟨rfl, rfl, rfl, rfl, rfl, rfl⟩
  | aborted =>
    have idle : f.rx.state = .idle := sound.aborted event
    dsimp only
    split
    · rw [if_neg (not_not.mpr idle)]
      exact ⟨rfl, rfl, rfl, rfl, rfl, rfl⟩
    · rw [if_neg (not_not.mpr idle)]
      exact ⟨rfl, .refl f⟩

theorem burstStep_quiet (before : UInt32) {f : Fuzzer} (bounded : Bounded f.rx) :
    Bounded (burstStep before f).rx ∧ Quiet f (burstStep before f) := by
  have after := bounded.process (burstFrame f.rx f.rng).1 f.nowMs
  have sound := process_sound f.rx (burstFrame f.rx f.rng).1 f.nowMs
  rw [burstStep]
  generalize Isotp.process f.rx (burstFrame f.rx f.rng).1 f.nowMs = processed at after sound ⊢
  generalize (burstFrame f.rx f.rng).2 = rng
  have received : Quiet f (f.received rng processed.1) := ⟨rfl, rfl, rfl, rfl, rfl⟩
  obtain ⟨rx, quiet⟩ := @checkReceiver_quiet before processed.2 (f.received rng processed.1) after sound
  refine ⟨?_, received.trans quiet⟩
  rw [rx]
  exact after

theorem burstFrom_quiet (before : UInt32) (left : Nat) {f : Fuzzer} (bounded : Bounded f.rx) :
    Bounded (burstFrom before left f).rx ∧ Quiet f (burstFrom before left f) := by
  induction left generalizing f with
  | zero => exact ⟨bounded, .refl f⟩
  | succ left ih =>
    obtain ⟨after, quiet⟩ := burstStep_quiet before bounded
    obtain ⟨final, rest⟩ := ih after
    exact ⟨final, quiet.trans rest⟩

theorem burstSilence_quiet (before : UInt32) {f : Fuzzer} (bounded : Bounded f.rx) :
    Bounded (burstSilence before f).rx ∧ Quiet f (burstSilence before f) := by
  have after := bounded.pollTimeout (f.nowMs + nCrTimeoutMs)
  have idle : (Isotp.pollTimeout f.rx (f.nowMs + nCrTimeoutMs)).2.event = .aborted →
      (Isotp.pollTimeout f.rx (f.nowMs + nCrTimeoutMs)).1.state = .idle := by
    rcases Isotp.pollTimeout_cases f.rx (f.nowMs + nCrTimeoutMs) with same | ⟨_, _, same⟩
    · rw [same]
      exact nofun
    · rw [same]
      exact fun _ => rfl
  unfold burstSilence
  dsimp only
  generalize Isotp.pollTimeout f.rx (f.nowMs + nCrTimeoutMs) = polled at after idle ⊢
  split
  · split
    · rename_i event
      rw [if_neg (not_not.mpr (idle event))]
      exact ⟨after, rfl, rfl, rfl, rfl, rfl⟩
    · exact ⟨after, rfl, rfl, rfl, rfl, rfl⟩
  · exact ⟨bounded, rfl, rfl, rfl, rfl, rfl⟩

theorem fuzzIsotpBurst_quiet {f : Fuzzer} (bounded : Bounded f.rx) :
    Bounded (fuzzIsotpBurst f).rx ∧ Quiet f (fuzzIsotpBurst f) := by
  have drawn : Quiet f { f with rng := ahdgRngNext f.rng } := ⟨rfl, rfl, rfl, rfl, rfl⟩
  obtain ⟨after, burst⟩ := @burstFrom_quiet f.rng ((ahdgRngNext f.rng % 12).toNat + 1)
    { f with rng := ahdgRngNext f.rng } bounded
  obtain ⟨final, silence⟩ := burstSilence_quiet f.rng after
  exact ⟨final, (drawn.trans burst).trans silence⟩

theorem fuzzApplication_keepsRoom : KeepsRoom fuzzApplication where
  didRead := by
    rintro read did room user data after installed reads
    cases installed
    unfold fuzzDidRead at reads
    split at reads
    · cases reads
    · dsimp only at reads
      split at reads
      · cases reads
      · rename_i fits
        cases reads
        simpa using fits
  dtcRead := by
    rintro read mask room user data after installed reads
    cases installed
    unfold fuzzDtcRead at reads
    dsimp only at reads
    split at reads
    · cases reads
    · rename_i fits
      cases reads
      simpa using fits

theorem checkResponse_quiet (before : UInt32) {request : Bytes} {outcome : Outcome Unit} (f : Fuzzer)
    (answers : Answers request maxResponseSize outcome.answer) (ok : outcome.result = .ok) :
    (checkResponse before request outcome f).rx = f.rx ∧ Quiet f (checkResponse before request outcome f) := by
  unfold checkResponse
  rw [Outcome.answer, ok] at answers
  generalize outcome.response = response at answers ⊢
  cases answers with
  | negative nrc audible =>
    have first : byteAt [negativeResponseSid, byteAt request 0, nrc] 0 = negativeResponseSid := rfl
    have size : [negativeResponseSid, byteAt request 0, nrc].length = negativeResponseLen := rfl
    rw [size, if_neg (by decide), if_neg (by decide), if_pos first]
    dsimp only
    rw [if_neg (not_not.mpr rfl)]
    exact ⟨rfl, rfl, rfl, rfl, rfl, rfl⟩
  | positive rest audible distinct fits =>
    have first : byteAt ((byteAt request 0 + positiveResponseOffset) :: rest) 0 =
        byteAt request 0 + positiveResponseOffset := rfl
    rw [List.length_cons, if_neg (Nat.not_lt.mpr fits), if_neg (Nat.succ_ne_zero _), first, if_neg distinct]
    dsimp only
    rw [if_neg fun other => other.2 rfl]
    exact ⟨rfl, rfl, rfl, rfl, rfl, rfl⟩

theorem fuzz_answers (ctx : Context) (request : Bytes) (nowMs : UInt32) :
    let outcome := handleRequest fuzzApplication ctx () request nowMs maxResponseSize
    (outcome.result = .ok ∧ Answers request maxResponseSize outcome.answer) ∨
      (outcome.result = .noResponse ∧ outcome.response = []) := by
  by_cases empty : request = []
  · subst empty
    exact .inr ⟨rfl, rfl⟩
  · have answers : Answers request maxResponseSize
        (handleRequest fuzzApplication ctx () request nowMs maxResponseSize).answer :=
      handleRequest_answers fuzzApplication_keepsRoom empty (by decide) (by decide)
    dsimp only
    generalize handleRequest fuzzApplication ctx () request nowMs maxResponseSize = outcome at answers ⊢
    have kept := answers
    rw [Outcome.answer] at answers
    generalize result : outcome.result = code at answers ⊢
    generalize outcome.response = response at answers ⊢
    cases answers with
    | negative | positive => exact .inl ⟨rfl, kept⟩
    | silent => exact .inr ⟨rfl, rfl⟩

/-- What a request adds to the report: one line if it was granted a reset. -/
structure Reports (before : UInt32) (f after : Fuzzer) (resets : Nat) : Prop where
  rx : after.rx = f.rx
  effects : after.effects = f.effects
  cases : after.stats.cases = f.stats.cases
  requests : after.stats.udsRequests = f.stats.udsRequests
  anomalies : after.anomalies = f.anomalies ++ List.replicate resets (resetWhileLocked, before)

theorem checkServer_reports (before : UInt32) (ctx : Context) (request : Bytes) (nowMs : UInt32) (f : Fuzzer)
    (same : f.uds = (handleRequest fuzzApplication ctx () request nowMs maxResponseSize).ctx) :
    let outcome := handleRequest fuzzApplication ctx () request nowMs maxResponseSize
    Reports before f (checkServer before request outcome f) (outcome.effects.countP Effect.performsReset) := by
  have counted := (handleRequest_ends fuzzApplication ctx () request nowMs maxResponseSize).resets (by decide)
  have justified := (handleRequest_justified fuzzApplication ctx () request nowMs maxResponseSize).reset
  have answers := fuzz_answers ctx request nowMs
  dsimp only at answers ⊢
  generalize handleRequest fuzzApplication ctx () request nowMs maxResponseSize = outcome at *
  unfold checkServer
  dsimp only
  rw [counted]
  rcases answers with ⟨ok, answers⟩ | ⟨silent, nothing⟩
  · obtain ⟨rx, quiet⟩ := checkResponse_quiet before f answers ok
    have passed : ¬ (Result.ok ≠ Result.ok ∧ Result.ok ≠ Result.noResponse) := fun failed => failed.1 rfl
    rw [ok, if_neg passed, if_pos rfl]
    generalize checkResponse before request outcome f = checked at rx quiet ⊢
    by_cases reset : byteAt request 0 = sidEcuReset ∧ AnswersReset outcome.response
    · have asked : request.length ≥ 1 := by
        cases request with
        | nil => exact absurd reset.1 (by decide)
        | cons sid rest => exact Nat.succ_pos _
      have locked : checked.uds.securityLevel = .locked := by
        rw [quiet.uds, same]
        exact (justified reset.2).2.1
      rw [if_pos reset, if_pos ⟨asked, reset.1, rfl, reset.2, locked⟩]
      refine ⟨rx, quiet.effects, quiet.cases, quiet.requests, ?_⟩
      rw [Fuzzer.report, quiet.anomalies]
      rfl
    · rw [if_neg reset, if_neg fun fails => reset ⟨fails.2.1, fails.2.2.2.1⟩]
      exact ⟨rx, quiet.effects, quiet.cases, quiet.requests, quiet.anomalies.trans (List.append_nil _).symm⟩
  · have none : ¬ (byteAt request 0 = sidEcuReset ∧ AnswersReset outcome.response) := by
      rw [nothing]
      exact fun answered => unremarkable_nil.noReset answered.2
    have passed : ¬ (Result.noResponse ≠ Result.ok ∧ Result.noResponse ≠ Result.noResponse) := fun failed => failed.2 rfl
    have unanswered : ¬ Result.noResponse = Result.ok := by decide
    rw [silent, if_neg passed, if_neg unanswered, if_neg none, if_neg fun fails => unanswered fails.2.2.1]
    exact ⟨rfl, rfl, rfl, rfl, (List.append_nil _).symm⟩

/-! ## The report of a run -/

structure Reported (f : Fuzzer) (turns : UInt64) : Prop where
  bounded : Bounded f.rx
  log : f.anomalies.map Prod.fst = List.replicate (f.effects.countP Effect.performsReset) resetWhileLocked
  cases : f.stats.cases = turns
  requests : f.stats.udsRequests = turns

theorem Reported.request {f : Fuzzer} {turns : UInt64} (reported : Reported f turns) :
    let after := fuzzUdsRequest f
    Bounded after.rx ∧ after.stats.cases = turns ∧ after.stats.udsRequests = turns + 1 ∧
      after.anomalies.map Prod.fst = List.replicate (after.effects.countP Effect.performsReset) resetWhileLocked := by
  have reports := checkServer_reports f.rng f.uds (fuzzRequest f.rng).1 f.nowMs
  dsimp only at reports ⊢
  rw [fuzzUdsRequest]
  generalize handleRequest fuzzApplication f.uds () (fuzzRequest f.rng).1 f.nowMs maxResponseSize = outcome at reports ⊢
  generalize (fuzzRequest f.rng).2 = rng
  have checked := reports (f.served rng outcome) rfl
  generalize checkServer f.rng (fuzzRequest f.rng).1 outcome (f.served rng outcome) = after at checked ⊢
  refine ⟨by rw [checked.rx]; exact reported.bounded, checked.cases.trans reported.cases, ?_, ?_⟩
  · rw [checked.requests, ← reported.requests]
    rfl
  · have effects : (f.served rng outcome).effects = f.effects ++ outcome.effects := rfl
    have anomalies : (f.served rng outcome).anomalies = f.anomalies := rfl
    rw [checked.anomalies, checked.effects, effects, anomalies, List.map_append, reported.log, List.map_replicate,
      List.countP_append, List.replicate_add]

theorem Reported.turn {f : Fuzzer} {turns : UInt64} (reported : Reported f turns) :
    Reported (fuzzTurn f) (turns + 1) := by
  obtain ⟨bounded, burst⟩ := @fuzzIsotpBurst_quiet
    { f with rng := ahdgRngNext f.rng, nowMs := f.nowMs + ahdgRngNext f.rng % 40 } reported.bounded
  unfold fuzzTurn
  dsimp only
  generalize fuzzIsotpBurst { f with rng := ahdgRngNext f.rng, nowMs := f.nowMs + ahdgRngNext f.rng % 40 } = mid
    at bounded burst ⊢
  have middle : Reported mid turns := by
    refine ⟨bounded, ?_, burst.cases.trans reported.cases, burst.requests.trans reported.requests⟩
    rw [burst.anomalies, burst.effects]
    exact reported.log
  obtain ⟨bounded, cases, requests, log⟩ := middle.request
  generalize fuzzUdsRequest mid = after at bounded cases requests log ⊢
  split
  · exact ⟨.idle ⟨rfl, rfl, rfl⟩, log, congrArg (· + 1) cases, requests⟩
  · exact ⟨bounded, log, congrArg (· + 1) cases, requests⟩

/-- Whatever the seed and the number of turns: the fuzzer reports one anomaly for each
reset the server performed, always the same, and no other. It therefore ends with 0
exactly if no reset was ever granted. -/
theorem fuzzMain_report (buffer : Vector UInt8 maxPayloadSize) (iterations : UInt64) (seed : UInt32) :
    let f := fuzzMain buffer iterations seed
    f.anomalies.map Prod.fst = List.replicate (f.effects.countP Effect.performsReset) resetWhileLocked ∧
      (f.anomalies = [] ↔ ∀ effect ∈ f.effects, effect.performsReset = false) ∧ Bounded f.rx ∧
      f.stats.cases = iterations ∧ f.stats.udsRequests = iterations := by
  have general : ∀ (left : Nat) (f : Fuzzer) (turns : UInt64), Reported f turns →
      Reported (fuzzTurns left f) (turns + left.toUInt64) := by
    intro left
    induction left with
    | zero =>
      intro f turns reported
      rwa [show (0 : Nat).toUInt64 = 0 from rfl, UInt64.add_zero]
    | succ left ih =>
      intro f turns reported
      have next : (left + 1).toUInt64 = 1 + left.toUInt64 := by
        rw [Nat.add_comm]
        exact UInt64.ofNat_add ..
      rw [next, ← UInt64.add_assoc]
      exact ih (fuzzTurn f) (turns + 1) reported.turn
  have started : Reported (.init buffer seed) 0 := ⟨.idle ⟨rfl, rfl, rfl⟩, rfl, rfl, rfl⟩
  have count : (0 : UInt64) + iterations.toNat.toUInt64 = iterations := by
    rw [UInt64.zero_add]
    exact UInt64.ofNat_toNat
  have reported := count ▸ general iterations.toNat _ 0 started
  dsimp only
  rw [fuzzMain]
  generalize fuzzTurns iterations.toNat (.init buffer seed) = f at reported ⊢
  refine ⟨reported.log, ?_, reported.bounded, reported.cases, reported.requests⟩
  rw [← List.map_eq_nil_iff (f := Prod.fst), reported.log, List.replicate_eq_nil_iff, List.countP_eq_zero]
  simp only [Bool.not_eq_true]

end DiagnosticGateway.Fuzz
