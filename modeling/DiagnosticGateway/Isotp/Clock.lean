import DiagnosticGateway.Library.PolledTimers
import DiagnosticGateway.Isotp.Reassembly
import DiagnosticGateway.Isotp.Segmentation

/-! The wrapping timers of both machines refine machines that keep true times.

N_Cr and N_Bs are looked at by the poll functions only, STmin by `isotp_tx_poll`,
which every accepted ContinueToSend also runs at once. So what decides is how far
the polls of an open transfer are apart; frames and Flow Controls may come at any
time.
-/

set_option autoImplicit false

namespace DiagnosticGateway.Isotp
open BigEndian Buffer Traces WrappingClock PolledTimers

inductive TimedRx where
  | frame (bytes : Bytes) (time : Nat)
  | pollTimeout (time : Nat)
  deriving DecidableEq, Repr

def TimedRx.time : TimedRx → Nat
  | .frame _ time => time
  | .pollTimeout time => time

def TimedRx.action : TimedRx → RxAction
  | .frame bytes time => .frame bytes (reading time)
  | .pollTimeout time => .pollTimeout (reading time)

def timedRxStep (ctx : RxContext) (call : TimedRx) : RxContext × RxResult := rxStep ctx call.action

inductive TimedTx where
  | start (payload : Bytes) (time : Nat)
  | flowControl (frame : Bytes) (time : Nat)
  | poll (time : Nat)
  deriving DecidableEq, Repr

def TimedTx.time : TimedTx → Nat
  | .start _ time => time
  | .flowControl _ time => time
  | .poll time => time

def TimedTx.action : TimedTx → TxAction
  | .start payload time => .start payload (reading time)
  | .flowControl frame time => .flowControl frame (reading time)
  | .poll time => .poll (reading time)

def timedTxStep (ctx : TxContext) (call : TimedTx) : TxContext × TxReply := txStep ctx call.action

/-- Its deadline is `lastFrame + 1000`. The clock field of `ctx` is not used. -/
structure RxReference where
  ctx : RxContext
  lastFrame : Nat

namespace RxReference

def process (receiver : RxReference) (frame : Bytes) (time : Nat) : RxReference × RxResult :=
  let (ctx, out) := Isotp.process receiver.ctx frame 0
  (⟨ctx, if frame.length < 1 then receiver.lastFrame else time⟩, out)

def pollTimeout (receiver : RxReference) (time : Nat) : RxReference × RxResult :=
  if receiver.ctx.state ≠ .waitConsecutive then (receiver, .clear)
  else if time - receiver.lastFrame ≥ nCrTimeoutMs.toNat then
    let (ctx, out) := abortTransfer receiver.ctx.countTimeout .errTimeout
    ({ receiver with ctx }, out)
  else (receiver, .clear)

def step (receiver : RxReference) : TimedRx → RxReference × RxResult
  | .frame bytes time => receiver.process bytes time
  | .pollTimeout time => receiver.pollTimeout time

end RxReference

/-- Its deadlines are `waitStart + 1000` and `lastFrame + stminMs`. The last frame
may be dated back below zero. -/
structure TxReference where
  ctx : TxContext
  lastFrame : Int
  waitStart : Nat

namespace TxReference

def opens (before after : TxContext) : Prop := before.state = .idle ∧ after.state ≠ .idle

instance (before after : TxContext) : Decidable (opens before after) :=
  inferInstanceAs (Decidable (before.state = .idle ∧ after.state ≠ .idle))

def start (emitter : TxReference) (payload : Bytes) (time : Nat) : TxReference × TxReply :=
  let (ctx, result, out) := txStart emitter.ctx payload 0
  (if opens emitter.ctx ctx then ⟨ctx, time, time⟩ else { emitter with ctx }, ⟨result, out⟩)

def poll (emitter : TxReference) (time : Nat) : TxReference × TxResult :=
  match emitter.ctx.state with
  | .idle => (emitter, .clear)
  | .waitFlowControl =>
    if time - emitter.waitStart ≥ nBsTimeoutMs.toNat then
      ({ emitter with ctx := emitter.ctx.countTimeout.goIdle }, .abort .errTimeout)
    else (emitter, .waiting)
  | .sending =>
    if emitter.ctx.blockSize ≠ 0 ∧ emitter.ctx.framesInBlock ≥ emitter.ctx.blockSize then
      ({ emitter with ctx := emitter.ctx.awaitFlowControl 0, waitStart := time }, .waiting)
    else if time - emitter.lastFrame < emitter.ctx.stminMs.toNat then (emitter, .waiting)
    else
      let (ctx, out) := buildConsecutiveFrame emitter.ctx
      let ctx := ctx.date 0
      ({ emitter with
          ctx := if ctx.sentLength ≥ ctx.totalLength then ctx.countMessage.goIdle else ctx
          lastFrame := time }, out)

def onFlowControl (emitter : TxReference) (frame : Bytes) (time : Nat) : TxReference × TxResult :=
  if emitter.ctx.state ≠ .waitFlowControl then (emitter, { TxResult.clear with reason := .errUnexpectedFrame })
  else
    match decodeFlowControl frame with
    | .error res => ({ emitter with ctx := emitter.ctx.goIdle }, .abort res)
    | .ok (.continueToSend, blockSize, stmin) =>
      poll { emitter with
        ctx := emitter.ctx.resume blockSize (stminToMs stmin) 0
        lastFrame := (time : Int) - (stminToMs stmin).toNat } time
    | .ok (.wait, _, _) => ({ emitter with waitStart := time }, .waiting)
    | .ok (.overflow, _, _) => ({ emitter with ctx := emitter.ctx.goIdle }, .abort .errAborted)

def step (emitter : TxReference) : TimedTx → TxReference × TxReply
  | .start payload time => emitter.start payload time
  | .flowControl frame time =>
    let (emitter, out) := emitter.onFlowControl frame time
    (emitter, ⟨.ok, out⟩)
  | .poll time =>
    let (emitter, out) := emitter.poll time
    (emitter, ⟨.ok, out⟩)

end TxReference

/-! ## The clock fields are only carried along -/

@[simps] def RxContext.retime (ctx : RxContext) (lastFrameTimeMs : UInt32) : RxContext :=
  { ctx with lastFrameTimeMs := lastFrameTimeMs }

@[simps] def TxContext.retime (ctx : TxContext) (lastFrameTimeMs waitStartMs : UInt32) : TxContext :=
  { ctx with lastFrameTimeMs := lastFrameTimeMs, waitStartMs := waitStartMs }

/-- What a handler that does not look at the clock does to a retimed context. -/
def retimed (outcome : RxContext × RxResult) (lastFrameTimeMs : UInt32) : RxContext × RxResult :=
  (outcome.1.retime lastFrameTimeMs, outcome.2)

section
variable (ctx : RxContext) (frame : Bytes) (lastMs nowMs : UInt32)

theorem handleSingleFrame_retime :
    handleSingleFrame (ctx.retime lastMs) frame = retimed (handleSingleFrame ctx frame) lastMs := by
  unfold handleSingleFrame
  cases decodeSingleFrame frame with
  | error res => rfl
  | ok payload =>
    dsimp only
    by_cases busy : ctx.state ≠ .idle
    · have same : (ctx.retime lastMs).state ≠ .idle := busy
      rw [if_pos busy, if_pos same]
      rfl
    · have same : ¬ (ctx.retime lastMs).state ≠ .idle := busy
      rw [if_neg busy, if_neg same]
      rfl

theorem handleFirstFrame_retime :
    handleFirstFrame (ctx.retime lastMs) frame = retimed (handleFirstFrame ctx frame) lastMs := by
  unfold handleFirstFrame
  cases announcedLength frame with
  | none => rfl
  | some header =>
    dsimp only
    split
    · rfl
    · split
      · rfl
      · split
        · rfl
        · rfl

theorem completed_retime :
    ((ctx.retime lastMs).countMessage.goIdle, RxResult.ready (readPrefix (ctx.retime lastMs).buffer ctx.expectedLength)) =
      retimed (ctx.countMessage.goIdle, .ready (readPrefix ctx.buffer ctx.expectedLength)) lastMs := rfl

theorem handleConsecutiveFrame_retime :
    handleConsecutiveFrame (ctx.retime lastMs) frame = retimed (handleConsecutiveFrame ctx frame) lastMs := by
  unfold handleConsecutiveFrame
  rw [RxContext.retime_state]
  split
  · rfl
  · split
    · rfl
    · rw [RxContext.retime_nextSequenceNumber]
      split
      · rfl
      · have remaining : (ctx.retime lastMs).remaining = ctx.remaining := by
          rw [RxContext.remaining, RxContext.remaining, RxContext.retime_expectedLength, RxContext.retime_receivedLength]
        dsimp only
        rw [remaining, RxContext.retime_receivedLength, clipped_length, take_length_take]
        split
        · rfl
        · have extended : ∀ block, ((ctx.retime lastMs).store ctx.receivedLength block).nextFrame =
              ((ctx.store ctx.receivedLength block).nextFrame).retime lastMs := fun _ => rfl
          rw [extended]
          generalize (ctx.store ctx.receivedLength ((frame.drop cfPciLen).take ctx.remaining)).nextFrame = next
          rw [RxContext.retime_receivedLength, RxContext.retime_expectedLength]
          split
          · exact completed_retime next lastMs
          · rfl

theorem process_retime :
    process (ctx.retime lastMs) frame nowMs =
      retimed (process ctx frame 0) (if frame.length < 1 then lastMs else nowMs) := by
  have counted : (ctx.retime lastMs).countFrame nowMs = (ctx.countFrame 0).retime nowMs := rfl
  unfold process
  split
  · rfl
  · rw [counted]
    cases frameType frame with
    | single => exact handleSingleFrame_retime _ _ _
    | first => exact handleFirstFrame_retime _ _ _
    | consecutive => exact handleConsecutiveFrame_retime _ _ _
    | flowControl | reserved => rfl

end

/-- A call after which N_Cr is young: a poll, or the opening of a transfer. -/
def RxChecks (e : Event RxContext TimedRx RxResult) : Prop :=
  (∃ time, e.action = .pollTimeout time) ∨ ∃ bytes time length payload, e.action = .frame bytes time ∧
    Opens bytes length payload

def RxLooks (e : Event RxContext TimedRx RxResult) : Prop :=
  (∃ time, e.action = .pollTimeout time) ∧ e.before.state ≠ .idle

/-- While a transfer is open, every poll comes less than half a period after the
poll before it or the opening. -/
abbrev RxPunctual : List (Event RxContext TimedRx RxResult) → Event RxContext TimedRx RxResult → Prop :=
  Punctual TimedRx.time RxChecks RxLooks

structure RxSynced (past : List (Event RxContext TimedRx RxResult)) (ctx : RxContext) (reference : RxReference) : Prop where
  same : ctx = reference.ctx.retime ctx.lastFrameTimeMs
  clock : ctx.state = .waitConsecutive → ctx.lastFrameTimeMs = reading reference.lastFrame ∧
    Fresh TimedRx.time RxChecks nCrTimeoutMs.toNat reference.lastFrame past

section
variable {past : List (Event RxContext TimedRx RxResult)} {ctx : RxContext} {reference : RxReference}

theorem RxSynced.frame (synced : RxSynced past ctx reference) (bytes : Bytes) (time : Nat)
    (punctual : RxPunctual past (event timedRxStep ctx (.frame bytes time))) :
    (process ctx bytes (reading time)).2 = (reference.process bytes time).2 ∧
      RxSynced (past ++ [event timedRxStep ctx (.frame bytes time)]) (process ctx bytes (reading time)).1
        (reference.process bytes time).1 := by
  have retime := process_retime reference.ctx bytes ctx.lastFrameTimeMs (reading time)
  rw [← synced.same] at retime
  by_cases empty : bytes.length < 1
  · have nothing : bytes = [] := List.length_eq_zero_iff.mp (Nat.lt_one_iff.mp empty)
    subst nothing
    have unchecked : ¬ RxChecks (event timedRxStep ctx (.frame [] time)) := by
      rintro (⟨_, isPoll⟩ | ⟨_, _, _, _, isFrame, opens⟩)
      · cases isPoll
      · cases isFrame
        exact (passesOver_nil .idle).notOpening _ _ opens
    refine ⟨rfl, ⟨retime ▸ rfl, fun waiting => ?_⟩⟩
    obtain ⟨reads, fresh⟩ := synced.clock waiting
    exact ⟨reads, fresh.kept unchecked⟩
  · rw [if_neg empty] at retime
    rw [retime, RxReference.process, if_neg empty]
    exact ⟨rfl, ⟨rfl, fun _ => ⟨rfl, fresh_now punctual _⟩⟩⟩

theorem RxSynced.poll (synced : RxSynced past ctx reference) (time : Nat)
    (punctual : RxPunctual past (event timedRxStep ctx (.pollTimeout time))) :
    (pollTimeout ctx (reading time)).2 = (reference.pollTimeout time).2 ∧
      RxSynced (past ++ [event timedRxStep ctx (.pollTimeout time)]) (pollTimeout ctx (reading time)).1
        (reference.pollTimeout time).1 := by
  have state : ctx.state = reference.ctx.state := by
    rw [synced.same]
    rfl
  rw [pollTimeout, RxReference.pollTimeout, ← state]
  by_cases waiting : ctx.state = .waitConsecutive
  · have looks : RxLooks (event timedRxStep ctx (.pollTimeout time)) :=
      ⟨⟨time, rfl⟩, by simp [event, waiting]⟩
    obtain ⟨reads, fresh⟩ := synced.clock waiting
    have due := fresh.exact punctual looks (by decide) nCrTimeoutMs
    have moment : (event timedRxStep ctx (.pollTimeout time)).action.time = time := rfl
    rw [moment, ← reads] at due
    rw [if_neg (not_not.mpr waiting), if_neg (not_not.mpr waiting)]
    by_cases expired : time - reference.lastFrame ≥ nCrTimeoutMs.toNat
    · rw [if_pos expired, if_pos (due.mpr expired)]
      refine ⟨rfl, ⟨?_, fun waits => by cases waits⟩⟩
      conv_lhs => rw [synced.same]
      rfl
    · rw [if_neg expired, if_neg (mt due.mp expired)]
      exact ⟨rfl, ⟨synced.same, fun _ => ⟨reads, fresh.next fun _ => Nat.le_of_not_ge expired⟩⟩⟩
  · rw [if_pos waiting, if_pos waiting]
    exact ⟨rfl, ⟨synced.same, fun waits => absurd waits waiting⟩⟩

theorem RxSynced.step (synced : RxSynced past ctx reference) (call : TimedRx)
    (punctual : RxPunctual past (event timedRxStep ctx call)) :
    (timedRxStep ctx call).2 = (reference.step call).2 ∧
      RxSynced (past ++ [event timedRxStep ctx call]) (timedRxStep ctx call).1 (reference.step call).1 := by
  cases call with
  | frame bytes time => exact synced.frame bytes time punctual
  | pollTimeout time => exact synced.poll time punctual

end

def TxChecks (e : Event TxContext TimedTx TxReply) : Prop :=
  (∃ time, e.action = .poll time) ∨ TxReference.opens e.before e.after

def TxLooks (e : Event TxContext TimedTx TxReply) : Prop := (∃ time, e.action = .poll time) ∧ e.before.state ≠ .idle

abbrev TxPunctual : List (Event TxContext TimedTx TxReply) → Event TxContext TimedTx TxReply → Prop :=
  Punctual TimedTx.time TxChecks TxLooks

def SameButClocks (ctx : TxContext) (reference : TxReference) : Prop :=
  ctx = reference.ctx.retime ctx.lastFrameTimeMs ctx.waitStartMs

structure TxSynced (past : List (Event TxContext TimedTx TxReply)) (ctx : TxContext) (reference : TxReference) : Prop where
  same : SameButClocks ctx reference
  wait : ctx.state = .waitFlowControl → ctx.waitStartMs = reading reference.waitStart ∧
    Fresh TimedTx.time TxChecks nBsTimeoutMs.toNat reference.waitStart past
  -- Between two calls no frame is dated back: the first one leaves with its Flow Control.
  gap : ctx.state = .sending → ∃ last : Nat, reference.lastFrame = last ∧ ctx.lastFrameTimeMs = reading last ∧
    Fresh TimedTx.time TxChecks nBsTimeoutMs.toNat last past

section
variable {past : List (Event TxContext TimedTx TxReply)} {ctx : TxContext} {reference : TxReference} {time : Nat}
  {call : TimedTx}

theorem SameButClocks.state (same : SameButClocks ctx reference) : ctx.state = reference.ctx.state := by
  rw [show ctx = _ from same]
  rfl

theorem SameButClocks.parameters (same : SameButClocks ctx reference) :
    reference.ctx.blockSize = ctx.blockSize ∧ reference.ctx.framesInBlock = ctx.framesInBlock ∧
      reference.ctx.stminMs = ctx.stminMs := by
  rw [show ctx = _ from same]
  exact ⟨rfl, rfl, rfl⟩

theorem TxSynced.idle (same : SameButClocks ctx reference) (idle : ctx.state = .idle) : TxSynced past ctx reference where
  same := same
  wait := fun waits => by simp [idle] at waits
  gap := fun sends => by simp [idle] at sends

theorem TxSynced.next (synced : TxSynced past ctx reference) {e : Event TxContext TimedTx TxReply}
    (wait : TxChecks e → ctx.state = .waitFlowControl → e.action.time - reference.waitStart ≤ nBsTimeoutMs.toNat)
    (gap : TxChecks e → ctx.state = .sending → (e.action.time : Int) - reference.lastFrame ≤ nBsTimeoutMs.toNat) :
    TxSynced (past ++ [e]) ctx reference where
  same := synced.same
  wait := by
    intro waiting
    obtain ⟨reads, fresh⟩ := synced.wait waiting
    exact ⟨reads, fresh.next fun checked => wait checked waiting⟩
  gap := by
    intro sending
    obtain ⟨last, dated, reads, fresh⟩ := synced.gap sending
    refine ⟨last, dated, reads, fresh.next fun checked => ?_⟩
    have young := gap checked sending
    omega

theorem TxSynced.still (synced : TxSynced past ctx reference) {e : Event TxContext TimedTx TxReply}
    (unchecked : ¬ TxChecks e) : TxSynced (past ++ [e]) ctx reference :=
  synced.next (fun checked => absurd checked unchecked) fun checked => absurd checked unchecked

theorem buildConsecutiveFrame_retime (ctx : TxContext) (lastMs waitMs : UInt32) :
    buildConsecutiveFrame (ctx.retime lastMs waitMs) =
      ((buildConsecutiveFrame ctx).1.retime lastMs waitMs, (buildConsecutiveFrame ctx).2) := rfl

theorem date_retime (ctx : TxContext) (lastMs waitMs nowMs : UInt32) :
    (ctx.retime lastMs waitMs).date nowMs = (ctx.date 0).retime nowMs waitMs := rfl

theorem completed_same (ctx : TxContext) (lastMs waitMs : UInt32) (lastFrame : Int) (waitStart : Nat) :
    SameButClocks (ctx.retime lastMs waitMs).countMessage.goIdle ⟨ctx.countMessage.goIdle, lastFrame, waitStart⟩ := rfl

theorem TxSynced.produced (same : SameButClocks ctx reference) (sending : ctx.state = .sending)
    (room : ¬ (ctx.blockSize ≠ 0 ∧ ctx.framesInBlock ≥ ctx.blockSize))
    (due : ¬ reading time - ctx.lastFrameTimeMs < ctx.stminMs.toUInt32)
    (gap : ¬ (time : Int) - reference.lastFrame < ctx.stminMs.toNat) {events : List (Event TxContext TimedTx TxReply)}
    (fresh : Fresh TimedTx.time TxChecks nBsTimeoutMs.toNat time events) :
    (txPoll ctx (reading time)).2 = (reference.poll time).2 ∧
      TxSynced events (txPoll ctx (reading time)).1 (reference.poll time).1 := by
  have built := buildConsecutiveFrame_retime reference.ctx ctx.lastFrameTimeMs ctx.waitStartMs
  have going : (buildConsecutiveFrame ctx).1.state = .sending := by
    rw [buildConsecutiveFrame, TxContext.countFrame_state, TxContext.advance_state, sending]
  obtain ⟨ctx', last, wait⟩ := reference
  have same : ctx = ctx'.retime ctx.lastFrameTimeMs ctx.waitStartMs := same
  have sending' : ctx'.state = .sending := by rw [same] at sending; exact sending
  have blockSize : ctx'.blockSize = ctx.blockSize := by rw [same]; rfl
  have frames : ctx'.framesInBlock = ctx.framesInBlock := by rw [same]; rfl
  have stmin : ctx'.stminMs = ctx.stminMs := by rw [same]; rfl
  rw [txPoll_sends sending room due, TxReference.poll]
  dsimp only at built gap ⊢
  rw [← same] at built
  rw [sending']
  dsimp only
  rw [blockSize, frames, stmin, if_neg room, if_neg gap]
  dsimp only
  rw [built] at going ⊢
  generalize (buildConsecutiveFrame ctx').1 = next at going ⊢
  refine ⟨rfl, ?_⟩
  rw [TxContext.retime_state, ← TxContext.date_state next 0] at going
  rw [date_retime]
  generalize next.date 0 = next at going ⊢
  rw [TxContext.retime_sentLength, TxContext.retime_totalLength]
  by_cases whole : next.sentLength ≥ next.totalLength
  · rw [if_pos whole, if_pos whole]
    exact .idle (completed_same ..) rfl
  · rw [if_neg whole, if_neg whole]
    exact ⟨rfl, fun waiting => absurd (going.symm.trans waiting) TxState.noConfusion,
      fun _ => ⟨time, rfl, rfl, fresh⟩⟩

theorem TxSynced.poll_waiting (synced : TxSynced past ctx reference) (waiting : ctx.state = .waitFlowControl)
    (punctual : TxPunctual past (event timedTxStep ctx (.poll time))) :
    (txPoll ctx (reading time)).2 = (reference.poll time).2 ∧
      TxSynced (past ++ [event timedTxStep ctx (.poll time)]) (txPoll ctx (reading time)).1 (reference.poll time).1 := by
  obtain ⟨reads, fresh⟩ := synced.wait waiting
  have due := fresh.exact punctual ⟨⟨time, rfl⟩, by simp [event, waiting]⟩ (by decide) nBsTimeoutMs
  rw [show (event timedTxStep ctx (.poll time)).action.time = time from rfl, ← reads] at due
  rw [txPoll, TxReference.poll, ← synced.same.state, waiting]
  dsimp only
  by_cases expired : time - reference.waitStart ≥ nBsTimeoutMs.toNat
  · rw [if_pos expired, if_pos (due.mpr expired)]
    refine ⟨rfl, .idle ?_ rfl⟩
    rw [SameButClocks, show ctx = _ from synced.same]
    rfl
  · rw [if_neg expired, if_neg (mt due.mp expired)]
    exact ⟨rfl, synced.next (fun _ _ => Nat.le_of_not_ge expired) fun _ sends => by
      simp [waiting] at sends⟩

theorem TxSynced.poll_sending (synced : TxSynced past ctx reference) (sending : ctx.state = .sending)
    (punctual : TxPunctual past (event timedTxStep ctx (.poll time))) :
    (txPoll ctx (reading time)).2 = (reference.poll time).2 ∧
      TxSynced (past ++ [event timedTxStep ctx (.poll time)]) (txPoll ctx (reading time)).1 (reference.poll time).1 := by
  obtain ⟨last, dated, reads, fresh⟩ := synced.gap sending
  have due := fresh.exact punctual ⟨⟨time, rfl⟩, by simp [event, sending]⟩ (by decide) ctx.stminMs.toUInt32
  have ordered := fresh.ordered punctual
  have limit : ctx.stminMs.toUInt32.toNat = ctx.stminMs.toNat := UInt8.toNat_toUInt32 _
  rw [show (event timedTxStep ctx (.poll time)).action.time = time from rfl] at due ordered
  rw [← reads, limit] at due
  have gap : reading time - ctx.lastFrameTimeMs < ctx.stminMs.toUInt32 ↔
      (time : Int) - reference.lastFrame < ctx.stminMs.toNat := by
    rw [← not_iff_not, UInt32.not_lt, dated]
    exact due.trans (by omega)
  obtain ⟨blockSize, frames, stmin⟩ := synced.same.parameters
  by_cases ended : ctx.blockSize ≠ 0 ∧ ctx.framesInBlock ≥ ctx.blockSize
  · rw [txPoll, TxReference.poll, ← synced.same.state, sending]
    dsimp only
    rw [blockSize, frames, if_pos ended, if_pos ended]
    refine ⟨rfl, ⟨?_, fun _ => ⟨rfl, fresh_now punctual _⟩, fun sends => by cases sends⟩⟩
    rw [SameButClocks, show ctx = _ from synced.same]
    rfl
  · by_cases early : (time : Int) - reference.lastFrame < ctx.stminMs.toNat
    · rw [txPoll, TxReference.poll, ← synced.same.state, sending]
      dsimp only
      rw [blockSize, frames, stmin, if_neg ended, if_neg ended, if_pos early, if_pos (gap.mpr early)]
      refine ⟨rfl, synced.next (fun _ waits => by simp [sending] at waits) fun _ _ => ?_⟩
      have small := ctx.stminMs.toNat_lt
      have limit : nBsTimeoutMs.toNat = 1000 := rfl
      rw [show (event timedTxStep ctx (.poll time)).action.time = time from rfl]
      omega
    · exact TxSynced.produced synced.same sending ended (mt gap.mp early) early (fresh_now punctual _)

theorem TxSynced.poll (synced : TxSynced past ctx reference)
    (punctual : TxPunctual past (event timedTxStep ctx (.poll time))) :
    (txPoll ctx (reading time)).2 = (reference.poll time).2 ∧
      TxSynced (past ++ [event timedTxStep ctx (.poll time)]) (txPoll ctx (reading time)).1 (reference.poll time).1 := by
  cases found : ctx.state with
  | idle =>
    rw [txPoll, TxReference.poll, ← synced.same.state, found]
    exact ⟨rfl, .idle synced.same found⟩
  | waitFlowControl => exact synced.poll_waiting found punctual
  | sending => exact synced.poll_sending found punctual

theorem SameButClocks.resumed (same : SameButClocks ctx reference) (blockSize stminMs : UInt8)
    {events : List (Event TxContext TimedTx TxReply)} (fresh : Fresh TimedTx.time TxChecks nBsTimeoutMs.toNat time events) :
    let resumed := ctx.resume blockSize stminMs (reading time)
    let emitter : TxReference :=
      { reference with ctx := reference.ctx.resume blockSize stminMs 0, lastFrame := (time : Int) - stminMs.toNat }
    (txPoll resumed (reading time)).2 = (emitter.poll time).2 ∧
      TxSynced events (txPoll resumed (reading time)).1 (emitter.poll time).1 := by
  have both : SameButClocks (ctx.resume blockSize stminMs (reading time))
      { reference with ctx := reference.ctx.resume blockSize stminMs 0, lastFrame := (time : Int) - stminMs.toNat } := by
    rw [SameButClocks, show ctx = _ from same]
    rfl
  refine TxSynced.produced both (TxContext.resume_state ..) (resume_room ctx blockSize stminMs (reading time))
    (resume_due ctx blockSize stminMs (reading time)) ?_ fresh
  rw [TxContext.resume_stminMs]
  dsimp only
  omega

theorem TxSynced.flowControl (synced : TxSynced past ctx reference) (frame : Bytes)
    (punctual : TxPunctual past (event timedTxStep ctx (.flowControl frame time))) :
    (txOnFlowControl ctx frame (reading time)).2 = (reference.onFlowControl frame time).2 ∧
      TxSynced (past ++ [event timedTxStep ctx (.flowControl frame time)]) (txOnFlowControl ctx frame (reading time)).1
        (reference.onFlowControl frame time).1 := by
  have fresh := fresh_now punctual nBsTimeoutMs.toNat
  rw [txOnFlowControl, TxReference.onFlowControl, ← synced.same.state]
  by_cases waiting : ctx.state = .waitFlowControl
  · rw [if_neg (not_not.mpr waiting), if_neg (not_not.mpr waiting)]
    have idle : SameButClocks ctx.goIdle { reference with ctx := reference.ctx.goIdle } := by
      rw [SameButClocks, show ctx = _ from synced.same]
      rfl
    cases decodeFlowControl frame with
    | error res => exact ⟨rfl, .idle idle rfl⟩
    | ok fields =>
      obtain ⟨status, blockSize, stmin⟩ := fields
      cases status with
      | continueToSend =>
        dsimp only
        exact synced.same.resumed blockSize (stminToMs stmin) fresh
      | wait =>
        refine ⟨rfl, ⟨?_, fun _ => ⟨rfl, fresh⟩, fun sends => ?_⟩⟩
        · rw [SameButClocks, show ctx = _ from synced.same]
          rfl
        · rw [TxContext.extendWait_state, waiting] at sends
          cases sends
      | overflow => exact ⟨rfl, .idle idle rfl⟩
  · have unchecked : ¬ TxChecks (event timedTxStep ctx (.flowControl frame time)) := by
      rintro (⟨_, isPoll⟩ | ⟨idle, opens⟩)
      · cases isPoll
      · refine opens ?_
        simp only [event, timedTxStep, TimedTx.action, txStep, txOnFlowControl, if_pos waiting]
        exact idle
    rw [if_pos waiting, if_pos waiting]
    exact ⟨rfl, synced.still unchecked⟩

theorem txStart_retime (ctx : TxContext) (payload : Bytes) (nowMs lastMs waitMs : UInt32) :
    let before := txStart ctx payload 0
    txStart (ctx.retime lastMs waitMs) payload nowMs =
      (if TxReference.opens ctx before.1 then before.1.retime nowMs nowMs else before.1.retime lastMs waitMs,
        before.2) := by
  have closed : ∀ after : TxContext, after.state = .idle → ¬ TxReference.opens ctx after :=
    fun after idle opens => opens.2 idle
  have refused : ¬ TxReference.opens ctx ctx := fun opens => opens.2 opens.1
  dsimp only
  unfold txStart
  rw [TxContext.retime_state]
  split
  · rfl
  · rename_i idle
    split
    · rfl
    · split
      · rfl
      · split
        · cases encodeSingleFrame payload canFrameSize with
          | error res =>
            dsimp only
            rw [if_neg refused]
          | ok frame =>
            dsimp only
            rw [if_neg (closed _ rfl)]
            rfl
        · have opens : TxReference.opens ctx ((ctx.load payload 0).awaitFlowControl 0).countFrame :=
            ⟨not_not.mp idle, TxState.noConfusion⟩
          rw [if_pos opens]
          rfl

theorem TxSynced.start (synced : TxSynced past ctx reference) (payload : Bytes)
    (punctual : TxPunctual past (event timedTxStep ctx (.start payload time))) :
    (timedTxStep ctx (.start payload time)).2 = (reference.start payload time).2 ∧
      TxSynced (past ++ [event timedTxStep ctx (.start payload time)]) (timedTxStep ctx (.start payload time)).1
        (reference.start payload time).1 := by
  by_cases idle : ctx.state = .idle
  · have retime := txStart_retime reference.ctx payload (reading time) ctx.lastFrameTimeMs ctx.waitStartMs
    rw [← show ctx = _ from synced.same] at retime
    simp only [timedTxStep, TimedTx.action, txStep, retime, TxReference.start]
    generalize txStart reference.ctx payload 0 = outcome
    obtain ⟨after, result, out⟩ := outcome
    dsimp only
    refine ⟨trivial, ?_⟩
    by_cases opens : TxReference.opens reference.ctx after
    · have fresh := fresh_now punctual nBsTimeoutMs.toNat
      rw [if_pos opens, if_pos opens]
      exact ⟨rfl, fun _ => ⟨rfl, fresh⟩, fun _ => ⟨time, rfl, rfl, fresh⟩⟩
    · rw [if_neg opens, if_neg opens]
      refine .idle rfl ?_
      by_contra busy
      exact opens ⟨synced.same.state.symm.trans idle, busy⟩
  · have busy : reference.ctx.state ≠ .idle := fun rests => idle (synced.same.state.trans rests)
    have unopened : ¬ TxReference.opens reference.ctx reference.ctx := fun opens => busy opens.1
    have unchecked : ¬ TxChecks (event timedTxStep ctx (.start payload time)) := by
      rintro (⟨_, isPoll⟩ | ⟨rests, _⟩)
      · cases isPoll
      · exact idle rests
    simp only [timedTxStep, TimedTx.action, txStep, TxReference.start, txStart, ne_eq, idle, busy, not_false_eq_true,
      if_true, if_neg unopened]
    exact ⟨trivial, synced.still unchecked⟩

theorem TxSynced.step (synced : TxSynced past ctx reference) (call : TimedTx)
    (punctual : TxPunctual past (event timedTxStep ctx call)) :
    (timedTxStep ctx call).2 = (reference.step call).2 ∧
      TxSynced (past ++ [event timedTxStep ctx call]) (timedTxStep ctx call).1 (reference.step call).1 := by
  cases call with
  | start payload time => exact synced.start payload punctual
  | flowControl frame time =>
    obtain ⟨out, next⟩ := synced.flowControl frame punctual
    exact ⟨congrArg (TxReply.mk .ok) out, next⟩
  | poll time =>
    obtain ⟨out, next⟩ := synced.poll punctual
    exact ⟨congrArg (TxReply.mk .ok) out, next⟩

end

/-- While transfers are polled in time, neither machine can be told from the one
that keeps true times. -/
theorem isotp_timers_refine (rxBuffer : Vector UInt8 maxPayloadSize) (rxCalls : List TimedRx)
    (txBuffer : Vector UInt8 maxPayloadSize) (txCalls : List TimedTx)
    (received : AllEvents RxPunctual (trace timedRxStep (.init rxBuffer) rxCalls))
    (emitted : AllEvents TxPunctual (trace timedTxStep (.init txBuffer) txCalls)) :
    (trace timedRxStep (.init rxBuffer) rxCalls).map Event.output =
        (trace RxReference.step ⟨.init rxBuffer, 0⟩ rxCalls).map Event.output ∧
      (trace timedTxStep (.init txBuffer) txCalls).map Event.output =
        (trace TxReference.step ⟨.init txBuffer, 0, 0⟩ txCalls).map Event.output := by
  have receiver : RxSynced [] (.init rxBuffer) ⟨.init rxBuffer, 0⟩ := ⟨rfl, fun waiting => by cases waiting⟩
  have emitter : TxSynced [] (.init txBuffer) ⟨.init txBuffer, 0, 0⟩ := .idle rfl rfl
  have receiver := guarded_lockstep timedRxStep RxPunctual RxSynced receiver
    (fun past ctx reference call synced punctual => synced.step call punctual) rxCalls received
  have emitter := guarded_lockstep timedTxStep TxPunctual TxSynced emitter
    (fun past ctx reference call synced punctual => synced.step call punctual) txCalls emitted
  exact ⟨receiver.1, emitter.1⟩

/-- A First Frame in and a First Frame out, each 1000 ms before its poll, with the
wrap in between. -/
theorem isotp_timers_refine_wrap :
    let rxCalls : List TimedRx := [.frame [0x10, 8, 1, 2, 3, 4, 5, 6] 4294967000, .pollTimeout 4294968000]
    let txCalls : List TimedTx := [.start [1, 2, 3, 4, 5, 6, 7, 8] 4294967000, .poll 4294968000]
    (trace timedRxStep (.init (.replicate maxPayloadSize 0)) rxCalls).map Event.output =
        (trace RxReference.step ⟨.init (.replicate maxPayloadSize 0), 0⟩ rxCalls).map Event.output ∧
      (trace timedTxStep (.init (.replicate maxPayloadSize 0)) txCalls).map Event.output =
        (trace TxReference.step ⟨.init (.replicate maxPayloadSize 0), 0, 0⟩ txCalls).map Event.output := by
  have opens : Opens [0x10, 8, 1, 2, 3, 4, 5, 6] 8 [1, 2, 3, 4, 5, 6] :=
    ⟨rfl, ⟨2, rfl, rfl⟩, by decide, by decide, by decide⟩
  refine isotp_timers_refine _ _ _ _ ?_ ?_
  · refine (allEvents_cons _ _ _).mpr ⟨⟨by simp, ?_⟩, (allEvents_cons _ _ _).mpr ⟨⟨?_, fun _ => ?_⟩, allEvents_nil _⟩⟩
    · rintro ⟨⟨_, isPoll⟩, _⟩
      cases isPoll
    · simp [event, TimedRx.time]
    · exact ⟨4294967000, ⟨[], _, [], rfl, ⟨.inr ⟨_, _, _, _, rfl, opens⟩, rfl⟩, by simp⟩, by decide⟩
  · refine (allEvents_cons _ _ _).mpr ⟨⟨by simp, ?_⟩, (allEvents_cons _ _ _).mpr ⟨⟨?_, fun _ => ?_⟩, allEvents_nil _⟩⟩
    · rintro ⟨⟨_, isPoll⟩, _⟩
      cases isPoll
    · simp [event, TimedTx.time]
    · exact ⟨4294967000, ⟨[], _, [], rfl, ⟨.inr ⟨rfl, TxState.noConfusion⟩, rfl⟩, by simp⟩, by decide⟩

end DiagnosticGateway.Isotp
