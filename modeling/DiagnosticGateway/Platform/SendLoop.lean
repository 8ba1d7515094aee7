import Mathlib.Algebra.Order.Floor.Div
import DiagnosticGateway.Isotp.FlowControl
import DiagnosticGateway.Platform.Transmission

/-! The turns of `diag_link_send`, and how it leaves the emitter.

The loop runs until the emitter is idle, so it returns 0 from no other state. Its
deadline resets the emitter. The other ways out do not: a failed call of the
socket ends it with the emitter where that call found it.
-/

set_option autoImplicit false

namespace DiagnosticGateway.Platform
open BigEndian Isotp Traces

/-- An emitter inside a block whose last frame left just now. -/
structure Burst (payload : Bytes) (count : Nat) (blockSize stminMs : UInt8) (inBlock : Nat) (nowMs : UInt32)
    (ctx : TxContext) : Prop where
  emitting : Emitting ctx payload count
  sending : ctx.state = .sending
  limit : ctx.blockSize = blockSize
  gap : ctx.stminMs = stminMs
  spent : blockSize ≠ 0 → ctx.framesInBlock.toNat = inBlock
  last : ctx.lastFrameTimeMs = nowMs

def burstRoom (blockSize stminMs : UInt8) (inBlock left : Nat) : Nat :=
  if stminMs ≠ 0 then 0 else if blockSize = 0 then left else blockSize.toNat - inBlock

section
variable {payload : Bytes} {count : Nat} {blockSize stminMs : UInt8} {inBlock : Nat} {nowMs : UInt32} {ctx : TxContext}

theorem txPoll_burst (emitting : Emitting ctx payload count) (sending : ctx.state = .sending)
    (room : ¬ (ctx.blockSize ≠ 0 ∧ ctx.framesInBlock ≥ ctx.blockSize))
    (due : ¬ nowMs - ctx.lastFrameTimeMs < ctx.stminMs.toUInt32) :
    (txPoll ctx nowMs).2.event = .sendFrame ∧
      ((count + 1 = consecutiveCount payload ∧ (txPoll ctx nowMs).1.state = .idle) ∨
        (count + 1 < consecutiveCount payload ∧
          Burst payload (count + 1) ctx.blockSize ctx.stminMs (ctx.framesInBlock.toNat + 1) nowMs (txPoll ctx nowMs).1)) := by
  have sends : (txPoll ctx nowMs).2.event = .sendFrame := by
    rw [txPoll_sends sending room due]
    rfl
  refine ⟨sends, ?_⟩
  have ready := (txPoll_ready (by simp [sending]) nowMs).2 sends
  have advanced := txPoll_advanced emitting nowMs
  have progress : Isotp.Progress ctx (event txStep ctx (.poll nowMs)) :=
    txPoll_progress (by rintro ⟨_, _, start, _⟩; cases start) rfl
  have type := buildConsecutiveFrame_type ctx
  have produced : consecutiveTime (event txStep ctx (.poll nowMs)) ≠ none := by
    have frame : (txPoll ctx nowMs).2 = (buildConsecutiveFrame ctx).2 := by rw [txPoll_sends sending room due]
    have sent : (buildConsecutiveFrame ctx).2.event = .sendFrame := rfl
    simp [consecutiveTime, event, txStep, frame, type, sent]
  have opened : (txPoll ctx nowMs).1.state = .sending →
      (txPoll ctx nowMs).1.blockSize = ctx.blockSize ∧ (txPoll ctx nowMs).1.stminMs = ctx.stminMs ∧
        (txPoll ctx nowMs).1.framesInBlock = ctx.framesInBlock + 1 ∧ (txPoll ctx nowMs).1.lastFrameTimeMs = nowMs := by
    cases progress with
    | quiet silent => exact absurd silent produced
    | sent _ _ _ _ _ kept => exact kept
  have below : ctx.blockSize ≠ 0 → ctx.framesInBlock.toNat < ctx.blockSize.toNat := fun limited =>
    UInt8.lt_iff_toNat_lt.mp (UInt8.not_le.mp fun full => room ⟨limited, full⟩)
  have small := ctx.blockSize.toNat_lt
  generalize txPoll ctx nowMs = outcome at sends ready advanced opened ⊢
  cases advanced with
  | held _ silent => exact absurd sends silent
  | aborted => cases sends
  | finished idle last => exact .inl ⟨last, idle⟩
  | @sent after next =>
    have sending : after.state = .sending := by
      cases state : after.state with
      | idle => exact absurd state next.busy
      | waitFlowControl => exact absurd state ready
      | sending => rfl
    obtain ⟨size, gap, frames, last⟩ := opened sending
    refine .inr ⟨next.within, ⟨next, sending, size, gap, fun limited => ?_, last⟩⟩
    have one : (ctx.framesInBlock + 1).toNat = (ctx.framesInBlock.toNat + 1) % 256 := rfl
    have bound := below limited
    rw [frames, one]
    exact Nat.mod_eq_of_lt (by omega)

/-- One of the next `n` calls fails, and the frame it loses is not the last of the
`left` frames of the message. -/
def Lost (sends : Nat → Bool) (first n left : Nat) : Prop :=
  ∃ k < n, k + 1 < left ∧ sends (first + k) = false ∧ ∀ j < k, sends (first + j) = true

theorem not_lost_zero (sends : Nat → Bool) (first left : Nat) : ¬ Lost sends first 0 left := by
  rintro ⟨k, below, -⟩
  exact Nat.not_lt_zero k below

theorem lost_succ (sends : Nat → Bool) (first n left : Nat) :
    Lost sends first (n + 1) left ↔
      (sends first = false ∧ 1 < left) ∨ (sends first = true ∧ Lost sends (first + 1) n (left - 1)) := by
  constructor
  · rintro ⟨k, below, more, fails, earlier⟩
    cases k with
    | zero => exact .inl ⟨fails, more⟩
    | succ k =>
      refine .inr ⟨earlier 0 (Nat.zero_lt_succ k), k, by omega, by omega, ?_, fun j before => ?_⟩
      · rwa [Nat.add_assoc, Nat.add_comm 1]
      · rw [Nat.add_assoc, Nat.add_comm 1]
        exact earlier (j + 1) (by omega)
  · rintro (⟨fails, more⟩ | ⟨succeeds, k, below, more, fails, earlier⟩)
    · exact ⟨0, Nat.zero_lt_succ n, more, fails, fun j before => absurd before (Nat.not_lt_zero j)⟩
    · refine ⟨k + 1, by omega, by omega, ?_, fun j before => ?_⟩
      · rwa [Nat.add_assoc, Nat.add_comm 1] at fails
      · cases j with
        | zero => exact succeeds
        | succ j =>
          have sent := earlier j (by omega)
          rwa [Nat.add_assoc, Nat.add_comm 1] at sent

variable {sends : Nat → Bool} {link : DiagLink}

theorem driveTxLoop_idle (idle : link.tx.state = .idle) (guard : Nat) : driveTxLoop sends nowMs guard link = (link, 0) := by
  cases guard with
  | zero => rfl
  | succ guard =>
    have polled : txPoll link.tx nowMs = (link.tx, .clear) := by rw [txPoll, idle]
    rw [driveTxLoop, polled]
    rfl

/-- Fails with frames of the message still to come. -/
def Strands (outcome : DiagLink × Int) : Prop := outcome.2 ≠ 0 ∧ outcome.1.tx.state ≠ .idle

theorem burstRoom_full (full : blockSize.toNat ≤ inBlock) (limited : blockSize ≠ 0) (left : Nat) :
    burstRoom blockSize stminMs inBlock left = 0 := by
  rw [burstRoom, if_neg limited, Nat.sub_eq_zero_of_le full, ite_self]

theorem burstRoom_succ (room : blockSize ≠ 0 → inBlock < blockSize.toNat) {left : Nat} (more : 0 < left) :
    burstRoom blockSize 0 inBlock left = burstRoom blockSize 0 (inBlock + 1) (left - 1) + 1 := by
  simp only [burstRoom, ne_eq, not_true_eq_false, if_false]
  split
  · omega
  · rename_i limited
    have below := room limited
    omega

def Paused (ctx : TxContext) (nowMs : UInt32) : Prop :=
  (ctx.blockSize ≠ 0 ∧ ctx.framesInBlock ≥ ctx.blockSize) ∨ nowMs - ctx.lastFrameTimeMs < ctx.stminMs.toUInt32

theorem Burst.paused (burst : Burst payload count blockSize stminMs inBlock nowMs ctx) (paused : Paused ctx nowMs)
    (left : Nat) : (∃ tx, txPoll ctx nowMs = (tx, .waiting)) ∧ burstRoom blockSize stminMs inBlock left = 0 := by
  obtain ⟨_, sending, limit, gap, spent, _⟩ := burst
  by_cases full : ctx.blockSize ≠ 0 ∧ ctx.framesInBlock ≥ ctx.blockSize
  · have polled : txPoll ctx nowMs = (ctx.awaitFlowControl nowMs, .waiting) := by
      rw [txPoll, sending]
      exact if_pos full
    obtain ⟨limited, full⟩ := full
    rw [ge_iff_le, UInt8.le_iff_toNat_le] at full
    rw [limit] at limited full
    rw [spent limited] at full
    exact ⟨⟨_, polled⟩, burstRoom_full full limited left⟩
  · have early := paused.resolve_left full
    have polled : txPoll ctx nowMs = (ctx, .waiting) := by
      rw [txPoll, sending]
      dsimp only
      rw [if_neg full, if_pos early]
    have apart : stminMs ≠ 0 := by
      rintro rfl
      rw [gap] at early
      exact absurd early (Nat.not_lt_zero _)
    exact ⟨⟨_, polled⟩, if_pos apart⟩

theorem Burst.goesOn (burst : Burst payload count blockSize stminMs inBlock nowMs ctx) (free : ¬ Paused ctx nowMs) :
    stminMs = 0 ∧ (blockSize ≠ 0 → inBlock < blockSize.toNat) ∧ (txPoll ctx nowMs).2.event = .sendFrame ∧
      ((count + 1 = consecutiveCount payload ∧ (txPoll ctx nowMs).1.state = .idle) ∨
        (count + 1 < consecutiveCount payload ∧
          Burst payload (count + 1) blockSize 0 (inBlock + 1) nowMs (txPoll ctx nowMs).1)) := by
  obtain ⟨emitting, sending, limit, gap, spent, last⟩ := burst
  obtain ⟨vacant, due⟩ := not_or.mp free
  obtain ⟨sent, next⟩ := txPoll_burst emitting sending vacant due
  have close : stminMs = 0 := by
    rw [last, gap, UInt32.sub_self, UInt32.not_lt, UInt32.le_iff_toNat_le] at due
    exact UInt8.toNat_inj.mp (Nat.le_zero.mp due)
  subst close
  have room : blockSize ≠ 0 → inBlock < blockSize.toNat := by
    intro limited
    rw [← spent limited, ← limit, ← UInt8.lt_iff_toNat_lt]
    exact UInt8.not_le.mp fun full => vacant ⟨limit ▸ limited, full⟩
  refine ⟨rfl, room, sent, next.imp_right fun ⟨further, burst⟩ => ⟨further, ?_⟩⟩
  exact ⟨burst.emitting, burst.sending, burst.limit.trans limit, burst.gap.trans gap,
    fun limited => by rw [burst.spent (limit.symm ▸ limited), spent limited], burst.last⟩

theorem sendFrame_calls (link : DiagLink) (data : Bytes) :
    (sendFrame sends link data).1.calls.length = link.calls.length + 1 := List.length_append ..

theorem sendFrame_tx (link : DiagLink) (data : Bytes) : (sendFrame sends link data).1.tx = link.tx := rfl

theorem driveTxLoop_succ {guard : Nat} (sent : (txPoll link.tx nowMs).2.event = .sendFrame) :
    driveTxLoop sends nowMs (guard + 1) link =
      let tx := (txPoll link.tx nowMs).1
      let next := (sendFrame sends { link with tx } (txPoll link.tx nowMs).2.frame).1
      if sends link.calls.length = true then driveTxLoop sends nowMs guard next else (next, -1) := by
  rw [driveTxLoop]
  generalize txPoll link.tx nowMs = outcome at sent
  obtain ⟨tx, out⟩ := outcome
  dsimp only at sent ⊢
  rw [sent]
  by_cases succeeds : sends link.calls.length = true
  · simp [sendFrame, succeeds]
  · simp [sendFrame, succeeds]

theorem driveTxLoop_lost {guard : Nat} (burst : Burst payload count blockSize stminMs inBlock nowMs link.tx)
    (enough : consecutiveCount payload - count ≤ guard) :
    Strands (driveTxLoop sends nowMs guard link) ↔
      Lost sends link.calls.length (burstRoom blockSize stminMs inBlock (consecutiveCount payload - count))
        (consecutiveCount payload - count) := by
  induction guard generalizing link count inBlock with
  | zero =>
    have more := burst.emitting.within
    omega
  | succ guard ih =>
    have more := burst.emitting.within
    by_cases paused : Paused link.tx nowMs
    · obtain ⟨⟨tx, polled⟩, room⟩ := burst.paused paused (consecutiveCount payload - count)
      rw [room, driveTxLoop, polled]
      exact iff_of_false (fun strands => strands.1 rfl) (not_lost_zero _ _ _)
    · obtain ⟨rfl, room, sent, next⟩ := burst.goesOn paused
      rw [driveTxLoop_succ sent, burstRoom_succ room (by omega), lost_succ]
      have calls := @sendFrame_calls sends { link with tx := (txPoll link.tx nowMs).1 } (txPoll link.tx nowMs).2.frame
      have state := @sendFrame_tx sends { link with tx := (txPoll link.tx nowMs).1 } (txPoll link.tx nowMs).2.frame
      dsimp only at calls state ⊢
      generalize (sendFrame sends { link with tx := (txPoll link.tx nowMs).1 } (txPoll link.tx nowMs).2.frame).1 = after
        at calls state ⊢
      rw [← state] at next
      cases succeeds : sends link.calls.length with
      | false =>
        rw [if_neg (by simp), or_iff_left (by simp), and_iff_right rfl]
        rcases next with ⟨final, idle⟩ | ⟨further, burst⟩
        · exact iff_of_false (fun strands => strands.2 idle) (by omega)
        · exact iff_of_true ⟨by simp, burst.emitting.busy⟩ (by omega)
      | true =>
        rw [if_pos rfl, or_iff_right (by simp), and_iff_right rfl, ← calls]
        rcases next with ⟨final, idle⟩ | ⟨further, burst⟩
        · rw [driveTxLoop_idle idle]
          refine iff_of_false (fun strands => strands.1 rfl) ?_
          rintro ⟨k, -, below, -⟩
          omega
        · have left : consecutiveCount payload - (count + 1) = consecutiveCount payload - count - 1 := by omega
          rw [← left]
          exact ih burst (by omega)

theorem consecutiveCount_le (fits : payload.length ≤ maxPayloadSize) : consecutiveCount payload ≤ 585 := by
  by_contra more
  have beyond := lt_consecutiveCount.mp (Nat.not_le.mp more)
  simp only [maxPayloadSize] at fits
  omega

/-! ## One turn -/

/-- The frames a ContinueToSend lets out at once. -/
def burstSize (blockSize stminMs : UInt8) (left : Nat) : Nat :=
  if stminMs ≠ 0 then 1 else if blockSize = 0 then left else blockSize.toNat

def framesLeft (ctx : TxContext) : Nat := (ctx.totalLength - ctx.sentLength) ⌈/⌉ 7

/-- A turn that fails and leaves the emitter busy: the socket cannot be read, a
frame of a burst is lost before the last one, or the Flow Control that answers an
incoming First Frame is lost. -/
inductive StrandingTurn (sends : Nat → Bool) (link : DiagLink) (turn : Turn) : Prop where
  | unreadable (failed : turn.received = .error)
  | burst (data : Bytes) (blockSize stmin : UInt8) (received : turn.received = .frame link.rxCanId data)
      (waiting : link.tx.state = .waitFlowControl)
      (decoded : decodeFlowControl data = .ok (.continueToSend, blockSize, stmin))
      (lost : Lost sends link.calls.length (burstSize blockSize (stminToMs stmin) (framesLeft link.tx)) (framesLeft link.tx))
  | answer (data : Bytes) (received : turn.received = .frame link.rxCanId data)
      (first : (∃ length payload, Opens data length payload) ∨ Overflows data) (failed : sends link.calls.length = false)

theorem framesLeft_emitting (emitting : Emitting ctx payload count) :
    framesLeft ctx = consecutiveCount payload - count := by
  rw [framesLeft, emitting.total, emitting.sent, consecutiveCount, Nat.ceilDiv_eq_add_pred_div,
    Nat.ceilDiv_eq_add_pred_div]
  simp only [ffFirstPayload, cfMaxPayload]
  omega

theorem process_answers_iff {rx : RxContext} {frame : Bytes} :
    (process rx frame nowMs).2.event = .sendFlowControl ↔ (∃ length payload, Opens frame length payload) ∨ Overflows frame := by
  have processed := process_processed rx frame nowMs
  have other : frameType frame ≠ .first → ¬ ((∃ length payload, Opens frame length payload) ∨ Overflows frame) := by
    rintro notFirst (⟨_, _, opens⟩ | overflows)
    · exact notFirst opens.type
    · exact notFirst overflows.1
  generalize process rx frame nowMs = outcome at processed
  cases processed with
  | empty nothing =>
    subst nothing
    refine iff_of_false RxEvent.noConfusion ?_
    rintro (⟨_, _, opens⟩ | overflows)
    · exact (passesOver_nil .idle).notOpening _ _ opens
    · exact (passesOver_nil .idle).notOverflow overflows
  | rejected reason failure passes =>
    refine iff_of_false RxEvent.noConfusion ?_
    rintro (⟨_, _, opens⟩ | overflows)
    · exact passes.notOpening _ _ opens
    · exact passes.notOverflow overflows
  | single base payload decoded =>
    refine iff_of_false RxEvent.noConfusion (other ?_)
    rw [(decodeSingleFrame_ok decoded).1]
    exact FrameType.noConfusion
  | opened length payload opens => exact iff_of_true rfl (.inl ⟨length, payload, opens⟩)
  | overflowed overflows => exact iff_of_true rfl (.inr overflows)
  | outOfSequence _ consecutive | tooLong _ consecutive | extended _ consecutive | completed _ consecutive =>
    refine iff_of_false RxEvent.noConfusion (other ?_)
    rw [consecutive.1]
    exact FrameType.noConfusion

theorem burstSize_eq (blockSize stminMs : UInt8) {left : Nat} (more : 0 < left) :
    burstSize blockSize stminMs left = burstRoom blockSize stminMs 1 (left - 1) + 1 := by
  rw [burstSize, burstRoom]
  split
  · rfl
  · split
    · omega
    · rename_i limited
      have positive : 0 < blockSize.toNat := Nat.pos_of_ne_zero fun zero => limited (UInt8.toNat_inj.mp zero)
      omega

theorem txPoll_first (emitting : Emitting ctx payload count) (blockSize stminMs : UInt8) (nowMs : UInt32) :
    let tx := (txPoll (ctx.resume blockSize stminMs nowMs) nowMs).1
    (count + 1 = consecutiveCount payload ∧ tx.state = .idle) ∨
      (count + 1 < consecutiveCount payload ∧ Burst payload (count + 1) blockSize stminMs 1 nowMs tx) := by
  exact (txPoll_burst (emitting.resume blockSize stminMs nowMs) (TxContext.resume_state ..)
    (resume_room ctx blockSize stminMs nowMs) (resume_due ctx blockSize stminMs nowMs)).2

theorem driveTx_lost (fits : payload.length ≤ maxPayloadSize)
    (next : (count + 1 = consecutiveCount payload ∧ link.tx.state = .idle) ∨
      (count + 1 < consecutiveCount payload ∧ Burst payload (count + 1) blockSize stminMs 1 nowMs link.tx)) :
    Strands (driveTx sends link nowMs) ↔
      Lost sends link.calls.length (burstRoom blockSize stminMs 1 (consecutiveCount payload - count - 1))
        (consecutiveCount payload - count - 1) := by
  rcases next with ⟨final, idle⟩ | ⟨further, burst⟩
  · rw [driveTx, if_pos idle]
    refine iff_of_false (fun strands => strands.1 rfl) ?_
    rintro ⟨k, -, below, -⟩
    omega
  · have few := consecutiveCount_le fits
    have left : consecutiveCount payload - (count + 1) = consecutiveCount payload - count - 1 := by omega
    rw [driveTx, if_neg burst.emitting.busy, ← left]
    exact driveTxLoop_lost burst (by omega)

theorem continue_lost (emitting : Emitting ctx payload count) (blockSize stminMs : UInt8) (nowMs : UInt32)
    {next : DiagLink} (same : next.tx = (txPoll (ctx.resume blockSize stminMs nowMs) nowMs).1)
    (calls : next.calls.length = link.calls.length + 1) :
    (if sends link.calls.length = true then Strands (driveTx sends next nowMs) else next.tx.state ≠ .idle) ↔
      Lost sends link.calls.length (burstSize blockSize stminMs (framesLeft ctx)) (framesLeft ctx) := by
  have first := txPoll_first emitting blockSize stminMs nowMs
  have more := emitting.within
  dsimp only at first
  rw [← same] at first
  rw [framesLeft_emitting emitting, burstSize_eq _ _ (by omega), lost_succ]
  cases succeeds : sends link.calls.length with
  | false =>
    rw [if_neg (by simp), or_iff_left (by simp), and_iff_right rfl]
    rcases first with ⟨final, idle⟩ | ⟨further, burst⟩
    · exact iff_of_false (fun busy => busy idle) (by omega)
    · exact iff_of_true burst.emitting.busy (by omega)
  | true =>
    rw [if_pos rfl, or_iff_right (by simp), and_iff_right rfl, ← calls]
    exact driveTx_lost emitting.fits first

structure Opened (link : DiagLink) (blockSize stmin : UInt8) (nowMs : UInt32) (next : DiagLink) : Prop where
  tx : next.tx = (txPoll (link.tx.resume blockSize (stminToMs stmin) nowMs) nowMs).1
  rx : next.rx = link.rx
  calls : next.calls.length = link.calls.length + 1

theorem Opened.ready {blockSize stmin : UInt8} {next : DiagLink} (opened : Opened link blockSize stmin nowMs next) :
    next.tx.state ≠ .waitFlowControl := by
  rw [opened.tx]
  exact (txPoll_ready (by simp) nowMs).2 (txPoll_resume link.tx blockSize (stminToMs stmin) nowMs)

/-- What a Flow Control does to a busy emitter. -/
inductive FlowHandled (sends : Nat → Bool) (link : DiagLink) (data : Bytes) (nowMs : UInt32) : DiagLink × PollResult → Prop where
  | ignored (ready : link.tx.state ≠ .waitFlowControl) : FlowHandled sends link data nowMs (link, .nothing)
  | malformed (reason : Result) (waiting : link.tx.state = .waitFlowControl) (decoded : decodeFlowControl data = .error reason) :
      FlowHandled sends link data nowMs ({ link with tx := link.tx.goIdle, lastError := reason }, .error)
  | overflowed (blockSize stmin : UInt8) (waiting : link.tx.state = .waitFlowControl)
      (decoded : decodeFlowControl data = .ok (.overflow, blockSize, stmin)) :
      FlowHandled sends link data nowMs ({ link with tx := link.tx.goIdle, lastError := .errAborted }, .error)
  | waits (blockSize stmin : UInt8) (waiting : link.tx.state = .waitFlowControl)
      (decoded : decodeFlowControl data = .ok (.wait, blockSize, stmin)) :
      FlowHandled sends link data nowMs ({ link with tx := link.tx.extendWait nowMs }, .nothing)
  | lost (blockSize stmin : UInt8) (next : DiagLink) (waiting : link.tx.state = .waitFlowControl)
      (decoded : decodeFlowControl data = .ok (.continueToSend, blockSize, stmin))
      (opened : Opened link blockSize stmin nowMs next) (fails : sends link.calls.length = false) :
      FlowHandled sends link data nowMs (next, .error)
  | driven (blockSize stmin : UInt8) (next : DiagLink) (waiting : link.tx.state = .waitFlowControl)
      (decoded : decodeFlowControl data = .ok (.continueToSend, blockSize, stmin))
      (opened : Opened link blockSize stmin nowMs next) (leaves : sends link.calls.length = true) :
      FlowHandled sends link data nowMs
        ((driveTx sends next nowMs).1, if (driveTx sends next nowMs).2 = 0 then .nothing else .error)

theorem handleFrame_flowControl (busy : link.tx.state ≠ .idle) {data : Bytes} (type : getFrameType data = .ok .flowControl) :
    FlowHandled sends link data nowMs (handleFrame sends link data nowMs) := by
  have ours : FrameType.flowControl = .flowControl ∧ link.tx.state ≠ .idle := ⟨rfl, busy⟩
  rw [handleFrame, type]
  dsimp only
  rw [if_pos ours]
  by_cases waiting : link.tx.state = .waitFlowControl
  · cases decoded : decodeFlowControl data with
    | error reason =>
      rw [txOnFlowControl_malformed waiting decoded]
      exact .malformed reason waiting decoded
    | ok fields =>
      obtain ⟨status, blockSize, stmin⟩ := fields
      cases status with
      | continueToSend =>
        rw [txOnFlowControl_continue waiting decoded]
        have first := txPoll_resume link.tx blockSize (stminToMs stmin) nowMs
        generalize same : txPoll (link.tx.resume blockSize (stminToMs stmin) nowMs) nowMs = outcome at first ⊢
        obtain ⟨tx, out⟩ := outcome
        dsimp only at first ⊢
        rw [first]
        have opened : Opened link blockSize stmin nowMs (sendFrame sends { link with tx } out.frame).1 :=
          ⟨congrArg Prod.fst same.symm, rfl, sendFrame_calls _ _⟩
        have code : (sendFrame sends { link with tx } out.frame).2 = if sends link.calls.length then 0 else -1 := rfl
        generalize sendFrame sends { link with tx } out.frame = sent at opened code ⊢
        obtain ⟨next, _⟩ := sent
        dsimp only at opened code ⊢
        rw [code]
        cases leaves : sends link.calls.length with
        | false => exact .lost blockSize stmin next waiting decoded opened leaves
        | true => exact .driven blockSize stmin next waiting decoded opened leaves
      | wait =>
        rw [txOnFlowControl_wait waiting decoded]
        exact .waits blockSize stmin waiting decoded
      | overflow =>
        rw [txOnFlowControl_overflow waiting decoded]
        exact .overflowed blockSize stmin waiting decoded
  · rw [txOnFlowControl_ignored waiting]
    exact .ignored waiting

def PollStrands (outcome : DiagLink × PollResult) : Prop := outcome.2 = .error ∧ outcome.1.tx.state ≠ .idle

theorem flowControl_strands_iff (emitting : Emitting link.tx payload count) {data : Bytes}
    (type : getFrameType data = .ok .flowControl) :
    PollStrands (handleFrame sends link data nowMs) ↔
      link.tx.state = .waitFlowControl ∧ ∃ blockSize stmin, decodeFlowControl data = .ok (.continueToSend, blockSize, stmin) ∧
        Lost sends link.calls.length (burstSize blockSize (stminToMs stmin) (framesLeft link.tx)) (framesLeft link.tx) := by
  have handled := @handleFrame_flowControl nowMs sends link emitting.busy data type
  generalize handleFrame sends link data nowMs = outcome at handled
  cases handled with
  | ignored ready => exact iff_of_false (fun strands => PollResult.noConfusion strands.1) fun both => ready both.1
  | malformed _ _ decoded | overflowed _ _ _ decoded =>
    refine iff_of_false (fun strands => strands.2 rfl) ?_
    rintro ⟨_, _, _, other, _⟩
    cases decoded.symm.trans other
  | waits _ _ _ decoded =>
    refine iff_of_false (fun strands => PollResult.noConfusion strands.1) ?_
    rintro ⟨_, _, _, other, _⟩
    cases decoded.symm.trans other
  | lost blockSize stmin next waiting decoded opened fails =>
    have lost := @continue_lost _ _ _ sends link emitting blockSize (stminToMs stmin) nowMs next opened.tx opened.calls
    rw [fails, if_neg Bool.false_ne_true] at lost
    constructor
    · intro strands
      exact ⟨waiting, blockSize, stmin, decoded, lost.mp strands.2⟩
    · rintro ⟨_, _, _, other, gone⟩
      cases decoded.symm.trans other
      exact ⟨rfl, lost.mpr gone⟩
  | driven blockSize stmin next waiting decoded opened leaves =>
    have lost := @continue_lost _ _ _ sends link emitting blockSize (stminToMs stmin) nowMs next opened.tx opened.calls
    rw [leaves, if_pos rfl] at lost
    have failed : (if (driveTx sends next nowMs).2 = 0 then PollResult.nothing else .error) = .error ↔
        (driveTx sends next nowMs).2 ≠ 0 := by
      split
      · rename_i code
        simp [code]
      · rename_i code
        simp [code]
    rw [PollStrands, failed]
    constructor
    · intro strands
      exact ⟨waiting, blockSize, stmin, decoded, lost.mp strands⟩
    · rintro ⟨_, _, _, other, gone⟩
      cases decoded.symm.trans other
      exact lost.mpr gone

theorem reception_strands_iff (busy : link.tx.state ≠ .idle) {data : Bytes} (ours : ForReceiver link data) :
    PollStrands (handleFrame sends link data nowMs) ↔
      ((∃ length payload, Opens data length payload) ∨ Overflows data) ∧ sends link.calls.length = false := by
  have handled := @handleFrame_reception sends link data nowMs ours
  rw [← @process_answers_iff nowMs link.rx]
  generalize handleFrame sends link data nowMs = outcome at handled
  cases handled with
  | unreadable empty =>
    subst empty
    exact iff_of_false (fun strands => PollResult.noConfusion strands.1) fun answers => RxEvent.noConfusion answers.1
  | answered rx out processed event =>
    rw [processed]
    by_cases succeeds : sends link.calls.length = true
    · simp [PollStrands, succeeds]
    · simp [PollStrands, sendFrame_tx, succeeds, event, busy]
  | completed rx out processed event | aborted rx out processed event | quiet rx out processed event =>
    rw [processed]
    simp [PollStrands, event]

theorem decodeFlowControl_type {data : Bytes} {fields : FlowStatus × UInt8 × UInt8}
    (decoded : decodeFlowControl data = .ok fields) : getFrameType data = .ok .flowControl := by
  rw [decodeFlowControl] at decoded
  split at decoded
  · cases decoded
  · rename_i long
    split at decoded
    · cases decoded
    · rename_i type
      have nonempty : ¬ data.length < 1 := fun empty => long (Nat.lt_of_lt_of_le empty (by decide))
      rw [getFrameType, if_neg nonempty, not_not.mp type]

theorem diagLinkPoll_strands_iff (emitting : Emitting link.tx payload count) (turn : Turn) :
    PollStrands (diagLinkPoll sends link turn) ↔ StrandingTurn sends link turn := by
  have polled := @diagLinkPoll_polled sends link turn
  generalize diagLinkPoll sends link turn = outcome at polled
  cases polled with
  | failed received => exact iff_of_true ⟨rfl, emitting.busy⟩ (.unreadable received)
  | silent received =>
    refine iff_of_false (fun strands => PollResult.noConfusion strands.1) fun stranding => ?_
    cases stranding with
    | unreadable got => cases received.symm.trans got
    | burst _ _ _ got => cases received.symm.trans got
    | answer _ got => cases received.symm.trans got
  | foreign canId data received other =>
    refine iff_of_false (fun strands => PollResult.noConfusion strands.1) fun stranding => ?_
    cases stranding with
    | unreadable got => cases received.symm.trans got
    | burst _ _ _ got => exact other (Received.frame.inj (received.symm.trans got)).1
    | answer _ got => exact other (Received.frame.inj (received.symm.trans got)).1
  | flowControl data received type =>
    rw [flowControl_strands_iff emitting type]
    constructor
    · rintro ⟨waiting, blockSize, stmin, decoded, lost⟩
      exact .burst data blockSize stmin received waiting decoded lost
    · intro stranding
      cases stranding with
      | unreadable got => cases received.symm.trans got
      | burst _ blockSize stmin got waiting decoded lost =>
        cases received.symm.trans got
        exact ⟨waiting, blockSize, stmin, decoded, lost⟩
      | answer _ got first =>
        cases received.symm.trans got
        have isFirst : frameType data = .first := by
          rcases first with ⟨_, _, opens⟩ | overflows
          · exact opens.type
          · exact overflows.1
        rw [getFrameType, isFirst] at type
        split at type
        · cases type
        · cases type
  | reception data received ours =>
    rw [reception_strands_iff emitting.busy ours]
    constructor
    · rintro ⟨first, failed⟩
      exact .answer data received first failed
    · intro stranding
      cases stranding with
      | unreadable got => cases received.symm.trans got
      | burst _ _ _ got _ decoded =>
        cases received.symm.trans got
        exact absurd ⟨decodeFlowControl_type decoded, emitting.busy⟩ ours
      | answer _ got first failed =>
        cases received.symm.trans got
        exact ⟨first, failed⟩

def sendTurns (sends : Nat → Bool) (startMs : UInt32) : List Turn → DiagLink → List (DiagLink × Turn)
  | [], _ => []
  | turn :: rest, link =>
    if link.tx.state = .idle then []
    else
      let (next, result) := diagLinkPoll sends link turn
      (link, turn) ::
        if result = .error ∨ turn.laterMs - startMs ≥ sendDeadlineMs then [] else sendTurns sends startMs rest next

variable {startMs : UInt32} {turn : Turn} {turns : List Turn}

theorem sendTurns_cons (busy : link.tx.state ≠ .idle) :
    sendTurns sends startMs (turn :: turns) link =
      (link, turn) ::
        if (diagLinkPoll sends link turn).2 = .error ∨ turn.laterMs - startMs ≥ sendDeadlineMs then []
        else sendTurns sends startMs turns (diagLinkPoll sends link turn).1 := by
  rw [sendTurns, if_neg busy]

theorem diagLinkSendLoop_cons (busy : link.tx.state ≠ .idle) :
    diagLinkSendLoop sends startMs (turn :: turns) link =
      let next := (diagLinkPoll sends link turn).1
      if (diagLinkPoll sends link turn).2 = .error then some (next, -1)
      else if turn.laterMs - startMs ≥ sendDeadlineMs then
        some ({ next with lastError := .errTimeout, tx := next.tx.goIdle }, -1)
      else diagLinkSendLoop sends startMs turns next := by
  rw [diagLinkSendLoop, if_neg busy]

/-- The induction on the loop: it ends with an emitter at rest, with a turn that fails
or with a late one, or goes on behind a turn. -/
theorem sendLoop_induction {motive : DiagLink → List (DiagLink × Turn) → DiagLink × Int → Prop}
    (rests : ∀ link, link.tx.state = .idle → motive link [] (link, 0))
    (fails : ∀ link turn, link.tx.state ≠ .idle → (diagLinkPoll sends link turn).2 = .error →
      motive link [(link, turn)] ((diagLinkPoll sends link turn).1, -1))
    (gives : ∀ link turn, link.tx.state ≠ .idle → (diagLinkPoll sends link turn).2 ≠ .error →
      turn.laterMs - startMs ≥ sendDeadlineMs →
      let next := (diagLinkPoll sends link turn).1
      motive link [(link, turn)] ({ next with lastError := .errTimeout, tx := next.tx.goIdle }, -1))
    (goes : ∀ link turn visits outcome, link.tx.state ≠ .idle → (diagLinkPoll sends link turn).2 ≠ .error →
      ¬ turn.laterMs - startMs ≥ sendDeadlineMs → motive (diagLinkPoll sends link turn).1 visits outcome →
      motive link ((link, turn) :: visits) outcome)
    {outcome : DiagLink × Int} (returned : diagLinkSendLoop sends startMs turns link = some outcome) :
    motive link (sendTurns sends startMs turns link) outcome := by
  induction turns generalizing link with
  | nil =>
    rw [diagLinkSendLoop] at returned
    split at returned
    · rename_i idle
      cases returned
      exact rests link idle
    · cases returned
  | cons turn rest ih =>
    by_cases idle : link.tx.state = .idle
    · rw [diagLinkSendLoop, if_pos idle] at returned
      rw [sendTurns, if_pos idle]
      cases returned
      exact rests link idle
    · rw [diagLinkSendLoop_cons idle] at returned
      rw [sendTurns_cons idle]
      dsimp only at returned
      by_cases failed : (diagLinkPoll sends link turn).2 = .error
      · rw [if_pos failed] at returned
        rw [if_pos (.inl failed)]
        cases returned
        exact fails link turn idle failed
      · rw [if_neg failed] at returned
        by_cases late : turn.laterMs - startMs ≥ sendDeadlineMs
        · rw [if_pos late] at returned
          rw [if_pos (.inr late)]
          cases returned
          exact gives link turn idle failed late
        · rw [if_neg late] at returned
          rw [if_neg (not_or.mpr ⟨failed, late⟩)]
          exact goes link turn _ outcome idle failed late (ih returned)

theorem sendLoop_idle_iff {calls : List SendCall} {final : DiagLink} {code : Int} (long : 7 < payload.length)
    (progress : Progress payload link.tx calls)
    (returned : diagLinkSendLoop sends startMs turns link = some (final, code)) :
    final.tx.state = .idle ↔ ∀ visit ∈ sendTurns sends startMs turns link, ¬ StrandingTurn sends visit.1 visit.2 := by
  refine @sendLoop_induction _ _ _ _ (fun link visits outcome => ∀ calls, Progress payload link.tx calls →
    (outcome.1.tx.state = .idle ↔ ∀ visit ∈ visits, ¬ StrandingTurn sends visit.1 visit.2))
    (fun link idle _ _ => ?rests) (fun link turn busy failed _ progress => ?fails)
    (fun link turn busy failed _ _ progress => ?gives)
    (fun link turn visits outcome busy failed _ ih _ progress => ?goes) _ returned calls progress
  case rests => exact iff_of_true idle (by simp)
  all_goals
    obtain ⟨count, emitting, -⟩ := progress_busy progress busy
    have strands := @diagLinkPoll_strands_iff _ _ sends link emitting turn
    rw [List.forall_mem_cons, ← strands]
  case fails => simp [PollStrands, failed]
  case gives => exact iff_of_true rfl ⟨fun stranded => failed stranded.1, by simp⟩
  case goes =>
    obtain ⟨added, step⟩ := diagLinkPoll_goesOn long busy progress turn failed
    rw [and_iff_right fun stranded : PollStrands _ => failed stranded.1]
    exact ih _ step.progress

theorem txStart_idle_notBusy {tx : TxContext} (idle : tx.state = .idle) (other : Bytes) (laterMs : UInt32) :
    (txStart tx other laterMs).2.1 ≠ .errBusy := by
  rw [txStart, if_neg (not_not.mpr idle)]
  split
  · exact Result.noConfusion
  · rename_i nonempty
    split
    · exact Result.noConfusion
    · split
      · rename_i short
        rw [encodeSingleFrame_canonical nonempty short]
        exact Result.noConfusion
      · exact Result.noConfusion

end

theorem mem_sendTurns {sends : Nat → Bool} {startMs : UInt32} {turns : List Turn} {link : DiagLink}
    {visit : DiagLink × Turn} (member : visit ∈ sendTurns sends startMs turns link) : visit.2 ∈ turns := by
  induction turns generalizing link with
  | nil => cases member
  | cons turn rest ih =>
    by_cases idle : link.tx.state = .idle
    · rw [sendTurns, if_pos idle] at member
      cases member
    · rw [sendTurns_cons idle, List.mem_cons] at member
      rcases member with rfl | later
      · exact List.mem_cons_self
      · generalize (diagLinkPoll sends link turn).1 = next at later
        split at later
        · cases later
        · exact List.mem_cons_of_mem _ (ih later)

/-- The emitter is idle, and no message given to it is refused as busy. -/
def Reusable (link : DiagLink) : Prop :=
  link.tx.state = .idle ∧ ∀ other laterMs, (txStart link.tx other laterMs).2.1 ≠ .errBusy

theorem reusable_iff (link : DiagLink) : Reusable link ↔ link.tx.state = .idle :=
  and_iff_left_of_imp fun idle => txStart_idle_notBusy idle

theorem diagLinkSend_refused {sends : Nat → Bool} {link : DiagLink} {payload : Bytes} (idle : link.tx.state = .idle)
    (bad : payload = [] ∨ maxPayloadSize < payload.length) (startMs : UInt32) (turns : List Turn) :
    diagLinkSend sends link payload startMs turns = some ({ link with lastError := .errInvalidLength }, -1) := by
  have refused : (txStart link.tx payload startMs).2.1 ≠ .ok := by
    rw [txStart, if_neg (not_not.mpr idle)]
    rcases bad with rfl | large
    · exact Result.noConfusion
    · rw [if_neg (Nat.ne_of_gt (Nat.zero_lt_of_lt large)), if_pos large]
      exact Result.noConfusion
  have kept := txStart_refused startMs refused
  rw [diagLinkSend]
  generalize txStart link.tx payload startMs = start at refused kept ⊢
  obtain ⟨tx, result, out⟩ := start
  dsimp only at refused kept ⊢
  rw [if_pos refused, kept]

theorem diagLinkSend_rests {sends : Nat → Bool} {link final : DiagLink} {payload : Bytes} {startMs : UInt32}
    {turns : List Turn} {code : Int} (idle : link.tx.state = .idle)
    (single : ¬ (7 < payload.length ∧ payload.length ≤ maxPayloadSize))
    (returned : diagLinkSend sends link payload startMs turns = some (final, code)) : final.tx.state = .idle := by
  by_cases bad : payload = [] ∨ maxPayloadSize < payload.length
  · rw [diagLinkSend_refused idle bad] at returned
    cases returned
    exact idle
  obtain ⟨nonempty, fits⟩ := not_or.mp bad
  have fits := Nat.not_lt.mp fits
  obtain ⟨frame, begun⟩ := @started_begun _ _ sends startMs idle nonempty fits
  obtain ⟨rests, -⟩ := begun.single (Nat.not_lt.mp fun long => single ⟨long, fits⟩)
  rw [begun.returns] at returned
  split at returned
  · cases turns with
    | nil | cons =>
      rw [diagLinkSendLoop, if_pos rests] at returned
      cases returned
      exact rests
  · cases returned
    exact rests

/-- Whatever it returns, `diag_link_send` leaves the emitter reusable exactly when
neither the First Frame nor a turn of the loop strands it. -/
theorem diagLinkSend_reusable_iff (sends : Nat → Bool) (link final : DiagLink) (payload : Bytes) (startMs : UInt32)
    (turns : List Turn) (code : Int) (idle : link.tx.state = .idle)
    (returned : diagLinkSend sends link payload startMs turns = some (final, code)) :
    Reusable final ↔
      (7 < payload.length → payload.length ≤ maxPayloadSize → sends link.calls.length = true ∧
        ∀ visit ∈ sendTurns sends startMs turns (started sends link payload startMs),
          ¬ StrandingTurn sends visit.1 visit.2) := by
  rw [reusable_iff, ← and_imp]
  by_cases several : 7 < payload.length ∧ payload.length ≤ maxPayloadSize
  · obtain ⟨long, fits⟩ := several
    have nonempty : payload ≠ [] := List.ne_nil_of_length_pos (Nat.zero_lt_of_lt long)
    obtain ⟨frame, begun⟩ := @started_begun _ _ sends startMs idle nonempty fits
    obtain ⟨emitting, opening⟩ := begun.several long
    rw [forall_prop_of_true ⟨long, fits⟩]
    rw [begun.returns] at returned
    cases succeeds : sends link.calls.length with
    | false =>
      rw [succeeds, if_neg Bool.false_ne_true] at returned
      cases returned
      exact iff_of_false emitting.busy fun both => Bool.noConfusion both.1
    | true =>
      rw [succeeds, if_pos rfl] at returned
      rw [and_iff_right rfl]
      have progress : Progress payload (started sends link payload startMs).tx [SendCall.mk link.txCanId frame true] :=
        .emitting 0 emitting opening.symm
      exact sendLoop_idle_iff long progress returned
  · rw [forall_prop_of_false several]
    exact iff_true_intro (diagLinkSend_rests idle several returned)

/-- The peer lets the emitter continue, and every call succeeds. -/
theorem diagLinkSend_reusable_eight : ∃ final,
    diagLinkSend (fun _ => true) (freshLink (.replicate maxPayloadSize 0)) [1, 2, 3, 4, 5, 6, 7, 8] 0
      [⟨.frame 0x7E8 [0x30, 0, 0], 1, 1⟩] = some (final, 0) ∧ Reusable final := by
  have returns : ∃ final, diagLinkSend (fun _ => true) (freshLink (.replicate maxPayloadSize 0)) [1, 2, 3, 4, 5, 6, 7, 8] 0
      [⟨.frame 0x7E8 [0x30, 0, 0], 1, 1⟩] = some (final, 0) := ⟨_, rfl⟩
  obtain ⟨final, returned⟩ := returns
  refine ⟨final, returned, (diagLinkSend_reusable_iff _ _ _ _ _ _ _ rfl returned).mpr fun _ _ => ⟨rfl, ?_⟩⟩
  rintro ⟨link, turn⟩ member (failed | ⟨_, _, _, _, _, _, _, _, _, lost, _⟩ | ⟨_, _, _, failed⟩)
  · rw [List.mem_singleton.mp (mem_sendTurns member)] at failed
    cases failed
  · cases lost
  · cases failed

/-- The First Frame is lost, and the next message is refused as busy. -/
theorem lost_first_frame_strands : ∃ final,
    diagLinkSend (fun call => call ≠ 0) (freshLink (.replicate maxPayloadSize 0)) [1, 2, 3, 4, 5, 6, 7, 8] 0 [] =
        some (final, -1) ∧
      (txStart final.tx [1] 1).2.1 = .errBusy ∧ ¬ Reusable final := by
  refine ⟨_, rfl, rfl, fun reusable => ?_⟩
  cases reusable.1

end DiagnosticGateway.Platform
