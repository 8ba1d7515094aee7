import Mathlib.Algebra.Order.Floor.Div
import Mathlib.GroupTheory.GroupAction.Ring
import DiagnosticGateway.Library.Traces
import DiagnosticGateway.Isotp.Transmitter

/-! What the emitter produces is always a prefix of the one segmentation of its
message.

The peer controls every Flow Control and the clock, so the invariant does not
look at them: after `count` Consecutive Frames the position, the sequence number
and the buffer are those of the canonical frame number `count`.
-/

set_option autoImplicit false

namespace DiagnosticGateway.Isotp
open BigEndian Buffer Traces

def canonicalSingle (payload : Bytes) : Bytes :=
  UInt8.ofNat payload.length :: payload ++ List.replicate (7 - payload.length) paddingByte

def canonicalFirst (payload : Bytes) : Bytes :=
  UInt8.ofNat (0x10 + payload.length / 256) :: UInt8.ofNat (payload.length % 256) :: payload.take 6

/-- The seven bytes behind the First Frame and `index` Consecutive Frames, fewer
at the end. -/
def blockAt (payload : Bytes) (index : Nat) : Bytes := (payload.drop (6 + 7 * index)).take 7

def canonicalConsecutive (payload : Bytes) (index : Nat) : Bytes :=
  UInt8.ofNat (0x20 + (index + 1) % 16) ::
    blockAt payload index ++ List.replicate (7 - (blockAt payload index).length) paddingByte

def consecutiveCount (payload : Bytes) : Nat := (payload.length - 6) ⌈/⌉ 7

def segmentation (payload : Bytes) : List Bytes :=
  if payload.length ≤ 7 then [canonicalSingle payload]
  else canonicalFirst payload :: (List.range (consecutiveCount payload)).map (canonicalConsecutive payload)

section
variable {payload : Bytes} {count : Nat}

theorem lt_consecutiveCount : count < consecutiveCount payload ↔ 6 + 7 * count < payload.length := by
  rw [consecutiveCount, Nat.ceilDiv_eq_add_pred_div]
  omega

theorem blockAt_length : (blockAt payload count).length = min 7 (payload.length - (6 + 7 * count)) := by
  simp [blockAt]

theorem canonicalSingle_length (short : payload.length ≤ 7) : (canonicalSingle payload).length = 8 := by
  simp only [canonicalSingle, List.cons_append, List.length_cons, List.length_append, List.length_replicate]
  omega

theorem canonicalFirst_length (long : 7 < payload.length) : (canonicalFirst payload).length = 8 := by
  simp only [canonicalFirst, List.length_cons, List.length_take]
  omega

theorem canonicalConsecutive_length : (canonicalConsecutive payload count).length = 8 := by
  have block := @blockAt_length payload count
  simp only [canonicalConsecutive, List.cons_append, List.length_cons, List.length_append, List.length_replicate]
  omega

theorem segmentation_frame_length {frame : Bytes} (member : frame ∈ segmentation payload) : frame.length = 8 := by
  by_cases short : payload.length ≤ 7
  · rw [segmentation, if_pos short, List.mem_singleton] at member
    rw [member, canonicalSingle_length short]
  · simp only [segmentation, if_neg short, List.mem_cons, List.mem_map] at member
    rcases member with rfl | ⟨index, -, rfl⟩
    · exact canonicalFirst_length (Nat.not_le.mp short)
    · exact canonicalConsecutive_length

theorem segmentation_take (long : 7 < payload.length) (within : count ≤ consecutiveCount payload) :
    (segmentation payload).take (count + 1) =
      canonicalFirst payload :: (List.range count).map (canonicalConsecutive payload) := by
  rw [segmentation, if_neg (Nat.not_le.mpr long), List.take_succ_cons, ← List.map_take, List.take_range,
    Nat.min_eq_left within]

theorem segmentation_succ (long : 7 < payload.length) (within : count < consecutiveCount payload) :
    (segmentation payload).take (count + 2) =
      (segmentation payload).take (count + 1) ++ [canonicalConsecutive payload count] := by
  rw [segmentation_take long within, segmentation_take long (Nat.le_of_lt within), List.range_succ, List.map_append]
  rfl

theorem segmentation_length (long : 7 < payload.length) :
    (segmentation payload).length = consecutiveCount payload + 1 := by
  simp [segmentation, Nat.not_le.mpr long]

end

theorem encodeSingleFrame_canonical {payload : Bytes} (nonempty : payload.length ≠ 0) (short : payload.length ≤ 7) :
    encodeSingleFrame payload canFrameSize = .ok (canonicalSingle payload) := by
  have header : ∀ length < 8, (FrameType.single.code <<< pciTypeShift) ||| (UInt8.ofNat length &&& pciLowMask) =
      UInt8.ofNat length := by decide
  have bounds : ¬ (payload.length = 0 ∨ payload.length > sfMaxPayload.toNat) :=
    not_or.mpr ⟨nonempty, Nat.not_lt.mpr short⟩
  have padding : canFrameSize - (sfPciLen + payload.length) = 7 - payload.length := by
    simp only [canFrameSize, sfPciLen]
    omega
  rw [encodeSingleFrame, if_neg bounds, if_neg (Nat.lt_irrefl canFrameSize), header _ (Nat.lt_succ_of_le short),
    padding]
  rfl

theorem buildFirstFrame_canonical {payload : Bytes} (fits : payload.length ≤ maxPayloadSize) :
    buildFirstFrame payload = canonicalFirst payload := by
  have header : ∀ high < 16, (FrameType.first.code <<< pciTypeShift) ||| (UInt8.ofNat high &&& pciLowMask) =
      UInt8.ofNat (0x10 + high) := by decide
  have high : payload.length >>> 8 = payload.length / 256 := Nat.shiftRight_eq_div_pow _ _
  have low : payload.length &&& 0xFF = payload.length % 256 := Nat.and_two_pow_sub_one_eq_mod _ 8
  have small : payload.length / 256 < 16 := Nat.div_lt_of_lt_mul (Nat.lt_succ_of_le fits)
  rw [buildFirstFrame, high, low, header _ small]
  rfl

/-! ## An emission in progress -/

/-- `count` Consecutive Frames are out, and at least one is left. -/
structure Emitting (ctx : TxContext) (payload : Bytes) (count : Nat) : Prop where
  busy : ctx.state ≠ .idle
  fits : payload.length ≤ maxPayloadSize
  held : readPrefix ctx.buffer payload.length = payload
  total : ctx.totalLength = payload.length
  sent : ctx.sentLength = ffFirstPayload + cfMaxPayload * count
  unfinished : ctx.sentLength < payload.length
  next : ctx.nextSequenceNumber = UInt8.ofNat ((count + 1) % 16)

section
variable {ctx : TxContext} {payload : Bytes} {count : Nat}

theorem Emitting.within (emitting : Emitting ctx payload count) : count < consecutiveCount payload := by
  rw [lt_consecutiveCount, ← emitting.sent]
  exact emitting.unfinished

theorem Emitting.copyLen (emitting : Emitting ctx payload count) :
    ctx.copyLen = min 7 (payload.length - ctx.sentLength) := by
  have fits := emitting.fits
  have unfinished := emitting.unfinished
  rw [TxContext.copyLen, TxContext.remaining, emitting.total]
  simp only [maxPayloadSize, cfMaxPayload] at *
  split <;> omega

theorem Emitting.nextBlock (emitting : Emitting ctx payload count) : ctx.nextBlock = blockAt payload count := by
  have rest : payload.drop ctx.sentLength =
      (ctx.buffer.toList.drop ctx.sentLength).take (payload.length - ctx.sentLength) := by
    conv_lhs => rw [← emitting.held, readPrefix, List.drop_take]
  rw [blockAt, ← emitting.sent, rest, List.take_take, TxContext.nextBlock, emitting.copyLen]

theorem Emitting.buildConsecutiveFrame (emitting : Emitting ctx payload count) :
    (buildConsecutiveFrame ctx).2 = .send (canonicalConsecutive payload count) := by
  have header : ∀ low < 16, (FrameType.consecutive.code <<< pciTypeShift) ||| (UInt8.ofNat low &&& pciLowMask) =
      UInt8.ofNat (0x20 + low) := by decide
  have copied : ctx.copyLen = (blockAt payload count).length := by
    rw [emitting.copyLen, blockAt_length, emitting.sent]
  have padding : canFrameSize - (cfPciLen + ctx.copyLen) = 7 - (blockAt payload count).length := by
    simp only [canFrameSize, cfPciLen, copied]
    omega
  simp only [Isotp.buildConsecutiveFrame]
  rw [emitting.nextBlock, emitting.next, header _ (Nat.mod_lt _ (by decide)), padding]
  rfl

/-! The parameters of the peer change neither the position nor the message. -/

theorem Emitting.resume (emitting : Emitting ctx payload count) (blockSize stminMs : UInt8) (nowMs : UInt32) :
    Emitting (ctx.resume blockSize stminMs nowMs) payload count :=
  ⟨TxState.noConfusion, emitting.2, emitting.3, emitting.4, emitting.5, emitting.6, emitting.7⟩

theorem Emitting.awaitFlowControl (emitting : Emitting ctx payload count) (nowMs : UInt32) :
    Emitting (ctx.awaitFlowControl nowMs) payload count :=
  ⟨TxState.noConfusion, emitting.2, emitting.3, emitting.4, emitting.5, emitting.6, emitting.7⟩

theorem Emitting.extendWait (emitting : Emitting ctx payload count) (nowMs : UInt32) :
    Emitting (ctx.extendWait nowMs) payload count :=
  ⟨emitting.1, emitting.2, emitting.3, emitting.4, emitting.5, emitting.6, emitting.7⟩

theorem Emitting.advanced (emitting : Emitting ctx payload count) (nowMs : UInt32)
    (short : ctx.sentLength + ctx.copyLen < payload.length) :
    Emitting ((ctx.advance ctx.copyLen).countFrame.date nowMs) payload (count + 1) where
  busy := by
    rw [produced_state]
    exact emitting.busy
  fits := emitting.fits
  held := by
    rw [produced_buffer]
    exact emitting.held
  total := by
    rw [produced_totalLength]
    exact emitting.total
  sent := by
    have sent := emitting.sent
    have copied := emitting.copyLen
    simp only [TxContext.date_sentLength, TxContext.countFrame_sentLength, TxContext.advance_sentLength,
      ffFirstPayload, cfMaxPayload] at *
    omega
  unfinished := short
  next := by simp [emitting.next, nextNumber]

theorem Emitting.completed (emitting : Emitting ctx payload count)
    (whole : payload.length ≤ ctx.sentLength + ctx.copyLen) : count + 1 = consecutiveCount payload := by
  have sent := emitting.sent
  have copied := emitting.copyLen
  have here := emitting.within
  have notNext : ¬ count + 1 < consecutiveCount payload := by
    rw [lt_consecutiveCount]
    simp only [ffFirstPayload, cfMaxPayload] at sent
    omega
  omega

inductive Advanced (payload : Bytes) (count : Nat) : TxContext × TxResult → Prop where
  | held {ctx : TxContext} {out : TxResult} (emitting : Emitting ctx payload count) (silent : out.event ≠ .sendFrame)
      (kept : out.event ≠ .aborted) : Advanced payload count (ctx, out)
  | sent {ctx : TxContext} (emitting : Emitting ctx payload (count + 1)) :
      Advanced payload count (ctx, .send (canonicalConsecutive payload count))
  | finished {ctx : TxContext} (idle : ctx.state = .idle) (last : count + 1 = consecutiveCount payload) :
      Advanced payload count (ctx, .send (canonicalConsecutive payload count))
  | aborted {ctx : TxContext} (idle : ctx.state = .idle) (reason : Result) :
      Advanced payload count (ctx, .abort reason)

theorem txPoll_advanced (emitting : Emitting ctx payload count) (nowMs : UInt32) :
    Advanced payload count (txPoll ctx nowMs) := by
  unfold txPoll
  split
  · rename_i idle
    exact absurd idle emitting.busy
  · split
    · exact .aborted rfl _
    · exact .held emitting (by decide) (by decide)
  · split
    · exact .held (emitting.awaitFlowControl nowMs) (by decide) (by decide)
    · split
      · exact .held emitting (by decide) (by decide)
      · rw [← @Prod.mk.eta _ _ (buildConsecutiveFrame ctx), emitting.buildConsecutiveFrame]
        dsimp only
        split
        · rename_i whole
          have whole : ((ctx.advance ctx.copyLen).countFrame.date nowMs).totalLength ≤ ctx.sentLength + ctx.copyLen := whole
          rw [produced_totalLength, emitting.total] at whole
          exact .finished rfl (emitting.completed whole)
        · rename_i short
          have short : ¬ ((ctx.advance ctx.copyLen).countFrame.date nowMs).totalLength ≤ ctx.sentLength + ctx.copyLen := short
          rw [produced_totalLength, emitting.total] at short
          exact .sent (emitting.advanced nowMs (Nat.not_le.mp short))

theorem txOnFlowControl_advanced (emitting : Emitting ctx payload count) (frame : Bytes) (nowMs : UInt32) :
    Advanced payload count (txOnFlowControl ctx frame nowMs) := by
  unfold txOnFlowControl
  split
  · exact .held emitting (by decide) (by decide)
  · split
    · exact .aborted rfl _
    · exact txPoll_advanced (emitting.resume _ _ nowMs) nowMs
    · exact .held (emitting.extendWait nowMs) (by decide) (by decide)
    · exact .aborted rfl _

theorem txStart_short (idle : ctx.state = .idle) (nonempty : payload.length ≠ 0) (short : payload.length ≤ 7)
    (nowMs : UInt32) :
    txStart ctx payload nowMs = (ctx.countFrame.countMessage.goIdle, .ok, .send (canonicalSingle payload)) := by
  have fits : ¬ payload.length > maxPayloadSize := Nat.not_lt.mpr (Nat.le_trans short (by decide))
  have single : payload.length ≤ sfMaxPayload.toNat := short
  rw [txStart, if_neg (not_not.mpr idle), if_neg nonempty, if_neg fits, if_pos single,
    encodeSingleFrame_canonical nonempty short]

theorem txStart_long (idle : ctx.state = .idle) (long : 7 < payload.length) (fits : payload.length ≤ maxPayloadSize)
    (nowMs : UInt32) :
    txStart ctx payload nowMs =
      (((ctx.load payload nowMs).awaitFlowControl nowMs).countFrame, .ok, .send (canonicalFirst payload)) := by
  have several : ¬ payload.length ≤ sfMaxPayload.toNat := Nat.not_le.mpr long
  rw [txStart, if_neg (not_not.mpr idle), if_neg (Nat.ne_of_gt (Nat.zero_lt_of_lt long)), if_neg (Nat.not_lt.mpr fits),
    if_neg several, buildFirstFrame_canonical fits]

theorem emitting_start (long : 7 < payload.length) (fits : payload.length ≤ maxPayloadSize) (nowMs : UInt32) :
    Emitting ((ctx.load payload nowMs).awaitFlowControl nowMs).countFrame payload 0 where
  busy := TxState.noConfusion
  fits := fits
  held := by simpa using readPrefix_writeBlock ctx.buffer 0 payload (by simpa using fits)
  total := rfl
  sent := rfl
  unfinished := Nat.lt_of_lt_of_le (by decide : ffFirstPayload < 8) long
  next := rfl

theorem txStart_refused (nowMs : UInt32) (refused : (txStart ctx payload nowMs).2.1 ≠ .ok) :
    (txStart ctx payload nowMs).1 = ctx := by
  unfold txStart at refused ⊢
  split
  · rfl
  · split
    · rfl
    · split
      · rfl
      · split
        · split
          · rfl
          · rename_i encoded
            simp_all
        · simp_all

end

inductive TxAction where
  | start (payload : Bytes) (nowMs : UInt32)
  | flowControl (frame : Bytes) (nowMs : UInt32)
  | poll (nowMs : UInt32)
  deriving DecidableEq, Repr

/-- The return code, which is `ISOTP_OK` for all calls but a refused start, and
the result. -/
structure TxReply where
  result : Result
  out : TxResult
  deriving DecidableEq, Repr

def txStep (ctx : TxContext) : TxAction → TxContext × TxReply
  | .start payload nowMs =>
    let (ctx, result, out) := txStart ctx payload nowMs
    (ctx, ⟨result, out⟩)
  | .flowControl frame nowMs =>
    let (ctx, out) := txOnFlowControl ctx frame nowMs
    (ctx, ⟨.ok, out⟩)
  | .poll nowMs =>
    let (ctx, out) := txPoll ctx nowMs
    (ctx, ⟨.ok, out⟩)

abbrev TxStep := Event TxContext TxAction TxReply

def producedFrame (e : TxStep) : Option Bytes :=
  if e.output.out.event = .sendFrame then some e.output.out.frame else none

def producedFrames (steps : List TxStep) : List Bytes := steps.filterMap producedFrame

def Aborts (e : TxStep) : Prop := e.output.out.event = .aborted

/-- A start is only called while a message is on its way. -/
def StartsBusy (e : TxStep) : Prop := ∀ payload nowMs, e.action = .start payload nowMs → e.before.state ≠ .idle

theorem producedFrames_concat (steps : List TxStep) (e : TxStep) :
    producedFrames (steps ++ [e]) = producedFrames steps ++ (producedFrame e).toList := by
  simp only [producedFrames, List.filterMap_append]
  cases found : producedFrame e <;> simp [found]

/-- The frames produced after the start, in terms of the state they lead to. -/
inductive Segmenting (payload : Bytes) (past : List TxStep) (ctx : TxContext) : Prop where
  | emitting (count : Nat) (emitting : Emitting ctx payload count)
      (frames : canonicalFirst payload :: producedFrames past = (segmentation payload).take (count + 1))
      (kept : ∀ e ∈ past, ¬ Aborts e)
  | finished (idle : ctx.state = .idle) (frames : canonicalFirst payload :: producedFrames past = segmentation payload)
  | aborted (idle : ctx.state = .idle) (frames : canonicalFirst payload :: producedFrames past <+: segmentation payload)
      (given : ∃ e ∈ past, Aborts e)

section
variable {ctx : TxContext} {payload : Bytes} {count : Nat} {past : List TxStep}

theorem txStep_advanced (emitting : Emitting ctx payload count) (action : TxAction) :
    Advanced payload count ((txStep ctx action).1, (txStep ctx action).2.out) := by
  cases action with
  | start other nowMs =>
    have busy : txStart ctx other nowMs = (ctx, .errBusy, .clear) := by rw [txStart, if_pos emitting.busy]
    simp only [txStep, busy]
    exact .held emitting TxEvent.noConfusion TxEvent.noConfusion
  | flowControl frame nowMs => exact txOnFlowControl_advanced emitting frame nowMs
  | poll nowMs => exact txPoll_advanced emitting nowMs

theorem txStep_idle (idle : ctx.state = .idle) (action : TxAction) (noStart : StartsBusy (event txStep ctx action)) :
    (txStep ctx action).1 = ctx ∧ (txStep ctx action).2.out.event = .none := by
  cases action with
  | start other nowMs => exact absurd idle (noStart other nowMs rfl)
  | flowControl frame nowMs =>
    have ignored : ctx.state ≠ .waitFlowControl := by simp [idle]
    simp [txStep, txOnFlowControl, ignored, TxResult.clear]
  | poll nowMs => simp [txStep, txPoll, idle, TxResult.clear]

theorem producedFrame_none {e : TxStep} (silent : e.output.out.event ≠ .sendFrame) : producedFrame e = none :=
  if_neg silent

theorem producedFrame_send {e : TxStep} {frame : Bytes} (sent : e.output.out = .send frame) :
    producedFrame e = some frame := by
  simp [producedFrame, sent, TxResult.send]

theorem silent_step {e : TxStep} (silent : e.output.out.event ≠ .sendFrame) :
    producedFrames (past ++ [e]) = producedFrames past := by
  rw [producedFrames_concat, producedFrame_none silent, Option.toList_none, List.append_nil]

theorem Segmenting.step (segmenting : Segmenting payload past ctx) (long : 7 < payload.length) (action : TxAction)
    (noStart : StartsBusy (event txStep ctx action)) :
    Segmenting payload (past ++ [event txStep ctx action]) (txStep ctx action).1 := by
  cases segmenting with
  | emitting count emitting frames kept =>
    have within := emitting.within
    have advanced := txStep_advanced emitting action
    rw [event]
    generalize txStep ctx action = outcome at advanced ⊢
    obtain ⟨after, result, out⟩ := outcome
    dsimp only at advanced ⊢
    cases advanced with
    | held emitting silent unaborted =>
      refine .emitting count emitting (by rw [silent_step silent, frames]) fun e member => ?_
      rcases List.mem_append.mp member with earlier | last
      · exact kept e earlier
      · rw [List.mem_singleton.mp last]
        exact unaborted
    | sent emitting =>
      refine .emitting (count + 1) emitting ?_ fun e member => ?_
      · rw [producedFrames_concat, producedFrame_send rfl, ← List.cons_append, frames, segmentation_succ long within]
        rfl
      · rcases List.mem_append.mp member with earlier | last
        · exact kept e earlier
        · rw [List.mem_singleton.mp last]
          exact TxEvent.noConfusion
    | finished idle last =>
      refine .finished idle ?_
      have whole : (segmentation payload).take (count + 2) = segmentation payload :=
        List.take_of_length_le (by rw [segmentation_length long, ← last])
      rw [producedFrames_concat, producedFrame_send rfl, ← List.cons_append, frames, Option.toList_some,
        ← segmentation_succ long within, whole]
    | aborted idle reason =>
      refine .aborted idle ?_ ⟨_, List.mem_append_right _ (List.mem_singleton.mpr rfl), rfl⟩
      rw [silent_step TxEvent.noConfusion, frames]
      exact List.take_prefix _ _
  | finished idle frames =>
    obtain ⟨same, quiet⟩ := txStep_idle idle action noStart
    rw [same]
    exact .finished idle (by rw [silent_step (by simp [event, quiet]), frames])
  | aborted idle frames given =>
    obtain ⟨same, quiet⟩ := txStep_idle idle action noStart
    obtain ⟨e, member, aborts⟩ := given
    rw [same]
    exact .aborted idle (by rwa [silent_step (by simp [event, quiet])]) ⟨e, by simp [member], aborts⟩

end

/-- Whatever the peer and the clock do after an accepted start, the frames of the
message come out in order, and the emitter is at rest exactly when they are all
out or it has given up. -/
theorem emission_exact (ctx : TxContext) (payload : Bytes) (nowMs : UInt32) (actions : List TxAction)
    (idle : ctx.state = .idle) (long : 8 ≤ payload.length) (fits : payload.length ≤ maxPayloadSize)
    (busy : ∀ e ∈ trace txStep (txStart ctx payload nowMs).1 actions, StartsBusy e) :
    let started := txStart ctx payload nowMs
    let steps := trace txStep started.1 actions
    let frames := started.2.2.frame :: producedFrames steps
    started.2.1 = .ok ∧ frames <+: segmentation payload ∧
      ((final txStep started.1 actions).state = .idle ↔ frames = segmentation payload ∨ ∃ e ∈ steps, Aborts e) ∧
      (∀ e ∈ steps, e.before.state = .idle → producedFrame e = none) ∧
      ∀ other data time, (txStart other data time).2.1 ≠ .ok → (txStart other data time).1 = other := by
  have start := txStart_long idle long fits nowMs
  rw [start] at busy ⊢
  dsimp only at busy ⊢
  have segmenting := guarded_run txStep (fun _ e => StartsBusy e) (Segmenting payload)
    (.emitting 0 (emitting_start long fits nowMs) (segmentation_take long (Nat.zero_le _)).symm (by simp))
    (fun past state action segmenting => segmenting.step long action) actions ((allEvents_forall _ _).mpr busy)
  refine ⟨rfl, ?_, ?_, fun e member idle => ?_, fun other data time => txStart_refused time⟩
  · cases segmenting with
    | emitting count _ frames => exact frames ▸ List.take_prefix _ _
    | finished _ frames => exact frames ▸ List.prefix_rfl
    | aborted _ frames => exact frames
  · cases segmenting with
    | emitting count emitting frames kept =>
      refine iff_of_false emitting.busy (not_or.mpr ⟨fun whole => ?_, fun ⟨e, member, aborts⟩ => kept e member aborts⟩)
      have length := congrArg List.length (whole.symm.trans frames)
      rw [List.length_take, segmentation_length long] at length
      have within := emitting.within
      omega
    | finished idle frames => exact iff_of_true idle (.inl frames)
    | aborted idle _ given => exact iff_of_true idle (.inr given)
  · have same := eq_event_of_mem txStep member
    have quiet := (txStep_idle idle e.action (same ▸ busy e member)).2
    exact producedFrame_none (by rw [same]; simp [event, quiet])

/-- A start while busy, a Flow Control and a poll. -/
theorem emission_exact_eight :
    let started := txStart (.init (Vector.replicate maxPayloadSize 0)) [1, 2, 3, 4, 5, 6, 7, 8] 0
    let steps := trace txStep started.1 [.start [9] 1, .flowControl [0x30, 0x00, 0x00] 2, .poll 3]
    started.2.2.frame :: producedFrames steps <+: segmentation [1, 2, 3, 4, 5, 6, 7, 8] := by
  refine (emission_exact _ _ 0 _ rfl (by decide) (by decide) fun e member payload nowMs start => ?_).2.1
  simp only [trace, List.mem_cons, List.not_mem_nil, or_false] at member
  rcases member with rfl | rfl | rfl
  · decide
  · cases start
  · cases start

end DiagnosticGateway.Isotp
