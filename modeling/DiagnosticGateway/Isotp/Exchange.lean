import DiagnosticGateway.Isotp.Reassembly
import DiagnosticGateway.Isotp.Segmentation

/-! An emitter and a receiver joined without loss (`test_roundtrip`).

The receiver may start in any state: the First Frame replaces what it was doing,
and from there both sides agree on the number of Consecutive Frames exchanged.
-/

set_option autoImplicit false

namespace DiagnosticGateway.Isotp
open BigEndian Buffer Traces

structure Exchange where
  tx : TxContext
  rx : RxContext
  frames : List Bytes
  messages : List Bytes

/-- The emitter gets the Flow Control the receiver answers, or is polled. -/
def drive (tx : TxContext) (out : RxResult) (nowMs : UInt32) : TxContext × TxResult :=
  if out.event = .sendFlowControl then txOnFlowControl tx out.fcFrame nowMs else txPoll tx nowMs

/-- Give the receiver the frame, then drive the emitter. The exchange is over
when no frame comes out. Each call reads the clock. -/
def exchange (clock : Nat → UInt32) : Nat → Nat → TxContext → RxContext → Bytes → Option Exchange
  | 0, _, _, _, _ => none
  | fuel + 1, calls, tx, rx, frame =>
    let (rx, rxOut) := process rx frame (clock calls)
    let messages := if rxOut.event = .messageReady then [rxOut.message] else []
    let (tx, txOut) := drive tx rxOut (clock (calls + 1))
    if txOut.event = .sendFrame then
      (exchange clock fuel (calls + 2) tx rx txOut.frame).map fun rest =>
        { rest with frames := frame :: rest.frames, messages := messages ++ rest.messages }
    else some ⟨tx, rx, [frame], messages⟩

def transfer (clock : Nat → UInt32) (fuel : Nat) (tx : TxContext) (rx : RxContext) (payload : Bytes) :
    Option Exchange :=
  let (tx, result, out) := txStart tx payload (clock 0)
  if result = .ok ∧ out.event = .sendFrame then exchange clock fuel 1 tx rx out.frame
  else some ⟨tx, rx, [], []⟩

section
variable {payload : Bytes} {count : Nat}

theorem decodeSingleFrame_canonical (nonempty : payload.length ≠ 0) (short : payload.length ≤ 7) :
    decodeSingleFrame (canonicalSingle payload) = .ok payload :=
  decodeSingleFrame_encodeSingleFrame (encodeSingleFrame_canonical nonempty short)

theorem announced_word {high low : Nat} (small : high < 16) (byte : low < 256) :
    ((UInt8.ofNat high).toUInt32 <<< 8 ||| (UInt8.ofNat low).toUInt32).toNat = high * 256 + low := by
  have eight : (8 : UInt32).toNat % 32 = 8 := rfl
  have shifted : high <<< 8 < 2 ^ 32 := by
    rw [Nat.shiftLeft_eq]
    omega
  rw [UInt32.toNat_or, UInt32.toNat_shiftLeft, UInt8.toNat_toUInt32, UInt8.toNat_toUInt32, UInt8.toNat_ofNat',
    UInt8.toNat_ofNat', eight, Nat.mod_eq_of_lt (by omega : high < 2 ^ 8), Nat.mod_eq_of_lt byte,
    Nat.mod_eq_of_lt shifted, ← Nat.shiftLeft_add_eq_or_of_lt byte, Nat.shiftLeft_eq]

theorem canonicalFirst_header (fits : payload.length ≤ maxPayloadSize) :
    frameType (canonicalFirst payload) = .first ∧
      pciLow (canonicalFirst payload) = UInt8.ofNat (payload.length / 256) := by
  have header : ∀ high < 16, frameType [UInt8.ofNat (0x10 + high)] = .first ∧
      pciLow [UInt8.ofNat (0x10 + high)] = UInt8.ofNat high := by decide
  exact header (payload.length / 256) (Nat.div_lt_of_lt_mul (Nat.lt_succ_of_le fits))

theorem announcedLength_canonical (long : 7 < payload.length) (fits : payload.length ≤ maxPayloadSize) :
    announcedLength (canonicalFirst payload) = some (payload.length, ffPciLen) := by
  have whole : ¬ (canonicalFirst payload).length < ffPciLen := by
    rw [canonicalFirst_length long]
    decide
  have word : ((pciLow (canonicalFirst payload)).toUInt32 <<< 8 |||
      (byteAt (canonicalFirst payload) 1).toUInt32).toNat = payload.length := by
    rw [(canonicalFirst_header fits).2, canonicalFirst, byteAt_succ, byteAt_zero,
      announced_word (Nat.div_lt_of_lt_mul (Nat.lt_succ_of_le fits)) (Nat.mod_lt _ (by decide)), Nat.mul_comm,
      Nat.div_add_mod]
  have nonzero : (pciLow (canonicalFirst payload)).toUInt32 <<< 8 ||| (byteAt (canonicalFirst payload) 1).toUInt32 ≠ 0 := by
    intro zero
    rw [zero] at word
    exact absurd word (Nat.ne_of_lt (Nat.zero_lt_of_lt long))
  rw [announcedLength, if_neg whole]
  dsimp only
  rw [if_neg nonzero, word]

theorem canonicalFirst_opens (long : 7 < payload.length) (fits : payload.length ≤ maxPayloadSize) :
    Opens (canonicalFirst payload) payload.length (payload.take 6) where
  type := (canonicalFirst_header fits).1
  announced := ⟨ffPciLen, announcedLength_canonical long fits, rfl⟩
  long := long
  fits := fits
  carries := by
    apply List.ne_nil_of_length_pos
    rw [List.length_take]
    omega

theorem canonicalConsecutive_header :
    frameType (canonicalConsecutive payload count) = .consecutive ∧
      sequenceNumber (canonicalConsecutive payload count) = UInt8.ofNat ((count + 1) % 16) := by
  have header : ∀ low < 16, frameType [UInt8.ofNat (0x20 + low)] = .consecutive ∧
      sequenceNumber [UInt8.ofNat (0x20 + low)] = UInt8.ofNat low := by decide
  exact header _ (Nat.mod_lt _ (by decide))

theorem canonicalConsecutive_isConsecutive : IsConsecutive (canonicalConsecutive payload count) :=
  ⟨canonicalConsecutive_header.1, by rw [canonicalConsecutive_length]; decide⟩

theorem carried_canonical (within : 6 + 7 * count ≤ payload.length) :
    carried (payload.take 6) ((List.range count).map (canonicalConsecutive payload)) =
      payload.take (6 + 7 * count) := by
  induction count with
  | zero => simp [carried]
  | succ count ih =>
    have full : (blockAt payload count).length = 7 := by
      rw [blockAt_length]
      omega
    have block : (canonicalConsecutive payload count).drop cfPciLen = blockAt payload count := by
      simp [canonicalConsecutive, full]
    rw [List.range_succ, List.map_append, List.map_singleton, carried_concat, ih (by omega), block, blockAt,
      ← List.take_add]
    congr 1

theorem carried_take (within : count < consecutiveCount payload) :
    (carried (payload.take 6) ((List.range (count + 1)).map (canonicalConsecutive payload))).take payload.length =
      payload.take (6 + 7 * (count + 1)) := by
  have here := lt_consecutiveCount.mp within
  have block : (canonicalConsecutive payload count).drop cfPciLen =
      blockAt payload count ++ List.replicate (7 - (blockAt payload count).length) paddingByte := rfl
  rw [List.range_succ, List.map_append, List.map_singleton, carried_concat, carried_canonical (by omega), block,
    ← List.append_assoc, blockAt, ← List.take_add, List.take_append, List.take_take]
  -- Either the block is full and there is no padding, or the message ends with it.
  have padding : (List.replicate (7 - ((payload.drop (6 + 7 * count)).take 7).length) paddingByte).take
      (payload.length - (payload.take (6 + 7 * count + 7)).length) = [] := by
    apply List.eq_nil_of_length_eq_zero
    simp only [List.length_take, List.length_replicate, List.length_drop]
    omega
  rw [padding, List.append_nil, ← List.take_take, List.take_of_length_le (List.length_take_le' _ _)]
  rfl

/-- The receiver has opened the transfer and taken `count` Consecutive Frames. -/
structure Holding (rx : RxContext) (payload : Bytes) (count : Nat) : Prop where
  waiting : rx.state = .waitConsecutive
  expected : rx.expectedLength = payload.length
  holds : Holds rx (payload.take 6) ((List.range count).map (canonicalConsecutive payload))

structure Flowing (tx : TxContext) (payload : Bytes) (count : Nat) : Prop where
  emitting : Emitting tx payload count
  sending : tx.state = .sending
  unlimited : tx.blockSize = 0
  unpaced : tx.stminMs = 0

def Produced (tx : TxContext) (payload : Bytes) (count : Nat) : Prop :=
  Flowing tx payload (count + 1) ∨ (tx.state = .idle ∧ count + 1 = consecutiveCount payload)

variable {tx : TxContext} {rx : RxContext}

theorem process_first (long : 7 < payload.length) (fits : payload.length ≤ maxPayloadSize) (nowMs : UInt32) :
    (process rx (canonicalFirst payload) nowMs).2 = buildFlowControl .continueToSend .ok ∧
      Holding (process rx (canonicalFirst payload) nowMs).1 payload 0 := by
  rw [process_opens (canonicalFirst_opens long fits)]
  exact ⟨rfl, rfl, rfl, (canonicalFirst_opens long fits).holds nowMs⟩

theorem Holding.received (holding : Holding rx payload count) (within : count < consecutiveCount payload) :
    rx.receivedLength + (rx.block (canonicalConsecutive payload count)).length =
      min payload.length (6 + 7 * (count + 1)) := by
  have here := lt_consecutiveCount.mp within
  have block : ((canonicalConsecutive payload count).drop cfPciLen).length = 7 := by
    rw [List.length_drop, canonicalConsecutive_length]
    decide
  rw [holding.holds.received_block, holding.expected, carried_concat, List.length_append, block,
    carried_canonical (by omega), List.length_take]
  omega

theorem process_consecutive (holding : Holding rx payload count) (within : count < consecutiveCount payload)
    (nowMs : UInt32) :
    let frame := canonicalConsecutive payload count
    if count + 1 = consecutiveCount payload then (process rx frame nowMs).2 = .ready payload
    else (process rx frame nowMs).2 = .clear ∧ Holding (process rx frame nowMs).1 payload (count + 1) := by
  have received := holding.received within
  have right : sequenceNumber (canonicalConsecutive payload count) = rx.nextSequenceNumber := by
    rw [holding.holds.next, canonicalConsecutive_header.2, List.length_map, List.length_range]
  have fits : rx.receivedLength + (rx.block (canonicalConsecutive payload count)).length ≤ maxPayloadSize := by
    have bounded := holding.holds.bounded
    rw [holding.expected] at bounded
    omega
  have frames : (List.range (count + 1)).map (canonicalConsecutive payload) =
      (List.range count).map (canonicalConsecutive payload) ++ [canonicalConsecutive payload count] := by
    rw [List.range_succ, List.map_append, List.map_singleton]
  have next := @lt_consecutiveCount payload (count + 1)
  dsimp only
  rw [process_awaited holding.waiting canonicalConsecutive_isConsecutive right fits]
  split
  · rename_i last
    have whole : rx.expectedLength ≤ rx.receivedLength + (rx.block (canonicalConsecutive payload count)).length := by
      rw [holding.expected, received]
      omega
    have message := (holding.holds.message _ whole).1
    rw [← frames, holding.expected, carried_take within, List.take_of_length_le (by omega)] at message
    rw [if_pos whole, holding.expected, message]
  · rename_i notLast
    have short : ¬ rx.expectedLength ≤ rx.receivedLength + (rx.block (canonicalConsecutive payload count)).length := by
      rw [holding.expected, received]
      omega
    rw [if_neg short]
    refine ⟨rfl, ?_, ?_, frames ▸ holding.holds.extended right nowMs⟩
    · exact (extended_state rx nowMs _ _).trans holding.waiting
    · exact (extended_expectedLength rx nowMs _ _).trans holding.expected

theorem txPoll_flowing (flowing : Flowing tx payload count) (nowMs : UInt32) :
    (txPoll tx nowMs).2 = .send (canonicalConsecutive payload count) ∧ Produced (txPoll tx nowMs).1 payload count := by
  have noLimit : ¬ (tx.blockSize ≠ 0 ∧ tx.framesInBlock ≥ tx.blockSize) := fun limited => limited.1 flowing.unlimited
  have noPace : ¬ nowMs - tx.lastFrameTimeMs < tx.stminMs.toUInt32 := by
    rw [flowing.unpaced]
    exact UInt32.not_lt.mpr UInt32.zero_le
  rw [txPoll, flowing.sending]
  dsimp only
  rw [if_neg noLimit, if_neg noPace, flowing.emitting.buildConsecutiveFrame]
  split
  · rename_i whole
    have whole : ((tx.advance tx.copyLen).countFrame.date nowMs).totalLength ≤ tx.sentLength + tx.copyLen := whole
    rw [produced_totalLength, flowing.emitting.total] at whole
    exact ⟨rfl, .inr ⟨rfl, flowing.emitting.completed whole⟩⟩
  · rename_i short
    have short : ¬ ((tx.advance tx.copyLen).countFrame.date nowMs).totalLength ≤ tx.sentLength + tx.copyLen := short
    rw [produced_totalLength, flowing.emitting.total] at short
    refine ⟨rfl, .inl ⟨flowing.emitting.advanced nowMs (Nat.not_le.mp short), ?_, ?_, ?_⟩⟩
    · exact (produced_state tx _ nowMs).trans flowing.sending
    · exact (produced_blockSize tx _ nowMs).trans flowing.unlimited
    · exact (produced_stminMs tx _ nowMs).trans flowing.unpaced

theorem drive_continue (emitting : Emitting tx payload count) (waiting : tx.state = .waitFlowControl)
    (nowMs : UInt32) :
    (drive tx (buildFlowControl .continueToSend .ok) nowMs).2 = .send (canonicalConsecutive payload count) ∧
      Produced (drive tx (buildFlowControl .continueToSend .ok) nowMs).1 payload count := by
  have asks : (buildFlowControl .continueToSend .ok).event = .sendFlowControl := rfl
  have decoded : decodeFlowControl (buildFlowControl .continueToSend .ok).fcFrame =
      .ok (.continueToSend, rxFcBlockSize, rxFcStmin) := rfl
  have immediate : stminToMs rxFcStmin = 0 := by decide
  rw [drive, if_pos asks, txOnFlowControl, if_neg (not_not.mpr waiting), decoded]
  exact txPoll_flowing ⟨emitting.resume _ _ nowMs, rfl, rfl, immediate⟩ nowMs

theorem drive_poll {out : RxResult} (polls : out.event ≠ .sendFlowControl) (nowMs : UInt32) :
    drive tx out nowMs = txPoll tx nowMs :=
  if_neg polls

/-! ## The whole exchange -/

theorem txPoll_idle (idle : tx.state = .idle) (nowMs : UInt32) : txPoll tx nowMs = (tx, .clear) := by
  rw [txPoll, idle]

section
variable {clock : Nat → UInt32} {calls : Nat} {frame next : Bytes} {out : RxResult}

theorem exchange_send (processed : (process rx frame (clock calls)).2 = out)
    (sent : (drive tx out (clock (calls + 1))).2 = .send next) (fuel : Nat) :
    exchange clock (fuel + 1) calls tx rx frame =
      (exchange clock fuel (calls + 2) (drive tx out (clock (calls + 1))).1 (process rx frame (clock calls)).1 next).map
        fun rest =>
          { rest with
            frames := frame :: rest.frames
            messages := (if out.event = .messageReady then [out.message] else []) ++ rest.messages } := by
  simp only [exchange, processed, sent]
  rfl

theorem exchange_last (processed : (process rx frame (clock calls)).2 = out) (polls : out.event ≠ .sendFlowControl)
    (idle : tx.state = .idle) (fuel : Nat) :
    exchange clock (fuel + 1) calls tx rx frame =
      some ⟨tx, (process rx frame (clock calls)).1, [frame],
        if out.event = .messageReady then [out.message] else []⟩ := by
  simp only [exchange, processed, drive_poll polls, txPoll_idle idle]
  rfl

end

/-- Every frame of the segmentation was produced, and the message delivered once. -/
structure Completes (payload : Bytes) (frames : List Bytes) (done : Exchange) : Prop where
  idle : done.tx.state = .idle
  frames : done.frames = frames
  messages : done.messages = [payload]

theorem exchange_consecutive (clock : Nat → UInt32) (holding : Holding rx payload count)
    (produced : Produced tx payload count) (fuel calls : Nat) (enough : consecutiveCount payload ≤ count + fuel)
    (within : count < consecutiveCount payload) :
    ∃ done, exchange clock fuel calls tx rx (canonicalConsecutive payload count) = some done ∧
      Completes payload ((List.range' count (consecutiveCount payload - count)).map (canonicalConsecutive payload))
        done := by
  -- From the last Consecutive Frame backwards.
  induction fuel generalizing count calls tx rx with
  | zero => omega
  | succ fuel ih =>
    have processed := process_consecutive holding within (clock calls)
    dsimp only at processed
    split at processed
    · -- The message is complete, so the emitter is at rest and its poll ends the loop.
      rename_i last
      rcases produced with flowing | ⟨idle, -⟩
      · exact absurd flowing.emitting.within (by omega)
      · rw [exchange_last processed RxEvent.noConfusion idle]
        refine ⟨_, rfl, idle, ?_, rfl⟩
        rw [show consecutiveCount payload - count = 1 by omega]
        rfl
    · rename_i notLast
      obtain ⟨quiet, next⟩ := processed
      rcases produced with flowing | ⟨-, last⟩
      · obtain ⟨sent, produced⟩ := txPoll_flowing flowing (clock (calls + 1))
        obtain ⟨done, exchanged, completes⟩ := ih next produced (calls + 2) (by omega) (by omega)
        have round := exchange_send quiet sent fuel
        rw [round, drive_poll RxEvent.noConfusion, exchanged]
        refine ⟨_, rfl, completes.idle, ?_, completes.messages⟩
        rw [show consecutiveCount payload - count = consecutiveCount payload - (count + 1) + 1 by omega,
          List.range'_succ, List.map_cons]
        exact congrArg (canonicalConsecutive payload count :: ·) completes.frames
      · exact absurd last notLast

theorem transfer_short (clock : Nat → UInt32) (idle : tx.state = .idle) (nonempty : payload.length ≠ 0)
    (short : payload.length ≤ 7) (fuel : Nat) :
    ∃ done, transfer clock (fuel + 1) tx rx payload = some done ∧ Completes payload (segmentation payload) done := by
  have ready := @process_single rx _ (clock 1) _ (decodeSingleFrame_canonical nonempty short)
  have last := exchange_last ready RxEvent.noConfusion (rfl : tx.countFrame.countMessage.goIdle.state = _) fuel
  rw [transfer, txStart_short idle nonempty short]
  exact ⟨_, last, rfl, by rw [segmentation, if_pos short], rfl⟩

theorem transfer_long (clock : Nat → UInt32) (idle : tx.state = .idle) (long : 7 < payload.length)
    (fits : payload.length ≤ maxPayloadSize) {fuel : Nat} (enough : consecutiveCount payload ≤ fuel) :
    ∃ done, transfer clock (fuel + 1) tx rx payload = some done ∧ Completes payload (segmentation payload) done := by
  obtain ⟨answer, holding⟩ := @process_first payload rx long fits (clock 1)
  obtain ⟨sent, produced⟩ := drive_continue (@emitting_start tx payload long fits (clock 0)) rfl (clock 2)
  have first : 0 < consecutiveCount payload := lt_consecutiveCount.mpr (by omega)
  obtain ⟨done, exchanged, completes⟩ := exchange_consecutive clock holding produced fuel 3 (by omega) first
  have opened := exchange_send answer sent fuel
  rw [transfer, txStart_long idle long fits]
  refine ⟨_, opened.trans (congrArg _ exchanged), completes.idle, ?_, completes.messages⟩
  rw [segmentation, if_neg (Nat.not_le.mpr long), List.range_eq_range']
  exact congrArg (canonicalFirst payload :: ·) completes.frames

/-- Every message that fits is delivered, once and unchanged, whatever the
receiver was doing and whatever the clock shows. -/
theorem transfer_delivers (clock : Nat → UInt32) (tx : TxContext) (rx : RxContext) (payload : Bytes) (fuel : Nat)
    (idle : tx.state = .idle) (nonempty : 1 ≤ payload.length) (fits : payload.length ≤ maxPayloadSize)
    (enough : (segmentation payload).length ≤ fuel) :
    ∃ done, transfer clock fuel tx rx payload = some done ∧ done.messages = [payload] ∧
      (∀ frame ∈ done.frames, frame.length = 8) ∧ done.tx.state = .idle ∧
      done.frames.length = if 7 < payload.length then 1 + (payload.length - 6) ⌈/⌉ 7 else 1 := by
  have completes : ∃ done, transfer clock fuel tx rx payload = some done ∧
      Completes payload (segmentation payload) done := by
    by_cases long : 7 < payload.length
    · rw [segmentation_length long] at enough
      obtain ⟨rest, rfl⟩ := Nat.exists_eq_add_of_le' enough
      exact transfer_long clock idle long fits (Nat.le_add_left _ _)
    · have short := Nat.not_lt.mp long
      have single : (segmentation payload).length = 1 := by rw [segmentation, if_pos short]; rfl
      rw [single] at enough
      obtain ⟨rest, rfl⟩ := Nat.exists_eq_add_of_le' enough
      exact transfer_short clock idle (Nat.ne_of_gt nonempty) short rest
  obtain ⟨done, transferred, completes⟩ := completes
  refine ⟨done, transferred, completes.messages, fun frame member => ?_, completes.idle, ?_⟩
  · exact segmentation_frame_length (completes.frames ▸ member)
  · rw [completes.frames]
    split
    · rename_i long
      rw [segmentation_length long, Nat.add_comm]
      rfl
    · rename_i short
      rw [segmentation, if_pos (Nat.not_lt.mp short)]
      rfl

/-- A receiver in the middle of another transfer, and a message with a padded last frame. -/
theorem transfer_delivers_nine :
    let stuck := (process (.init (Vector.replicate maxPayloadSize 0)) [0x10, 0x14, 1, 2, 3, 4, 5, 6] 0).1
    ∃ done, transfer (fun _ => 5000) 2 (.init (Vector.replicate maxPayloadSize 0)) stuck
      [9, 8, 7, 6, 5, 4, 3, 2, 1] = some done ∧ done.messages = [[9, 8, 7, 6, 5, 4, 3, 2, 1]] := by
  obtain ⟨done, transferred, messages, -⟩ := transfer_delivers (fun _ => 5000) (.init (Vector.replicate maxPayloadSize 0))
    (process (.init (Vector.replicate maxPayloadSize 0)) [0x10, 0x14, 1, 2, 3, 4, 5, 6] 0).1
    [9, 8, 7, 6, 5, 4, 3, 2, 1] 2 rfl (by decide) (by decide) (by decide)
  exact ⟨done, transferred, messages⟩

end

end DiagnosticGateway.Isotp
