import DiagnosticGateway.Isotp.Reassembly

/-! Frames the receiver rejects. A rejected frame changes nothing a later call
reads but the time N_Cr counts from, so the runs with it and without it part at
the first poll that falls between the two deadlines.
-/

set_option autoImplicit false

namespace DiagnosticGateway.Isotp
open BigEndian Buffer Traces

def visible (e : RxStep) : RxEvent × Bytes := (e.output.event, e.output.message)

def observed (ctx : RxContext) (actions : List RxAction) : List (RxEvent × Bytes) :=
  (trace rxStep ctx actions).map visible

def Rejected (ctx : RxContext) (frame : Bytes) (nowMs : UInt32) : Prop :=
  (process ctx frame nowMs).2.event = .none ∧ (process ctx frame nowMs).2.reason ≠ .ok

/-- Two contexts a frame cannot tell apart: they differ in the counters and in
the time of the last frame. -/
structure SameTransfer (ctx other : RxContext) : Prop where
  state : ctx.state = other.state
  buffer : ctx.buffer = other.buffer
  expected : ctx.expectedLength = other.expectedLength
  received : ctx.receivedLength = other.receivedLength
  next : ctx.nextSequenceNumber = other.nextSequenceNumber

/-- A poll cannot tell them apart either. -/
structure Alike (ctx other : RxContext) : Prop extends SameTransfer ctx other where
  clock : ctx.state = .waitConsecutive → ctx.lastFrameTimeMs = other.lastFrameTimeMs

section
variable {ctx other : RxContext} {frame : Bytes} {nowMs : UInt32}

theorem SameTransfer.countFrame (same : SameTransfer ctx other) (nowMs : UInt32) :
    Alike (ctx.countFrame nowMs) (other.countFrame nowMs) :=
  ⟨⟨same.state, same.buffer, same.expected, same.received, same.next⟩, fun _ => rfl⟩

theorem SameTransfer.remaining (same : SameTransfer ctx other) : ctx.remaining = other.remaining := by
  rw [RxContext.remaining, RxContext.remaining, same.expected, same.received]

theorem Alike.reject (alike : Alike ctx other) (reason : Result) :
    (rejectFrame ctx reason).2 = (rejectFrame other reason).2 ∧
      Alike (rejectFrame ctx reason).1 (rejectFrame other reason).1 :=
  ⟨rfl, ⟨⟨alike.state, alike.buffer, alike.expected, alike.received, alike.next⟩, alike.clock⟩⟩

theorem Alike.goIdle (same : ctx.buffer = other.buffer) : Alike ctx.goIdle other.goIdle :=
  ⟨⟨rfl, same, rfl, rfl, rfl⟩, fun waiting => by cases waiting⟩

theorem Alike.singleFrame (alike : Alike ctx other) (frame : Bytes) :
    (handleSingleFrame ctx frame).2 = (handleSingleFrame other frame).2 ∧
      Alike (handleSingleFrame ctx frame).1 (handleSingleFrame other frame).1 := by
  unfold handleSingleFrame
  cases decodeSingleFrame frame with
  | error res => exact alike.reject res
  | ok payload =>
    dsimp only
    rw [← alike.state]
    by_cases busy : ctx.state ≠ .idle
    · simp only [if_pos busy]
      refine ⟨?_, ⟨⟨rfl, ?_, rfl, rfl, rfl⟩, fun waiting => by cases waiting⟩⟩
      · simp [alike.buffer]
      · simp [alike.buffer]
    · simp only [if_neg busy]
      refine ⟨?_, ⟨⟨alike.state, ?_, rfl, rfl, alike.next⟩, alike.clock⟩⟩
      · simp [alike.buffer]
      · simp [alike.buffer]

theorem Alike.firstFrame (alike : Alike ctx other) (clock : ctx.lastFrameTimeMs = other.lastFrameTimeMs)
    (frame : Bytes) :
    (handleFirstFrame ctx frame).2 = (handleFirstFrame other frame).2 ∧
      Alike (handleFirstFrame ctx frame).1 (handleFirstFrame other frame).1 := by
  unfold handleFirstFrame
  cases announcedLength frame with
  | none => exact alike.reject _
  | some header =>
    dsimp only
    split
    · exact alike.reject _
    · split
      · exact ⟨rfl, .goIdle alike.buffer⟩
      · split
        · exact alike.reject _
        · refine ⟨rfl, ⟨⟨rfl, ?_, rfl, rfl, rfl⟩, fun _ => clock⟩⟩
          simp [alike.buffer]

theorem Alike.store (alike : Alike ctx other) (offset : Nat) (block : Bytes) :
    Alike (ctx.store offset block) (other.store offset block) :=
  ⟨⟨alike.state, by simp [alike.buffer], alike.expected, rfl, alike.next⟩, alike.clock⟩

theorem Alike.nextFrame (alike : Alike ctx other) : Alike ctx.nextFrame other.nextFrame where
  state := by
    rw [RxContext.nextFrame_state, RxContext.nextFrame_state]
    exact alike.state
  buffer := by
    rw [RxContext.nextFrame_buffer, RxContext.nextFrame_buffer]
    exact alike.buffer
  expected := by
    rw [RxContext.nextFrame_expectedLength, RxContext.nextFrame_expectedLength]
    exact alike.expected
  received := by
    rw [RxContext.nextFrame_receivedLength, RxContext.nextFrame_receivedLength]
    exact alike.received
  next := by
    rw [RxContext.nextFrame_nextSequenceNumber, RxContext.nextFrame_nextSequenceNumber, alike.next]
  clock := by
    rw [RxContext.nextFrame_state, RxContext.nextFrame_lastFrameTimeMs, RxContext.nextFrame_lastFrameTimeMs]
    exact alike.clock

theorem Alike.finish (alike : Alike ctx other) : ctx.finish.2 = other.finish.2 ∧ Alike ctx.finish.1 other.finish.1 := by
  rw [RxContext.finish, RxContext.finish, ← alike.received, ← alike.expected, ← alike.buffer]
  split
  · refine ⟨rfl, .goIdle ?_⟩
    rw [RxContext.countMessage_buffer, RxContext.countMessage_buffer]
    exact alike.buffer
  · exact ⟨rfl, alike⟩

theorem Alike.consecutiveFrame (alike : Alike ctx other) (frame : Bytes) :
    (handleConsecutiveFrame ctx frame).2 = (handleConsecutiveFrame other frame).2 ∧
      Alike (handleConsecutiveFrame ctx frame).1 (handleConsecutiveFrame other frame).1 := by
  by_cases waiting : ctx.state = .waitConsecutive
  · have waits : other.state = .waitConsecutive := alike.state ▸ waiting
    by_cases short : frame.length < cfPciLen + 1
    · rw [handleConsecutiveFrame_truncated waiting short, handleConsecutiveFrame_truncated waits short]
      exact alike.reject _
    · by_cases right : sequenceNumber frame = ctx.nextSequenceNumber
      · have block : other.block frame = ctx.block frame := by rw [RxContext.block, RxContext.block, alike.remaining]
        rw [handleConsecutiveFrame_awaited waiting short right,
          handleConsecutiveFrame_awaited waits short (alike.next ▸ right), block, ← alike.received]
        split
        · exact ⟨rfl, .goIdle alike.buffer⟩
        · exact (alike.store ctx.receivedLength (ctx.block frame)).nextFrame.finish
      · have wrong : ¬ sequenceNumber frame = other.nextSequenceNumber := alike.next ▸ right
        rw [handleConsecutiveFrame_outOfSequence waiting short right, handleConsecutiveFrame_outOfSequence waits short wrong]
        exact ⟨rfl, .goIdle alike.buffer⟩
  · have rests : ¬ other.state = .waitConsecutive := alike.state ▸ waiting
    rw [handleConsecutiveFrame_resting waiting, handleConsecutiveFrame_resting rests]
    exact alike.reject _

theorem SameTransfer.process (same : SameTransfer ctx other) (nonempty : frame ≠ []) (nowMs : UInt32) :
    (Isotp.process ctx frame nowMs).2 = (Isotp.process other frame nowMs).2 ∧
      Alike (Isotp.process ctx frame nowMs).1 (Isotp.process other frame nowMs).1 := by
  have long : ¬ frame.length < 1 := by
    rw [Nat.lt_one_iff, List.length_eq_zero_iff]
    exact nonempty
  have alike := same.countFrame nowMs
  rw [Isotp.process, Isotp.process, if_neg long, if_neg long]
  dsimp only
  cases frameType frame with
  | single => exact alike.singleFrame frame
  | first => exact alike.firstFrame rfl frame
  | consecutive => exact alike.consecutiveFrame frame
  | flowControl | reserved => exact alike.reject _

theorem Alike.pollTimeout (alike : Alike ctx other) (nowMs : UInt32) :
    (Isotp.pollTimeout ctx nowMs).2 = (Isotp.pollTimeout other nowMs).2 ∧
      Alike (Isotp.pollTimeout ctx nowMs).1 (Isotp.pollTimeout other nowMs).1 := by
  unfold Isotp.pollTimeout
  rw [← alike.state]
  split
  · exact ⟨rfl, alike⟩
  · rename_i waiting
    rw [← alike.clock (not_not.mp waiting)]
    split
    · exact ⟨rfl, .goIdle alike.buffer⟩
    · exact ⟨rfl, alike⟩

theorem Alike.step (alike : Alike ctx other) (action : RxAction) :
    (rxStep ctx action).2 = (rxStep other action).2 ∧ Alike (rxStep ctx action).1 (rxStep other action).1 := by
  cases action with
  | frame bytes nowMs =>
    by_cases empty : bytes = []
    · subst empty
      exact alike.reject _
    · exact alike.process empty nowMs
  | pollTimeout nowMs => exact alike.pollTimeout nowMs

theorem Alike.observed (alike : Alike ctx other) (actions : List RxAction) :
    Isotp.observed ctx actions = Isotp.observed other actions := by
  induction actions generalizing ctx other with
  | nil => rfl
  | cons action rest ih =>
    obtain ⟨same, next⟩ := alike.step action
    have later := ih next
    simp only [Isotp.observed, trace, List.map_cons, visible, event] at later ⊢
    rw [same, later]

theorem Rejected.context (rejected : Rejected ctx frame nowMs) :
    (frame = [] ∧ (process ctx frame nowMs).1 = ctx.countRejected) ∨
      (frame ≠ [] ∧ (process ctx frame nowMs).1 = (ctx.countFrame nowMs).countRejected) := by
  by_cases empty : frame = []
  · subst empty
    exact .inl ⟨rfl, rfl⟩
  · refine .inr ⟨empty, ?_⟩
    obtain ⟨quiet, reason⟩ := rejected
    have processed := process_processed ctx frame nowMs
    generalize process ctx frame nowMs = outcome at processed quiet reason ⊢
    cases processed with
    | empty nothing => exact absurd nothing empty
    | rejected cause failure passes => rfl
    | extended waiting consecutive => exact absurd rfl reason
    | single | opened | overflowed | outOfSequence | tooLong | completed => cases quiet

theorem Rejected.sameTransfer (rejected : Rejected ctx frame nowMs) :
    SameTransfer ctx (process ctx frame nowMs).1 := by
  rcases rejected.context with ⟨_, same⟩ | ⟨_, same⟩
  · rw [same]
    exact ⟨rfl, rfl, rfl, rfl, rfl⟩
  · rw [same]
    exact ⟨rfl, rfl, rfl, rfl, rfl⟩

/-! ## Two deadlines -/

def Expired (lastMs nowMs : UInt32) : Prop := nowMs - lastMs ≥ nCrTimeoutMs

instance (lastMs nowMs : UInt32) : Decidable (Expired lastMs nowMs) :=
  inferInstanceAs (Decidable (nowMs - lastMs ≥ nCrTimeoutMs))

/-- Until the next frame of at least one byte or the first poll that finds N_Cr
over, every poll finds the same whether N_Cr counts from `firstMs` or from
`secondMs`. -/
def SamePolls (firstMs secondMs : UInt32) : List RxAction → Prop
  | [] => True
  | .frame [] _ :: rest => SamePolls firstMs secondMs rest
  | .frame (_ :: _) _ :: _ => True
  | .pollTimeout nowMs :: rest =>
    if Expired firstMs nowMs ∧ Expired secondMs nowMs then True
    else (Expired firstMs nowMs ↔ Expired secondMs nowMs) ∧ SamePolls firstMs secondMs rest

theorem pollTimeout_waiting (waiting : ctx.state = .waitConsecutive) (nowMs : UInt32) :
    pollTimeout ctx nowMs =
      if Expired ctx.lastFrameTimeMs nowMs then abortTransfer ctx.countTimeout .errTimeout else (ctx, .clear) := by
  rw [pollTimeout, if_neg (not_not.mpr waiting)]
  rfl

theorem observed_cons (action : RxAction) (rest : List RxAction) :
    observed ctx (action :: rest) =
      ((rxStep ctx action).2.event, (rxStep ctx action).2.message) :: observed (rxStep ctx action).1 rest :=
  rfl

/-- Two waiting contexts part at the first poll that falls between their
deadlines. -/
theorem SameTransfer.observed_iff (same : SameTransfer ctx other) (waiting : ctx.state = .waitConsecutive)
    (actions : List RxAction) :
    observed other actions = observed ctx actions ↔
      SamePolls ctx.lastFrameTimeMs other.lastFrameTimeMs actions := by
  induction actions generalizing ctx other with
  | nil => exact iff_of_true rfl trivial
  | cons action rest ih =>
    cases action with
    | frame bytes nowMs =>
      cases bytes with
      | nil =>
        have rejects : SameTransfer ctx.countRejected other.countRejected :=
          ⟨same.state, same.buffer, same.expected, same.received, same.next⟩
        exact (List.cons_inj_right _).trans (ih rejects waiting)
      | cons first bytes =>
        obtain ⟨output, alike⟩ := same.process (List.cons_ne_nil first bytes) nowMs
        refine iff_of_true ?_ trivial
        rw [observed_cons, observed_cons]
        simp only [rxStep, output, alike.observed rest]
    | pollTimeout nowMs =>
      have waits := same.state ▸ waiting
      rw [observed_cons, observed_cons, SamePolls]
      simp only [rxStep, pollTimeout_waiting waiting, pollTimeout_waiting waits]
      by_cases first : Expired ctx.lastFrameTimeMs nowMs
      · by_cases second : Expired other.lastFrameTimeMs nowMs
        · -- Both give up, and nothing is left to tell them apart.
          rw [if_pos first, if_pos second, if_pos ⟨first, second⟩]
          have idle : Alike ctx.countTimeout.goIdle other.countTimeout.goIdle := .goIdle same.buffer
          exact iff_of_true (congrArg _ (idle.observed rest).symm) trivial
        · rw [if_pos first, if_neg second, if_neg fun both => second both.2]
          refine iff_of_false (fun equal => ?_) fun both => second (both.1.mp first)
          cases (List.cons.inj equal).1
      · by_cases second : Expired other.lastFrameTimeMs nowMs
        · rw [if_neg first, if_pos second, if_neg fun both => first both.1]
          refine iff_of_false (fun equal => ?_) fun both => first (both.1.mpr second)
          cases (List.cons.inj equal).1
        · rw [if_neg first, if_neg second, if_neg fun both => first both.1, List.cons_inj_right, ih same waiting]
          exact (and_iff_right (iff_of_false first second)).symm

end

/-- A rejected frame goes unnoticed exactly when no transfer is open, when it is
empty, or when no poll before the next frame falls between the deadline of the
frame before it and its own. -/
theorem rejected_transparent_iff (buffer : Vector UInt8 maxPayloadSize) (before : List RxAction) (frame : Bytes)
    (nowMs : UInt32) (after : List RxAction) (rejected : Rejected (final rxStep (.init buffer) before) frame nowMs) :
    let ctx := final rxStep (.init buffer) before
    observed (process ctx frame nowMs).1 after = observed ctx after ↔
      ctx.state = .idle ∨ frame = [] ∨ SamePolls ctx.lastFrameTimeMs nowMs after := by
  generalize final rxStep (.init buffer) before = ctx at rejected
  dsimp only
  have same := rejected.sameTransfer
  by_cases idle : ctx.state = .idle
  · have alike : Alike ctx (process ctx frame nowMs).1 :=
      ⟨same, fun waiting => absurd (idle.symm.trans waiting) RxState.noConfusion⟩
    exact iff_of_true (alike.observed after).symm (.inl idle)
  · have waiting : ctx.state = .waitConsecutive := by
      cases state : ctx.state with
      | idle => exact absurd state idle
      | waitConsecutive => rfl
    rw [same.observed_iff waiting, or_iff_right idle]
    rcases rejected.context with ⟨empty, context⟩ | ⟨nonempty, context⟩
    · have alike : Alike ctx (process ctx frame nowMs).1 := ⟨same, fun _ => by rw [context]; rfl⟩
      exact iff_of_true ((same.observed_iff waiting after).mp (alike.observed after).symm) (.inl empty)
    · rw [context, or_iff_right nonempty]
      rfl

/-- A transfer opened at 0, a Flow Control at 500, and a poll before either
deadline. -/
theorem rejected_transparent_early :
    let ctx := final rxStep (.init (.replicate maxPayloadSize 0)) [.frame [0x10, 8, 1, 2, 3, 4, 5, 6] 0]
    observed (process ctx [0x30, 0, 0] 500).1 [.pollTimeout 999] = observed ctx [.pollTimeout 999] := by
  refine (rejected_transparent_iff _ _ _ _ _ ⟨rfl, Result.noConfusion⟩).mpr (.inr (.inr ?_))
  have polls : SamePolls 0 500 [.pollTimeout 999] := by
    rw [SamePolls, if_neg (by decide)]
    exact ⟨by decide, trivial⟩
  exact polls

/-- The Flow Control at 500 keeps alive the transfer that the poll at 1000 would
give up. -/
theorem rejected_frame_extends :
    let ctx := final rxStep (.init (.replicate maxPayloadSize 0)) [.frame [0x10, 8, 1, 2, 3, 4, 5, 6] 0]
    Rejected ctx [0x30, 0, 0] 500 ∧
      observed ctx [.pollTimeout 1000] = [(.aborted, [])] ∧
      observed (process ctx [0x30, 0, 0] 500).1 [.pollTimeout 1000] = [(.none, [])] :=
  ⟨⟨rfl, Result.noConfusion⟩, rfl, rfl⟩

end DiagnosticGateway.Isotp
