import DiagnosticGateway.Library.Tallies
import DiagnosticGateway.Isotp.Reassembly
import DiagnosticGateway.Isotp.FlowControl

/-! The statistics the programs print (`print_statistics` and `cmd_stats`), beside what the
calls told their callers; and what became of every message.

The runs are those between two resets: `isotp_tx_reset` drops a message without a word.
-/

set_option autoImplicit false

namespace DiagnosticGateway.Isotp
open BigEndian Buffer Traces

/-! ## Reception -/

inductive RxHeading where
  | frames
  | messages
  | rejected
  | sequenceErrors
  | overflows
  | timeouts
  deriving DecidableEq, Repr

@[simp] def RxContext.statistic (ctx : RxContext) : RxHeading → UInt32
  | .frames => ctx.statFrames
  | .messages => ctx.statMessages
  | .rejected => ctx.statRejected
  | .sequenceErrors => ctx.statSequenceErrors
  | .overflows => ctx.statOverflows
  | .timeouts => ctx.statTimeouts

@[simp] def Receives (e : RxStep) : Prop :=
  match e.action with
  | .frame bytes _ => bytes ≠ []
  | .pollTimeout _ => False

/-- What a call reports under each heading. A frame is rejected without an event. -/
@[simp] def RxHeading.Reported : RxHeading → RxStep → Prop
  | .frames, e => Receives e
  | .messages, e => e.output.event = .messageReady
  | .rejected, e => e.output.event = .none ∧ e.output.reason ≠ .ok
  | .sequenceErrors, e => e.output.event = .aborted ∧ e.output.reason = .errSequenceNumber
  | .overflows, e => e.output.event ≠ .none ∧ e.output.reason = .errOverflow
  | .timeouts, e => e.output.event = .aborted ∧ e.output.reason = .errTimeout

instance : DecidablePred Receives
  | ⟨_, .frame bytes _, _, _⟩ => inferInstanceAs (Decidable (bytes ≠ []))
  | ⟨_, .pollTimeout _, _, _⟩ => inferInstanceAs (Decidable False)

instance : (heading : RxHeading) → DecidablePred heading.Reported
  | .frames, e => inferInstanceAs (Decidable (Receives e))
  | .messages, _ => inferInstanceAs (Decidable (_ = _))
  | .rejected, _ | .overflows, _ => inferInstanceAs (Decidable (_ ∧ _))
  | .sequenceErrors, _ | .timeouts, _ => inferInstanceAs (Decidable (_ ∧ _))

@[simp] def OpensTransfer (e : RxStep) : Prop := e.output.event = .sendFlowControl ∧ e.output.reason = .ok

@[simp] def EndsTransfer (e : RxStep) : Prop := e.before.state = .waitConsecutive ∧ e.output.event ≠ .none

instance : DecidablePred OpensTransfer := fun _ => inferInstanceAs (Decidable (_ ∧ _))
instance : DecidablePred EndsTransfer := fun _ => inferInstanceAs (Decidable (_ ∧ _))

@[simp] def RxContext.transfers (ctx : RxContext) : Nat := if ctx.state = .waitConsecutive then 1 else 0

section
variable (ctx : RxContext) (frame : Bytes) (nowMs : UInt32)

theorem process_counts (heading : RxHeading) :
    (process ctx frame nowMs).1.statistic heading = ctx.statistic heading +
      if heading.Reported (event rxStep ctx (.frame frame nowMs)) then 1 else 0 := by
  by_cases nothing : frame = []
  · subst nothing
    cases heading <;> simp [event, rxStep, process, rejectFrame, RxResult.clear]
  have processed := process_processed ctx frame nowMs
  rw [event, rxStep]
  generalize process ctx frame nowMs = outcome at processed ⊢
  cases processed with
  | empty same => exact absurd same nothing
  | rejected reason failure => cases heading <;> simp [rejectFrame, RxResult.clear, nothing, failure]
  | single base payload _ _ same =>
    rcases same with rfl | rfl
    · cases heading <;> simp [RxResult.ready, RxResult.clear, nothing]
    · cases heading <;> simp [RxResult.ready, RxResult.clear, nothing]
  | completed => cases heading <;> simp [RxResult.ready, RxResult.clear, nothing]
  | outOfSequence | tooLong => cases heading <;> simp [abortTransfer, RxResult.clear, nothing]
  | opened | overflowed => cases heading <;> simp [buildFlowControl, RxResult.clear, nothing]
  | extended => cases heading <;> simp [RxResult.clear, nothing]

theorem pollTimeout_counts (heading : RxHeading) :
    (pollTimeout ctx nowMs).1.statistic heading = ctx.statistic heading +
      if heading.Reported (event rxStep ctx (.pollTimeout nowMs)) then 1 else 0 := by
  rw [event, rxStep]
  rcases pollTimeout_cases ctx nowMs with same | ⟨-, -, same⟩
  · rw [same]
    cases heading <;> simp [RxResult.clear]
  · rw [same]
    cases heading <;> simp [abortTransfer, RxResult.clear]

theorem process_balance :
    ctx.transfers + (if OpensTransfer (event rxStep ctx (.frame frame nowMs)) then 1 else 0) =
      (process ctx frame nowMs).1.transfers + if EndsTransfer (event rxStep ctx (.frame frame nowMs)) then 1 else 0 := by
  have processed := process_processed ctx frame nowMs
  rw [event, rxStep]
  generalize process ctx frame nowMs = outcome at processed ⊢
  cases processed with
  | empty | rejected => simp [rejectFrame, RxResult.clear]
  | single base payload _ idle => simp [RxResult.ready, RxResult.clear, idle]
  | opened => simp [buildFlowControl, RxResult.clear, Nat.add_comm]
  | overflowed => simp [buildFlowControl, RxResult.clear]
  | outOfSequence waiting | tooLong waiting => simp [abortTransfer, RxResult.clear, waiting]
  | extended waiting => simp [RxResult.clear, waiting]
  | completed waiting => simp [RxResult.ready, RxResult.clear, waiting]

theorem pollTimeout_balance :
    ctx.transfers + (if OpensTransfer (event rxStep ctx (.pollTimeout nowMs)) then 1 else 0) =
      (pollTimeout ctx nowMs).1.transfers + if EndsTransfer (event rxStep ctx (.pollTimeout nowMs)) then 1 else 0 := by
  rw [event, rxStep]
  rcases pollTimeout_cases ctx nowMs with same | ⟨waiting, -, same⟩
  · rw [same]
    simp [RxResult.clear]
  · rw [same]
    simp [abortTransfer, RxResult.clear, waiting]

theorem rxStep_counts (action : RxAction) (heading : RxHeading) :
    (rxStep ctx action).1.statistic heading = ctx.statistic heading +
      if heading.Reported (event rxStep ctx action) then 1 else 0 := by
  cases action with
  | frame bytes nowMs => exact process_counts ctx bytes nowMs heading
  | pollTimeout nowMs => exact pollTimeout_counts ctx nowMs heading

theorem rxStep_balance (action : RxAction) :
    ctx.transfers + (if OpensTransfer (event rxStep ctx action) then 1 else 0) =
      (rxStep ctx action).1.transfers + if EndsTransfer (event rxStep ctx action) then 1 else 0 := by
  cases action with
  | frame bytes nowMs => exact process_balance ctx bytes nowMs
  | pollTimeout nowMs => exact pollTimeout_balance ctx nowMs

end

section
variable (buffer : Vector UInt8 maxPayloadSize) (actions : List RxAction)

/-- Whatever frames and polls come: every statistic is the number of the calls that
reported what it stands for, modulo 2^32. -/
theorem rx_statistics_exact (heading : RxHeading) :
    (final rxStep (.init buffer) actions).statistic heading =
      UInt32.ofNat ((trace rxStep (.init buffer) actions).countP heading.Reported) := by
  have blank : (RxContext.init buffer).statistic heading = 0 := by cases heading <;> rfl
  have counted := count_run rxStep (fun ctx => ctx.statistic heading) heading.Reported
    (fun ctx action => rxStep_counts ctx action heading) (.init buffer) actions
  rw [counted, blank, UInt32.zero_add]

/-- No transfer is lost without an event: of those opened, all but the one in progress
have ended in a call that returned one. -/
theorem rx_transfers_accounted :
    (trace rxStep (.init buffer) actions).countP OpensTransfer =
      (final rxStep (.init buffer) actions).transfers + (trace rxStep (.init buffer) actions).countP EndsTransfer := by
  have none : (RxContext.init buffer).transfers = 0 := rfl
  have balance := balance_run rxStep RxContext.transfers OpensTransfer EndsTransfer rxStep_balance (.init buffer) actions
  rwa [none, Nat.zero_add] at balance

end

/-! ## Emission -/

inductive TxHeading where
  | messages
  | frames
  | timeouts
  deriving DecidableEq, Repr

@[simp] def TxContext.statistic (ctx : TxContext) : TxHeading → UInt32
  | .messages => ctx.statMessages
  | .frames => ctx.statFrames
  | .timeouts => ctx.statTimeouts

/-- What a call reports under each heading, by its result and the context behind it: the
last frame of a message is the one that leaves the context idle. -/
@[simp] def TxHeading.Told : TxHeading → TxContext × TxResult → Prop
  | .messages, (after, out) => out.event = .sendFrame ∧ after.state = .idle
  | .frames, (_, out) => out.event = .sendFrame
  | .timeouts, (_, out) => out.event = .aborted ∧ out.reason = .errTimeout

instance : (heading : TxHeading) → DecidablePred heading.Told
  | .messages, (_, _) | .timeouts, (_, _) => inferInstanceAs (Decidable (_ ∧ _))
  | .frames, (_, _) => inferInstanceAs (Decidable (_ = _))

@[simp] def EndsMessage (outcome : TxContext × TxResult) : Prop :=
  TxHeading.messages.Told outcome ∨ outcome.2.event = .aborted

instance : DecidablePred EndsMessage := fun _ => inferInstanceAs (Decidable (_ ∨ _))

@[simp] def TxContext.messages (ctx : TxContext) : Nat := if ctx.state ≠ .idle then 1 else 0

/-- What a call leaves behind that takes `accepted` messages. -/
structure Booked (ctx : TxContext) (accepted : Nat) (outcome : TxContext × TxResult) : Prop where
  counts : ∀ heading : TxHeading, outcome.1.statistic heading =
    ctx.statistic heading + if heading.Told outcome then 1 else 0
  balance : ctx.messages + accepted = outcome.1.messages + if EndsMessage outcome then 1 else 0

section
variable {ctx after : TxContext} {accepted : Nat}

theorem booked_silent {out : TxResult} (same : ∀ heading, after.statistic heading = ctx.statistic heading)
    (busy : after.state = .idle ↔ ctx.state = .idle) (unsent : out.event ≠ .sendFrame) (kept : out.event ≠ .aborted) :
    Booked ctx 0 (after, out) where
  counts heading := by
    rw [same]
    cases heading <;> simp [unsent, kept]
  balance := by simp [busy, unsent, kept]

theorem booked_abort {reason : Result} (busy : ctx.state ≠ .idle) (other : reason ≠ .errTimeout) :
    Booked ctx 0 (ctx.goIdle, .abort reason) where
  counts heading := by cases heading <;> simp [TxResult.abort, TxResult.clear, other]
  balance := by simp [TxResult.abort, TxResult.clear, busy]

theorem booked_frame (same : ∀ heading, after.statistic heading = ctx.countFrame.statistic heading)
    (busy : after.state ≠ .idle) (one : ctx.messages + accepted = 1) (frame : Bytes) :
    Booked ctx accepted (after, .send frame) where
  counts heading := by
    rw [same]
    cases heading <;> simp [TxResult.send, TxResult.clear, busy]
  balance := by
    rw [one]
    simp [TxResult.send, TxResult.clear, busy]

theorem booked_last (same : ∀ heading, after.statistic heading = ctx.countFrame.countMessage.statistic heading)
    (idle : after.state = .idle) (one : ctx.messages + accepted = 1) (frame : Bytes) :
    Booked ctx accepted (after, .send frame) where
  counts heading := by
    rw [same]
    cases heading <;> simp [TxResult.send, TxResult.clear, idle]
  balance := by
    rw [one]
    simp [TxResult.send, TxResult.clear, idle]

end

theorem txPoll_booked (ctx : TxContext) (nowMs : UInt32) : Booked ctx 0 (txPoll ctx nowMs) := by
  unfold txPoll
  split
  · exact booked_silent (fun _ => rfl) Iff.rfl (by decide) (by decide)
  · rename_i waiting
    split
    · constructor
      · intro heading
        cases heading <;> simp [TxResult.abort, TxResult.clear]
      · simp [TxResult.abort, TxResult.clear, waiting]
    · exact booked_silent (fun _ => rfl) Iff.rfl (by decide) (by decide)
  · rename_i sending
    split
    · exact booked_silent (fun heading => by cases heading <;> rfl) (by simp [sending]) (by decide) (by decide)
    · split
      · exact booked_silent (fun _ => rfl) Iff.rfl (by decide) (by decide)
      · rw [buildConsecutiveFrame]
        dsimp only
        split
        · exact booked_last (fun heading => by cases heading <;> simp) rfl (by simp [sending]) _
        · exact booked_frame (fun heading => by cases heading <;> simp) (by simp [sending]) (by simp [sending]) _

theorem decodeFlowControl_error {frame : Bytes} {reason : Result} (decoded : decodeFlowControl frame = .error reason) :
    reason ≠ .errTimeout := by
  unfold decodeFlowControl at decoded
  split at decoded
  · cases decoded
    decide
  · split at decoded
    · cases decoded
      decide
    · dsimp only at decoded
      split at decoded
      · cases decoded
        decide
      · cases decoded

theorem txOnFlowControl_booked (ctx : TxContext) (frame : Bytes) (nowMs : UInt32) :
    Booked ctx 0 (txOnFlowControl ctx frame nowMs) := by
  by_cases waiting : ctx.state = .waitFlowControl
  · have busy : ctx.state ≠ .idle := by
      rw [waiting]
      decide
    rw [txOnFlowControl, if_neg (not_not.mpr waiting)]
    split
    · rename_i decoded
      exact booked_abort busy (decodeFlowControl_error decoded)
    · -- The poll finds the context resumed, with the same books.
      rename_i blockSize stmin decoded
      obtain ⟨counts, balance⟩ := txPoll_booked (ctx.resume blockSize (stminToMs stmin) nowMs) nowMs
      constructor
      · intro heading
        rw [counts]
        cases heading <;> rfl
      · rw [← balance]
        simp [busy]
    · exact booked_silent (fun heading => by cases heading <;> rfl) Iff.rfl (by decide) (by decide)
    · exact booked_abort busy (by decide)
  · rw [txOnFlowControl_ignored waiting]
    exact booked_silent (fun _ => rfl) Iff.rfl (by decide) (by decide)

theorem txStart_booked (ctx : TxContext) (payload : Bytes) (nowMs : UInt32) :
    Booked ctx (if (txStart ctx payload nowMs).2.1 = .ok then 1 else 0)
      ((txStart ctx payload nowMs).1, (txStart ctx payload nowMs).2.2) := by
  have refused : ∀ reason : Result, reason ≠ .ok → txStart ctx payload nowMs = (ctx, reason, .clear) →
      Booked ctx (if (txStart ctx payload nowMs).2.1 = .ok then 1 else 0)
        ((txStart ctx payload nowMs).1, (txStart ctx payload nowMs).2.2) := by
    intro reason failure same
    rw [same, if_neg failure]
    exact booked_silent (fun _ => rfl) Iff.rfl TxEvent.noConfusion TxEvent.noConfusion
  by_cases idle : ctx.state = .idle
  · by_cases empty : payload.length = 0
    · exact refused .errInvalidLength (by decide) (by rw [txStart, if_neg (not_not.mpr idle), if_pos empty])
    · by_cases short : payload.length ≤ 7
      · rw [txStart_short idle empty short]
        exact booked_last (fun heading => by cases heading <;> simp) rfl (by simp [idle]) _
      · by_cases fits : payload.length ≤ maxPayloadSize
        · rw [txStart_long idle (Nat.not_le.mp short) fits]
          exact booked_frame (fun heading => by cases heading <;> simp) (by simp) (by simp [idle]) _
        · refine refused .errOverflow (by decide) ?_
          rw [txStart, if_neg (not_not.mpr idle), if_neg empty, if_pos (Nat.not_le.mp fits)]
  · exact refused .errBusy (by decide) (by rw [txStart, if_pos idle])

def outcomeOf (e : TxStep) : TxContext × TxResult := (e.after, e.output.out)

instance : DecidablePred StartsMessage
  | ⟨_, .start payload nowMs, reply, _⟩ =>
    decidable_of_iff (reply.result = .ok) ⟨fun ok => ⟨payload, nowMs, rfl, ok⟩, fun ⟨_, _, _, ok⟩ => ok⟩
  | ⟨_, .flowControl _ _, _, _⟩ | ⟨_, .poll _, _, _⟩ => .isFalse fun ⟨_, _, same, _⟩ => nomatch same

theorem txStep_booked (ctx : TxContext) (action : TxAction) :
    Booked ctx (if StartsMessage (event txStep ctx action) then 1 else 0) (outcomeOf (event txStep ctx action)) := by
  cases action with
  | start payload nowMs =>
    have taken : StartsMessage (event txStep ctx (.start payload nowMs)) ↔ (txStart ctx payload nowMs).2.1 = .ok :=
      ⟨fun ⟨_, _, _, ok⟩ => ok, fun ok => ⟨payload, nowMs, rfl, ok⟩⟩
    rw [if_congr taken rfl rfl]
    exact txStart_booked ctx payload nowMs
  | flowControl frame nowMs =>
    rw [if_neg fun ⟨_, _, same, _⟩ => nomatch same]
    exact txOnFlowControl_booked ctx frame nowMs
  | poll nowMs =>
    rw [if_neg fun ⟨_, _, same, _⟩ => nomatch same]
    exact txPoll_booked ctx nowMs

section
variable (buffer : Vector UInt8 maxPayloadSize) (actions : List TxAction)

/-- Whatever calls are made: every statistic is the number of the calls that reported
what it stands for, modulo 2^32. -/
theorem tx_statistics_exact (heading : TxHeading) :
    (final txStep (.init buffer) actions).statistic heading =
      UInt32.ofNat ((trace txStep (.init buffer) actions).countP fun e => heading.Told (outcomeOf e)) := by
  have blank : (TxContext.init buffer).statistic heading = 0 := by cases heading <;> rfl
  have counted := count_run txStep (fun ctx => ctx.statistic heading) (fun e => heading.Told (outcomeOf e))
    (fun ctx action => (txStep_booked ctx action).counts heading) (.init buffer) actions
  rw [counted, blank, UInt32.zero_add]

/-- No message is lost without an event: of those taken, all but the one under way
have been sent to their last frame or given up. -/
theorem tx_messages_accounted :
    (trace txStep (.init buffer) actions).countP StartsMessage =
      (final txStep (.init buffer) actions).messages +
        (trace txStep (.init buffer) actions).countP fun e => EndsMessage (outcomeOf e) := by
  have none : (TxContext.init buffer).messages = 0 := rfl
  have balance := balance_run txStep TxContext.messages StartsMessage (fun e => EndsMessage (outcomeOf e))
    (fun ctx action => (txStep_booked ctx action).balance) (.init buffer) actions
  rwa [none, Nat.zero_add] at balance

end

end DiagnosticGateway.Isotp
