import DiagnosticGateway.Isotp.Clock
import DiagnosticGateway.Isotp.FlowControl

/-! The end of a block.

The frame that fills its block leaves the emitter in the sending state, where a
Flow Control is ignored; only the next poll sees that the block is over and waits.
A peer that answers before that poll is not heard.
-/

set_option autoImplicit false

namespace DiagnosticGateway.Isotp
open BigEndian Buffer Traces WrappingClock

/-- The last call of `steps` produced the Consecutive Frame that fills its block,
and bytes of the message remain. -/
structure EndsBlock (payload : Bytes) (blockSize : UInt8) (steps : List TxStep) : Prop where
  block : ∃ before accept window stmin, steps = before ++ accept :: window ∧ Accepts blockSize stmin accept ∧
    (∀ e ∈ window, ¬ IsAccept e) ∧ (consecutiveTimes (accept :: window)).length = blockSize.toNat
  last : ∃ e ∈ steps.getLast?, consecutiveTime e ≠ none
  remaining : (producedFrames steps).length < consecutiveCount payload

/-- The block is over, and no poll has seen it. -/
structure Spent (ctx : TxContext) : Prop where
  sending : ctx.state = .sending
  limited : ctx.blockSize ≠ 0
  full : ctx.framesInBlock ≥ ctx.blockSize

/-- A call between the frame and the Flow Control that follows it: a poll, a start
of another message, or a Wait. -/
def TimedTx.Interim : TimedTx → Prop
  | .start _ _ => True
  | .poll _ => True
  | .flowControl frame _ => ∃ blockSize stmin, decodeFlowControl frame = .ok (.wait, blockSize, stmin)

section
variable {ctx : TxContext} {payload : Bytes} {count : Nat} {blockSize : UInt8} {action : TxAction}
  {past : List TxStep}

theorem consecutive_ready (produced : consecutiveTime (event txStep ctx action) ≠ none) :
    (txStep ctx action).1.state ≠ .waitFlowControl := by
  have sends : (txStep ctx action).2.out.event = .sendFrame := by
    by_contra silent
    exact produced (consecutiveTime_silent silent)
  have type : frameType (txStep ctx action).2.out.frame = .consecutive := by
    by_contra other
    exact produced (if_neg fun both => other both.2)
  have ready : ∀ other : TxContext, other.state ≠ .waitFlowControl → (txPoll other action.nowMs).2.event = .sendFrame →
      (txPoll other action.nowMs).1.state ≠ .waitFlowControl := fun other idle => (txPoll_ready idle _).2
  cases action with
  | start other nowMs =>
    rcases @txStart_opening ctx other nowMs with ⟨same, _⟩ | ⟨_, another⟩
    · simp only [txStep] at sends
      rw [same] at sends
      cases sends
    · exact absurd type another
  | poll nowMs =>
    by_cases waiting : ctx.state = .waitFlowControl
    · simp only [txStep, txPoll_waiting waiting] at sends
      split at sends
      · cases sends
      · cases sends
    · exact ready ctx waiting sends
  | flowControl frame nowMs =>
    by_cases accepts : IsAccept (event txStep ctx (.flowControl frame nowMs))
    · obtain ⟨blockSize, stmin, waiting, _, _, isFlowControl, decoded⟩ := accepts
      cases isFlowControl
      have waiting : ctx.state = .waitFlowControl := waiting
      simp only [txStep, txOnFlowControl_continue waiting decoded] at sends ⊢
      exact ready _ TxState.noConfusion sends
    · cases txStep_progress accepts with
      | quiet silent => exact absurd silent produced
      | sent sending =>
        have ignored : ctx.state ≠ .waitFlowControl := by simp [sending]
        simp only [txStep, txOnFlowControl_ignored ignored]
        exact ignored

theorem paced_start (waiting : ctx.state ≠ .sending) : Paced [] ctx where
  block := by
    intro before accept window blockSize stmin same
    simp at same
  authorised := fun sending => absurd sending waiting

theorem Segmenting.produces (segmenting : Segmenting payload past ctx) (long : 7 < payload.length)
    (noStart : StartsBusy (event txStep ctx action)) (produced : consecutiveTime (event txStep ctx action) ≠ none)
    (remaining : (producedFrames (past ++ [event txStep ctx action])).length < consecutiveCount payload) :
    Emitting (txStep ctx action).1 payload (producedFrames (past ++ [event txStep ctx action])).length := by
  have sends : (txStep ctx action).2.out.event = .sendFrame := by
    by_contra silent
    exact produced (consecutiveTime_silent silent)
  cases segmenting with
  | emitting count emitting frames kept =>
    have within := emitting.within
    have length : (producedFrames past).length = count := by
      rw [segmentation_take long (Nat.le_of_lt within)] at frames
      rw [(List.cons.inj frames).2, List.length_map, List.length_range]
    have advanced := txStep_advanced emitting action
    rw [producedFrames_concat, List.length_append, length] at remaining ⊢
    rw [event] at remaining ⊢
    generalize txStep ctx action = outcome at advanced sends remaining ⊢
    obtain ⟨after, result, out⟩ := outcome
    dsimp only at advanced sends remaining ⊢
    cases advanced with
    | held _ silent => exact absurd sends silent
    | sent next => exact next
    | finished idle last =>
      rw [producedFrame_send rfl, Option.toList_some, List.length_singleton, last] at remaining
      exact absurd remaining (Nat.lt_irrefl _)
    | aborted => cases sends
  | finished idle | aborted idle =>
    have quiet := (txStep_idle idle action noStart).2
    rw [quiet] at sends
    cases sends

theorem EndsBlock.spent {started : TxContext} {actions : List TxAction} (long : 7 < payload.length)
    (emitting : Emitting started payload 0) (waiting : started.state ≠ .sending) (limited : blockSize ≠ 0)
    (busy : ∀ e ∈ trace txStep started actions, StartsBusy e)
    (ends : EndsBlock payload blockSize (trace txStep started actions)) :
    Spent (final txStep started actions) ∧
      Emitting (final txStep started actions) payload (producedFrames (trace txStep started actions)).length := by
  obtain ⟨⟨before, accept, window, stmin, split, accepts, unaccepted, full⟩, last, remaining⟩ := ends
  have paced := run_induction txStep Paced (paced_start waiting) (fun _ _ action paced => paced.step action) actions
  have within := paced.block before accept window blockSize stmin split accepts unaccepted
  have next : (final txStep started actions).state ≠ .waitFlowControl ∧
      Emitting (final txStep started actions) payload (producedFrames (trace txStep started actions)).length := by
    rcases List.eq_nil_or_concat actions with rfl | ⟨actions, action, rfl⟩
    · simp [trace] at last
    · rw [List.concat_eq_append, trace_concat] at *
      rw [final_concat]
      have produced : consecutiveTime (event txStep (final txStep started actions) action) ≠ none := by simpa using last
      have segmenting := guarded_run txStep (fun _ e => StartsBusy e) (Segmenting payload)
        (.emitting 0 emitting (segmentation_take long (Nat.zero_le _)).symm (by simp))
        (fun past state action segmenting => segmenting.step long action) actions
        ((allEvents_forall _ _).mpr fun e member => busy e (by simp [member]))
      exact ⟨consecutive_ready produced, segmenting.produces long (busy _ (by simp)) produced remaining⟩
  have sending : (final txStep started actions).state = .sending := by
    have busy := next.2.busy
    cases state : (final txStep started actions).state with
    | idle => exact absurd state busy
    | waitFlowControl => exact absurd state next.1
    | sending => rfl
  obtain ⟨size, -⟩ := within.parameters sending
  have counted := within.counted sending limited
  refine ⟨⟨sending, size ▸ limited, ?_⟩, next.2⟩
  rw [ge_iff_le, UInt8.le_iff_toNat_le, counted, full, size]

/-! ## Until the Flow Control -/

variable {call : TimedTx} {between : List TimedTx} {since time : Nat}

theorem Spent.ignores (spent : Spent ctx) (interim : call.Interim) (unpolled : ∀ moment, call ≠ .poll moment) :
    (timedTxStep ctx call).1 = ctx := by
  cases call with
  | start other moment =>
    have busy : ctx.state ≠ .idle := by simp [spent.sending]
    simp only [timedTxStep, TimedTx.action, txStep, txStart, if_pos busy]
  | flowControl frame moment =>
    have ignored : ctx.state ≠ .waitFlowControl := by simp [spent.sending]
    simp only [timedTxStep, TimedTx.action, txStep, txOnFlowControl_ignored ignored]
  | poll moment => exact absurd rfl (unpolled moment)

theorem Spent.poll (spent : Spent ctx) (nowMs : UInt32) : txPoll ctx nowMs = (ctx.awaitFlowControl nowMs, .waiting) := by
  rw [txPoll, spent.sending]
  exact if_pos ⟨spent.limited, spent.full⟩

theorem waiting_interim (emitting : Emitting ctx payload count) (waiting : ctx.state = .waitFlowControl)
    (reads : ctx.waitStartMs = reading since) (near : time < since + nBsTimeoutMs.toNat)
    (ordered : (since :: (between.map TimedTx.time ++ [time])).Pairwise (· ≤ ·))
    (interim : ∀ call ∈ between, call.Interim) :
    Emitting (final timedTxStep ctx between) payload count ∧
      (final timedTxStep ctx between).state = .waitFlowControl := by
  induction between generalizing ctx since with
  | nil => exact ⟨emitting, waiting⟩
  | cons call rest ih =>
    obtain ⟨first, others⟩ := List.forall_mem_cons.mp interim
    obtain ⟨later, ordered⟩ := List.pairwise_cons.mp ordered
    obtain ⟨ahead, tail⟩ := List.pairwise_cons.mp ordered
    have after : since ≤ call.time := later _ List.mem_cons_self
    have before : call.time ≤ time := ahead _ (List.mem_append_right _ (List.mem_singleton.mpr rfl))
    have skip : (since :: (rest.map TimedTx.time ++ [time])).Pairwise (· ≤ ·) :=
      List.pairwise_cons.mpr ⟨fun moment member => later moment (List.mem_cons_of_mem _ member), tail⟩
    have limit : nBsTimeoutMs.toNat = 1000 := rfl
    cases call with
    | start other moment =>
      have same : (timedTxStep ctx (.start other moment)).1 = ctx := by
        simp only [timedTxStep, TimedTx.action, txStep, txStart, if_pos emitting.busy]
      rw [final, same]
      exact ih emitting waiting reads near skip others
    | poll moment =>
      have same : (timedTxStep ctx (.poll moment)).1 = ctx := by
        have young : ¬ reading moment - ctx.waitStartMs ≥ nBsTimeoutMs := by
          dsimp only [TimedTx.time] at after before
          rw [reads, elapsed_iff after (by omega)]
          omega
        simp only [timedTxStep, TimedTx.action, txStep, txPoll_waiting waiting, if_neg young]
      rw [final, same]
      exact ih emitting waiting reads near skip others
    | flowControl frame moment =>
      obtain ⟨blockSize, stmin, decoded⟩ := first
      have same : (timedTxStep ctx (.flowControl frame moment)).1 = ctx.extendWait (reading moment) := by
        simp only [timedTxStep, TimedTx.action, txStep, txOnFlowControl_wait waiting decoded]
      dsimp only [TimedTx.time] at after
      rw [final, same]
      exact ih (emitting.extendWait _) waiting rfl (by omega) ordered others

theorem Spent.interim (spent : Spent ctx) (emitting : Emitting ctx payload count)
    (ordered : (between.map TimedTx.time ++ [time]).Pairwise (· ≤ ·))
    (near : ∀ moment, .poll moment ∈ between → time < moment + nBsTimeoutMs.toNat)
    (interim : ∀ call ∈ between, call.Interim) :
    Emitting (final timedTxStep ctx between) payload count ∧
      ((final timedTxStep ctx between).state = .waitFlowControl ↔ ∃ moment, .poll moment ∈ between) := by
  induction between with
  | nil => exact ⟨emitting, by simp [final, spent.sending]⟩
  | cons call rest ih =>
    obtain ⟨first, others⟩ := List.forall_mem_cons.mp interim
    by_cases polled : ∃ moment, call = .poll moment
    · obtain ⟨moment, rfl⟩ := polled
      have same : (timedTxStep ctx (.poll moment)).1 = ctx.awaitFlowControl (reading moment) := by
        simp only [timedTxStep, TimedTx.action, txStep, spent.poll]
      rw [final, same]
      obtain ⟨emits, waits⟩ := waiting_interim (emitting.awaitFlowControl _) rfl rfl (near moment List.mem_cons_self)
        ordered others
      exact ⟨emits, iff_of_true waits ⟨moment, List.mem_cons_self⟩⟩
    · have unpolled : ∀ moment, call ≠ .poll moment := fun moment isPoll => polled ⟨moment, isPoll⟩
      rw [final, spent.ignores first unpolled]
      obtain ⟨emits, waits⟩ := ih (List.Pairwise.of_cons ordered)
        (fun moment member => near moment (List.mem_cons_of_mem _ member)) others
      refine ⟨emits, waits.trans (exists_congr fun moment => ?_)⟩
      rw [List.mem_cons, or_iff_right fun isPoll => unpolled moment isPoll.symm]

end

/-- The Flow Control is taken, and the frame behind the last one leaves with it. -/
def ContinuesAt (payload : Bytes) (index : Nat) (e : TxStep) : Prop :=
  IsAccept e ∧ producedFrame e = some (canonicalConsecutive payload index)

theorem continuesAt_iff {ctx : TxContext} {payload frame : Bytes} {count : Nat} {blockSize stmin : UInt8}
    (emitting : Emitting ctx payload count) (decoded : decodeFlowControl frame = .ok (.continueToSend, blockSize, stmin))
    (nowMs : UInt32) :
    ContinuesAt payload count (event txStep ctx (.flowControl frame nowMs)) ↔ ctx.state = .waitFlowControl := by
  constructor
  · rintro ⟨⟨_, _, waiting, _⟩, -⟩
    exact waiting
  · intro waiting
    refine ⟨⟨blockSize, stmin, waiting, frame, nowMs, rfl, decoded⟩, ?_⟩
    have sends := txPoll_resume ctx blockSize (stminToMs stmin) nowMs
    have advanced := txOnFlowControl_advanced emitting frame nowMs
    rw [← txOnFlowControl_continue waiting decoded] at sends
    rw [event, txStep]
    generalize txOnFlowControl ctx frame nowMs = outcome at sends advanced
    cases advanced with
    | held _ silent => exact absurd sends silent
    | sent | finished => exact producedFrame_send rfl
    | aborted => cases sends

/-- Whatever the run, and whatever the peer allows next: once a block is full and
bytes remain, a ContinueToSend within N_Bs starts the next block exactly when a
poll has come between. -/
theorem block_end_continues_iff (ctx : TxContext) (payload : Bytes) (nowMs : UInt32) (actions : List TxAction)
    (blockSize : UInt8) (between : List TimedTx) (frame : Bytes) (time : Nat) (nextBlockSize stmin : UInt8)
    (idle : ctx.state = .idle) (long : 8 ≤ payload.length) (fits : payload.length ≤ maxPayloadSize)
    (limited : 1 ≤ blockSize) (busy : ∀ e ∈ trace txStep (txStart ctx payload nowMs).1 actions, StartsBusy e)
    (ends : EndsBlock payload blockSize (trace txStep (txStart ctx payload nowMs).1 actions))
    (interim : ∀ call ∈ between, call.Interim) (ordered : (between.map TimedTx.time ++ [time]).Pairwise (· ≤ ·))
    (near : ∀ call ∈ between, time < call.time + nBsTimeoutMs.toNat)
    (decoded : decodeFlowControl frame = .ok (.continueToSend, nextBlockSize, stmin)) :
    let steps := trace txStep (txStart ctx payload nowMs).1 actions
    let after := final timedTxStep (final txStep (txStart ctx payload nowMs).1 actions) between
    ContinuesAt payload (producedFrames steps).length (event txStep after (.flowControl frame (reading time))) ↔
      ∃ moment, .poll moment ∈ between := by
  have some : blockSize ≠ 0 := by
    rintro rfl
    exact absurd limited (by decide)
  rw [txStart_long idle long fits] at busy ends ⊢
  obtain ⟨spent, emitting⟩ := ends.spent long (emitting_start long fits nowMs) TxState.noConfusion some busy
  obtain ⟨emits, waits⟩ := spent.interim emitting ordered (fun moment member => near _ member) interim
  exact (continuesAt_iff emits decoded _).trans waits

/-- Fourteen bytes in blocks of one: the poll at 2 sees that the block is over. -/
theorem block_end_continues_polled :
    let started := (txStart (.init (.replicate maxPayloadSize 0)) (List.replicate 14 0xAA) 0).1
    let after := final timedTxStep (final txStep started [.flowControl [0x30, 1, 0] 1]) [.poll 2]
    ContinuesAt (List.replicate 14 0xAA) 1 (event txStep after (.flowControl [0x30, 1, 0] (reading 3))) := by
  refine (block_end_continues_iff _ _ 0 [.flowControl [0x30, 1, 0] 1] 1 [.poll 2] [0x30, 1, 0] 3 1 0 rfl (by decide)
    (by decide) (by decide) ?_ ⟨?_, ?_, by decide⟩ ?_ (by decide) (by decide) rfl).mpr ⟨2, by decide⟩
  · intro e member payload nowMs start
    rw [trace, trace, List.mem_singleton] at member
    subst member
    cases start
  · exact ⟨[], _, [], 0, rfl, ⟨rfl, _, _, rfl, rfl⟩, by simp, by decide⟩
  · exact ⟨_, rfl, by decide⟩
  · intro call member
    rw [List.mem_singleton.mp member]
    trivial

/-- The same Flow Control without the poll is ignored. -/
theorem block_end_lost :
    let started := (txStart (.init (.replicate maxPayloadSize 0)) (List.replicate 14 0xAA) 0).1
    let steps := trace txStep started [.flowControl [0x30, 1, 0] 1]
    let lost := event txStep (final txStep started [.flowControl [0x30, 1, 0] 1]) (.flowControl [0x30, 1, 0] 2)
    EndsBlock (List.replicate 14 0xAA) 1 steps ∧ lost.after = lost.before ∧ producedFrame lost = none ∧
      ¬ ContinuesAt (List.replicate 14 0xAA) 1 lost := by
  refine ⟨⟨⟨[], _, [], 0, rfl, ⟨rfl, _, _, rfl, rfl⟩, by simp, by decide⟩, ⟨_, rfl, by decide⟩, by decide⟩, rfl, rfl, ?_⟩
  rintro ⟨-, produced⟩
  cases produced

end DiagnosticGateway.Isotp
