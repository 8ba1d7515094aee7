import DiagnosticGateway.Isotp.Deadlines
import DiagnosticGateway.Platform.Turns

/-! Frames for other nodes.

The link looks at its timers and takes its emission on in the turns in which
nothing is received. A frame for another node ends the turn before that, so it is
no substitute for silence as soon as something is due, and on a bus where such
frames never stop nothing of it ever happens.
-/

set_option autoImplicit false

namespace DiagnosticGateway.Platform
open BigEndian Isotp Traces

def RxDue (ctx : RxContext) (nowMs : UInt32) : Prop :=
  ctx.state = .waitConsecutive ∧ nowMs - ctx.lastFrameTimeMs ≥ nCrTimeoutMs

/-- N_Bs is over, or the block is, or the gap before the next frame. -/
def TxDue (ctx : TxContext) (nowMs : UInt32) : Prop :=
  ctx.WaitOver nowMs ∨
    (ctx.state = .sending ∧
      ((ctx.blockSize ≠ 0 ∧ ctx.framesInBlock ≥ ctx.blockSize) ∨ nowMs - ctx.lastFrameTimeMs ≥ ctx.stminMs.toUInt32))

def NothingDue (link : DiagLink) (nowMs : UInt32) : Prop := ¬ RxDue link.rx nowMs ∧ ¬ TxDue link.tx nowMs

section
variable {sends : Nat → Bool} {link : DiagLink} {nowMs : UInt32}

theorem txPoll_early {ctx : TxContext} (early : ¬ TxDue ctx nowMs) :
    txPoll ctx nowMs = (ctx, .clear) ∨ txPoll ctx nowMs = (ctx, .waiting) := by
  obtain ⟨young, held⟩ := not_or.mp early
  unfold txPoll
  split
  · exact .inl rfl
  · rename_i waiting
    exact .inr (if_neg fun expired => young ⟨waiting, expired⟩)
  · rename_i sending
    obtain ⟨room, gap⟩ := not_or.mp fun due => held ⟨sending, due⟩
    rw [if_neg room, if_pos (UInt32.not_le.mp gap)]
    exact .inr rfl

theorem txPoll_due {ctx : TxContext} (due : TxDue ctx nowMs) :
    (txPoll ctx nowMs).1.state ≠ ctx.state ∧ (txPoll ctx nowMs).2.event ≠ .sendFrame ∨
      (txPoll ctx nowMs).2.event = .sendFrame := by
  rcases due with ⟨waiting, expired⟩ | ⟨sending, due⟩
  · rw [txPoll_waiting waiting, if_pos expired, waiting]
    exact .inl ⟨TxState.noConfusion, TxEvent.noConfusion⟩
  · rw [txPoll, sending]
    dsimp only
    by_cases ended : ctx.blockSize ≠ 0 ∧ ctx.framesInBlock ≥ ctx.blockSize
    · rw [if_pos ended]
      exact .inl ⟨TxState.noConfusion, TxEvent.noConfusion⟩
    · rw [if_neg ended, if_neg (UInt32.not_lt.mpr (due.resolve_left ended))]
      refine .inr ?_
      split
      · rfl
      · rfl

structure Emits (link after : DiagLink) : Prop where
  rx : after.rx = link.rx
  rxCanId : after.rxCanId = link.rxCanId
  calls : link.calls <+: after.calls

theorem Emits.trans {middle after : DiagLink} (first : Emits link middle) (second : Emits middle after) :
    Emits link after :=
  ⟨second.rx.trans first.rx, second.rxCanId.trans first.rxCanId, first.calls.trans second.calls⟩

theorem driveTxLoop_emits (guard : Nat) : Emits link (driveTxLoop sends nowMs guard link).1 := by
  induction guard generalizing link with
  | zero => exact ⟨rfl, rfl, List.prefix_rfl⟩
  | succ guard ih =>
    rw [driveTxLoop]
    generalize txPoll link.tx nowMs = polled
    obtain ⟨tx, out⟩ := polled
    have sent : Emits link (sendFrame sends { link with tx } out.frame).1 :=
      ⟨rfl, rfl, List.prefix_append _ _⟩
    dsimp only
    cases out.event with
    | sendFrame =>
      generalize sendFrame sends { link with tx } out.frame = outcome at sent
      obtain ⟨next, code⟩ := outcome
      dsimp only
      split
      · exact sent
      · exact sent.trans ih
    | aborted | none | wait | complete => exact ⟨rfl, rfl, List.prefix_rfl⟩

theorem driveTx_emits : Emits link (driveTx sends link nowMs).1 := by
  rw [driveTx]
  split
  · exact ⟨rfl, rfl, List.prefix_rfl⟩
  · exact driveTxLoop_emits 700

theorem driveTx_still_iff : (driveTx sends link nowMs).1 = link ↔ ¬ TxDue link.tx nowMs := by
  by_cases idle : link.tx.state = .idle
  · rw [driveTx, if_pos idle]
    refine iff_of_true rfl ?_
    rintro (⟨waiting, _⟩ | ⟨sending, _⟩)
    · rw [idle] at waiting
      cases waiting
    · rw [idle] at sending
      cases sending
  · rw [driveTx, if_neg idle, driveTxLoop]
    by_cases due : TxDue link.tx nowMs
    · refine iff_of_false ?_ (not_not.mpr due)
      have polled := txPoll_due due
      generalize txPoll link.tx nowMs = outcome at polled
      obtain ⟨tx, out⟩ := outcome
      dsimp only at polled ⊢
      intro same
      rcases polled with ⟨moved, silent⟩ | sent
      · -- No frame leaves, and the state has changed.
        cases event : out.event with
        | sendFrame => exact silent event
        | aborted | none | wait | complete =>
          rw [event] at same
          exact moved (congrArg (fun link => link.tx.state) same)
      · -- One more call is made.
        rw [sent] at same
        have grown : (sendFrame sends { link with tx } out.frame).1.calls.length = link.calls.length + 1 := by
          simp [sendFrame]
        generalize sendFrame sends { link with tx } out.frame = first at grown same
        obtain ⟨next, code⟩ := first
        dsimp only at grown same
        split at same
        · dsimp only at same
          rw [same] at grown
          exact absurd grown (Nat.ne_of_lt (Nat.lt_succ_self _))
        · have kept := (@driveTxLoop_emits sends next nowMs 699).calls.length_le
          rw [same, grown] at kept
          exact Nat.not_succ_le_self _ kept
    · rcases txPoll_early due with same | same
      · rw [same]
        exact iff_of_true rfl due
      · rw [same]
        exact iff_of_true rfl due

/-- A silent turn changes nothing exactly as long as nothing is due. -/
theorem silentPoll_still_iff (laterMs : UInt32) :
    diagLinkPoll sends link ⟨.silence, nowMs, laterMs⟩ = (link, .nothing) ↔ NothingDue link nowMs := by
  rw [diagLinkPoll_silence rfl]
  by_cases due : RxDue link.rx nowMs
  · -- The reception is given up, whatever the emission does.
    refine iff_of_false (fun same => ?_) fun nothing => nothing.1 due
    have rx := (@driveTx_emits sends (link.checkReception nowMs) nowMs).rx
    rw [(Prod.mk.inj same).1, DiagLink.checkReception_rx, pollTimeout, if_neg (not_not.mpr due.1), if_pos due.2] at rx
    have state := congrArg RxContext.state rx
    rw [due.1] at state
    cases state
  · have still : pollTimeout link.rx nowMs = (link.rx, .clear) := by
      rcases pollTimeout_cases link.rx nowMs with same | ⟨waiting, expired, -⟩
      · exact same
      · exact absurd ⟨waiting, expired⟩ due
    have same : link.checkReception nowMs = link := by
      rw [DiagLink.checkReception, still]
      rfl
    rw [same, Prod.mk.injEq, and_iff_left rfl, NothingDue, and_iff_right due]
    exact driveTx_still_iff

end

/-! ## Foreign frames -/

theorem foreignPoll (sends : Nat → Bool) (link : DiagLink) {canId : UInt32} (foreign : canId ≠ link.rxCanId)
    (data : Bytes) (nowMs laterMs : UInt32) :
    diagLinkPoll sends link ⟨.frame canId data, nowMs, laterMs⟩ = (link, .nothing) := if_pos foreign

def Turn.silenced (turn : Turn) : Turn := { turn with received := .silence }

def Turn.Foreign (rxCanId : UInt32) (turn : Turn) : Prop := ∃ canId data, turn.received = .frame canId data ∧ canId ≠ rxCanId

def seen (e : Event DiagLink Turn PollResult) : DiagLink × PollResult := (e.after, e.output)

theorem foreign_turn (sends : Nat → Bool) {link : DiagLink} {turn : Turn} (foreign : turn.Foreign link.rxCanId) :
    diagLinkPoll sends link turn = (link, .nothing) := by
  obtain ⟨canId, data, received, other⟩ := foreign
  obtain ⟨_, nowMs, laterMs⟩ := turn
  cases received
  exact foreignPoll sends link other data nowMs laterMs

theorem foreign_turns_frozen (sends : Nat → Bool) {link : DiagLink} {turns : List Turn}
    (foreign : ∀ turn ∈ turns, turn.Foreign link.rxCanId) :
    (trace (diagLinkPoll sends) link turns).map seen = turns.map fun _ => (link, .nothing) := by
  induction turns with
  | nil => rfl
  | cons turn rest ih =>
    obtain ⟨first, rest⟩ := List.forall_mem_cons.mp foreign
    have same := foreign_turn sends first
    simp only [trace, List.map_cons, seen, event, same, List.cons.injEq, true_and]
    exact ih rest

theorem silent_turns_frozen_iff (sends : Nat → Bool) (link : DiagLink) (turns : List Turn) :
    (trace (diagLinkPoll sends) link (turns.map Turn.silenced)).map seen = (turns.map fun _ => (link, .nothing)) ↔
      ∀ turn ∈ turns, NothingDue link turn.nowMs := by
  induction turns with
  | nil => exact iff_of_true rfl (by simp)
  | cons turn rest ih =>
    have still := @silentPoll_still_iff sends link turn.nowMs turn.laterMs
    rw [List.forall_mem_cons, ← ih, ← still]
    simp only [trace, List.map_cons, seen, event, List.cons.injEq]
    refine and_congr_right fun same => ?_
    rw [show (diagLinkPoll sends link turn.silenced).1 = link from congrArg Prod.fst same]

/-- A frame for another node does what silence does exactly as long as nothing is
due, and so does any number of them. -/
theorem foreign_traffic_silent_iff (sends : Nat → Bool) (link : DiagLink) :
    (∀ canId data nowMs laterMs, canId ≠ link.rxCanId →
      (diagLinkPoll sends link ⟨.frame canId data, nowMs, laterMs⟩ = diagLinkPoll sends link ⟨.silence, nowMs, laterMs⟩ ↔
        NothingDue link nowMs)) ∧
    ∀ turns : List Turn, (∀ turn ∈ turns, turn.Foreign link.rxCanId) →
      ((trace (diagLinkPoll sends) link turns).map seen =
          (trace (diagLinkPoll sends) link (turns.map Turn.silenced)).map seen ↔
        ∀ turn ∈ turns, NothingDue link turn.nowMs) := by
  constructor
  · intro canId data nowMs laterMs foreign
    rw [foreignPoll sends link foreign, eq_comm]
    exact silentPoll_still_iff laterMs
  · intro turns foreign
    rw [foreign_turns_frozen sends foreign, eq_comm]
    exact silent_turns_frozen_iff sends link turns

/-- N_Bs is over at 1000, and the emitter goes on waiting behind a frame for
another node. -/
theorem foreign_frame_starves :
    let link : DiagLink := ⟨[], 0x7E0, 0x7E8, .init (.replicate maxPayloadSize 0),
      (txStart (.init (.replicate maxPayloadSize 0)) [1, 2, 3, 4, 5, 6, 7, 8] 0).1, .ok⟩
    (diagLinkPoll (fun _ => true) link ⟨.silence, 1000, 1000⟩).1.tx.state = .idle ∧
      (diagLinkPoll (fun _ => true) link ⟨.frame 0x123 [], 1000, 1000⟩).1.tx.state = .waitFlowControl ∧
      diagLinkPoll (fun _ => true) link ⟨.frame 0x123 [], 1000, 1000⟩ ≠
        diagLinkPoll (fun _ => true) link ⟨.silence, 1000, 1000⟩ := by
  intro link
  have rests : (diagLinkPoll (fun _ => true) link ⟨.silence, 1000, 1000⟩).1.tx.state = .idle := by
    decide +kernel
  have waits : (diagLinkPoll (fun _ => true) link ⟨.frame 0x123 [], 1000, 1000⟩).1.tx.state = .waitFlowControl := by
    rw [foreignPoll (fun _ => true) link (show (0x123 : UInt32) ≠ 0x7E8 by decide)]
    rfl
  refine ⟨rests, waits, fun same => ?_⟩
  rw [same, rests] at waits
  cases waits

end DiagnosticGateway.Platform
