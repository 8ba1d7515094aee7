import Mathlib.Data.List.Chain
import DiagnosticGateway.Isotp.Deadlines

/-! Flow control is obeyed. Under one ContinueToSend the emitter sends no more
Consecutive Frames than it allows and none sooner after another than it asks, and
no message sends any before its first one.
-/

set_option autoImplicit false

namespace DiagnosticGateway.Isotp
open BigEndian Buffer Traces

def Accepts (blockSize stmin : UInt8) (e : TxStep) : Prop :=
  e.before.state = .waitFlowControl ∧ ∃ frame nowMs, e.action = .flowControl frame nowMs ∧
    decodeFlowControl frame = .ok (.continueToSend, blockSize, stmin)

def IsAccept (e : TxStep) : Prop := ∃ blockSize stmin, Accepts blockSize stmin e

def StartsMessage (e : TxStep) : Prop := ∃ payload nowMs, e.action = .start payload nowMs ∧ e.output.result = .ok

def consecutiveTime (e : TxStep) : Option UInt32 :=
  if e.output.out.event = .sendFrame ∧ frameType e.output.out.frame = .consecutive then some e.action.nowMs else none

def consecutiveTimes (steps : List TxStep) : List UInt32 := steps.filterMap consecutiveTime

/-- Each time is `isotp_stmin_to_ms` or more after the one before, on the
wrapping clock. -/
def Spaced (stmin : UInt8) (times : List UInt32) : Prop :=
  times.IsChain fun t1 t2 => t2 - t1 ≥ (stminToMs stmin).toUInt32

/-- The message this frame belongs to has had its ContinueToSend. -/
def Authorised (past : List TxStep) (e : TxStep) : Prop :=
  consecutiveTime e ≠ none → Since (fun e => ¬ StartsMessage e) (fun _ e => IsAccept e) (past ++ [e])

/-- BlockSize and STmin bound what is produced until the next ContinueToSend. -/
def Obeyed (steps : List TxStep) : Prop :=
  ∀ before accept window rest blockSize stmin, steps = before ++ accept :: (window ++ rest) →
    Accepts blockSize stmin accept → (∀ e ∈ window, ¬ IsAccept e) →
      (blockSize ≠ 0 → (consecutiveTimes (accept :: window)).length ≤ blockSize.toNat) ∧
        Spaced stmin (consecutiveTimes (accept :: window))

theorem consecutiveTimes_concat (steps : List TxStep) (e : TxStep) :
    consecutiveTimes (steps ++ [e]) = consecutiveTimes steps ++ (consecutiveTime e).toList := by
  simp only [consecutiveTimes, List.filterMap_append]
  cases found : consecutiveTime e <;> simp [found]

inductive Progress (ctx : TxContext) (e : TxStep) : Prop where
  | quiet (silent : consecutiveTime e = none)
      (kept : e.after.state = .sending → e.after = ctx ∧ ¬ StartsMessage e)
  | sent (sending : ctx.state = .sending) (going : ¬ StartsMessage e)
      (room : ctx.blockSize ≠ 0 → ctx.framesInBlock < ctx.blockSize)
      (due : e.action.nowMs - ctx.lastFrameTimeMs ≥ ctx.stminMs.toUInt32)
      (time : consecutiveTime e = some e.action.nowMs)
      (kept : e.after.state = .sending → e.after.blockSize = ctx.blockSize ∧ e.after.stminMs = ctx.stminMs ∧
        e.after.framesInBlock = ctx.framesInBlock + 1 ∧ e.after.lastFrameTimeMs = e.action.nowMs)

section
variable {ctx : TxContext} {e : TxStep}

theorem consecutiveTime_silent (silent : e.output.out.event ≠ .sendFrame) : consecutiveTime e = none := by
  simp [consecutiveTime, silent]

theorem txPoll_progress (going : ¬ StartsMessage e)
    (same : (e.after, e.output.out) = txPoll ctx e.action.nowMs) : Progress ctx e := by
  unfold txPoll at same
  split at same
  · obtain ⟨after, out⟩ := Prod.mk.inj same
    exact .quiet (consecutiveTime_silent (by simp [out, TxResult.clear])) fun _ => ⟨after, going⟩
  · split at same
    · obtain ⟨after, out⟩ := Prod.mk.inj same
      refine .quiet (consecutiveTime_silent (by simp [out, TxResult.abort])) fun sending => ?_
      simp [after] at sending
    · obtain ⟨after, out⟩ := Prod.mk.inj same
      exact .quiet (consecutiveTime_silent (by simp [out, TxResult.waiting])) fun _ => ⟨after, going⟩
  · rename_i sending
    split at same
    · -- The block is over.
      obtain ⟨after, out⟩ := Prod.mk.inj same
      refine .quiet (consecutiveTime_silent (by simp [out, TxResult.waiting])) fun sending => ?_
      simp [after] at sending
    · rename_i room
      split at same
      · obtain ⟨after, out⟩ := Prod.mk.inj same
        exact .quiet (consecutiveTime_silent (by simp [out, TxResult.waiting])) fun _ => ⟨after, going⟩
      · rename_i due
        have room : ctx.blockSize ≠ 0 → ctx.framesInBlock < ctx.blockSize := fun limited =>
          UInt8.not_le.mp fun spent => room ⟨limited, spent⟩
        have type := buildConsecutiveFrame_type ctx
        have event : (buildConsecutiveFrame ctx).2.event = .sendFrame := rfl
        have advanced : (buildConsecutiveFrame ctx).1 = (ctx.advance ctx.copyLen).countFrame := rfl
        generalize buildConsecutiveFrame ctx = built at type event advanced same
        obtain ⟨next, frame⟩ := built
        dsimp only at type event advanced same
        split at same
        · obtain ⟨after, out⟩ := Prod.mk.inj same
          refine .sent sending going room (UInt32.not_lt.mp due) ?_ fun still => ?_
          · simp [consecutiveTime, out, event, type]
          · simp [after] at still
        · obtain ⟨after, out⟩ := Prod.mk.inj same
          refine .sent sending going room (UInt32.not_lt.mp due) ?_ fun _ => ?_
          · simp [consecutiveTime, out, event, type]
          · rw [after, advanced, produced_blockSize, produced_stminMs]
            exact ⟨rfl, rfl, rfl, rfl⟩

theorem txStart_opening (payload : Bytes) (nowMs : UInt32) :
    (txStart ctx payload nowMs = (ctx, (txStart ctx payload nowMs).2.1, .clear) ∧
      (txStart ctx payload nowMs).2.1 ≠ .ok) ∨
    ((txStart ctx payload nowMs).1.state ≠ .sending ∧
      frameType (txStart ctx payload nowMs).2.2.frame ≠ .consecutive) := by
  unfold txStart
  split
  · exact .inl ⟨rfl, Result.noConfusion⟩
  · split
    · exact .inl ⟨rfl, Result.noConfusion⟩
    · rename_i nonempty
      split
      · exact .inl ⟨rfl, Result.noConfusion⟩
      · split
        · rename_i short
          have bounds : ¬ (payload.length = 0 ∨ payload.length > sfMaxPayload.toNat) :=
            not_or.mpr ⟨nonempty, Nat.not_lt.mpr short⟩
          rw [encodeSingleFrame, if_neg bounds, if_neg (Nat.lt_irrefl canFrameSize)]
          refine .inr ⟨TxState.noConfusion, ?_⟩
          simp [TxResult.send, frameType_header]
        · refine .inr ⟨TxState.noConfusion, ?_⟩
          simp [TxResult.send, buildFirstFrame, frameType_header]

theorem txStart_progress (payload : Bytes) (nowMs : UInt32) :
    Progress ctx (event txStep ctx (.start payload nowMs)) := by
  rcases txStart_opening payload nowMs with ⟨same, refused⟩ | ⟨waits, type⟩
  · have silent : (txStart ctx payload nowMs).2.2 = .clear := by rw [same]
    have kept : (txStart ctx payload nowMs).1 = ctx := by rw [same]
    refine .quiet (consecutiveTime_silent ?_) fun _ => ⟨kept, fun ⟨_, _, _, accepted⟩ => refused accepted⟩
    simp [event, txStep, silent, TxResult.clear]
  · refine .quiet ?_ fun sending => absurd sending waits
    simp [consecutiveTime, event, txStep, type]

theorem txStep_progress {action : TxAction} (refused : ¬ IsAccept (event txStep ctx action)) :
    Progress ctx (event txStep ctx action) := by
  cases action with
  | start payload nowMs => exact txStart_progress payload nowMs
  | poll nowMs => exact txPoll_progress (by rintro ⟨_, _, start, _⟩; cases start) rfl
  | flowControl frame nowMs =>
    have going : ¬ StartsMessage (event txStep ctx (.flowControl frame nowMs)) := by
      rintro ⟨_, _, start, _⟩
      cases start
    by_cases waiting : ctx.state = .waitFlowControl
    · have notSending : ctx.state ≠ .sending := by simp [waiting]
      cases decoded : decodeFlowControl frame with
      | error reason =>
        have same := txOnFlowControl_malformed waiting decoded nowMs
        refine .quiet (consecutiveTime_silent ?_) fun sending => ?_
        · simp [event, txStep, same, TxResult.abort]
        · simp [event, txStep, same] at sending
      | ok fields =>
        obtain ⟨status, blockSize, stmin⟩ := fields
        cases status with
        | continueToSend => exact absurd ⟨blockSize, stmin, waiting, frame, nowMs, rfl, decoded⟩ refused
        | wait =>
          have same := txOnFlowControl_wait waiting decoded nowMs
          refine .quiet (consecutiveTime_silent ?_) fun sending => ?_
          · simp [event, txStep, same, TxResult.waiting]
          · simp [event, txStep, same, waiting] at sending
        | overflow =>
          have same := txOnFlowControl_overflow waiting decoded nowMs
          refine .quiet (consecutiveTime_silent ?_) fun sending => ?_
          · simp [event, txStep, same, TxResult.abort]
          · simp [event, txStep, same] at sending
    · have same := txOnFlowControl_ignored waiting frame nowMs
      refine .quiet (consecutiveTime_silent ?_) fun _ => ⟨?_, going⟩
      · simp [event, txStep, same, TxResult.clear]
      · simp [event, txStep, same]

theorem accepts_progress {action : TxAction} {blockSize stmin : UInt8}
    (accepts : Accepts blockSize stmin (event txStep ctx action)) :
    Progress (ctx.resume blockSize (stminToMs stmin) action.nowMs) (event txStep ctx action) := by
  obtain ⟨waiting, frame, nowMs, rfl, decoded⟩ := accepts
  have waiting : ctx.state = .waitFlowControl := waiting
  refine txPoll_progress (by rintro ⟨_, _, start, _⟩; cases start) ?_
  simp [event, txStep, txOnFlowControl_continue waiting decoded, TxAction.nowMs]

end

/-! ## A block -/

/-- `steps` is what happened since a ContinueToSend was taken, and `ctx` is
where they lead. -/
structure Within (blockSize stmin : UInt8) (steps : List TxStep) (ctx : TxContext) : Prop where
  limited : blockSize ≠ 0 → (consecutiveTimes steps).length ≤ blockSize.toNat
  spaced : Spaced stmin (consecutiveTimes steps)
  parameters : ctx.state = .sending → ctx.blockSize = blockSize ∧ ctx.stminMs = stminToMs stmin
  counted : ctx.state = .sending → blockSize ≠ 0 → ctx.framesInBlock.toNat = (consecutiveTimes steps).length
  dated : ctx.state = .sending → ∀ last ∈ (consecutiveTimes steps).getLast?, last = ctx.lastFrameTimeMs

section
variable {ctx : TxContext} {e : TxStep} {steps past : List TxStep} {blockSize stmin : UInt8}

theorem within_resume (ctx : TxContext) (blockSize stmin : UInt8) (nowMs : UInt32) :
    Within blockSize stmin [] (ctx.resume blockSize (stminToMs stmin) nowMs) where
  limited := fun _ => Nat.zero_le _
  spaced := .nil
  parameters := fun _ => ⟨rfl, rfl⟩
  counted := fun _ _ => rfl
  dated := by simp [consecutiveTimes]

theorem Within.progress (within : Within blockSize stmin steps ctx) (progress : Progress ctx e) :
    Within blockSize stmin (steps ++ [e]) e.after := by
  cases progress with
  | quiet silent kept =>
    have times : consecutiveTimes (steps ++ [e]) = consecutiveTimes steps := by
      simp [consecutiveTimes_concat, silent]
    constructor
    · simpa only [times] using within.limited
    · simpa only [times] using within.spaced
    · intro sending
      obtain ⟨same, -⟩ := kept sending
      rw [same] at sending ⊢
      exact within.parameters sending
    · intro sending
      obtain ⟨same, -⟩ := kept sending
      rw [same] at sending ⊢
      simpa only [times] using within.counted sending
    · intro sending
      obtain ⟨same, -⟩ := kept sending
      rw [same] at sending ⊢
      simpa only [times] using within.dated sending
  | sent sending going room due time kept =>
    have times : consecutiveTimes (steps ++ [e]) = consecutiveTimes steps ++ [e.action.nowMs] := by
      simp [consecutiveTimes_concat, time]
    obtain ⟨size, separation⟩ := within.parameters sending
    rw [size] at room kept
    rw [separation] at due kept
    constructor
    · intro limited
      have below := UInt8.lt_iff_toNat_lt.mp (room limited)
      rw [within.counted sending limited] at below
      simpa [times] using Nat.succ_le_of_lt below
    · have near : ∀ last ∈ (consecutiveTimes steps).getLast?, e.action.nowMs - last ≥ (stminToMs stmin).toUInt32 :=
        fun last member => (within.dated sending last member).symm ▸ due
      rw [Spaced, times, List.isChain_append]
      exact ⟨within.spaced, List.isChain_singleton _, by simpa using near⟩
    · intro still
      obtain ⟨sameSize, sameSeparation, -⟩ := kept still
      exact ⟨sameSize, sameSeparation⟩
    · intro still limited
      obtain ⟨-, -, next, -⟩ := kept still
      have below := UInt8.lt_iff_toNat_lt.mp (room limited)
      have small := blockSize.toNat_lt
      have counted := within.counted sending limited
      -- Below the block size the counter does not wrap.
      have next : e.after.framesInBlock.toNat = (ctx.framesInBlock.toNat + 1) % 256 := by rw [next]; rfl
      rw [next, times, List.length_append, ← counted, List.length_singleton]
      exact Nat.mod_eq_of_lt (by omega)
    · intro still
      obtain ⟨-, -, -, last⟩ := kept still
      simp [times, last]

/-- What every block that is not over has, and where a frame may come from. -/
structure Paced (past : List TxStep) (ctx : TxContext) : Prop where
  block : ∀ before accept window blockSize stmin, past = before ++ accept :: window →
    Accepts blockSize stmin accept → (∀ e ∈ window, ¬ IsAccept e) → Within blockSize stmin (accept :: window) ctx
  authorised : ctx.state = .sending → Since (fun e => ¬ StartsMessage e) (fun _ e => IsAccept e) past

theorem paced_init (buffer : Vector UInt8 maxPayloadSize) : Paced [] (.init buffer) where
  block := by
    intro before accept window blockSize stmin same
    simp at same
  authorised := fun sending => nomatch sending

theorem Paced.step (paced : Paced past ctx) (action : TxAction) :
    Paced (past ++ [event txStep ctx action]) (txStep ctx action).1 where
  block := by
    intro before accept window blockSize stmin same accepts unaccepted
    rcases concat_eq_split same with ⟨rfl, rfl, rfl⟩ | ⟨rest, rfl, split⟩
    · exact (within_resume ctx blockSize stmin action.nowMs).progress (accepts_progress accepts)
    · have within := paced.block before accept rest blockSize stmin split accepts fun e member =>
        unaccepted e (by simp [member])
      exact within.progress (txStep_progress (unaccepted _ (by simp)))
  authorised := by
    intro sending
    by_cases accepts : IsAccept (event txStep ctx action)
    · exact .now accepts
    · cases txStep_progress accepts with
      | quiet silent kept =>
        obtain ⟨same, going⟩ := kept sending
        have sending : ctx.state = .sending := (congrArg TxContext.state same).symm.trans sending
        exact (paced.authorised sending).step going
      | sent sending going => exact (paced.authorised sending).step going

theorem Paced.authorised_frame (paced : Paced past ctx) (action : TxAction) :
    Authorised past (event txStep ctx action) := by
  intro produced
  by_cases accepts : IsAccept (event txStep ctx action)
  · exact .now accepts
  · cases txStep_progress accepts with
    | quiet silent kept => exact absurd silent produced
    | sent sending going => exact (paced.authorised sending).step going

theorem paced_run (buffer : Vector UInt8 maxPayloadSize) (actions : List TxAction) :
    Paced (trace txStep (.init buffer) actions) (final txStep (.init buffer) actions) :=
  run_induction txStep Paced (paced_init buffer) (fun _ _ action paced => paced.step action) actions

end

/-- Whatever the messages, the Flow Controls and the times, every Consecutive
Frame has its ContinueToSend, and every ContinueToSend bounds the frames until
the next one in number and from one to the next in time. -/
theorem flow_control_obeyed (buffer : Vector UInt8 maxPayloadSize) (actions : List TxAction) :
    AllEvents Authorised (trace txStep (.init buffer) actions) ∧ Obeyed (trace txStep (.init buffer) actions) := by
  constructor
  · exact every_event txStep actions fun done action => (paced_run buffer done).authorised_frame action
  · intro before accept window rest blockSize stmin same accepts unaccepted
    -- The run up to the end of the window.
    have split : trace txStep (.init buffer) actions = (before ++ accept :: window) ++ rest := by simp [same]
    obtain ⟨done, -, -, reached⟩ := trace_eq_append txStep split
    have within := (paced_run buffer done).block before accept window blockSize stmin reached.symm accepts unaccepted
    exact ⟨within.limited, within.spaced⟩

end DiagnosticGateway.Isotp
