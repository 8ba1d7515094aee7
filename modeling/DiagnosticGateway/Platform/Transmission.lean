import DiagnosticGateway.Platform.Turns

/-! What a successful return of `diag_link_send` says about the calls of
`can_socket_send`.

The calls for the message are those that do not carry a Flow Control. They follow
the segmentation; they are the whole of it, all successful, exactly when no
silent turn hid a failure.
-/

set_option autoImplicit false

namespace DiagnosticGateway.Platform
open BigEndian Isotp

def SendCall.OfMessage (c : SendCall) : Prop := frameType c.data ≠ .flowControl

instance (c : SendCall) : Decidable c.OfMessage := inferInstanceAs (Decidable (frameType c.data ≠ .flowControl))

def messageCalls (calls : List SendCall) : List SendCall := calls.filter fun c => c.OfMessage

def AllSent (calls : List SendCall) : Prop := ∀ c ∈ calls, c.ok = true

structure Adds (link : DiagLink) (added : List SendCall) (after : DiagLink) : Prop where
  calls : after.calls = link.calls ++ added
  txCanId : after.txCanId = link.txCanId
  addressed : ∀ c ∈ added, c.canId = link.txCanId

/-- The calls for the message so far, and the emitter behind them. -/
inductive Progress (payload : Bytes) (tx : TxContext) (calls : List SendCall) : Prop where
  | emitting (count : Nat) (emitting : Emitting tx payload count)
      (frames : calls.map SendCall.data = (segmentation payload).take (count + 1))
  | ended (idle : tx.state = .idle) (frames : calls.map SendCall.data <+: segmentation payload)

/-- No call failed, and the emitter did not stop early. -/
def Intact (payload : Bytes) (tx : TxContext) (calls : List SendCall) : Prop :=
  AllSent calls ∧ (tx.state = .idle → calls.length = (segmentation payload).length)

section
variable {payload : Bytes} {link after : DiagLink} {added calls : List SendCall} {tx : TxContext} {out : TxResult}
  {count : Nat}

theorem Adds.trans {middle : DiagLink} {more : List SendCall} (first : Adds link added middle)
    (second : Adds middle more after) : Adds link (added ++ more) after where
  calls := by rw [second.calls, first.calls, List.append_assoc]
  txCanId := second.txCanId.trans first.txCanId
  addressed := by
    intro c member
    rcases List.mem_append.mp member with early | late
    · exact first.addressed c early
    · exact (second.addressed c late).trans first.txCanId

theorem allSent_append {more : List SendCall} : AllSent (calls ++ more) ↔ AllSent calls ∧ AllSent more :=
  List.forall_mem_append

theorem messageCalls_append (more : List SendCall) :
    messageCalls (calls ++ more) = messageCalls calls ++ messageCalls more := List.filter_append ..

theorem messageCalls_of_all (all : ∀ c ∈ calls, c.OfMessage) : messageCalls calls = calls := by
  simpa [messageCalls] using all

theorem segmentation_ofMessage (nonempty : payload ≠ []) (fits : payload.length ≤ maxPayloadSize) {frame : Bytes}
    (member : frame ∈ segmentation payload) : frameType frame ≠ .flowControl := by
  by_cases short : payload.length ≤ 7
  · rw [segmentation, if_pos short, List.mem_singleton] at member
    have positive : payload.length ≠ 0 := fun zero => nonempty (List.length_eq_zero_iff.mp zero)
    rw [member, (decodeSingleFrame_ok (decodeSingleFrame_canonical positive short)).1]
    exact FrameType.noConfusion
  · simp only [segmentation, if_neg short, List.mem_cons, List.mem_map] at member
    rcases member with rfl | ⟨index, -, rfl⟩
    · rw [(canonicalFirst_header fits).1]
      exact FrameType.noConfusion
    · rw [canonicalConsecutive_header.1]
      exact FrameType.noConfusion

theorem intact_busy (busy : tx.state ≠ .idle) : Intact payload tx calls ↔ AllSent calls :=
  and_iff_left fun idle => absurd idle busy

theorem Progress.silent (long : 7 < payload.length) (frames : calls.map SendCall.data = (segmentation payload).take (count + 1))
    (within : count < consecutiveCount payload) (advanced : Advanced payload count (tx, out))
    (silent : out.event ≠ .sendFrame) :
    Progress payload tx calls ∧ (Intact payload tx calls ↔ AllSent calls ∧ out.event ≠ .aborted) := by
  cases advanced with
  | held emitting _ kept =>
    refine ⟨.emitting count emitting frames, ?_⟩
    rw [intact_busy emitting.busy, and_iff_left kept]
  | sent emitting => exact absurd rfl silent
  | finished idle last => exact absurd rfl silent
  | aborted idle reason =>
    refine ⟨.ended idle (frames ▸ List.take_prefix _ _), iff_of_false ?_ fun both => both.2 rfl⟩
    rintro ⟨_, whole⟩
    have length := congrArg List.length frames
    have all := whole idle
    rw [List.length_map, List.length_take, segmentation_length long] at length
    rw [segmentation_length long] at all
    omega

theorem Progress.send (long : 7 < payload.length) (frames : calls.map SendCall.data = (segmentation payload).take (count + 1))
    (within : count < consecutiveCount payload) (advanced : Advanced payload count (tx, out))
    (sends : out.event = .sendFrame) (canId : UInt32) (ok : Bool) :
    frameType out.frame ≠ .flowControl ∧ Progress payload tx (calls ++ [SendCall.mk canId out.frame ok]) ∧
      (Intact payload tx (calls ++ [SendCall.mk canId out.frame ok]) ↔ AllSent calls ∧ ok = true) := by
  have type : frameType (canonicalConsecutive payload count) ≠ .flowControl := by
    rw [canonicalConsecutive_header.1]
    exact FrameType.noConfusion
  have next : (calls ++ [SendCall.mk canId (canonicalConsecutive payload count) ok]).map SendCall.data =
      (segmentation payload).take (count + 2) := by
    rw [List.map_append, frames, segmentation_succ long within]
    rfl
  have sent : AllSent (calls ++ [SendCall.mk canId (canonicalConsecutive payload count) ok]) ↔ AllSent calls ∧ ok = true := by
    rw [allSent_append]
    simp [AllSent]
  cases advanced with
  | held _ silent => exact absurd sends silent
  | sent emitting =>
    refine ⟨type, .emitting (count + 1) emitting next, ?_⟩
    rw [intact_busy emitting.busy]
    exact sent
  | finished idle last =>
    refine ⟨type, .ended idle (next ▸ List.take_prefix _ _), ?_⟩
    have length : (calls ++ [SendCall.mk canId (canonicalConsecutive payload count) ok]).length = (segmentation payload).length := by
      rw [← List.length_map SendCall.data, next, List.length_take, segmentation_length long, ← last]
      exact Nat.min_self _
    exact (and_iff_left fun _ => length).trans sent
  | aborted idle reason => cases sends

theorem progress_busy (progress : Progress payload tx calls) (busy : tx.state ≠ .idle) :
    ∃ count, Emitting tx payload count ∧ calls.map SendCall.data = (segmentation payload).take (count + 1) := by
  cases progress with
  | emitting count emitting frames => exact ⟨count, emitting, frames⟩
  | ended idle => exact absurd idle busy

variable {sends : Nat → Bool}

theorem sendFrame_adds (link : DiagLink) (data : Bytes) :
    ∃ ok, Adds link [SendCall.mk link.txCanId data ok] (sendFrame sends link data).1 ∧
      (sendFrame sends link data).1.tx = link.tx ∧ ((sendFrame sends link data).2 = 0 ↔ ok = true) := by
  refine ⟨sends link.calls.length, ⟨rfl, rfl, by simp⟩, rfl, ?_⟩
  rw [sendFrame]
  cases sends link.calls.length <;> simp

/-- What a part of the loop does to the calls for the message: it goes on with
the segmentation, and it is `clean` exactly when it hurts nothing. -/
structure GoesOn (payload : Bytes) (link : DiagLink) (calls added : List SendCall) (after : DiagLink) (clean : Prop) :
    Prop where
  adds : Adds link added after
  progress : Progress payload after.tx (calls ++ messageCalls added)
  intact : Intact payload after.tx (calls ++ messageCalls added) ↔ Intact payload link.tx calls ∧ clean

theorem GoesOn.silent {clean : Prop} (same : after.calls = link.calls) (canId : after.txCanId = link.txCanId)
    (progress : Progress payload after.tx calls)
    (intact : Intact payload after.tx calls ↔ Intact payload link.tx calls ∧ clean) :
    GoesOn payload link calls [] after clean where
  adds := ⟨by rw [same, List.append_nil], canId, by simp⟩
  progress := by simpa [messageCalls] using progress
  intact := by simpa [messageCalls] using intact

theorem GoesOn.still (progress : Progress payload link.tx calls) : GoesOn payload link calls [] link True :=
  .silent rfl rfl progress (and_iff_left trivial).symm

theorem GoesOn.trans {middle : DiagLink} {more : List SendCall} {clean later : Prop}
    (first : GoesOn payload link calls added middle clean)
    (second : GoesOn payload middle (calls ++ messageCalls added) more after later) :
    GoesOn payload link calls (added ++ more) after (clean ∧ later) where
  adds := first.adds.trans second.adds
  progress := by
    rw [messageCalls_append, ← List.append_assoc]
    exact second.progress
  intact := by
    rw [messageCalls_append, ← List.append_assoc, second.intact, first.intact, and_assoc]

theorem GoesOn.congr {clean other : Prop} (goesOn : GoesOn payload link calls added after clean)
    (same : clean ↔ other) : GoesOn payload link calls added after other :=
  ⟨goesOn.adds, goesOn.progress, goesOn.intact.trans (and_congr_right fun _ => same)⟩

theorem GoesOn.quiet (long : 7 < payload.length) (busy : link.tx.state ≠ .idle) (lastError : Result)
    (frames : calls.map SendCall.data = (segmentation payload).take (count + 1))
    (within : count < consecutiveCount payload) (advanced : Advanced payload count (tx, out))
    (silent : out.event ≠ .sendFrame) :
    GoesOn payload link calls [] { link with tx, lastError } (out.event ≠ .aborted) := by
  obtain ⟨progress, intact⟩ := Progress.silent long frames within advanced silent
  refine .silent rfl rfl progress ?_
  rw [intact_busy busy]
  exact intact

theorem GoesOn.sendFrame (long : 7 < payload.length) (busy : link.tx.state ≠ .idle)
    (frames : calls.map SendCall.data = (segmentation payload).take (count + 1))
    (within : count < consecutiveCount payload) (advanced : Advanced payload count (tx, out))
    (happened : out.event = .sendFrame) :
    ∃ added, GoesOn payload link calls added (sendFrame sends { link with tx } out.frame).1
        ((sendFrame sends { link with tx } out.frame).2 = 0) ∧
      (sendFrame sends { link with tx } out.frame).1.tx = tx ∧
      ((sendFrame sends { link with tx } out.frame).2 = 0 ↔ AllSent added) := by
  obtain ⟨ok, adds, same, succeeds⟩ := @sendFrame_adds sends { link with tx } out.frame
  obtain ⟨type, progress, intact⟩ := Progress.send long frames within advanced happened link.txCanId ok
  have ofMessage : messageCalls [SendCall.mk link.txCanId out.frame ok] = [SendCall.mk link.txCanId out.frame ok] :=
    messageCalls_of_all (by simpa [SendCall.OfMessage] using type)
  refine ⟨_, ⟨⟨adds.calls, adds.txCanId, adds.addressed⟩, ?_, ?_⟩, same, ?_⟩
  · rw [ofMessage, same]
    exact progress
  · rw [ofMessage, same, intact, succeeds, intact_busy busy]
  · rw [succeeds]
    simp [AllSent]

theorem driveTxLoop_goesOn (long : 7 < payload.length) (nowMs : UInt32) (guard : Nat)
    (progress : Progress payload link.tx calls) :
    ∃ added, GoesOn payload link calls added (driveTxLoop sends nowMs guard link).1
        ((driveTxLoop sends nowMs guard link).2 = 0) ∧
      (link.tx.state ≠ .waitFlowControl → ((driveTxLoop sends nowMs guard link).2 = 0 ↔ AllSent added)) := by
  induction guard generalizing link calls with
  | zero =>
    have still := GoesOn.still progress
    exact ⟨[], still.congr (by simp [driveTxLoop]), fun _ => by simp [driveTxLoop, AllSent]⟩
  | succ guard ih =>
    by_cases idle : link.tx.state = .idle
    · have rests : driveTxLoop sends nowMs (guard + 1) link = (link, 0) := by
        simp [driveTxLoop, txPoll, idle, TxResult.clear]
      rw [rests]
      have still := GoesOn.still progress
      exact ⟨[], still.congr (by simp), fun _ => by simp [AllSent]⟩
    · obtain ⟨count, emitting, frames⟩ := progress_busy progress idle
      have within := emitting.within
      have advanced := txPoll_advanced emitting nowMs
      have ready := fun notWaiting => @txPoll_ready link.tx notWaiting nowMs
      rw [driveTxLoop]
      generalize txPoll link.tx nowMs = outcome at advanced ready
      obtain ⟨tx, out⟩ := outcome
      dsimp only at ready ⊢
      cases happened : out.event with
      | sendFrame =>
        obtain ⟨first, step, same, succeeds⟩ := @GoesOn.sendFrame _ _ _ _ _ _ sends long idle frames within advanced happened
        generalize sendFrame sends { link with tx } out.frame = sent at step same succeeds
        obtain ⟨link', code⟩ := sent
        dsimp only at step same succeeds ⊢
        by_cases failed : code ≠ 0
        · rw [if_pos failed]
          exact ⟨first, step.congr (iff_of_false failed (by simp)), fun _ => (iff_of_false (by simp) failed).trans succeeds⟩
        · rw [if_neg failed]
          obtain ⟨more, rest, later⟩ := ih step.progress
          refine ⟨first ++ more, (step.trans rest).congr (and_iff_right (not_not.mp failed)), fun notWaiting => ?_⟩
          have behind : link'.tx.state ≠ .waitFlowControl := same ▸ (ready notWaiting).2 happened
          rw [later behind, allSent_append, ← succeeds]
          exact (and_iff_right (not_not.mp failed)).symm
      | aborted =>
        have silent : out.event ≠ .sendFrame := by simp [happened]
        have quiet := GoesOn.quiet long idle out.reason frames within advanced silent
        exact ⟨[], quiet.congr (by simp [happened]), fun notWaiting => absurd happened (ready notWaiting).1⟩
      | none | wait | complete =>
        have silent : out.event ≠ .sendFrame := by simp [happened]
        have quiet := GoesOn.quiet long idle link.lastError frames within advanced silent
        exact ⟨[], quiet.congr (by simp [happened]), fun _ => by simp [AllSent]⟩

theorem driveTx_goesOn (long : 7 < payload.length) (nowMs : UInt32) (progress : Progress payload link.tx calls) :
    ∃ added, GoesOn payload link calls added (driveTx sends link nowMs).1 ((driveTx sends link nowMs).2 = 0) ∧
      ((driveTx sends link nowMs).2 = 0 ↔ ¬ link.tx.WaitOver nowMs ∧ AllSent added) := by
  rw [driveTx]
  by_cases idle : link.tx.state = .idle
  · rw [if_pos idle]
    have still := GoesOn.still progress
    exact ⟨[], still.congr (by simp), by simp [TxContext.WaitOver, idle, AllSent]⟩
  · rw [if_neg idle]
    obtain ⟨added, goesOn, ready⟩ := driveTxLoop_goesOn long nowMs 700 progress
    by_cases waiting : link.tx.state = .waitFlowControl
    · -- A waiting emitter makes no call, whatever the clock says.
      have code : (driveTxLoop sends nowMs 700 link).2 = 0 ↔ ¬ link.tx.WaitOver nowMs := by
        rw [driveTxLoop, txPoll_waiting waiting, TxContext.WaitOver, and_iff_right waiting]
        by_cases ended : nowMs - link.tx.waitStartMs ≥ nBsTimeoutMs
        · rw [if_pos ended]
          exact iff_of_false (by simp [TxResult.abort]) (not_not.mpr ended)
        · rw [if_neg ended]
          exact iff_of_true rfl ended
      have calls : (driveTxLoop sends nowMs 700 link).1.calls = link.calls := by
        rw [driveTxLoop, txPoll_waiting waiting]
        by_cases ended : nowMs - link.tx.waitStartMs ≥ nBsTimeoutMs
        · rw [if_pos ended]
          rfl
        · rw [if_neg ended]
          rfl
      have none : added = [] := by
        have both := goesOn.adds.calls
        rw [calls] at both
        exact List.append_right_eq_self.mp both.symm
      subst none
      exact ⟨[], goesOn, by rw [code]; simp [AllSent]⟩
    · refine ⟨added, goesOn, ?_⟩
      rw [ready waiting]
      exact (and_iff_right fun ended => waiting ended.1).symm

def newCalls (link after : DiagLink) : List SendCall := after.calls.drop link.calls.length

theorem Adds.newCalls (adds : Adds link added after) : newCalls link after = added := by
  rw [Platform.newCalls, adds.calls, List.drop_left]

/-- Nothing goes wrong in a silent turn: N_Bs is not over, and no call fails. -/
def CleanTurn (sends : Nat → Bool) (link : DiagLink) (turn : Turn) : Prop :=
  turn.received = .silence →
    ¬ link.tx.WaitOver turn.nowMs ∧ AllSent (newCalls link (diagLinkPoll sends link turn).1)

theorem GoesOn.from {other : DiagLink} {clean : Prop} (goesOn : GoesOn payload other calls added after clean)
    (same : other.calls = link.calls) (canId : other.txCanId = link.txCanId) (tx : other.tx = link.tx) :
    GoesOn payload link calls added after clean where
  adds := ⟨same ▸ goesOn.adds.calls, canId ▸ goesOn.adds.txCanId, canId ▸ goesOn.adds.addressed⟩
  progress := goesOn.progress
  intact := tx ▸ goesOn.intact

theorem buildFlowControl_type (status : FlowStatus) (reason : Result) :
    frameType (buildFlowControl status reason).fcFrame = .flowControl := by
  have all : frameType (buildFlowControl status .ok).fcFrame = .flowControl := by cases status <;> decide
  exact all

theorem process_flowControl {ctx : RxContext} {data : Bytes} {nowMs : UInt32}
    (answers : (process ctx data nowMs).2.event = .sendFlowControl) :
    frameType (process ctx data nowMs).2.fcFrame = .flowControl := by
  have processed := process_processed ctx data nowMs
  generalize process ctx data nowMs = outcome at processed answers ⊢
  cases processed with
  | opened | overflowed => exact buildFlowControl_type _ _
  | empty | rejected | single | outOfSequence | tooLong | extended | completed => cases answers

theorem flowControl_goesOn (long : 7 < payload.length) (busy : link.tx.state ≠ .idle)
    (progress : Progress payload link.tx calls) {data : Bytes} (type : getFrameType data = .ok .flowControl) (nowMs : UInt32)
    (noError : (handleFrame sends link data nowMs).2 ≠ .error) :
    ∃ added, GoesOn payload link calls added (handleFrame sends link data nowMs).1 True := by
  have ours : FrameType.flowControl = .flowControl ∧ link.tx.state ≠ .idle := ⟨rfl, busy⟩
  rw [handleFrame, type] at noError ⊢
  dsimp only at noError ⊢
  rw [if_pos ours] at noError ⊢
  obtain ⟨count, emitting, frames⟩ := progress_busy progress busy
  have within := emitting.within
  have advanced := txOnFlowControl_advanced emitting data nowMs
  generalize txOnFlowControl link.tx data nowMs = outcome at advanced noError ⊢
  obtain ⟨tx, out⟩ := outcome
  dsimp only at noError ⊢
  cases happened : out.event with
  | sendFrame =>
    rw [happened] at noError
    obtain ⟨first, step, -, -⟩ := @GoesOn.sendFrame _ _ _ _ _ _ sends long busy frames within advanced happened
    generalize sendFrame sends { link with tx } out.frame = sent at step noError ⊢
    obtain ⟨link', code⟩ := sent
    dsimp only at step noError ⊢
    by_cases failed : code ≠ 0
    · rw [if_pos failed] at noError
      exact absurd rfl noError
    · rw [if_neg failed] at noError ⊢
      obtain ⟨more, rest, -⟩ := @driveTx_goesOn _ _ _ sends long nowMs step.progress
      have drove : (driveTx sends link' nowMs).2 = 0 := by
        by_contra failed
        exact noError (if_neg failed)
      exact ⟨first ++ more, (step.trans rest).congr (iff_true_intro ⟨not_not.mp failed, drove⟩)⟩
  | aborted =>
    rw [happened] at noError
    exact absurd rfl noError
  | none | wait | complete =>
    have silent : out.event ≠ .sendFrame := by simp [happened]
    have quiet := GoesOn.quiet long busy link.lastError frames within advanced silent
    exact ⟨[], quiet.congr (by simp [happened])⟩

theorem reception_goesOn (progress : Progress payload link.tx calls) {data : Bytes} (ours : ForReceiver link data)
    (nowMs : UInt32) : ∃ added, GoesOn payload link calls added (handleFrame sends link data nowMs).1 True := by
  have handled := @handleFrame_reception sends link data nowMs ours
  generalize handleFrame sends link data nowMs = outcome at handled ⊢
  cases handled with
  | answered rx out processed event =>
    have answer : frameType out.fcFrame = .flowControl := by
      have answers := @process_flowControl link.rx data nowMs
      rw [processed] at answers
      exact answers event
    obtain ⟨ok, adds, same, -⟩ := @sendFrame_adds sends { link with rx } out.fcFrame
    have ignored : messageCalls [SendCall.mk link.txCanId out.fcFrame ok] = [] := by
      simp [messageCalls, SendCall.OfMessage, answer]
    refine ⟨_, ⟨adds.calls, adds.txCanId, adds.addressed⟩, ?_, ?_⟩
    · rw [ignored, List.append_nil, same]
      exact progress
    · rw [ignored, List.append_nil, same]
      exact (and_iff_left trivial).symm
  | unreadable => exact ⟨[], .still progress⟩
  | completed | aborted | quiet => exact ⟨[], .silent rfl rfl progress (and_iff_left trivial).symm⟩

theorem diagLinkPoll_goesOn (long : 7 < payload.length) (busy : link.tx.state ≠ .idle)
    (progress : Progress payload link.tx calls) (turn : Turn)
    (noError : (diagLinkPoll sends link turn).2 ≠ .error) :
    ∃ added, GoesOn payload link calls added (diagLinkPoll sends link turn).1 (CleanTurn sends link turn) := by
  have polled := @diagLinkPoll_polled sends link turn
  rw [CleanTurn]
  generalize diagLinkPoll sends link turn = outcome at polled noError ⊢
  have clean : turn.received ≠ .silence → (True ↔
      (turn.received = .silence → ¬ link.tx.WaitOver turn.nowMs ∧ AllSent (newCalls link outcome.1))) :=
    fun frame => iff_of_true trivial fun silence => absurd silence frame
  cases polled with
  | failed => exact absurd rfl noError
  | silent received =>
    -- Whatever the receiver does, the emitter and the calls are those of `link`.
    obtain ⟨added, goesOn, code⟩ :=
      @driveTx_goesOn _ (link.checkReception turn.nowMs) _ sends long turn.nowMs progress
    have goesOn : GoesOn payload link _ _ _ _ := goesOn.from rfl rfl rfl
    refine ⟨added, goesOn.congr ?_⟩
    rw [code, goesOn.adds.newCalls, forall_prop_of_true received]
    rfl
  | foreign canId data received => exact ⟨[], (GoesOn.still progress).congr (clean (by simp [received]))⟩
  | flowControl data received type =>
    obtain ⟨added, goesOn⟩ := flowControl_goesOn long busy progress type turn.nowMs noError
    exact ⟨added, goesOn.congr (clean (by simp [received]))⟩
  | reception data received ours =>
    obtain ⟨added, goesOn⟩ := @reception_goesOn _ _ _ sends progress _ ours turn.nowMs
    exact ⟨added, goesOn.congr (clean (by simp [received]))⟩

def CleanTurns (sends : Nat → Bool) : List Turn → DiagLink → Prop
  | [], _ => True
  | turn :: rest, link =>
    link.tx.state = .idle ∨ (CleanTurn sends link turn ∧ CleanTurns sends rest (diagLinkPoll sends link turn).1)

theorem diagLinkSendLoop_goesOn {final : DiagLink} {startMs : UInt32} {turns : List Turn} (long : 7 < payload.length)
    (progress : Progress payload link.tx calls)
    (returned : diagLinkSendLoop sends startMs turns link = some (final, 0)) :
    final.tx.state = .idle ∧ ∃ added, GoesOn payload link calls added final (CleanTurns sends turns link) := by
  induction turns generalizing link calls with
  | nil =>
    rw [diagLinkSendLoop] at returned
    split at returned
    · rename_i idle
      cases returned
      exact ⟨idle, [], .still progress⟩
    · cases returned
  | cons turn rest ih =>
    rw [diagLinkSendLoop] at returned
    by_cases idle : link.tx.state = .idle
    · rw [if_pos idle] at returned
      cases returned
      exact ⟨idle, [], (GoesOn.still progress).congr (iff_of_true trivial (.inl idle))⟩
    · rw [if_neg idle] at returned
      dsimp only at returned
      by_cases failed : (diagLinkPoll sends link turn).2 = .error
      · rw [if_pos failed] at returned
        cases returned
      · rw [if_neg failed] at returned
        split at returned
        · cases returned
        · obtain ⟨first, step⟩ := diagLinkPoll_goesOn long idle progress turn failed
          obtain ⟨rests, more, later⟩ := ih step.progress returned
          exact ⟨rests, first ++ more, (step.trans later).congr (or_iff_right idle).symm⟩

/-! ## The whole message -/

/-- Every frame of the segmentation was passed on, in order, with success. -/
def Transmitted (link : DiagLink) (payload : Bytes) (final : DiagLink) : Prop :=
  ((segmentation payload).map fun frame => SendCall.mk link.txCanId frame true).Sublist (newCalls link final)

theorem transmitted_iff (nonempty : payload ≠ []) (fits : payload.length ≤ maxPayloadSize)
    (adds : Adds link added after) (idle : after.tx.state = .idle)
    (progress : Progress payload after.tx (messageCalls added)) :
    Transmitted link payload after ↔ Intact payload after.tx (messageCalls added) := by
  have frames : (messageCalls added).map SendCall.data <+: segmentation payload := by
    cases progress with
    | emitting count emitting => exact absurd idle emitting.busy
    | ended _ frames => exact frames
  rw [Transmitted, adds.newCalls]
  constructor
  · intro sublist
    -- Without the Flow Controls the calls are no more than the frames.
    have kept := sublist.filter fun c => c.OfMessage
    rw [List.filter_eq_self.mpr (by
      intro c member
      obtain ⟨frame, isFrame, rfl⟩ := List.mem_map.mp member
      exact decide_eq_true (segmentation_ofMessage nonempty fits isFrame))] at kept
    have few := frames.length_le
    rw [List.length_map] at few
    have same := kept.eq_of_length_le (by rw [List.length_map]; exact few)
    have all : messageCalls added = (segmentation payload).map fun frame => SendCall.mk link.txCanId frame true := same.symm
    rw [all]
    refine ⟨fun c member => ?_, fun _ => List.length_map _⟩
    obtain ⟨frame, -, rfl⟩ := List.mem_map.mp member
    rfl
  · rintro ⟨sent, whole⟩
    have same : (messageCalls added).map SendCall.data = segmentation payload :=
      frames.eq_of_length (by rw [List.length_map]; exact whole idle)
    have calls : ((segmentation payload).map fun frame => SendCall.mk link.txCanId frame true) = messageCalls added := by
      rw [← same, List.map_map]
      refine (List.map_congr_left fun c member => ?_).trans (List.map_id _)
      have addressed := adds.addressed c (List.mem_of_mem_filter member)
      have succeeded := sent c member
      simp [← addressed, ← succeeded]
    rw [calls]
    exact List.filter_sublist

def started (sends : Nat → Bool) (link : DiagLink) (payload : Bytes) (startMs : UInt32) : DiagLink :=
  let (tx, _, out) := txStart link.tx payload startMs
  (sendFrame sends { link with tx } out.frame).1

/-- The first frame of a message an idle emitter takes, and the link behind it. -/
structure Begun (sends : Nat → Bool) (link : DiagLink) (payload : Bytes) (startMs : UInt32) (frame : Bytes) : Prop where
  adds : Adds link [SendCall.mk link.txCanId frame (sends link.calls.length)] (started sends link payload startMs)
  single : payload.length ≤ 7 → (started sends link payload startMs).tx.state = .idle ∧ segmentation payload = [frame]
  several : 7 < payload.length →
    Emitting (started sends link payload startMs).tx payload 0 ∧ (segmentation payload).take 1 = [frame]
  returns : ∀ turns, diagLinkSend sends link payload startMs turns =
    if sends link.calls.length = true then diagLinkSendLoop sends startMs turns (started sends link payload startMs)
    else some (started sends link payload startMs, -1)

theorem started_sends {startMs : UInt32} {result : Result} (start : txStart link.tx payload startMs = (tx, result, out)) :
    started sends link payload startMs = (sendFrame sends { link with tx } out.frame).1 := by
  rw [started, start]

theorem diagLinkSend_sends {startMs : UInt32} (start : txStart link.tx payload startMs = (tx, .ok, out))
    (event : out.event = .sendFrame) (turns : List Turn) :
    diagLinkSend sends link payload startMs turns =
      if sends link.calls.length = true then diagLinkSendLoop sends startMs turns (started sends link payload startMs)
      else some (started sends link payload startMs, -1) := by
  have code : (sendFrame sends { link with tx } out.frame).2 = if sends link.calls.length then 0 else -1 := rfl
  rw [started_sends start, diagLinkSend, start]
  dsimp only
  rw [if_neg (not_not.mpr rfl), if_neg (not_not.mpr event)]
  generalize sendFrame sends { link with tx } out.frame = sent at code ⊢
  obtain ⟨next, result⟩ := sent
  dsimp only at code ⊢
  by_cases leaves : sends link.calls.length = true
  · rw [if_pos leaves] at code ⊢
    rw [if_neg (not_not.mpr code)]
  · rw [if_neg leaves] at code ⊢
    rw [code, if_pos (by decide)]

theorem started_begun {startMs : UInt32} (idle : link.tx.state = .idle) (nonempty : payload ≠ [])
    (fits : payload.length ≤ maxPayloadSize) : ∃ frame, Begun sends link payload startMs frame := by
  by_cases short : payload.length ≤ 7
  · have positive : payload.length ≠ 0 := fun zero => nonempty (List.length_eq_zero_iff.mp zero)
    have start := txStart_short idle positive short startMs
    have behind := @started_sends _ _ _ _ sends _ _ start
    refine ⟨canonicalSingle payload, ⟨?_, fun _ => ⟨?_, if_pos short⟩, fun long => ?_, diagLinkSend_sends start rfl⟩⟩
    · rw [behind]
      exact ⟨rfl, rfl, by simp⟩
    · rw [behind]
      rfl
    · exact absurd short (Nat.not_le.mpr long)
  · have long := Nat.not_le.mp short
    have start := txStart_long idle long fits startMs
    have behind := @started_sends _ _ _ _ sends _ _ start
    refine ⟨canonicalFirst payload, ⟨?_, fun few => absurd few short, fun _ => ⟨?_, ?_⟩, diagLinkSend_sends start rfl⟩⟩
    · rw [behind]
      exact ⟨rfl, rfl, by simp⟩
    · rw [behind]
      exact emitting_start long fits startMs
    · exact segmentation_take long (Nat.zero_le _)

theorem diagLinkSendLoop_idle {final : DiagLink} {startMs : UInt32} {turns : List Turn} (idle : link.tx.state = .idle)
    (returned : diagLinkSendLoop sends startMs turns link = some (final, 0)) :
    final = link ∧ CleanTurns sends turns link := by
  cases turns with
  | nil =>
    rw [diagLinkSendLoop, if_pos idle] at returned
    cases returned
    exact ⟨rfl, trivial⟩
  | cons turn rest =>
    rw [diagLinkSendLoop, if_pos idle] at returned
    cases returned
    exact ⟨rfl, .inl idle⟩

end

/-- A successful return says that the message is out exactly when no silent turn
finds N_Bs over or loses a frame. -/
theorem diagLinkSend_transmits_iff (sends : Nat → Bool) (link final : DiagLink) (payload : Bytes) (startMs : UInt32)
    (turns : List Turn) (idle : link.tx.state = .idle) (nonempty : payload ≠ []) (fits : payload.length ≤ maxPayloadSize)
    (returned : diagLinkSend sends link payload startMs turns = some (final, 0)) :
    Transmitted link payload final ↔ CleanTurns sends turns (started sends link payload startMs) := by
  obtain ⟨frame, adds, single, several, returns⟩ := @started_begun _ _ sends startMs idle nonempty fits
  rw [returns turns] at returned
  generalize started sends link payload startMs = begun at adds single several returned ⊢
  cases ok : sends link.calls.length with
  | false =>
    rw [ok, if_neg Bool.false_ne_true] at returned
    cases returned
  | true =>
    rw [ok, if_pos rfl] at returned
    rw [ok] at adds
    have sent : AllSent [SendCall.mk link.txCanId frame true] := by simp [AllSent]
    have ofMessage : messageCalls [SendCall.mk link.txCanId frame true] = [SendCall.mk link.txCanId frame true] := by
      have member : frame ∈ segmentation payload := by
        by_cases short : payload.length ≤ 7
        · rw [(single short).2]
          exact List.mem_singleton_self _
        · refine List.mem_of_mem_take (?_ : frame ∈ (segmentation payload).take 1)
          rw [(several (Nat.not_le.mp short)).2]
          exact List.mem_singleton_self _
      exact messageCalls_of_all (by simpa [SendCall.OfMessage] using segmentation_ofMessage nonempty fits member)
    by_cases short : payload.length ≤ 7
    · obtain ⟨rests, whole⟩ := single short
      obtain ⟨rfl, clean⟩ := diagLinkSendLoop_idle rests returned
      have progress : Progress payload final.tx (messageCalls [SendCall.mk link.txCanId frame true]) := by
        rw [ofMessage]
        exact .ended rests (by simp [whole])
      rw [transmitted_iff nonempty fits adds rests progress, ofMessage]
      exact iff_of_true ⟨sent, fun _ => by rw [whole]; rfl⟩ clean
    · have long := Nat.not_le.mp short
      obtain ⟨emitting, opening⟩ := several long
      have progress : Progress payload begun.tx [SendCall.mk link.txCanId frame true] := .emitting 0 emitting opening.symm
      obtain ⟨rests, added, goesOn⟩ := diagLinkSendLoop_goesOn long progress returned
      have progress := goesOn.progress
      have intact := goesOn.intact
      rw [← ofMessage, ← messageCalls_append] at progress intact
      rw [transmitted_iff nonempty fits (adds.trans goesOn.adds) rests progress, intact, ofMessage,
        intact_busy emitting.busy]
      exact and_iff_right sent

def freshLink (buffer : Vector UInt8 maxPayloadSize) : DiagLink where
  calls := []
  txCanId := 0x7E0
  rxCanId := 0x7E8
  rx := .init buffer
  tx := .init buffer
  lastError := .ok

/-- The peer lets the emitter continue, and every call succeeds. -/
theorem diagLinkSend_transmits_eight : ∃ final,
    diagLinkSend (fun _ => true) (freshLink (.replicate maxPayloadSize 0)) [1, 2, 3, 4, 5, 6, 7, 8] 0
      [⟨.frame 0x7E8 [0x30, 0, 0], 1, 1⟩] = some (final, 0) ∧
    Transmitted (freshLink (.replicate maxPayloadSize 0)) [1, 2, 3, 4, 5, 6, 7, 8] final := by
  have returns : ∃ final, diagLinkSend (fun _ => true) (freshLink (.replicate maxPayloadSize 0)) [1, 2, 3, 4, 5, 6, 7, 8] 0
      [⟨.frame 0x7E8 [0x30, 0, 0], 1, 1⟩] = some (final, 0) := ⟨_, rfl⟩
  obtain ⟨final, returned⟩ := returns
  refine ⟨final, returned, ?_⟩
  rw [diagLinkSend_transmits_iff _ _ _ _ _ _ rfl (by decide) (by decide) returned]
  refine Or.inr ⟨?_, trivial⟩
  intro silence
  cases silence

/-- The peer stays silent, N_Bs is over in the first turn, and the message counts
as sent. -/
theorem silent_peer_succeeds : ∃ final,
    diagLinkSend (fun _ => true) (freshLink (.replicate maxPayloadSize 0)) [1, 2, 3, 4, 5, 6, 7, 8] 0
      [⟨.silence, 1000, 1000⟩] = some (final, 0) ∧
    ¬ Transmitted (freshLink (.replicate maxPayloadSize 0)) [1, 2, 3, 4, 5, 6, 7, 8] final := by
  refine ⟨_, rfl, fun transmitted => ?_⟩
  have few := transmitted.length_le
  exact absurd few (by decide)

end DiagnosticGateway.Platform
