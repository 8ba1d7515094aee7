import DiagnosticGateway.Platform.SendLoop

/-! Who `diag_link_send` gives up on.

Its deadline counts from the start of the message, four times N_Bs long, whatever
the peer does meanwhile. So the message of a peer that answers every block in time
is given up like that of a silent one, if the blocks and the gaps the peer asks
for take that long together.
-/

set_option autoImplicit false

namespace DiagnosticGateway.Platform
open BigEndian Isotp

def Late (startMs : UInt32) (turn : Turn) : Prop := turn.laterMs - startMs ≥ sendDeadlineMs

/-- A Flow Control that is malformed or says Overflow. -/
def Refusal (data : Bytes) : Prop :=
  (∃ reason, decodeFlowControl data = .error reason) ∨
    ∃ blockSize stmin, decodeFlowControl data = .ok (.overflow, blockSize, stmin)

def Refuses (link : DiagLink) (turn : Turn) : Prop :=
  link.tx.state = .waitFlowControl ∧
    ∃ data, turn.received = .frame link.rxCanId data ∧ getFrameType data = .ok .flowControl ∧ Refusal data

def TimesOut (outcome : DiagLink × Int) : Prop := outcome.2 = -1 ∧ outcome.1.lastError = .errTimeout

def Received.IsFlowControl (rxCanId : UInt32) : Received → Prop
  | .frame canId data => canId = rxCanId ∧ getFrameType data = .ok .flowControl
  | .error | .silence => False

instance (rxCanId : UInt32) : (received : Received) → Decidable (received.IsFlowControl rxCanId)
  | .frame _ _ => inferInstanceAs (Decidable (_ ∧ _))
  | .error | .silence => inferInstanceAs (Decidable False)

/-- The turn waits for a Flow Control that does not come. -/
def Unanswered (visit : DiagLink × Turn) : Prop :=
  visit.1.tx.state = .waitFlowControl ∧ ¬ visit.2.received.IsFlowControl visit.1.rxCanId

instance (visit : DiagLink × Turn) : Decidable (Unanswered visit) := inferInstanceAs (Decidable (_ ∧ _))

/-- The emitter has waited N_Bs for a Flow Control: before the turn, or at the end
of a turn that brings none. A wait no turn has listened in does not count. -/
def WaitedOut (visit : DiagLink × Turn) : Prop :=
  visit.1.tx.WaitOver visit.2.nowMs ∨ (Unanswered visit ∧ visit.1.tx.WaitOver visit.2.laterMs)

instance (visit : DiagLink × Turn) : Decidable (WaitedOut visit) := inferInstanceAs (Decidable (_ ∨ _))

/-- The clock of the last turn that was not left waiting, or of the start. -/
def waitBegan (startMs : UInt32) (past : List (DiagLink × Turn)) : UInt32 :=
  past.foldl (fun began visit => if Unanswered visit then began else visit.2.nowMs) startMs

/-- For N_Bs the turns wait for a Flow Control, and the peer sends none. -/
def PeerSilent (startMs : UInt32) (visits : List (DiagLink × Turn)) : Prop :=
  ∃ past visit later, visits = past ++ visit :: later ∧ visit.1.tx.state = .waitFlowControl ∧
    (visit.2.nowMs - waitBegan startMs past ≥ nBsTimeoutMs ∨
      (Unanswered visit ∧ visit.2.laterMs - waitBegan startMs past ≥ nBsTimeoutMs))

section
variable {sends : Nat → Bool} {link : DiagLink} {nowMs : UInt32} {data : Bytes}

theorem decodeFlowControl_error {reason : Result} (decoded : decodeFlowControl data = .error reason) :
    reason ≠ .errTimeout := by
  simp only [decodeFlowControl] at decoded
  repeat' split at decoded
  all_goals cases decoded
  all_goals exact Result.noConfusion

theorem driveTxLoop_succeeds (sent : ∀ call, sends call = true) (guard : Nat) (ready : link.tx.state ≠ .waitFlowControl) :
    (driveTxLoop sends nowMs guard link).2 = 0 := by
  induction guard generalizing link with
  | zero => rfl
  | succ guard ih =>
    obtain ⟨kept, next⟩ := txPoll_ready ready nowMs
    by_cases sends' : (txPoll link.tx nowMs).2.event = .sendFrame
    · rw [driveTxLoop_succ sends']
      dsimp only
      rw [if_pos (sent _)]
      exact ih (next sends')
    · rw [driveTxLoop]
      generalize txPoll link.tx nowMs = outcome at kept sends'
      obtain ⟨tx, out⟩ := outcome
      dsimp only at kept sends' ⊢
      cases event : out.event with
      | sendFrame => exact absurd event sends'
      | aborted => exact absurd event kept
      | none | wait | complete => rfl

theorem driveTx_succeeds (sent : ∀ call, sends call = true) (ready : link.tx.state ≠ .waitFlowControl) :
    (driveTx sends link nowMs).2 = 0 := by
  rw [driveTx]
  split
  · rfl
  · exact driveTxLoop_succeeds sent 700 ready

structure FailsBy (refused : Prop) (outcome : DiagLink × PollResult) : Prop where
  iff : outcome.2 = .error ↔ refused
  notTimeout : outcome.2 = .error → outcome.1.lastError ≠ .errTimeout

theorem FailsBy.succeeded {refused : Prop} {outcome : DiagLink × PollResult} (succeeded : outcome.2 ≠ .error)
    (accepted : ¬ refused) : FailsBy refused outcome :=
  ⟨iff_of_false succeeded accepted, fun failed => absurd failed succeeded⟩

theorem FailsBy.failed {refused : Prop} {outcome : DiagLink × PollResult} (failed : outcome.2 = .error)
    (unexpected : outcome.1.lastError ≠ .errTimeout) (rejected : refused) : FailsBy refused outcome :=
  ⟨iff_of_true failed rejected, fun _ => unexpected⟩

theorem refusal_iff_overflow {status : FlowStatus} {blockSize stmin : UInt8}
    (decoded : decodeFlowControl data = .ok (status, blockSize, stmin)) : Refusal data ↔ status = .overflow := by
  constructor
  · rintro (⟨reason, malformed⟩ | ⟨_, _, overflow⟩)
    · cases malformed.symm.trans decoded
    · cases overflow.symm.trans decoded
      rfl
  · rintro rfl
    exact .inr ⟨blockSize, stmin, decoded⟩

theorem flowControl_refused (sent : ∀ call, sends call = true) (busy : link.tx.state ≠ .idle)
    (type : getFrameType data = .ok .flowControl) :
    FailsBy (link.tx.state = .waitFlowControl ∧ Refusal data) (handleFrame sends link data nowMs) := by
  have handled := @handleFrame_flowControl nowMs sends link busy data type
  generalize handleFrame sends link data nowMs = outcome at handled
  cases handled with
  | ignored ready => exact .succeeded PollResult.noConfusion fun both => ready both.1
  | malformed reason waiting decoded => exact .failed rfl (decodeFlowControl_error decoded) ⟨waiting, .inl ⟨reason, decoded⟩⟩
  | overflowed blockSize stmin waiting decoded =>
    exact .failed rfl Result.noConfusion ⟨waiting, .inr ⟨blockSize, stmin, decoded⟩⟩
  | waits blockSize stmin waiting decoded =>
    refine .succeeded PollResult.noConfusion fun both => ?_
    exact FlowStatus.noConfusion ((refusal_iff_overflow decoded).mp both.2)
  | lost _ _ _ _ _ _ fails => exact absurd (fails.symm.trans (sent _)) Bool.false_ne_true
  | driven blockSize stmin next waiting decoded opened =>
    rw [driveTx_succeeds sent opened.ready]
    refine .succeeded PollResult.noConfusion fun both => ?_
    exact FlowStatus.noConfusion ((refusal_iff_overflow decoded).mp both.2)

theorem reception_succeeds (sent : ∀ call, sends call = true) (ours : ForReceiver link data) :
    (handleFrame sends link data nowMs).2 ≠ .error := by
  have handled := @handleFrame_reception sends link data nowMs ours
  generalize handleFrame sends link data nowMs = outcome at handled
  cases handled with
  | answered =>
    dsimp only
    rw [if_pos (sent _)]
    exact PollResult.noConfusion
  | unreadable | completed | aborted | quiet => exact PollResult.noConfusion

/-- With a socket that works, a turn fails only by the refusal of the peer, and a
refusal is no timeout. -/
theorem diagLinkPoll_refused (sent : ∀ call, sends call = true) {turn : Turn} (reads : turn.received ≠ .error)
    (busy : link.tx.state ≠ .idle) : FailsBy (Refuses link turn) (diagLinkPoll sends link turn) := by
  have unrelated : (∀ data, turn.received = .frame link.rxCanId data → getFrameType data ≠ .ok .flowControl) →
      ¬ Refuses link turn := by
    rintro other ⟨-, data, received, type, -⟩
    exact other data received type
  have polled := @diagLinkPoll_polled sends link turn
  generalize diagLinkPoll sends link turn = outcome at polled
  cases polled with
  | failed received => exact absurd received reads
  | silent received =>
    exact .succeeded PollResult.noConfusion (unrelated fun data got => by cases received.symm.trans got)
  | foreign canId data received other =>
    refine .succeeded PollResult.noConfusion (unrelated fun data got => ?_)
    exact absurd (Received.frame.inj (received.symm.trans got)).1 other
  | flowControl data received type =>
    obtain ⟨iff, notTimeout⟩ := @flowControl_refused sends link turn.nowMs data sent busy type
    refine ⟨iff.trans ⟨fun both => ⟨both.1, data, received, type, both.2⟩, ?_⟩, notTimeout⟩
    rintro ⟨waiting, _, got, -, refusal⟩
    cases received.symm.trans got
    exact ⟨waiting, refusal⟩
  | reception data received ours =>
    refine .succeeded (reception_succeeds sent ours) (unrelated fun other got type => ?_)
    cases received.symm.trans got
    exact ours ⟨type, busy⟩

theorem driveTxLoop_begins (ready : link.tx.state ≠ .waitFlowControl) (guard : Nat)
    (waits : (driveTxLoop sends nowMs guard link).1.tx.state = .waitFlowControl) :
    (driveTxLoop sends nowMs guard link).1.tx.waitStartMs = nowMs := by
  induction guard generalizing link with
  | zero => exact absurd waits ready
  | succ guard ih =>
    have begins := @txPoll_begins link.tx nowMs ready
    have behind := (txPoll_ready ready nowMs).2
    by_cases sent : (txPoll link.tx nowMs).2.event = .sendFrame
    · rw [driveTxLoop_succ sent] at waits ⊢
      dsimp only at waits ⊢
      by_cases leaves : sends link.calls.length = true
      · rw [if_pos leaves] at waits ⊢
        exact ih (behind sent) waits
      · rw [if_neg leaves] at waits
        exact absurd waits (behind sent)
    · rw [driveTxLoop] at waits ⊢
      generalize txPoll link.tx nowMs = outcome at begins sent waits ⊢
      obtain ⟨tx, out⟩ := outcome
      dsimp only at begins sent waits ⊢
      cases event : out.event with
      | sendFrame => exact absurd event sent
      | aborted | none | wait | complete =>
        rw [event] at waits
        exact begins waits

theorem driveTx_begins (ready : link.tx.state ≠ .waitFlowControl)
    (waits : (driveTx sends link nowMs).1.tx.state = .waitFlowControl) :
    (driveTx sends link nowMs).1.tx.waitStartMs = nowMs := by
  rw [driveTx] at waits ⊢
  split at waits
  · exact absurd waits ready
  · rename_i busy
    rw [if_neg busy]
    exact driveTxLoop_begins ready 700 waits

theorem driveTx_waits (waiting : link.tx.state = .waitFlowControl)
    (waits : (driveTx sends link nowMs).1.tx.state = .waitFlowControl) : (driveTx sends link nowMs).1.tx = link.tx := by
  have busy : link.tx.state ≠ .idle := by simp [waiting]
  rw [driveTx, if_neg busy, driveTxLoop, txPoll_waiting waiting] at waits ⊢
  by_cases expired : nowMs - link.tx.waitStartMs ≥ nBsTimeoutMs
  · rw [if_pos expired] at waits
    cases waits
  · rw [if_neg expired]
    rfl

theorem diagLinkPoll_waits {turn : Turn} (waits : (diagLinkPoll sends link turn).1.tx.state = .waitFlowControl) :
    (diagLinkPoll sends link turn).1.tx.waitStartMs =
      if Unanswered (link, turn) then link.tx.waitStartMs else turn.nowMs := by
  have polled := @diagLinkPoll_polled sends link turn
  generalize diagLinkPoll sends link turn = outcome at polled waits ⊢
  cases polled with
  | failed received => rw [if_pos ⟨waits, by rw [received]; exact not_false⟩]
  | foreign canId data received other => rw [if_pos ⟨waits, by rw [received]; exact fun ours => other ours.1⟩]
  | silent received =>
    by_cases waiting : link.tx.state = .waitFlowControl
    · rw [if_pos ⟨waiting, by rw [received]; exact not_false⟩,
        @driveTx_waits sends (link.checkReception turn.nowMs) turn.nowMs waiting waits]
      rfl
    · rw [if_neg fun unanswered => waiting unanswered.1]
      exact @driveTx_begins sends (link.checkReception turn.nowMs) turn.nowMs waiting waits
  | flowControl data received type busy =>
    rw [if_neg fun unanswered => unanswered.2 (by rw [received]; exact ⟨rfl, type⟩)]
    have handled := @handleFrame_flowControl turn.nowMs sends link busy data type
    generalize handleFrame sends link data turn.nowMs = outcome at handled waits ⊢
    cases handled with
    | ignored ready => exact absurd waits ready
    | malformed | overflowed => cases waits
    | waits => rfl
    | lost _ _ _ _ _ opened => exact absurd waits opened.ready
    | driven _ _ _ _ _ opened => exact driveTx_begins opened.ready waits
  | reception data received ours =>
    have kept : (handleFrame sends link data turn.nowMs).1.tx = link.tx := by
      have handled := @handleFrame_reception sends link data turn.nowMs ours
      generalize handleFrame sends link data turn.nowMs = outcome at handled ⊢
      cases handled with
      | unreadable | answered | completed | aborted | quiet => rfl
    rw [kept] at waits ⊢
    refine (if_pos ⟨waits, ?_⟩).symm
    rw [received]
    exact fun answer => ours ⟨answer.2, by simp [waits]⟩

variable {startMs : UInt32} {turns : List Turn} {final : DiagLink} {code : Int}

theorem sendLoop_timesOut_iff (sent : ∀ call, sends call = true) (reads : ∀ turn ∈ turns, turn.received ≠ .error)
    (returned : diagLinkSendLoop sends startMs turns link = some (final, code)) :
    TimesOut (final, code) ↔
      ∃ visit ∈ sendTurns sends startMs turns link, Late startMs visit.2 ∧ ¬ Refuses visit.1 visit.2 := by
  refine @sendLoop_induction _ _ _ _ (fun link visits outcome => (∀ visit ∈ visits, visit.2.received ≠ .error) →
    (TimesOut outcome ↔ ∃ visit ∈ visits, Late startMs visit.2 ∧ ¬ Refuses visit.1 visit.2))
    (fun link idle _ => ?rests) (fun link turn busy failed reads => ?fails)
    (fun link turn busy failed late reads => ?gives)
    (fun link turn visits outcome busy failed late ih reads => ?goes) _ returned
    fun visit member => reads visit.2 (mem_sendTurns member)
  case rests => exact iff_of_false (fun timesOut => Int.noConfusion timesOut.1) (by simp)
  all_goals
    rw [List.forall_mem_cons] at reads
    obtain ⟨refused, notTimeout⟩ := diagLinkPoll_refused sent reads.1 busy
    rw [List.exists_mem_cons_iff, ← refused]
  case fails => exact iff_of_false (fun timesOut => notTimeout failed timesOut.2) (by simp [failed])
  case gives => exact iff_of_true ⟨rfl, rfl⟩ (.inl ⟨late, failed⟩)
  case goes =>
    rw [or_iff_right fun both => late both.1]
    exact ih reads.2

theorem waitBegan_cons (began : UInt32) (visit : DiagLink × Turn) (past : List (DiagLink × Turn)) :
    waitBegan began (visit :: past) = waitBegan (if Unanswered visit then began else visit.2.nowMs) past := rfl

-- By induction on the turns, with the start of the wait they go on with.
theorem sendTurns_waits {began : UInt32} {past later : List (DiagLink × Turn)} {visit : DiagLink × Turn}
    (dated : link.tx.state = .waitFlowControl → link.tx.waitStartMs = began)
    (same : sendTurns sends startMs turns link = past ++ visit :: later) (waiting : visit.1.tx.state = .waitFlowControl) :
    visit.1.tx.waitStartMs = waitBegan began past := by
  induction turns generalizing link began past with
  | nil => exact absurd same.symm (by simp [sendTurns])
  | cons turn rest ih =>
    by_cases idle : link.tx.state = .idle
    · rw [sendTurns, if_pos idle] at same
      exact absurd same.symm (by simp)
    rw [sendTurns_cons idle] at same
    cases past with
    | nil =>
      obtain ⟨rfl, -⟩ := List.cons.inj same
      exact dated waiting
    | cons first past =>
      obtain ⟨rfl, rest⟩ := List.cons.inj same
      split at rest
      · exact absurd rest.symm (by simp)
      · rw [waitBegan_cons]
        refine ih (fun waits => ?_) rest
        rw [diagLinkPoll_waits waits]
        by_cases unanswered : Unanswered (link, turn)
        · rw [if_pos unanswered, if_pos unanswered, dated unanswered.1]
        · rw [if_neg unanswered, if_neg unanswered]

theorem sendTurns_waitedOut_iff (dated : link.tx.state = .waitFlowControl → link.tx.waitStartMs = startMs) :
    (∃ visit ∈ sendTurns sends startMs turns link, WaitedOut visit) ↔
      PeerSilent startMs (sendTurns sends startMs turns link) := by
  constructor
  · rintro ⟨visit, member, waited⟩
    obtain ⟨past, later, split⟩ := List.append_of_mem member
    have waiting : visit.1.tx.state = .waitFlowControl := waited.elim And.left fun waited => waited.2.1
    have began := sendTurns_waits dated split waiting
    refine ⟨past, visit, later, split, waiting, ?_⟩
    rw [← began]
    exact waited.imp And.right fun waited => ⟨waited.1, waited.2.2⟩
  · rintro ⟨past, visit, later, split, waiting, silent⟩
    rw [← sendTurns_waits dated split waiting] at silent
    refine ⟨visit, by rw [split]; exact List.mem_append_right _ List.mem_cons_self, ?_⟩
    exact silent.imp (fun expired => ⟨waiting, expired⟩) fun silent => ⟨silent.1, waiting, silent.2⟩

/-! ## The whole call -/

theorem started_waits {payload : Bytes} (idle : link.tx.state = .idle)
    (waits : (started sends link payload startMs).tx.state = .waitFlowControl) :
    (started sends link payload startMs).tx.waitStartMs = startMs := by
  have same : (started sends link payload startMs).tx = (txStart link.tx payload startMs).1 := rfl
  rw [same, txStart, if_neg (not_not.mpr idle)] at waits ⊢
  by_cases empty : payload.length = 0
  · rw [if_pos empty] at waits
    exact absurd (idle.symm.trans waits) TxState.noConfusion
  by_cases large : payload.length > maxPayloadSize
  · rw [if_neg empty, if_pos large] at waits
    exact absurd (idle.symm.trans waits) TxState.noConfusion
  rw [if_neg empty, if_neg large] at waits ⊢
  split at waits
  · split at waits
    · exact absurd (idle.symm.trans waits) TxState.noConfusion
    · cases waits
  · rename_i several
    rw [if_neg several]
    rfl

theorem diagLinkSend_started {startMs : UInt32} (sent : ∀ call, sends call = true) {payload : Bytes} (idle : link.tx.state = .idle)
    (long : 7 < payload.length) (fits : payload.length ≤ maxPayloadSize) :
    diagLinkSend sends link payload startMs turns =
      diagLinkSendLoop sends startMs turns (started sends link payload startMs) := by
  have nonempty : payload ≠ [] := List.ne_nil_of_length_pos (Nat.zero_lt_of_lt long)
  obtain ⟨frame, begun⟩ := @started_begun _ _ sends startMs idle nonempty fits
  rw [begun.returns, if_pos (sent _)]

end

/-- The call times out exactly when a turn ends late that the peer did not end itself.
So its deadline strikes none but a silent peer exactly when there is no such turn, or
the peer is silent for N_Bs. -/
theorem diagLinkSend_patience_iff (sends : Nat → Bool) (link final : DiagLink) (payload : Bytes) (startMs : UInt32)
    (turns : List Turn) (code : Int) (idle : link.tx.state = .idle) (long : 8 ≤ payload.length)
    (fits : payload.length ≤ 4095) (sent : ∀ call, sends call = true) (reads : ∀ turn ∈ turns, turn.received ≠ .error)
    (returned : diagLinkSend sends link payload startMs turns = some (final, code)) :
    let visits := sendTurns sends startMs turns (started sends link payload startMs)
    (TimesOut (final, code) ↔ ∃ visit ∈ visits, Late startMs visit.2 ∧ ¬ Refuses visit.1 visit.2) ∧
      ((TimesOut (final, code) → ∃ visit ∈ visits, WaitedOut visit) ↔
        (∀ visit ∈ visits, Late startMs visit.2 → Refuses visit.1 visit.2) ∨ PeerSilent startMs visits) := by
  rw [diagLinkSend_started sent idle long fits] at returned
  have timesOut := sendLoop_timesOut_iff sent reads returned
  have silent := @sendTurns_waitedOut_iff sends (started sends link payload startMs) startMs turns (started_waits idle)
  dsimp only
  refine ⟨timesOut, ?_⟩
  rw [silent, timesOut, imp_iff_not_or]
  simp only [not_exists, not_and, not_not]

/-- The peer lets the emitter continue at once. -/
theorem diagLinkSend_patience_eight : ∃ final,
    diagLinkSend (fun _ => true) (freshLink (.replicate maxPayloadSize 0)) [1, 2, 3, 4, 5, 6, 7, 8] 0
      [⟨.frame 0x7E8 [0x30, 0, 0], 1, 1⟩] = some (final, 0) ∧
    let visits := sendTurns (fun _ => true) 0 [⟨.frame 0x7E8 [0x30, 0, 0], 1, 1⟩]
      (started (fun _ => true) (freshLink (.replicate maxPayloadSize 0)) [1, 2, 3, 4, 5, 6, 7, 8] 0)
    (TimesOut (final, 0) → ∃ visit ∈ visits, WaitedOut visit) := by
  have returns : ∃ final, diagLinkSend (fun _ => true) (freshLink (.replicate maxPayloadSize 0)) [1, 2, 3, 4, 5, 6, 7, 8] 0
      [⟨.frame 0x7E8 [0x30, 0, 0], 1, 1⟩] = some (final, 0) := ⟨_, rfl⟩
  obtain ⟨final, returned⟩ := returns
  refine ⟨final, returned, (diagLinkSend_patience_iff _ _ _ _ _ _ _ rfl (by decide) (by decide) (fun _ => rfl)
    (by simp) returned).2.mpr (.inl fun visit member late => ?_)⟩
  rw [Late, List.mem_singleton.mp (mem_sendTurns member)] at late
  exact absurd late (by decide)

/-- A peer that lets the whole message through at once, 127 ms between two frames, on
a link that is polled every 50 ms. -/
def slowPeer : List Turn :=
  ⟨.frame 0x7E8 [0x30, 0, 0x7F], 50, 50⟩ ::
    (List.range' 2 79).map fun poll => ⟨.silence, 50 * UInt32.ofNat poll, 50 * UInt32.ofNat poll⟩

/-- It is given up on after 4 s, in the middle of 300 bytes, and nothing was waited for
longer than one poll. -/
theorem slow_peer_given_up : ∃ final,
    diagLinkSend (fun _ => true) (freshLink (.replicate maxPayloadSize 0)) (.replicate 300 0) 0 slowPeer = some (final, -1) ∧
    (⟨.silence, 0, 0⟩ :: slowPeer).IsChain (fun before turn => turn.nowMs - before.laterMs ≤ 50) ∧
    let visits := sendTurns (fun _ => true) 0 slowPeer
      (started (fun _ => true) (freshLink (.replicate maxPayloadSize 0)) (.replicate 300 0) 0)
    ¬ (TimesOut (final, -1) → ∃ visit ∈ visits, WaitedOut visit) := by
  have returns : (diagLinkSend (fun _ => true) (freshLink (.replicate maxPayloadSize 0)) (.replicate 300 0) 0 slowPeer).map
      (fun outcome => (outcome.2, outcome.1.lastError)) = some (-1, .errTimeout) := by decide +kernel
  have never : ∀ visit ∈ sendTurns (fun _ => true) 0 slowPeer
      (started (fun _ => true) (freshLink (.replicate maxPayloadSize 0)) (.replicate 300 0) 0),
      ¬ WaitedOut visit := by decide +kernel
  obtain ⟨⟨final, code⟩, returned, same⟩ := Option.map_eq_some_iff.mp returns
  obtain ⟨rfl, timeout⟩ := Prod.mk.inj same
  refine ⟨final, returned, by decide +kernel, fun spares => ?_⟩
  obtain ⟨visit, member, waited⟩ := spares ⟨rfl, timeout⟩
  exact never visit member waited

end DiagnosticGateway.Platform
