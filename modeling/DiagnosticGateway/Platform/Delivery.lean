import DiagnosticGateway.Isotp.Statistics
import DiagnosticGateway.Platform.ForeignTraffic
import DiagnosticGateway.Platform.SendLoop

/-! Which messages a link hands to its caller.

`diag_link_send` polls the link for the Flow Controls of its own message, and gives
the payload that a poll returns to nobody. `diag_link_poll` and `diag_link_recv`
return it.
-/

set_option autoImplicit false

namespace DiagnosticGateway.Platform
open BigEndian Isotp Traces

/-- The message `isotp_rx_process` completes in a turn of `diag_link_poll`. -/
def completed (link : DiagLink) (turn : Turn) : Option Bytes :=
  match turn.received with
  | .error | .silence => none
  | .frame canId data =>
    if canId ≠ link.rxCanId then none
    else
      match getFrameType data with
      | .error _ => none
      | .ok type =>
        -- The emitter takes the frame.
        if type = .flowControl ∧ link.tx.state ≠ .idle then none
        else
          let out := (process link.rx data turn.nowMs).2
          if out.event = .messageReady then some out.message else none

def PollResult.payload? : PollResult → Option Bytes
  | .message payload => some payload
  | .error | .nothing => none

section
variable {sends : Nat → Bool} {link : DiagLink} {nowMs : UInt32}

structure Completes (link : DiagLink) (message : Option Bytes) (outcome : DiagLink × PollResult) : Prop where
  returned : outcome.2.payload? = message
  counted : outcome.1.rx.statMessages = link.rx.statMessages + if message.isSome then 1 else 0

theorem Completes.nothing {outcome : DiagLink × PollResult} (quiet : outcome.2.payload? = none)
    (same : outcome.1.rx.statMessages = link.rx.statMessages) : Completes link none outcome :=
  ⟨quiet, same.trans (UInt32.add_zero _).symm⟩

theorem flowControl_completes {data : Bytes} (type : getFrameType data = .ok .flowControl) (busy : link.tx.state ≠ .idle) :
    Completes link none (handleFrame sends link data nowMs) := by
  have handled := @handleFrame_flowControl nowMs sends link busy data type
  generalize handleFrame sends link data nowMs = outcome at handled
  cases handled with
  | ignored | malformed | overflowed | waits => exact .nothing rfl rfl
  | lost _ _ next _ _ opened => exact .nothing rfl (congrArg RxContext.statMessages opened.rx)
  | driven _ _ next _ _ opened =>
    refine .nothing ?_ (congrArg RxContext.statMessages (driveTx_emits.rx.trans opened.rx))
    dsimp only
    split
    · rfl
    · rfl

theorem completed_frame {turn : Turn} {data : Bytes} (received : turn.received = .frame link.rxCanId data) :
    completed link turn =
      match getFrameType data with
      | .error _ => none
      | .ok type =>
        if type = .flowControl ∧ link.tx.state ≠ .idle then none
        else
          let out := (process link.rx data turn.nowMs).2
          if out.event = .messageReady then some out.message else none := by
  rw [completed, received]
  exact if_neg (not_not.mpr rfl)

theorem completed_reception {turn : Turn} {data : Bytes} (received : turn.received = .frame link.rxCanId data)
    (ours : ForReceiver link data) :
    completed link turn =
      let out := (process link.rx data turn.nowMs).2
      if out.event = .messageReady then some out.message else none := by
  rw [completed_frame received]
  cases read : getFrameType data with
  | error reason =>
    obtain rfl := getFrameType_error read
    exact (if_neg RxEvent.noConfusion).symm
  | ok type =>
    refine if_neg ?_
    rintro ⟨rfl, busy⟩
    exact ours ⟨read, busy⟩

theorem reception_completes {turn : Turn} {data : Bytes} (received : turn.received = .frame link.rxCanId data)
    (ours : ForReceiver link data) : Completes link (completed link turn) (handleFrame sends link data turn.nowMs) := by
  have handled := @handleFrame_reception sends link data turn.nowMs ours
  have counts : (process link.rx data turn.nowMs).1.statMessages = link.rx.statMessages +
      if (process link.rx data turn.nowMs).2.event = .messageReady then 1 else 0 :=
    process_counts link.rx data turn.nowMs .messages
  rw [completed_reception received ours]
  generalize handleFrame sends link data turn.nowMs = outcome at handled
  cases handled with
  | unreadable empty =>
    subst empty
    exact .nothing rfl rfl
  | completed rx out processed event =>
    rw [processed, event] at counts
    rw [processed]
    simp only [event]
    exact ⟨rfl, counts⟩
  | answered rx out processed event =>
    rw [processed, event] at counts
    rw [processed]
    simp only [event]
    refine ⟨?_, counts⟩
    dsimp only
    split
    · rfl
    · rfl
  | aborted rx out processed event | quiet rx out processed event =>
    rw [processed, event] at counts
    rw [processed]
    simp only [event]
    exact ⟨rfl, counts⟩

theorem diagLinkPoll_completes {turn : Turn} : Completes link (completed link turn) (diagLinkPoll sends link turn) := by
  have polled := @diagLinkPoll_polled sends link turn
  generalize diagLinkPoll sends link turn = outcome at polled
  cases polled with
  | failed received =>
    rw [completed, received]
    exact .nothing rfl rfl
  | silent received =>
    have kept : (pollTimeout link.rx turn.nowMs).1.statMessages = link.rx.statMessages := by
      rcases pollTimeout_cases link.rx turn.nowMs with same | ⟨_, _, same⟩
      · rw [same]
      · rw [same]
        rfl
    rw [completed, received]
    exact .nothing rfl ((congrArg RxContext.statMessages driveTx_emits.rx).trans kept)
  | foreign canId data received other =>
    rw [completed, received]
    dsimp only
    rw [if_pos other]
    exact .nothing rfl rfl
  | flowControl data received type busy =>
    have none : completed link turn = none := by
      rw [completed_frame received, type]
      exact if_pos ⟨rfl, busy⟩
    rw [none]
    exact flowControl_completes type busy
  | reception data received ours => exact reception_completes received ours

def completedIn (visits : List (DiagLink × Turn)) : List Bytes := visits.filterMap fun visit => completed visit.1 visit.2

theorem completedIn_cons (turn : Turn) (visits : List (DiagLink × Turn)) :
    completedIn ((link, turn) :: visits) = (completed link turn).toList ++ completedIn visits := by
  rw [completedIn, completedIn, List.filterMap_cons]
  cases completed link turn with
  | none => rfl
  | some message => rfl

def recvTurns (sends : Nat → Bool) (timeoutMs startMs : UInt32) : List Turn → DiagLink → List (DiagLink × Turn)
  | [], _ => []
  | turn :: rest, link =>
    let (next, result) := diagLinkPoll sends link turn
    (link, turn) ::
      if result ≠ .nothing ∨ turn.laterMs - startMs ≥ timeoutMs then [] else recvTurns sends timeoutMs startMs rest next

def Counted (link : DiagLink) (visits : List (DiagLink × Turn)) (after : DiagLink) : Prop :=
  after.rx.statMessages = link.rx.statMessages + UInt32.ofNat (completedIn visits).length

theorem Counted.none {after : DiagLink} (same : after.rx.statMessages = link.rx.statMessages) : Counted link [] after :=
  same.trans (UInt32.add_zero _).symm

theorem Counted.first {turn : Turn} {visits : List (DiagLink × Turn)} {next after : DiagLink}
    (polled : next.rx.statMessages = link.rx.statMessages + if (completed link turn).isSome then 1 else 0)
    (rest : Counted next visits after) : Counted link ((link, turn) :: visits) after := by
  rw [Counted] at rest ⊢
  rw [rest, polled, completedIn_cons, UInt32.add_assoc, List.length_append, UInt32.ofNat_add]
  cases completed link turn with
  | none => rfl
  | some message => rfl

variable {timeoutMs startMs : UInt32} {turns : List Turn} {after : DiagLink}

theorem recvTurns_cons (turn : Turn) :
    recvTurns sends timeoutMs startMs (turn :: turns) link =
      (link, turn) ::
        if (diagLinkPoll sends link turn).2 ≠ .nothing ∨ turn.laterMs - startMs ≥ timeoutMs then []
        else recvTurns sends timeoutMs startMs turns (diagLinkPoll sends link turn).1 := rfl

theorem diagLinkRecvLoop_cons (turn : Turn) :
    diagLinkRecvLoop sends timeoutMs startMs (turn :: turns) link =
      if (diagLinkPoll sends link turn).2 ≠ .nothing then some (diagLinkPoll sends link turn)
      else if turn.laterMs - startMs ≥ timeoutMs then some ((diagLinkPoll sends link turn).1, .nothing)
      else diagLinkRecvLoop sends timeoutMs startMs turns (diagLinkPoll sends link turn).1 := rfl

/-- The loop returns the message its last turn completes. No other turn completes
one, also while the loop goes on. -/
theorem recvLoop_returns :
    completedIn (recvTurns sends timeoutMs startMs turns link) =
      match diagLinkRecvLoop sends timeoutMs startMs turns link with
      | some (_, result) => result.payload?.toList
      | none => [] := by
  induction turns generalizing link with
  | nil => rfl
  | cons turn rest ih =>
    obtain ⟨returned, -⟩ := @diagLinkPoll_completes sends link turn
    rw [diagLinkRecvLoop_cons, recvTurns_cons, completedIn_cons, ← returned]
    by_cases quiet : (diagLinkPoll sends link turn).2 ≠ .nothing
    · rw [if_pos quiet, if_pos (.inl quiet)]
      exact List.append_nil _
    · have silent := not_not.mp quiet
      rw [if_neg quiet, silent]
      by_cases late : turn.laterMs - startMs ≥ timeoutMs
      · rw [if_pos late, if_pos (.inr late)]
        rfl
      · rw [if_neg late, if_neg (not_or.mpr ⟨not_not.mpr rfl, late⟩)]
        exact ih

theorem recvLoop_counted {result : PollResult}
    (returned : diagLinkRecvLoop sends timeoutMs startMs turns link = some (after, result)) :
    Counted link (recvTurns sends timeoutMs startMs turns link) after := by
  induction turns generalizing link with
  | nil => cases returned
  | cons turn rest ih =>
    obtain ⟨-, counted⟩ := @diagLinkPoll_completes sends link turn
    rw [diagLinkRecvLoop_cons] at returned
    rw [recvTurns_cons]
    refine .first counted ?_
    by_cases quiet : (diagLinkPoll sends link turn).2 ≠ .nothing
    · rw [if_pos quiet] at returned
      rw [if_pos (.inl quiet), ← (Prod.mk.inj (Option.some.inj returned)).1]
      exact .none rfl
    · rw [if_neg quiet] at returned
      by_cases late : turn.laterMs - startMs ≥ timeoutMs
      · rw [if_pos late] at returned
        rw [if_pos (.inr late), ← (Prod.mk.inj (Option.some.inj returned)).1]
        exact .none rfl
      · rw [if_neg late] at returned
        rw [if_neg (not_or.mpr ⟨quiet, late⟩)]
        exact ih returned

theorem sendLoop_counted {code : Int} (returned : diagLinkSendLoop sends startMs turns link = some (after, code)) :
    Counted link (sendTurns sends startMs turns link) after := by
  refine @sendLoop_induction _ _ _ _ (fun link visits outcome => Counted link visits outcome.1)
    (fun link _ => .none rfl) (fun link turn _ _ => ?fails) (fun link turn _ _ _ => ?gives)
    (fun link turn visits outcome _ _ _ ih => ?goes) _ returned
  case fails => exact .first diagLinkPoll_completes.counted (.none rfl)
  case gives => exact .first diagLinkPoll_completes.counted (.none rfl)
  case goes => exact .first diagLinkPoll_completes.counted ih

end

/-! ## Runs of a link -/

inductive Call where
  | poll (turn : Turn)
  | recv (timeoutMs startMs : UInt32) (turns : List Turn)
  | send (payload : Bytes) (startMs : UInt32) (turns : List Turn)
  deriving DecidableEq, Repr

section
variable (sends : Nat → Bool) (link : DiagLink)

def pollsFor (payload : Bytes) (startMs : UInt32) (turns : List Turn) : List (DiagLink × Turn) :=
  let (tx, result, out) := txStart link.tx payload startMs
  if result ≠ .ok ∨ out.event ≠ .sendFrame then []
  else
    let (next, code) := sendFrame sends { link with tx } out.frame
    if code ≠ 0 then [] else sendTurns sends startMs turns next

def Call.visits : Call → List (DiagLink × Turn)
  | .poll turn => [(link, turn)]
  | .recv timeoutMs startMs turns => recvTurns sends timeoutMs startMs turns link
  | .send payload startMs turns => pollsFor sends link payload startMs turns

/-- The link after a call, and the message it gives its caller; `none` if the call
has not returned with the turns that came. -/
def Call.perform : Call → Option (DiagLink × Option Bytes)
  | .poll turn =>
    let (after, result) := diagLinkPoll sends link turn
    some (after, result.payload?)
  | .recv timeoutMs startMs turns =>
    (diagLinkRecv sends link timeoutMs startMs turns).map fun (after, result) => (after, result.payload?)
  | .send payload startMs turns => (diagLinkSend sends link payload startMs turns).map fun (after, _) => (after, none)

end

def Call.Sends : Call → Prop
  | .send _ _ _ => True
  | .poll _ | .recv _ _ _ => False

instance (call : Call) : Decidable call.Sends :=
  match call with
  | .send _ _ _ => inferInstanceAs (Decidable True)
  | .poll _ | .recv _ _ _ => inferInstanceAs (Decidable False)

structure Report where
  completed : List Bytes
  handed : Option Bytes
  deriving DecidableEq, Repr

/-- A call that has not returned is the last one. -/
def step (sends : Nat → Bool) (link : Option DiagLink) (call : Call) : Option DiagLink × Report :=
  match link with
  | none => (none, ⟨[], none⟩)
  | some link =>
    match call.perform sends link with
    | some (after, handed) => (some after, ⟨completedIn (call.visits sends link), handed⟩)
    | none => (none, ⟨completedIn (call.visits sends link), none⟩)

section
variable {sends : Nat → Bool} {link : DiagLink}

theorem diagLinkSend_counted {payload : Bytes} {startMs : UInt32} {turns : List Turn} {after : DiagLink} {code : Int}
    (returned : diagLinkSend sends link payload startMs turns = some (after, code)) :
    Counted link (pollsFor sends link payload startMs turns) after := by
  rw [diagLinkSend] at returned
  rw [pollsFor]
  generalize txStart link.tx payload startMs = start at returned ⊢
  obtain ⟨tx, result, out⟩ := start
  dsimp only at returned ⊢
  by_cases refused : result ≠ .ok
  · rw [if_pos refused] at returned
    rw [if_pos (.inl refused)]
    cases returned
    exact .none rfl
  · rw [if_neg refused] at returned
    by_cases silent : out.event ≠ .sendFrame
    · rw [if_pos silent] at returned
      rw [if_pos (.inr silent)]
      cases returned
      exact .none rfl
    · rw [if_neg silent] at returned
      rw [if_neg (not_or.mpr ⟨refused, silent⟩)]
      have kept : (sendFrame sends { link with tx } out.frame).1.rx = link.rx := rfl
      generalize sendFrame sends { link with tx } out.frame = sent at kept returned ⊢
      obtain ⟨next, failed⟩ := sent
      dsimp only at kept returned ⊢
      split at returned
      · rename_i lost
        rw [if_pos lost]
        cases returned
        exact .none (congrArg RxContext.statMessages kept)
      · rename_i left
        rw [if_neg left]
        have counted := sendLoop_counted returned
        rwa [Counted, kept] at counted

theorem perform_counted {call : Call} {after : DiagLink} {handed : Option Bytes}
    (returned : call.perform sends link = some (after, handed)) : Counted link (call.visits sends link) after := by
  cases call with
  | poll turn =>
    obtain ⟨-, counted⟩ := @diagLinkPoll_completes sends link turn
    obtain ⟨rfl, -⟩ := Prod.mk.inj (Option.some.inj returned)
    exact .first counted (.none rfl)
  | recv timeoutMs startMs turns =>
    obtain ⟨⟨next, result⟩, ended, same⟩ := Option.map_eq_some_iff.mp returned
    obtain ⟨rfl, -⟩ := Prod.mk.inj same
    exact recvLoop_counted ended
  | send payload startMs turns =>
    obtain ⟨⟨next, code⟩, ended, same⟩ := Option.map_eq_some_iff.mp returned
    obtain ⟨rfl, -⟩ := Prod.mk.inj same
    exact diagLinkSend_counted ended

theorem step_hands (link : Option DiagLink) (call : Call) :
    (step sends link call).2.handed.toList = if call.Sends then [] else (step sends link call).2.completed := by
  cases link with
  | none => cases call <;> rfl
  | some link =>
    cases call with
    | poll turn =>
      obtain ⟨returned, -⟩ := @diagLinkPoll_completes sends link turn
      rw [if_neg (show ¬ (Call.poll turn).Sends from id)]
      exact (congrArg Option.toList returned).trans ((completedIn_cons turn []).trans (List.append_nil _)).symm
    | recv timeoutMs startMs turns =>
      have returns := @recvLoop_returns sends link timeoutMs startMs turns
      rw [if_neg (show ¬ (Call.recv timeoutMs startMs turns).Sends from id)]
      simp only [step, Call.perform, Call.visits, diagLinkRecv]
      generalize diagLinkRecvLoop sends timeoutMs startMs turns link = outcome at returns
      cases outcome with
      | none => exact returns.symm
      | some outcome => exact returns.symm
    | send payload startMs turns =>
      rw [if_pos (show (Call.send payload startMs turns).Sends from trivial)]
      simp only [step, Call.perform]
      cases diagLinkSend sends link payload startMs turns with
      | none => rfl
      | some outcome => rfl

end

def requestDuringSend : Call :=
  .send [1, 2, 3, 4, 5, 6, 7, 8] 0 [⟨.frame 0x7E8 [0x02, 0x10, 0x03], 1, 1⟩, ⟨.frame 0x7E8 [0x30, 0, 0], 2, 2⟩]

theorem message_during_send_lost : ¬ ∀ (sends : Nat → Bool) (link : DiagLink) (calls : List Call),
    (trace (step sends) (some link) calls).flatMap (fun e => e.output.completed) =
      (trace (step sends) (some link) calls).flatMap fun e => e.output.handed.toList := by
  intro all
  have once := all (fun _ => true) (freshLink (.replicate maxPayloadSize 0)) [requestDuringSend]
  have completes : (step (fun _ => true) (some (freshLink (.replicate maxPayloadSize 0))) requestDuringSend).2 =
      ⟨[[0x10, 0x03]], none⟩ := by decide +kernel
  simp only [trace, event, completes] at once
  exact absurd once (by decide)

end DiagnosticGateway.Platform
