import DiagnosticGateway.Platform.CanSocket
import DiagnosticGateway.Platform.ForeignTraffic
import DiagnosticGateway.Platform.Transmission

/-! Which frames of the bus a link takes.

`diag_link_poll` compares numbers, and their format is gone by then. A link takes
the standard frames of its identifier, and the one extended frame of the same number.
-/

set_option autoImplicit false

namespace DiagnosticGateway.Platform
open BigEndian Isotp Traces

section
variable {α : Type} (sends : Nat → Bool) (link : DiagLink) (turn : Turn)

/-- `diag_link_poll` once more. `handle` stands for the call of `handle_frame`, and
`done` for every other return. -/
def diagLinkPollWith (handle : DiagLink → Bytes → UInt32 → α) (done : DiagLink × PollResult → α) : α :=
  match turn.received with
  | .error => done (link, .error)
  | .silence =>
    let (rx, out) := pollTimeout link.rx turn.nowMs
    let link := { link with rx }
    let link := if out.event = .aborted then { link with lastError := out.reason } else link
    done ((driveTx sends link turn.nowMs).1, .nothing)
  | .frame canId data => if canId ≠ link.rxCanId then done (link, .nothing) else handle link data turn.nowMs

theorem diagLinkPollWith_handleFrame :
    diagLinkPollWith sends link turn (handleFrame sends) id = diagLinkPoll sends link turn := by
  rw [diagLinkPollWith, diagLinkPoll]
  cases turn.received with
  | error | silence | frame => rfl

def handled : Option Bytes := diagLinkPollWith sends link turn (fun _ data _ => some data) fun _ => none

end

section
variable {sends : Nat → Bool} {link : DiagLink}

theorem handled_iff {turn : Turn} {data : Bytes} :
    handled sends link turn = some data ↔ turn.received = .frame link.rxCanId data := by
  rw [handled, diagLinkPollWith]
  cases turn.received with
  | error | silence => simp
  | frame canId bytes =>
    by_cases foreign : canId ≠ link.rxCanId
    · simp [foreign]
    · simp [not_not.mp foreign]

theorem diagLinkPoll_handled {turn : Turn} {data : Bytes} (reached : handled sends link turn = some data) :
    diagLinkPoll sends link turn = handleFrame sends link data turn.nowMs := by
  rw [diagLinkPoll, handled_iff.mp reached]
  exact if_neg (not_not.mpr rfl)

theorem sent_frame_handled {id : Identifier} {data : Bytes} {frame : CanFrame} {nowMs laterMs : UInt32}
    (sent : canSocketSend id.word data = some frame) (listens : link.rxCanId = id.number) :
    handled sends link ⟨canSocketRecv (.frame frame), nowMs, laterMs⟩ = some data := by
  rw [handled_iff, canSocketRecv_canSocketSend sent, listens]

/-! ## Frames from the bus -/

/-- A data frame in the standard format with this identifier. -/
structure AddressedTo (rxCanId raw : UInt32) : Prop where
  eff : raw &&& canEffFlag = 0
  rtr : raw &&& canRtrFlag = 0
  err : raw &&& canErrFlag = 0
  number : raw &&& canSffMask = rxCanId

instance (rxCanId raw : UInt32) : Decidable (AddressedTo rxCanId raw) :=
  decidable_of_iff (raw &&& canEffFlag = 0 ∧ raw &&& canRtrFlag = 0 ∧ raw &&& canErrFlag = 0 ∧ raw &&& canSffMask = rxCanId)
    ⟨fun ⟨eff, rtr, err, number⟩ => ⟨eff, rtr, err, number⟩, fun ⟨eff, rtr, err, number⟩ => ⟨eff, rtr, err, number⟩⟩

/-- The extended data frame with the same number. -/
def extendedTwin (rxCanId : UInt32) : UInt32 := canEffFlag ||| rxCanId

theorem addressedTo_iff {raw : UInt32} {number : BitVec 11} :
    AddressedTo (Identifier.standard number).number raw ↔ identifier raw = some (.standard number) := by
  have same : raw &&& canSffMask = (Identifier.standard number).number ↔ raw.toBitVec.setWidth 11 = number := by
    rw [and_canSffMask, number_eq_standard_iff]
    simp
  rw [identifier_standard_iff, ← same]
  exact ⟨fun ⟨eff, rtr, err, number⟩ => ⟨⟨err, rtr⟩, eff, number⟩, fun ⟨⟨err, rtr⟩, eff, number⟩ => ⟨eff, rtr, err, number⟩⟩

theorem extendedTwin_iff {raw : UInt32} {number : BitVec 11} :
    raw = extendedTwin (Identifier.standard number).number ↔ identifier raw = some (.extended (number.setWidth 29)) := by
  have word : (Identifier.extended (number.setWidth 29)).word = extendedTwin (Identifier.standard number).number := by
    refine UInt32.toBitVec_inj.mp (congrArg (BitVec.twoPow 32 31 ||| ·) ?_)
    exact BitVec.setWidth_setWidth (by decide)
  rw [identifier_extended_iff, word]

theorem AddressedTo.not_twin {raw rxCanId : UInt32} (addressed : AddressedTo rxCanId raw) (eleven : rxCanId ≤ canSffMask) :
    raw ≠ extendedTwin rxCanId := by
  obtain ⟨number, rfl⟩ := exists_standard eleven
  intro twin
  rw [extendedTwin_iff, addressedTo_iff.mp addressed] at twin
  cases twin

theorem handled_frame (frame : CanFrame) (nowMs laterMs : UInt32) (eleven : link.rxCanId ≤ canSffMask) :
    handled sends link ⟨canSocketRecv (.frame frame), nowMs, laterMs⟩ =
      if AddressedTo link.rxCanId frame.canId ∨ frame.canId = extendedTwin link.rxCanId then some frame.payload else none := by
  obtain ⟨number, rx⟩ := exists_standard eleven
  have taken : (AddressedTo link.rxCanId frame.canId ∨ frame.canId = extendedTwin link.rxCanId) ↔
      ∃ id, identifier frame.canId = some id ∧ id.number = link.rxCanId := by
    rw [rx, addressedTo_iff, extendedTwin_iff]
    cases identifier frame.canId with
    | none => simp
    | some id => simp [number_eq_standard_iff]
  rw [handled, diagLinkPollWith, canSocketRecv_frame]
  cases found : identifier frame.canId with
  | none =>
    rw [if_neg]
    rw [taken, found]
    rintro ⟨_, same, _⟩
    cases same
  | some id =>
    dsimp only
    by_cases ours : id.number = link.rxCanId
    · rw [if_neg (not_not.mpr ours), if_pos (taken.mpr ⟨id, found, ours⟩)]
    · rw [if_pos ours, if_neg]
      rw [taken, found]
      rintro ⟨_, same, equal⟩
      exact ours (Option.some.inj same ▸ equal)

end

/-- A link with an eleven-bit identifier takes the data frames in the standard format
with this identifier and no others, up to the extended twin. -/
theorem address_filter_exact_iff (sends : Nat → Bool) (link : DiagLink) (frame : CanFrame) (nowMs laterMs : UInt32)
    (eleven : link.rxCanId ≤ canSffMask) :
    (handled sends link ⟨canSocketRecv (.frame frame), nowMs, laterMs⟩ = some frame.payload ↔
        AddressedTo link.rxCanId frame.canId) ↔
      frame.canId ≠ extendedTwin link.rxCanId := by
  have taken : handled sends link ⟨canSocketRecv (.frame frame), nowMs, laterMs⟩ = some frame.payload ↔
      AddressedTo link.rxCanId frame.canId ∨ frame.canId = extendedTwin link.rxCanId := by
    rw [handled_frame frame nowMs laterMs eleven, Option.ite_none_right_eq_some]
    exact and_iff_left rfl
  rw [taken]
  constructor
  · intro exact' twin
    exact (exact'.mp (.inr twin)).not_twin eleven twin
  · intro other
    exact or_iff_left other

def sessionRequest (canId : UInt32) : CanFrame := ⟨canId, 3, #v[0x02, 0x10, 0x03, 0, 0, 0, 0, 0]⟩

theorem address_filter_exact_standard :
    handled (fun _ => true) (freshLink (.replicate maxPayloadSize 0))
        ⟨canSocketRecv (.frame (sessionRequest 0x7E8)), 0, 0⟩ = some (sessionRequest 0x7E8).payload ↔
      AddressedTo 0x7E8 0x7E8 :=
  (address_filter_exact_iff (fun _ => true) (freshLink (.replicate maxPayloadSize 0)) (sessionRequest 0x7E8) 0 0
    (by decide)).mpr (by decide)

/-- The extended frame with the number of the link. -/
theorem extended_frame_taken :
    ¬ ∀ (sends : Nat → Bool) (link : DiagLink) (frame : CanFrame) (nowMs laterMs : UInt32), link.rxCanId ≤ canSffMask →
      (handled sends link ⟨canSocketRecv (.frame frame), nowMs, laterMs⟩ = some frame.payload ↔
        AddressedTo link.rxCanId frame.canId) := by
  intro all
  have same := all (fun _ => true) (freshLink (.replicate maxPayloadSize 0)) (sessionRequest 0x800007E8) 0 0 (by decide)
  have reached := same.mp (handled_iff.mpr rfl)
  exact absurd reached.eff (by decide)

structure BusTurn where
  read : ReadResult
  nowMs : UInt32
  laterMs : UInt32
  deriving DecidableEq, Repr

def BusTurn.turn (turn : BusTurn) : Turn := ⟨canSocketRecv turn.read, turn.nowMs, turn.laterMs⟩

def BusTurn.addressed (rxCanId : UInt32) (turn : BusTurn) : Option Bytes :=
  match turn.read with
  | .closed | .failed _ | .short => none
  | .frame frame => if AddressedTo rxCanId frame.canId then some frame.payload else none

def handledIn (sends : Nat → Bool) (link : DiagLink) (turns : List Turn) : List Bytes :=
  (trace (diagLinkPoll sends) link turns).filterMap fun e => handled sends e.before e.action

section
variable {sends : Nat → Bool} {link : DiagLink}

theorem handleFrame_rxCanId {data : Bytes} {nowMs : UInt32} :
    (handleFrame sends link data nowMs).1.rxCanId = link.rxCanId := by
  by_cases ours : ForReceiver link data
  · have handled := @handleFrame_reception sends link data nowMs ours
    generalize handleFrame sends link data nowMs = outcome at handled
    cases handled with
    | unreadable | answered | completed | aborted | quiet => rfl
  · obtain ⟨type, busy⟩ := not_not.mp ours
    have flow : FrameType.flowControl = .flowControl ∧ link.tx.state ≠ .idle := ⟨rfl, busy⟩
    rw [handleFrame, type]
    dsimp only
    rw [if_pos flow]
    generalize txOnFlowControl link.tx data nowMs = outcome
    obtain ⟨tx, out⟩ := outcome
    dsimp only
    cases out.event with
    | sendFrame =>
      have kept : (sendFrame sends { link with tx } out.frame).1.rxCanId = link.rxCanId := rfl
      generalize sendFrame sends { link with tx } out.frame = sent at kept ⊢
      obtain ⟨next, code⟩ := sent
      dsimp only at kept ⊢
      split
      · exact kept
      · exact driveTx_emits.rxCanId.trans kept
    | aborted | none | wait | complete => rfl

theorem diagLinkPoll_rxCanId {turn : Turn} : (diagLinkPoll sends link turn).1.rxCanId = link.rxCanId := by
  have polled := @diagLinkPoll_polled sends link turn
  generalize diagLinkPoll sends link turn = outcome at polled
  cases polled with
  | failed | foreign => rfl
  | silent => exact driveTx_emits.rxCanId
  | flowControl | reception => exact handleFrame_rxCanId

theorem handled_addressed {turn : BusTurn} (eleven : link.rxCanId ≤ canSffMask)
    (apart : ∀ frame, turn.read = .frame frame → frame.canId ≠ extendedTwin link.rxCanId) :
    handled sends link turn.turn = turn.addressed link.rxCanId := by
  obtain ⟨read, nowMs, laterMs⟩ := turn
  cases read with
  | closed | short => rfl
  | failed errno => cases errno <;> rfl
  | frame frame =>
    have only : (AddressedTo link.rxCanId frame.canId ∨ frame.canId = extendedTwin link.rxCanId) ↔
        AddressedTo link.rxCanId frame.canId := or_iff_left (apart frame rfl)
    refine (handled_frame frame nowMs laterMs eleven).trans ?_
    simp only [only, BusTurn.addressed]

/-- On a bus without extended twins a link takes what is addressed to it, once and in
order, and nothing else. -/
theorem handledIn_addressed {turns : List BusTurn} (eleven : link.rxCanId ≤ canSffMask)
    (apart : ∀ turn ∈ turns, ∀ frame, turn.read = .frame frame → frame.canId ≠ extendedTwin link.rxCanId) :
    handledIn sends link (turns.map BusTurn.turn) = turns.filterMap (BusTurn.addressed link.rxCanId) := by
  induction turns generalizing link with
  | nil => rfl
  | cons turn rest ih =>
    obtain ⟨first, later⟩ := List.forall_mem_cons.mp apart
    have kept := @diagLinkPoll_rxCanId sends link turn.turn
    have others := ih (kept ▸ eleven) (kept ▸ later)
    rw [handledIn, List.map_cons, trace, List.filterMap_cons, List.filterMap_cons, event]
    dsimp only
    rw [handled_addressed eleven first]
    rw [handledIn, kept] at others
    rw [others]

end

def BusTurn.disguised (rxCanId : UInt32) (turn : BusTurn) : BusTurn :=
  match turn.read with
  | .closed | .failed _ | .short => turn
  | .frame frame =>
    if AddressedTo rxCanId frame.canId then { turn with read := .frame { frame with canId := extendedTwin rxCanId } } else turn

theorem BusTurn.disguised_turn {rxCanId : UInt32} (eleven : rxCanId ≤ canSffMask) (turn : BusTurn) :
    (turn.disguised rxCanId).turn = turn.turn := by
  obtain ⟨number, rfl⟩ := exists_standard eleven
  obtain ⟨read, nowMs, laterMs⟩ := turn
  cases read with
  | closed | failed | short => rfl
  | frame frame =>
    rw [disguised]
    dsimp only
    by_cases addressed : AddressedTo (Identifier.standard number).number frame.canId
    · rw [if_pos addressed]
      have twin := extendedTwin_iff.mp (rfl : extendedTwin (Identifier.standard number).number = _)
      have same : canSocketRecv (.frame { frame with canId := extendedTwin (Identifier.standard number).number }) =
          canSocketRecv (.frame frame) := by
        rw [canSocketRecv_frame, canSocketRecv_frame, twin, addressedTo_iff.mp addressed]
        exact congrArg (Received.frame · frame.payload) (number_eq_standard_iff.mpr (.inr rfl))
      rw [BusTurn.turn, same]
      rfl
    · rw [if_neg addressed]

theorem disguised_unnoticed (sends : Nat → Bool) (link : DiagLink) (turns : List BusTurn)
    (eleven : link.rxCanId ≤ canSffMask) :
    trace (diagLinkPoll sends) link ((turns.map (BusTurn.disguised link.rxCanId)).map BusTurn.turn) =
      trace (diagLinkPoll sends) link (turns.map BusTurn.turn) := by
  rw [List.map_map]
  congr 2
  funext turn
  exact BusTurn.disguised_turn eleven turn

end DiagnosticGateway.Platform
