import DiagnosticGateway.Ecu.Pipeline
import DiagnosticGateway.Isotp.Bounds

/-! Authority across a transport abort (XL-2).

The receiver and the server share nothing but the messages the one completes for
the other, so an abort leaves the server as it is. What the server holds then is
decided by its own history: a key it accepted, and nothing that withdrew it.
-/

set_option autoImplicit false

namespace DiagnosticGateway.Ecu
open BigEndian Uds Traces
open Isotp (RxContext RxEvent process pollTimeout maxPayloadSize Bounded IsConsecutive sequenceNumber nCrTimeoutMs)

abbrev Step : Type := Event Model Action (Option Reply)

def transportEvent (m : Model) : Action → RxEvent
  | .frame bytes => (process m.rx bytes (m.clock + 1)).2.event
  | .pollTimeout => (pollTimeout m.rx m.clock).2.event
  | .poll | .moveClock _ => .none

/-- A Consecutive Frame out of sequence, or N_Cr over, while a transfer is open. -/
def AbortsTransfer (m : Model) : Action → Prop
  | .frame bytes =>
    m.rx.state = .waitConsecutive ∧ IsConsecutive bytes ∧ sequenceNumber bytes ≠ m.rx.nextSequenceNumber
  | .pollTimeout => m.rx.state = .waitConsecutive ∧ m.clock - m.rx.lastFrameTimeMs ≥ nCrTimeoutMs
  | .poll | .moveClock _ => False

theorem process_aborted_iff {ctx : RxContext} (bounded : Bounded ctx) (frame : Bytes) (nowMs : UInt32) :
    (process ctx frame nowMs).2.event = .aborted ↔
      ctx.state = .waitConsecutive ∧ IsConsecutive frame ∧ sequenceNumber frame ≠ ctx.nextSequenceNumber := by
  have processed := Isotp.process_processed ctx frame nowMs
  generalize process ctx frame nowMs = outcome at processed ⊢
  have quiet : RxEvent.none ≠ .aborted := by decide
  have ready : RxEvent.messageReady ≠ .aborted := by decide
  have control : RxEvent.sendFlowControl ≠ .aborted := by decide
  cases processed with
  | empty nothing =>
    subst nothing
    exact iff_of_false quiet (fun wrong => absurd wrong.2.1.1 (by decide))
  | rejected _ _ passes => exact iff_of_false quiet (fun wrong => passes.notAwaited wrong.1 wrong.2.1)
  | single _ _ decoded =>
    refine iff_of_false ready (fun wrong => ?_)
    exact absurd ((Isotp.decodeSingleFrame_ok decoded).1.symm.trans wrong.2.1.1) (by decide)
  | opened _ _ opens =>
    exact iff_of_false control (fun wrong => absurd (opens.type.symm.trans wrong.2.1.1) (by decide))
  | overflowed overflows =>
    exact iff_of_false control (fun wrong => absurd (overflows.1.symm.trans wrong.2.1.1) (by decide))
  | outOfSequence waiting consecutive wrong => exact iff_of_true rfl ⟨waiting, consecutive, wrong⟩
  | tooLong _ _ excess =>
    exact absurd (Nat.le_trans (bounded.block frame) bounded.expected) (Nat.not_le.mpr excess)
  | extended _ _ right => exact iff_of_false quiet (fun wrong => wrong.2.2 right)
  | completed _ _ right => exact iff_of_false ready (fun wrong => wrong.2.2 right)

theorem transport_aborted_iff {m : Model} (bounded : Bounded m.rx) (action : Action) :
    transportEvent m action = .aborted ↔ AbortsTransfer m action := by
  cases action with
  | frame bytes => exact process_aborted_iff bounded bytes (m.clock + 1)
  | pollTimeout =>
    unfold transportEvent AbortsTransfer
    rcases Isotp.pollTimeout_cases m.rx m.clock with same | ⟨waiting, elapsed, same⟩
    · rw [same]
      refine iff_of_false RxEvent.noConfusion ?_
      rintro ⟨waiting, elapsed⟩
      rw [pollTimeout, if_neg (not_not.mpr waiting), if_pos elapsed] at same
      exact RxEvent.noConfusion (congrArg (fun r => r.2.event) same)
    · rw [same]
      exact iff_of_true rfl ⟨waiting, elapsed⟩
  | poll | moveClock => exact iff_of_false RxEvent.noConfusion id

/-! ## The key in force -/

def delivered (m : Model) : Action → Option Bytes
  | .frame bytes =>
    let rxo := (process m.rx bytes (m.clock + 1)).2
    if rxo.event = .messageReady then some rxo.message else none
  | .pollTimeout | .poll | .moveClock _ => none

def Unlocks (e : Step) : Prop :=
  ∃ message, delivered e.before e.action = some message ∧
    AcceptsKey (poll e.before.uds.ctx (e.before.clock + 1)) message

/-- S3server is found to be over, or a request takes the server back to the default session. -/
def Withdraws (e : Step) : Prop :=
  (e.action = .poll ∧ Expired e.before.uds.ctx e.before.clock) ∨
    ∃ message, delivered e.before e.action = some message ∧
      (Expired e.before.uds.ctx (e.before.clock + 1) ∨
        Relocks (poll e.before.uds.ctx (e.before.clock + 1)) message)

/-- A key was accepted and nothing has withdrawn it since. -/
def KeyInForce (past : List Step) : Prop :=
  Since (fun e => ¬ Withdraws e) (fun _ e => Unlocks e) past

theorem request_level1_iff (server : Server Data) (message : Bytes) (nowMs : UInt32) :
    (Uds.step application server (.request message nowMs maxResponseSize)).1.ctx.securityLevel = .level1 ↔
      AcceptsKey (poll server.ctx nowMs) message ∨
        (¬ (Expired server.ctx nowMs ∨ Relocks (poll server.ctx nowMs) message) ∧
          server.ctx.securityLevel = .level1) := by
  have level := (handleRequest_handled application server.ctx server.user message nowMs
    maxResponseSize).securityLevel_eq application_resets
  refine (Eq.congr_left level).trans ?_
  rw [securityAfter_level1_iff, poll_level1_iff, not_or, and_left_comm, and_assoc, and_left_comm]

section
variable {m : Model} {action : Action}

theorem step_delivered {message : Bytes} (ready : delivered m action = some message) :
    action ≠ .poll ∧ (step m action).1.uds =
      (Uds.step application m.uds (.request message (m.clock + 1) maxResponseSize)).1 := by
  cases action with
  | frame bytes =>
    refine ⟨Action.noConfusion, ?_⟩
    rw [delivered] at ready
    split at ready
    next event =>
      cases ready
      simp only [step, Model.feed, if_pos event]
    next => cases ready
  | pollTimeout | poll | moveClock => cases ready

theorem step_undelivered (silent : delivered m action = none) (notPoll : action ≠ .poll) :
    (step m action).1.uds = m.uds := by
  cases action with
  | frame bytes =>
    rw [delivered] at silent
    split at silent
    next => cases silent
    next event => simp only [step, Model.feed, if_neg event]
  | poll => exact absurd rfl notPoll
  | pollTimeout | moveClock => rfl

end

/-- The step lemma: the server is unlocked by a key, and stays so until that is withdrawn. -/
theorem step_level1_iff (m : Model) (action : Action) : (step m action).1.uds.ctx.securityLevel = .level1 ↔
    Unlocks (event step m action) ∨
      (¬ Withdraws (event step m action) ∧ m.uds.ctx.securityLevel = .level1) := by
  cases ready : delivered m action with
  | some message =>
    obtain ⟨notPoll, server⟩ := step_delivered ready
    rw [server, request_level1_iff]
    simp [Unlocks, Withdraws, event, ready, notPoll]
  | none =>
    by_cases isPoll : action = .poll
    · subst isPoll
      refine poll_level1_iff.trans ?_
      simp [Unlocks, Withdraws, event, delivered]
    · rw [step_undelivered ready isPoll]
      simp [Unlocks, Withdraws, event, ready, isPoll]

def NoCarryover (e : Step) : Prop :=
  transportEvent e.before e.action = .aborted → e.after.uds.ctx.securityLevel = Uds.init.securityLevel

/-- No key is in force when a transfer is aborted. -/
def AbortsLocked (past : List Step) (e : Step) : Prop :=
  AbortsTransfer e.before e.action → ¬ KeyInForce past

theorem bounded_step {m : Model} (bounded : Bounded m.rx) (action : Action) : Bounded (step m action).1.rx := by
  cases action with
  | frame bytes =>
    have received : (m.feed bytes).1.rx = (process m.rx bytes (m.clock + 1)).1 := by
      simp only [Model.feed]
      split <;> rfl
    exact received ▸ bounded.process bytes (m.clock + 1)
  | pollTimeout => exact bounded.pollTimeout m.clock
  | poll | moveClock => exact bounded

theorem bounded_run (buffer : Vector UInt8 maxPayloadSize) (actions : List Action) :
    Bounded (final step (.init buffer) actions).rx :=
  state_invariant step (fun m => Bounded m.rx) (.idle ⟨rfl, rfl, rfl⟩)
    (fun _ action bounded => bounded_step bounded action) actions

theorem keyInForce_step {past : List Step} {m : Model} (inForce : m.uds.ctx.securityLevel = .level1 ↔ KeyInForce past)
    (action : Action) :
    (step m action).1.uds.ctx.securityLevel = .level1 ↔ KeyInForce (past ++ [event step m action]) := by
  rw [step_level1_iff, inForce]
  exact (since_concat (fun e => ¬ Withdraws e) (fun _ e => Unlocks e) past (event step m action)).symm

theorem aborts_uds {m : Model} {action : Action} (aborted : transportEvent m action = .aborted) :
    (step m action).1.uds = m.uds := by
  cases action with
  | frame bytes =>
    have notReady : (process m.rx bytes (m.clock + 1)).2.event ≠ .messageReady := by
      intro ready
      exact RxEvent.noConfusion (ready.symm.trans aborted)
    simp only [step, Model.feed, if_neg notReady]
  | pollTimeout => rfl
  | poll | moveClock => exact RxEvent.noConfusion aborted

theorem noCarryover_iff (past : List Step) (m : Model) (action : Action) (bounded : Bounded m.rx)
    (inForce : m.uds.ctx.securityLevel = .level1 ↔ KeyInForce past) :
    NoCarryover (event step m action) ↔ AbortsLocked past (event step m action) := by
  constructor
  · intro dropped aborts key
    have aborted : transportEvent m action = .aborted := (transport_aborted_iff bounded action).mpr aborts
    have locked : m.uds.ctx.securityLevel = .locked := aborts_uds aborted ▸ dropped aborted
    exact SecurityLevel.noConfusion (locked.symm.trans (inForce.mpr key))
  · intro locked aborted
    replace aborted : transportEvent m action = .aborted := aborted
    have noKey : ¬ KeyInForce past := locked ((transport_aborted_iff bounded action).mp aborted)
    change (step m action).1.uds.ctx.securityLevel = .locked
    rw [aborts_uds aborted]
    by_contra unlocked
    exact noKey (inForce.mp (level1_of_unlocked unlocked))

/-- In a run no authority survives a transport abort, exactly when no key is in
force at any Consecutive Frame out of sequence or N_Cr timeout. -/
theorem no_authority_carryover_iff (buffer : Vector UInt8 maxPayloadSize) (actions : List Action) :
    AllEvents (fun _ e => NoCarryover e) (trace step (.init buffer) actions) ↔
      AllEvents AbortsLocked (trace step (.init buffer) actions) :=
  allEvents_iff step
    (fun past m => Bounded m.rx ∧ (m.uds.ctx.securityLevel = .level1 ↔ KeyInForce past))
    ⟨.idle ⟨rfl, rfl, rfl⟩, iff_of_false SecurityLevel.noConfusion (not_since_nil _ _)⟩
    (fun _ _ action reached _ => ⟨bounded_step reached.1 action, keyInForce_step reached.2 action⟩)
    (fun past m action reached => noCarryover_iff past m action reached.1 reached.2) actions

def unlocking : List Action :=
  [.frame [0x02, 0x10, 0x03], .frame [0x02, 0x27, 0x01], .frame [0x06, 0x27, 0x02, 0xE0, 0xAF, 0xB1, 0xB3]]

theorem frame_single {m : Model} {frame payload : Bytes} (decoded : Isotp.decodeSingleFrame frame = .ok payload) :
    (step m (.frame frame)).1.uds =
        (Uds.step application m.uds (.request payload (m.clock + 1) maxResponseSize)).1 ∧
      (step m (.frame frame)).1.clock = m.clock + 1 := by
  have ready : (process m.rx frame (m.clock + 1)).2 = .ready payload := Isotp.process_single decoded
  have fed := feed_ready ready
  exact ⟨congrArg (fun r => r.1.uds) fed, congrArg (fun r => r.1.clock) fed⟩

theorem unlocking_level1 (buffer : Vector UInt8 maxPayloadSize) :
    (final step (.init buffer) unlocking).uds.ctx.securityLevel = .level1 := by
  have server : (Model.init buffer).uds = .init .init := rfl
  have clock : (Model.init buffer).clock = 1000 := rfl
  simp only [unlocking, final]
  have session := @frame_single (.init buffer) [0x02, 0x10, 0x03] [0x10, 0x03] rfl
  generalize (step (.init buffer) (.frame [0x02, 0x10, 0x03])).1 = opened at session ⊢
  have seed := @frame_single opened [0x02, 0x27, 0x01] [0x27, 0x01] rfl
  generalize (step opened (.frame [0x02, 0x27, 0x01])).1 = asked at seed ⊢
  have key := @frame_single asked [0x06, 0x27, 0x02, 0xE0, 0xAF, 0xB1, 0xB3] [0x27, 0x02, 0xE0, 0xAF, 0xB1, 0xB3] rfl
  rw [key.1, seed.1, seed.2, session.1, session.2, server, clock]
  decide

def openingFrame : Bytes := [0x10, 0x14, 0x22, 0xF1, 0x90, 0xAA, 0xBB, 0xCC]

theorem opens_openingFrame : Isotp.Opens openingFrame 20 [0x22, 0xF1, 0x90, 0xAA, 0xBB, 0xCC] where
  type := by decide
  announced := ⟨2, by decide, rfl⟩
  long := by decide
  fits := by decide
  carries := by decide

def wrongFrame : Bytes := [0x2F, 1, 2, 3, 4, 5, 6, 7]

/-- An unlocked ECU stays unlocked through a transfer that is aborted. -/
theorem authority_carried_over : ¬ ∀ (buffer : Vector UInt8 maxPayloadSize) (actions : List Action),
    AllEvents (fun _ e => NoCarryover e) (trace step (.init buffer) actions) := by
  intro dropped
  let buffer : Vector UInt8 maxPayloadSize := Vector.replicate maxPayloadSize 0
  let actions : List Action := unlocking ++ [.frame openingFrame]
  have last := dropped buffer (actions ++ [.frame wrongFrame]) (trace step (.init buffer) actions)
    (event step (final step (.init buffer) actions) (.frame wrongFrame)) [] (trace_concat step _ actions _)
  -- The First Frame opens the transfer and gives the server nothing.
  have unlocked := unlocking_level1 buffer
  have bounded := bounded_run buffer actions
  simp only [actions, final_concat] at last bounded
  generalize final step (.init buffer) unlocking = m at unlocked last bounded
  have opened := @Isotp.process_opens m.rx openingFrame (m.clock + 1) _ _ opens_openingFrame
  have waiting : (step m (.frame openingFrame)).1.rx.state = .waitConsecutive ∧
      (step m (.frame openingFrame)).1.rx.nextSequenceNumber = 1 ∧
      (step m (.frame openingFrame)).1.uds = m.uds := by
    have silent : (process m.rx openingFrame (m.clock + 1)).2.event ≠ .messageReady := by
      rw [opened]
      exact RxEvent.noConfusion
    simp only [step, Model.feed, if_neg silent]
    rw [opened]
    exact ⟨rfl, rfl, trivial⟩
  obtain ⟨state, number, server⟩ := waiting
  have aborted := (transport_aborted_iff bounded (.frame wrongFrame)).mpr
    ⟨state, by decide, by rw [number]; decide⟩
  have locked : (step m (.frame openingFrame)).1.uds.ctx.securityLevel = .locked := aborts_uds aborted ▸ last aborted
  rw [server, unlocked] at locked
  cases locked

end DiagnosticGateway.Ecu
