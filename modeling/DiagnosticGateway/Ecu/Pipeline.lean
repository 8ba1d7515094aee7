import DiagnosticGateway.Ecu.Data
import DiagnosticGateway.Isotp.Receiver
import DiagnosticGateway.Uds.Answers
import DiagnosticGateway.Uds.Invariant

/-! The receiver and the server stacked as in the ECU (`ahdg_frames.c`), and its
golden probe: after any hostile history a legitimate client is still served.
-/

set_option autoImplicit false

namespace DiagnosticGateway.Ecu
open BigEndian Uds Traces
open Isotp (RxContext process pollTimeout encodeSingleFrame decodeSingleFrame canFrameSize maxPayloadSize)

/-- `ecu_model_t`, the ECU's own data being the user data of its server. -/
structure Model where
  rx : RxContext
  uds : Server Data
  clock : UInt32

def Model.init (buffer : Vector UInt8 maxPayloadSize) : Model where
  rx := .init buffer
  uds := .init .init
  clock := 1000

/-- Give a frame to the receiver one millisecond later, and the message it
completes, if any, to the server. -/
def Model.feed (m : Model) (frame : Bytes) : Model × Option Reply :=
  let clock := m.clock + 1
  let (rx, rxo) := process m.rx frame clock
  if rxo.event = .messageReady then
    let (uds, reply) := Uds.step application m.uds (.request rxo.message clock maxResponseSize)
    (⟨rx, uds, clock⟩, some reply)
  else (⟨rx, m.uds, clock⟩, none)

inductive Action where
  | frame (bytes : Bytes)
  | pollTimeout
  | poll
  | moveClock (nowMs : UInt32)
  deriving DecidableEq, Repr

def step (m : Model) : Action → Model × Option Reply
  | .frame bytes => m.feed bytes
  | .pollTimeout => ({ m with rx := (pollTimeout m.rx m.clock).1 }, none)
  | .poll => ({ m with uds := (Uds.step application m.uds (.poll m.clock)).1 }, none)
  | .moveClock nowMs => ({ m with clock := nowMs }, none)

def Model.send (m : Model) (payload : Bytes) : Model × Option Reply :=
  match encodeSingleFrame payload canFrameSize with
  | .ok frame => m.feed frame
  | .error _ => (m, none)

def answer (r : Model × Option Reply) : Option Bytes :=
  r.2.bind fun reply => if reply.result = .ok then some reply.response else none

theorem feed_ready {m : Model} {frame message : Bytes}
    (ready : (process m.rx frame (m.clock + 1)).2 = .ready message) :
    let outcome := handleRequest application m.uds.ctx m.uds.user message (m.clock + 1) maxResponseSize
    m.feed frame = (⟨(process m.rx frame (m.clock + 1)).1, ⟨outcome.ctx, outcome.user⟩, m.clock + 1⟩,
      some ⟨outcome.result, outcome.response, outcome.effects⟩) := by
  have event : (process m.rx frame (m.clock + 1)).2.event = .messageReady := by rw [ready]; rfl
  have content : (process m.rx frame (m.clock + 1)).2.message = message := by rw [ready]; rfl
  simp only [Model.feed, if_pos event, content]
  rfl

theorem send_reply (m : Model) (payload : Bytes) (nonempty : payload.length ≠ 0) (short : payload.length ≤ 7) :
    let outcome := handleRequest application m.uds.ctx m.uds.user payload (m.clock + 1) maxResponseSize
    (m.send payload).1.uds = ⟨outcome.ctx, outcome.user⟩ ∧ (m.send payload).1.clock = m.clock + 1 ∧
      answer (m.send payload) = if outcome.result = .ok then some outcome.response else none := by
  obtain ⟨frame, encoded⟩ := Isotp.encodeSingleFrame_ok nonempty short
  have ready := @Isotp.process_single m.rx frame (m.clock + 1) _ (Isotp.decodeSingleFrame_encodeSingleFrame encoded)
  have sent : m.send payload = m.feed frame := by rw [Model.send, encoded]
  rw [sent, feed_ready ready]
  exact ⟨rfl, rfl, rfl⟩

/-! ## The golden probe -/

def Model.afterAll (m : Model) : List Bytes → Model
  | [] => m
  | payload :: rest => Model.afterAll (m.send payload).1 rest

def keyRequest (seed : UInt32) : Bytes := [0x27, 0x02] ++ writeWord (demoKeyFromSeed seed)

/-- A legitimate client whose first frame comes at `t` reads the version and,
unless the server is locked out then, unlocks and resets. -/
structure Served (m : Model) (t : UInt32) : Prop where
  toDefault : answer (m.send [0x10, 0x01]) = some [0x50, 0x01, 0x00, 0x32, 0x01, 0xF4]
  toExtended : answer ((m.afterAll [[0x10, 0x01]]).send [0x10, 0x03]) = some [0x50, 0x03, 0x00, 0x32, 0x01, 0xF4]
  version : answer ((m.afterAll [[0x10, 0x01], [0x10, 0x03]]).send [0x22, 0xF1, 0x89]) =
    some [0x62, 0xF1, 0x89, 0x01, 0x04, 0x02]
  unlocks : (poll m.uds.ctx t).lockedOut = false → ∃ seed,
    let read := m.afterAll [[0x10, 0x01], [0x10, 0x03], [0x22, 0xF1, 0x89]]
    answer (read.send [0x27, 0x01]) = some (0x67 :: 0x01 :: writeWord seed) ∧
      answer ((read.afterAll [[0x27, 0x01]]).send (keyRequest seed)) = some [0x67, 0x02] ∧
      answer ((read.afterAll [[0x27, 0x01], keyRequest seed]).send [0x11, 0x01]) = some [0x51, 0x01]

theorem send_toDefault (m : Model) :
    let r := m.send [0x10, 0x01]
    r.1.uds.ctx = ((poll m.uds.ctx (m.clock + 1)).touch (m.clock + 1)).relock ∧ r.1.clock = m.clock + 1 ∧
      answer r = some [0x50, 0x01, 0x00, 0x32, 0x01, 0xF4] := by
  obtain ⟨server, clock, answered⟩ := send_reply m [0x10, 0x01] (by decide) (by decide)
  rw [handleRequest_toDefault application _ _ _ room] at server answered
  exact ⟨by rw [server]; rfl, clock, by rw [answered]; rfl⟩

theorem send_toExtended (m : Model) :
    let r := m.send [0x10, 0x03]
    r.1.uds.ctx = ((poll m.uds.ctx (m.clock + 1)).touch (m.clock + 1)).enterExtended ∧ r.1.clock = m.clock + 1 ∧
      answer r = some [0x50, 0x03, 0x00, 0x32, 0x01, 0xF4] := by
  obtain ⟨server, clock, answered⟩ := send_reply m [0x10, 0x03] (by decide) (by decide)
  rw [handleRequest_toExtended application _ _ _ room] at server answered
  exact ⟨by rw [server]; rfl, clock, by rw [answered]; rfl⟩

theorem send_version (m : Model) :
    let r := m.send [0x22, 0xF1, 0x89]
    r.1.uds.ctx = (poll m.uds.ctx (m.clock + 1)).touch (m.clock + 1) ∧ r.1.clock = m.clock + 1 ∧
      answer r = some [0x62, 0xF1, 0x89, 0x01, 0x04, 0x02] := by
  obtain ⟨server, clock, answered⟩ := send_reply m [0x22, 0xF1, 0x89] (by decide) (by decide)
  have installed : application.didRead = some readDid := rfl
  have read : readDid ((0xF1 : UInt8).toUInt16 <<< 8 ||| (0x89 : UInt8).toUInt16) (maxResponseSize - rdbiHeaderLen)
      m.uds.user = (.ok, softwareVersion, m.uds.user) := rfl
  rw [handleRequest_read application _ _ _ installed read (by decide) (by decide)] at server answered
  exact ⟨by rw [server]; rfl, clock, by rw [answered]; rfl⟩

section
variable {m : Model}

theorem send_seed (live : Live m.uds.ctx m.clock .locked) :
    let r := m.send [0x27, 0x01]
    ∃ seed, Live r.1.uds.ctx r.1.clock .locked ∧ r.1.uds.ctx.seedPending = true ∧ r.1.uds.ctx.currentSeed = seed ∧
      answer r = some (0x67 :: 0x01 :: writeWord seed) := by
  obtain ⟨server, clock, answered⟩ := send_reply m [0x27, 0x01] (by decide) (by decide)
  obtain ⟨alive, pending, current, ok, response⟩ :=
    live.seed application m.uds.user (next_soon m.clock) (by decide : IsSeedRequest [0x27, 0x01]) room
  dsimp only
  rw [answered, server, clock, ok, response]
  exact ⟨_, alive, pending, current, rfl⟩

theorem send_key {seed : UInt32} (live : Live m.uds.ctx m.clock .locked) (pending : m.uds.ctx.seedPending = true)
    (current : m.uds.ctx.currentSeed = seed) :
    let r := m.send (keyRequest seed)
    Live r.1.uds.ctx r.1.clock .level1 ∧ answer r = some [0x67, 0x02] := by
  obtain ⟨key, right⟩ : IsKey (keyRequest seed) ∧ keyOf (keyRequest seed) = demoKeyFromSeed seed :=
    key_of_writeWord (demoKeyFromSeed seed)
  obtain ⟨server, clock, answered⟩ := send_reply m (keyRequest seed) (by rw [key.1]; decide) (by rw [key.1]; decide)
  obtain ⟨alive, ok, response⟩ := live.key application m.uds.user (next_soon m.clock) key pending
    (by rw [right, current]) (by decide : 2 ≤ maxResponseSize)
  dsimp only
  rw [answered, server, clock, ok, response]
  exact ⟨alive, rfl⟩

theorem send_reset (live : Live m.uds.ctx m.clock .level1) : answer (m.send [0x11, 0x01]) = some [0x51, 0x01] := by
  obtain ⟨server, clock, answered⟩ := send_reply m [0x11, 0x01] (by decide) (by decide)
  obtain ⟨ok, response, _⟩ := live.reset application m.uds.user (next_soon m.clock)
    isReset_hard (rfl : application.ecuReset = some reset) rfl (by decide : 2 ≤ maxResponseSize)
  rw [answered, ok, response]
  rfl

theorem live_opened (free : (poll m.uds.ctx (m.clock + 1)).lockedOut = false) :
    let opened := m.afterAll [[0x10, 0x01], [0x10, 0x03]]
    Live opened.uds.ctx opened.clock .locked := by
  -- `10 01` leaves the default session, in which S3server does not run.
  obtain ⟨closed, clock, _⟩ := send_toDefault m
  obtain ⟨entered, later, _⟩ := send_toExtended (m.send [0x10, 0x01]).1
  simp only [Model.afterAll]
  generalize (m.send [0x10, 0x01]).1 = between at *
  have idle : poll between.uds.ctx (between.clock + 1) = between.uds.ctx := by
    rw [closed, clock]
    exact poll_idle free (next_soon (m.clock + 1))
  rw [entered, later, idle, closed]
  exact ⟨rfl, free, rfl, rfl⟩

theorem live_version {level : SecurityLevel} (live : Live m.uds.ctx m.clock level) :
    let read := (m.send [0x22, 0xF1, 0x89]).1
    Live read.uds.ctx read.clock level := by
  obtain ⟨ctx, clock, _⟩ := send_version m
  dsimp only
  rw [ctx, clock]
  exact live.touch (next_soon m.clock)

theorem served (m : Model) : Served m (m.clock + 1) := by
  refine ⟨(send_toDefault m).2.2, (send_toExtended _).2.2, (send_version _).2.2, fun free => ?_⟩
  obtain ⟨seed, asked, pending, current, seeded⟩ := send_seed (live_version (live_opened free))
  obtain ⟨unlocked, accepted⟩ := send_key asked pending current
  exact ⟨seed, seeded, accepted, send_reset unlocked⟩

end

/-- No history of frames, timeouts, polls and clock moves wedges the ECU: from
the state it reaches, a client whose first frame comes at `t` is served. -/
theorem never_wedged (buffer : Vector UInt8 maxPayloadSize) (actions : List Action) (t : UInt32) :
    Served (final step (.init buffer) (actions ++ [.moveClock (t - 1)])) t := by
  -- `feed` moves the clock on first, so it has to stand one millisecond before `t`.
  rw [final_concat]
  have moved := served (step (final step (.init buffer) actions) (.moveClock (t - 1))).1
  have now : (step (final step (.init buffer) actions) (.moveClock (t - 1))).1.clock + 1 = t :=
    UInt32.sub_add_cancel t 1
  rwa [now] at moved

end DiagnosticGateway.Ecu
