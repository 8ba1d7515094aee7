import DiagnosticGateway.Fuzz.Frames

/-! What the alphabet of the frame adversaries never reaches.

Its keys are five bytes long, so the server never compares one: it stays locked, counts
no wrong key, is never locked out and never reset. Both of its First Frames begin a
read, so no reassembled message changes that.
-/

set_option autoImplicit false

namespace DiagnosticGateway.Fuzz
open BigEndian Uds Buffer
open Ecu (Model Data)
open Isotp (RxContext RxResult process pollTimeout maxPayloadSize decodeSingleFrame Opens Overflows IsConsecutive)

/-- A message that is no key, and clears all faults if it clears any. -/
structure Harmless (message : Bytes) : Prop where
  noKey : ¬ IsKey message
  clearsAll : IsClear message → groupOf message = Ecu.dtcGroupAll

theorem harmless_read {message : Bytes} (read : byteAt message 0 = sidReadDataByIdentifier) : Harmless message where
  noKey := fun key => absurd (read.symm.trans key.2.1) (by decide)
  clearsAll := fun clear => absurd (read.symm.trans clear.2) (by decide)

/-- What the frames of the alphabet have in common. -/
structure Tame (frame : Bytes) : Prop where
  single : ∀ payload, decodeSingleFrame frame = .ok payload → payload.length ≤ 6 ∧ Harmless payload
  opens : ∀ length payload, Opens frame length payload →
    (length = 20 ∨ length = 12) ∧ payload.length = 6 ∧ byteAt payload 0 = sidReadDataByIdentifier
  fits : ¬ Overflows frame
  consecutive : IsConsecutive frame → frame.length = 8

/-- How far a reassembly can have come. -/
inductive Phase (ctx : RxContext) : Prop where
  | empty (idle : ctx.state = .idle) (number : ctx.nextSequenceNumber = 0) (expected : ctx.expectedLength = 0)
      (received : ctx.receivedLength = 0)
  | served (idle : ctx.state = .idle) (number : ctx.nextSequenceNumber = 0)
      (expected : 0 < ctx.expectedLength) (received : 0 < ctx.receivedLength ∧ ctx.receivedLength ≤ 6)
  | opened (waiting : ctx.state = .waitConsecutive) (number : ctx.nextSequenceNumber = 1)
      (expected : ctx.expectedLength = 20 ∨ ctx.expectedLength = 12) (received : ctx.receivedLength = 6)
      (first : byteAt (readPrefix ctx.buffer 6) 0 = sidReadDataByIdentifier)
  | extended (waiting : ctx.state = .waitConsecutive) (number : ctx.nextSequenceNumber = 2)
      (expected : ctx.expectedLength = 20) (received : ctx.receivedLength = 13)
      (first : byteAt (readPrefix ctx.buffer 13) 0 = sidReadDataByIdentifier)

theorem phase_init (buffer : Vector UInt8 maxPayloadSize) : Phase (.init buffer) := .empty rfl rfl rfl rfl

section
variable {ctx : RxContext} {frame : Bytes} {nowMs : UInt32}

theorem Phase.congr {other : RxContext} (phase : Phase ctx) (state : other.state = ctx.state)
    (buffer : other.buffer = ctx.buffer) (length : other.expectedLength = ctx.expectedLength)
    (count : other.receivedLength = ctx.receivedLength) (next : other.nextSequenceNumber = ctx.nextSequenceNumber) :
    Phase other := by
  cases phase with
  | empty idle number expected received =>
    exact .empty (state.trans idle) (next.trans number) (length.trans expected) (count.trans received)
  | served idle number expected received =>
    exact .served (state.trans idle) (next.trans number) (by rwa [length]) (by rwa [count])
  | opened waiting number expected received first =>
    exact .opened (state.trans waiting) (next.trans number) (by rwa [length]) (count.trans received) (by rwa [buffer])
  | extended waiting number expected received first =>
    exact .extended (state.trans waiting) (next.trans number) (length.trans expected) (count.trans received) (by rwa [buffer])

theorem Phase.countFrame (phase : Phase ctx) : Phase (ctx.countFrame nowMs) := phase.congr rfl rfl rfl rfl rfl

theorem Phase.countRejected (phase : Phase ctx) : Phase ctx.countRejected := phase.congr rfl rfl rfl rfl rfl

theorem phase_goIdle (ctx : RxContext) : Phase ctx.goIdle := .empty rfl rfl rfl rfl

theorem Phase.idle_number (phase : Phase ctx) (idle : ctx.state = .idle) : ctx.nextSequenceNumber = 0 := by
  cases phase with
  | empty _ number | served _ number => exact number
  | opened waiting | extended waiting => exact absurd (idle.symm.trans waiting) (by decide)

theorem first_append {bytes rest : Bytes} (nonempty : 0 < bytes.length) :
    byteAt (bytes ++ rest) 0 = byteAt bytes 0 := by
  cases bytes with
  | nil => exact absurd nonempty (Nat.lt_irrefl _)
  | cons => rfl

theorem first_take {bytes : Bytes} {count : Nat} (nonempty : 0 < count) : byteAt (bytes.take count) 0 = byteAt bytes 0 := by
  cases count with
  | zero => exact absurd nonempty (Nat.lt_irrefl _)
  | succ count =>
    cases bytes with
    | nil => rfl
    | cons => rfl

theorem first_readPrefix (buffer : Vector UInt8 maxPayloadSize) {count size : Nat} (nonempty : 0 < count)
    (longer : 0 < size) : byteAt (readPrefix buffer count) 0 = byteAt (readPrefix buffer size) 0 := by
  rw [readPrefix, readPrefix, first_take nonempty, first_take longer]

theorem first_writeBlock (buffer : Vector UInt8 maxPayloadSize) {offset : Nat} (block : Bytes) (behind : 0 < offset)
    (fits : offset + block.length ≤ maxPayloadSize) (count : Nat) (nonempty : 0 < count) :
    byteAt (readPrefix (writeBlock buffer offset block) count) 0 = byteAt (readPrefix buffer offset) 0 := by
  rw [first_readPrefix _ nonempty (by omega : 0 < offset + block.length), readPrefix_writeBlock _ _ _ fits, first_append]
  rw [readPrefix_length _ (by omega)]
  exact behind

theorem block_length (consecutive : frame.length = 8) (ordered : ctx.receivedLength ≤ ctx.expectedLength)
    (small : ctx.expectedLength ≤ 20) :
    (ctx.block frame).length = min (ctx.expectedLength - ctx.receivedLength) 7 := by
  have header : Isotp.cfPciLen = 1 := rfl
  rw [RxContext.block, List.length_take, List.length_drop, consecutive, RxContext.remaining]
  omega

theorem Phase.process (phase : Phase ctx) (tame : Tame frame) (nowMs : UInt32) :
    Phase (process ctx frame nowMs).1 ∧
      ((process ctx frame nowMs).2.event = .messageReady → Harmless (process ctx frame nowMs).2.message) := by
  have processed := Isotp.process_processed ctx frame nowMs
  generalize Isotp.process ctx frame nowMs = outcome at processed ⊢
  have quiet : Isotp.RxEvent.none ≠ .messageReady := by decide
  have control : Isotp.RxEvent.sendFlowControl ≠ .messageReady := by decide
  have aborted : Isotp.RxEvent.aborted ≠ .messageReady := by decide
  have limit : maxPayloadSize = 4095 := rfl
  cases processed with
  | empty => exact ⟨phase.countRejected, fun ready => absurd ready quiet⟩
  | rejected => exact ⟨phase.countFrame.countRejected, fun ready => absurd ready quiet⟩
  | single base payload decoded idle same =>
    obtain ⟨short, harmless⟩ := tame.single payload decoded
    have nonempty := (Isotp.decodeSingleFrame_ok decoded).2.1
    have number : base.nextSequenceNumber = 0 := by
      rcases same with rfl | rfl
      · exact phase.countFrame.idle_number idle
      · rfl
    exact ⟨.served idle number nonempty ⟨by simpa using nonempty, by simpa using short⟩, fun _ => harmless⟩
  | opened length payload opens =>
    obtain ⟨announced, six, first⟩ := tame.opens length payload opens
    have whole : payload.take length = payload := List.take_of_length_le (by omega)
    refine ⟨.opened rfl rfl announced ?_ ?_, fun ready => absurd ready control⟩
    · rw [whole]
      simp [six]
    · have written := readPrefix_writeBlock (ctx.countFrame nowMs).buffer 0 payload (by rw [six]; decide)
      rw [six, Nat.zero_add, readPrefix_zero, List.nil_append] at written
      rw [whole]
      exact (congrArg (byteAt · 0) written).trans first
  | overflowed overflows => exact absurd overflows tame.fits
  | outOfSequence | tooLong => exact ⟨phase_goIdle _, fun ready => absurd ready aborted⟩
  | extended waiting consecutive right fits short =>
    refine ⟨?_, fun ready => absurd ready quiet⟩
    cases phase with
    | empty idle | served idle => exact absurd (idle.symm.trans waiting) (by decide)
    | opened _ number expected received first =>
      have length := @block_length ctx frame (tame.consecutive consecutive) (by omega) (by omega)
      -- Twelve bytes would be complete with this frame.
      have twenty : ctx.expectedLength = 20 := by omega
      rw [twenty, received] at length
      have behind := first_writeBlock ctx.buffer (ctx.block frame) (by omega : 0 < ctx.receivedLength) fits
      refine .extended ?_ ?_ ?_ ?_ ?_
      · rw [Isotp.extended_state, waiting]
      · rw [RxContext.nextFrame_nextSequenceNumber, RxContext.store_nextSequenceNumber,
          RxContext.countFrame_nextSequenceNumber, number]
        decide
      · rw [Isotp.extended_expectedLength, twenty]
      · rw [RxContext.nextFrame_receivedLength, RxContext.store_receivedLength, received, length]
        decide
      · rw [RxContext.nextFrame_buffer, RxContext.store_buffer, RxContext.countFrame_buffer, behind 13 (by decide),
          received, first]
    | extended _ number expected received first =>
      have length := @block_length ctx frame (tame.consecutive consecutive) (by omega) (by omega)
      omega
  | completed waiting consecutive right fits whole =>
    refine ⟨phase_goIdle _, fun _ => harmless_read ?_⟩
    have behind := fun (offset : Nat) => @first_writeBlock ctx.buffer offset (ctx.block frame)
    cases phase with
    | empty idle | served idle => exact absurd (idle.symm.trans waiting) (by decide)
    | opened _ number expected received first =>
      exact (behind _ (by omega) fits ctx.expectedLength (by omega)).trans (by rw [received, first])
    | extended _ number expected received first =>
      exact (behind _ (by omega) fits ctx.expectedLength (by omega)).trans (by rw [received, first])

theorem Phase.pollTimeout (phase : Phase ctx) (nowMs : UInt32) : Phase (pollTimeout ctx nowMs).1 := by
  rcases Isotp.pollTimeout_cases ctx nowMs with same | ⟨-, -, same⟩
  · rwa [same]
  · rw [same]
    exact phase_goIdle _

end

def cleared : Data := (Ecu.clearDtc Ecu.dtcGroupAll .init).2

def Untouched (data : Data) : Prop := data = .init ∨ data = cleared

theorem Untouched.resetCount {data : Data} (untouched : Untouched data) : data.resetCount = 0 := by
  rcases untouched with rfl | rfl <;> rfl

theorem Untouched.active {data : Data} (untouched : Untouched data) :
    data.dtc.countP (fun dtc => dtc.active) = 2 ∨ data.dtc.countP (fun dtc => dtc.active) = 0 := by
  rcases untouched with rfl | rfl
  · exact .inl rfl
  · exact .inr rfl

/-- A server no key was ever compared by. -/
structure Confined (server : Server Data) : Prop where
  reached : Reached server.ctx
  locked : server.ctx.securityLevel = .locked
  attempts : server.ctx.failedAttempts = 0
  data : Untouched server.user

theorem confined_init : Confined (.init .init) := ⟨reached_init, rfl, rfl, .inl rfl⟩

theorem onlyReads : OnlyReads Ecu.application where
  didRead := fun read did room user installed => by
    cases installed
    rfl
  dtcRead := fun read mask room user installed => by
    cases installed
    unfold Ecu.readDtc
    split <;> rfl

theorem Untouched.run {data : Data} (untouched : Untouched data) {effects : List Effect}
    (noReset : ∀ resetType result, .ecuReset resetType result ∉ effects)
    (clearsAll : ∀ group result, .dtcClear group result ∈ effects → group = Ecu.dtcGroupAll) :
    Untouched (runEffects Ecu.application data effects) := by
  induction effects generalizing data with
  | nil => exact untouched
  | cons effect rest ih =>
    have next : Untouched (effect.run Ecu.application data) := by
      cases effect with
      | dtcClear group result =>
        rw [clearsAll group result (List.mem_cons_self ..)]
        rcases untouched with rfl | rfl
        · exact .inr rfl
        · exact .inr rfl
      | ecuReset resetType result => exact absurd (List.mem_cons_self ..) (noReset resetType result)
      | didRead | dtcRead | seedDrawn | keyCompared => exact untouched
    exact ih next (fun resetType result member => noReset resetType result (List.mem_cons_of_mem _ member))
      (fun group result member => clearsAll group result (List.mem_cons_of_mem _ member))

section
variable {server : Server Data} (confined : Confined server)
include confined

theorem Confined.free : server.ctx.lockedOut = false := by
  cases out : server.ctx.lockedOut with
  | false => rfl
  | true =>
    have limit := confined.reached.valid.lockout.mp out
    rw [confined.attempts] at limit
    exact absurd limit (by decide)

theorem Confined.polled (nowMs : UInt32) :
    (poll server.ctx nowMs).securityLevel = .locked ∧ (poll server.ctx nowMs).failedAttempts = 0 := by
  refine ⟨?_, ?_⟩
  · by_contra unlocked
    have before := unlocked_of_poll (level1_of_unlocked unlocked)
    rw [confined.locked] at before
    cases before
  · rcases poll_attempts server.ctx nowMs with ⟨same, -⟩ | ⟨out, -⟩
    · rw [same, confined.attempts]
    · exact Bool.noConfusion (confined.free.symm.trans out)

theorem Confined.poll (nowMs : UInt32) : Confined ⟨Uds.poll server.ctx nowMs, server.user⟩ :=
  ⟨confined.reached.poll nowMs, (confined.polled nowMs).1, (confined.polled nowMs).2, confined.data⟩

theorem Confined.request {message : Bytes} (harmless : Harmless message) (nowMs : UInt32) (capacity : Nat) :
    let outcome := handleRequest Ecu.application server.ctx server.user message nowMs capacity
    Confined ⟨outcome.ctx, outcome.user⟩ := by
  obtain ⟨locked, attempts⟩ := confined.polled nowMs
  have reached := reached_request Ecu.application confined.reached server.user message nowMs capacity
  have handled := handleRequest_handled Ecu.application server.ctx server.user message nowMs capacity
  have ends := handleRequest_ends Ecu.application server.ctx server.user message nowMs capacity
  have accounted := @handleRequest_accounted _ Ecu.application server.ctx server.user message nowMs capacity onlyReads
  dsimp only
  generalize handleRequest Ecu.application server.ctx server.user message nowMs capacity = outcome at *
  have authority : outcome.ctx.securityLevel = .locked ∧ outcome.ctx.failedAttempts = 0 := by
    cases handled with
    | toDefault | reset => exact ⟨rfl, attempts⟩
    | keyWrong key | keyExceeded key | keyAccepted key => exact absurd key harmless.noKey
    | _ => exact ⟨locked, attempts⟩
  refine ⟨reached, authority.1, authority.2, ?_⟩
  rw [accounted]
  refine confined.data.run (fun resetType result called => ?_) (fun group result cleared => ?_)
  · have unlocked := (handled.reset_cases called).2
    rw [locked] at unlocked
    cases unlocked
  · obtain ⟨clear, rfl⟩ := ends.clear_cases cleared
    exact harmless.clearsAll clear

end

/-! ## The frames -/

section
variable {frame : Bytes}

theorem tame_single {payload : Bytes} (decoded : decodeSingleFrame frame = .ok payload) (short : payload.length ≤ 6)
    (harmless : Harmless payload) : Tame frame where
  single := fun other again => by
    cases decoded.symm.trans again
    exact ⟨short, harmless⟩
  opens := fun _ _ opens => absurd ((Isotp.decodeSingleFrame_ok decoded).1.symm.trans opens.type) (by decide)
  fits := fun overflows => absurd ((Isotp.decodeSingleFrame_ok decoded).1.symm.trans overflows.1) (by decide)
  consecutive := fun awaited => absurd ((Isotp.decodeSingleFrame_ok decoded).1.symm.trans awaited.1) (by decide)

theorem tame_first {length : Nat} (type : Isotp.frameType frame = .first)
    (announced : Isotp.announcedLength frame = some (length, 2)) (known : length = 20 ∨ length = 12)
    (six : (frame.drop 2).length = 6) (read : byteAt (frame.drop 2) 0 = sidReadDataByIdentifier) : Tame frame where
  single := fun _ decoded => absurd (type.symm.trans (Isotp.decodeSingleFrame_ok decoded).1) (by decide)
  opens := fun size payload opens => by
    obtain ⟨headerLen, same, rfl⟩ := opens.announced
    cases announced.symm.trans same
    exact ⟨known, six, read⟩
  fits := fun overflows => by
    obtain ⟨-, size, headerLen, same, large⟩ := overflows
    cases announced.symm.trans same
    have limit : maxPayloadSize = 4095 := rfl
    omega
  consecutive := fun awaited => absurd (type.symm.trans awaited.1) (by decide)

theorem tame_consecutive (type : Isotp.frameType frame = .consecutive) (full : frame.length = 8) : Tame frame where
  single := fun _ decoded => absurd (type.symm.trans (Isotp.decodeSingleFrame_ok decoded).1) (by decide)
  opens := fun _ _ opens => absurd (type.symm.trans opens.type) (by decide)
  fits := fun overflows => absurd (type.symm.trans overflows.1) (by decide)
  consecutive := fun _ => full

theorem tame_ignored (type : Isotp.frameType frame = .flowControl ∨ Isotp.frameType frame = .reserved) :
    Tame frame := by
  have other : ∀ known, known ≠ .flowControl → known ≠ .reserved → Isotp.frameType frame ≠ known := by
    rintro known control reserved rfl
    exact type.elim control reserved
  exact {
    single := fun _ decoded =>
      absurd (Isotp.decodeSingleFrame_ok decoded).1 (other .single (by decide) (by decide))
    opens := fun _ _ opens => absurd opens.type (other .first (by decide) (by decide))
    fits := fun overflows => absurd overflows.1 (other .first (by decide) (by decide))
    consecutive := fun awaited => absurd awaited.1 (other .consecutive (by decide) (by decide)) }

end

theorem garbageFrame_reserved (first second : UInt32) : Isotp.frameType (garbageFrame first second) = .reserved := by
  have all : ∀ low < 12, Isotp.frameType [((UInt32.ofNat low + 4) <<< 4).toUInt8] = .reserved := by decide
  have small : (first % 12).toNat < 12 := by
    rw [UInt32.toNat_mod]
    exact Nat.mod_lt _ (by decide)
  have header := all _ small
  rw [UInt32.ofNat_toNat] at header
  have longer : ∀ low < 8, 0 < ((UInt32.ofNat low).toUInt8 + 1).toNat := by decide
  have below : (second % 8).toNat < 8 := by
    rw [UInt32.toNat_mod]
    exact Nat.mod_lt _ (by decide)
  have nonempty := longer _ below
  rw [UInt32.ofNat_toNat] at nonempty
  rw [garbageFrame, Isotp.frameType, first_take nonempty]
  exact header

theorem keyFrame_decoded (a b c d : UInt8) :
    decodeSingleFrame [0x05, 0x27, 0x02, a, b, c, d, 0] = .ok [0x27, 0x02, a, b, c] := by
  have type : Isotp.frameType [0x05, 0x27, 0x02, a, b, c, d, 0] = .single := by rw [Isotp.frameType, byteAt_zero]; decide
  have low : Isotp.pciLow [0x05, 0x27, 0x02, a, b, c, d, 0] = 5 := by rw [Isotp.pciLow, byteAt_zero]; decide
  simp only [decodeSingleFrame, type, low]
  rfl

theorem tame_key (a b c d : UInt8) : Tame [0x05, 0x27, 0x02, a, b, c, d, 0] :=
  tame_single (keyFrame_decoded a b c d) (Nat.le_succ 5)
    ⟨fun key => Nat.succ_ne_self 5 key.1.symm, fun clear => absurd clear.1 (Nat.succ_ne_self 4)⟩

theorem Act.tame (m : Model) (rng : UInt32) (a : Act) {frame : Bytes} (sends : (a.move m rng).1 = .frame frame) :
    Tame frame := by
  cases a with
  | ncr | tick | s3 | lockout => cases sends
  | keyOk | keyBad =>
    cases sends
    exact tame_key _ _ _ _
  | ff =>
    cases sends
    exact @tame_first _ 20 (by decide) (by decide) (.inl rfl) (by decide) (by decide)
  | interleave =>
    cases sends
    exact @tame_first _ 12 (by decide) (by decide) (.inr rfl) (by decide) (by decide)
  | cfOk =>
    cases sends
    exact tame_consecutive (Isotp.frameType_header .consecutive _ _) rfl
  | cfBad =>
    cases sends
    exact tame_consecutive (by decide) rfl
  | fc =>
    cases sends
    exact tame_ignored (.inl (by decide))
  | garbage =>
    cases sends
    exact tame_ignored (.inr (garbageFrame_reserved _ _))
  | sessExt | sessDef | seed | reset | read | present | clear =>
    cases sends
    exact tame_single rfl (by decide) ⟨by decide, by decide⟩

structure Tethered (m : Model) : Prop where
  sane : Sane m
  phase : Phase m.rx
  server : Confined m.uds

theorem tethered_init (buffer : Vector UInt8 maxPayloadSize) : Tethered (.init buffer) :=
  ⟨sane_init buffer, phase_init buffer, confined_init⟩

section
variable {m : Model} (tethered : Tethered m)
include tethered

theorem Tethered.feed {frame : Bytes} (tame : Tame frame) : Tethered (feed m frame).1 := by
  refine ⟨feed_sane tethered.sane frame, ?_, ?_⟩
  · rw [feed_model tethered.sane]
    unfold Model.feed
    dsimp only
    split <;> exact (tethered.phase.process tame _).1
  · rw [feed_model tethered.sane]
    unfold Model.feed
    dsimp only
    split
    · rename_i ready
      exact tethered.server.request ((tethered.phase.process tame _).2 ready) _ _
    · exact tethered.server

theorem Tethered.act (a : Act) (rng : UInt32) : Tethered (applyAct m a rng).1.1 := by
  rw [applyAct]
  have sane := perform_sane tethered.sane (a.move m rng).1
  cases move : (a.move m rng).1 with
  | frame bytes => exact tethered.feed (a.tame m rng move)
  | transportTimeout ms =>
    rw [move] at sane
    exact ⟨sane, tethered.phase.pollTimeout _, tethered.server⟩
  | serverPoll ms =>
    rw [move] at sane
    exact ⟨sane, tethered.phase, tethered.server.poll _⟩

end

def runActs (m : Model) (rng : UInt32) : List Act → Model × UInt32
  | [] => (m, rng)
  | a :: rest => runActs (applyAct m a rng).1.1 (applyAct m a rng).2 rest

theorem Tethered.run {m : Model} (tethered : Tethered m) (rng : UInt32) (acts : List Act) :
    Tethered (runActs m rng acts).1 := by
  induction acts generalizing m rng with
  | nil => exact tethered
  | cons a rest ih => exact ih (tethered.act a rng) _

/-- Whatever the sequence of actions and the garbage drawn for it: the server stays
locked, has no wrong key counted, is not locked out, and the ECU was never reset. -/
theorem frames_never_unlock (buffer : Vector UInt8 maxPayloadSize) (rng : UInt32) (acts : List Act) :
    let m := (runActs (.init buffer) rng acts).1
    m.uds.ctx.securityLevel = .locked ∧ m.uds.ctx.failedAttempts = 0 ∧ m.uds.ctx.lockedOut = false ∧
      m.uds.user.resetCount = 0 := by
  have confined := ((tethered_init buffer).run rng acts).server
  exact ⟨confined.locked, confined.attempts, confined.free, confined.data.resetCount⟩

end DiagnosticGateway.Fuzz
