import DiagnosticGateway.Library.Traces
import DiagnosticGateway.Isotp.Receiver

/-! Every message the receiver delivers is a Single Frame or one whole transfer.

While a transfer is open, the buffer holds what its First Frame and the
Consecutive Frames behind it carried, up to the length announced. The invariant
names that First Frame by its place in the history.
-/

set_option autoImplicit false

namespace DiagnosticGateway.Isotp
open BigEndian Buffer Traces

inductive RxAction where
  | frame (bytes : Bytes) (nowMs : UInt32)
  | pollTimeout (nowMs : UInt32)
  deriving DecidableEq, Repr

def rxStep (ctx : RxContext) : RxAction → RxContext × RxResult
  | .frame bytes nowMs => process ctx bytes nowMs
  | .pollTimeout nowMs => pollTimeout ctx nowMs

abbrev RxStep := Event RxContext RxAction RxResult

/-! ## Transfers in a history -/

/-- A step that neither ends nor replaces a transfer. -/
structure Undisturbed (e : RxStep) : Prop where
  noDelivery : e.output.event ≠ .messageReady
  noAbort : e.output.event ≠ .aborted
  noSingle : ∀ bytes nowMs, e.action = .frame bytes nowMs → ∀ payload, decodeSingleFrame bytes ≠ .ok payload
  noOpening : ∀ bytes nowMs, e.action = .frame bytes nowMs → ∀ length payload, ¬ Opens bytes length payload
  noOverflow : ∀ bytes nowMs, e.action = .frame bytes nowMs → ¬ Overflows bytes

/-- The step at `index` is a First Frame announcing `length`, and the steps
`between` it and the end of the history leave its transfer alone. -/
def OpenedAt (past : List RxStep) (index length : Nat) (payload : Bytes) (between : List RxStep) : Prop :=
  ∃ before opening bytes nowMs, past = before ++ opening :: between ∧ before.length = index ∧
    opening.action = .frame bytes nowMs ∧ Opens bytes length payload ∧ ∀ e ∈ between, Undisturbed e

def consecutiveFrame (e : RxStep) : Option Bytes :=
  match e.action with
  | .frame bytes _ => if IsConsecutive bytes then some bytes else none
  | .pollTimeout _ => none

def consecutiveFrames (steps : List RxStep) : List Bytes := steps.filterMap consecutiveFrame

def Numbered (frames : List Bytes) : Prop :=
  frames.map sequenceNumber = (List.range' 1 frames.length).map fun k => UInt8.ofNat (k % 16)

def carried (payload : Bytes) (frames : List Bytes) : Bytes := payload ++ frames.flatMap (·.drop cfPciLen)

/-- A delivered message is the payload of the current Single Frame, or it was
opened by exactly one First Frame and carried by the Consecutive Frames since. -/
def Delivers (past : List RxStep) (current : RxStep) : Prop :=
  current.output.event = .messageReady →
    (∃ bytes nowMs, current.action = .frame bytes nowMs ∧ decodeSingleFrame bytes = .ok current.output.message) ∨
    ∃! index, ∃ payload between frame nowMs,
      OpenedAt past index current.output.message.length payload between ∧
      current.action = .frame frame nowMs ∧ IsConsecutive frame ∧
      Numbered (consecutiveFrames between ++ [frame]) ∧
      current.output.message =
        (carried payload (consecutiveFrames between ++ [frame])).take current.output.message.length

theorem OpenedAt.now {past : List RxStep} {e : RxStep} {bytes payload : Bytes} {nowMs : UInt32} {length : Nat}
    (action : e.action = .frame bytes nowMs) (opens : Opens bytes length payload) :
    OpenedAt (past ++ [e]) past.length length payload [] :=
  ⟨past, e, bytes, nowMs, rfl, rfl, action, opens, by simp⟩

theorem OpenedAt.extend {past between : List RxStep} {e : RxStep} {index length : Nat} {payload : Bytes}
    (opened : OpenedAt past index length payload between) (quiet : Undisturbed e) :
    OpenedAt (past ++ [e]) index length payload (between ++ [e]) := by
  obtain ⟨before, opening, bytes, nowMs, rfl, position, action, opens, undisturbed⟩ := opened
  refine ⟨before, opening, bytes, nowMs, by simp, position, action, opens, fun s member => ?_⟩
  rcases List.mem_append.mp member with earlier | last
  · exact undisturbed s earlier
  · exact List.mem_singleton.mp last ▸ quiet

theorem OpenedAt.unique {past between later : List RxStep} {index other length size : Nat} {payload data : Bytes}
    (opened : OpenedAt past index length payload between) (again : OpenedAt past other size data later) :
    index = other := by
  have earlier : ∀ {i j length size : Nat} {payload data : Bytes} {between later : List RxStep},
      OpenedAt past i length payload between → OpenedAt past j size data later → ¬ i < j := by
    rintro i j length size payload data between later ⟨before, opening, bytes, nowMs, same, rfl, -, -, undisturbed⟩
      ⟨front, second, frame, time, split, rfl, action, opens, -⟩ less
    -- A second opening behind the first would lie between it and the end.
    have place : past[front.length]? = some second := by rw [split]; simp
    rw [same, List.getElem?_append_right (Nat.le_of_lt less), List.getElem?_cons,
      if_neg (Nat.sub_ne_zero_of_lt less)] at place
    exact (undisturbed second (List.mem_of_getElem? place)).noOpening frame time action _ _ opens
  exact Nat.le_antisymm (Nat.not_lt.mp (earlier again opened)) (Nat.not_lt.mp (earlier opened again))

theorem consecutiveFrames_concat (steps : List RxStep) (e : RxStep) :
    consecutiveFrames (steps ++ [e]) = consecutiveFrames steps ++ (consecutiveFrame e).toList := by
  simp only [consecutiveFrames, List.filterMap_append]
  cases found : consecutiveFrame e <;> simp [found]

theorem numbered_concat {frames : List Bytes} {frame : Bytes} (numbered : Numbered frames)
    (next : sequenceNumber frame = UInt8.ofNat ((frames.length + 1) % 16)) : Numbered (frames ++ [frame]) := by
  simp only [Numbered, List.map_append, List.length_append, List.length_singleton, List.map_singleton,
    List.range'_concat] at *
  rw [numbered, next]
  simp [Nat.add_comm]

theorem carried_concat (payload : Bytes) (frames : List Bytes) (frame : Bytes) :
    carried payload (frames ++ [frame]) = carried payload frames ++ frame.drop cfPciLen := by
  simp [carried]

/-- The buffer of a waiting receiver, in terms of what its transfer has carried. -/
structure Holds (ctx : RxContext) (payload : Bytes) (frames : List Bytes) : Prop where
  numbered : Numbered frames
  next : ctx.nextSequenceNumber = UInt8.ofNat ((frames.length + 1) % 16)
  bounded : ctx.expectedLength ≤ maxPayloadSize
  received : ctx.receivedLength = min ctx.expectedLength (carried payload frames).length
  buffer : readPrefix ctx.buffer ctx.receivedLength = (carried payload frames).take ctx.expectedLength

def Assembling (past : List RxStep) (ctx : RxContext) : Prop :=
  ctx.state = .waitConsecutive → ∃ index payload between,
    OpenedAt past index ctx.expectedLength payload between ∧ Holds ctx payload (consecutiveFrames between)

section
variable {ctx : RxContext} {payload frame : Bytes} {frames : List Bytes}

theorem Holds.remaining (holds : Holds ctx payload frames) :
    ctx.remaining = ctx.expectedLength - (carried payload frames).length := by
  have bounded := holds.bounded
  have received := holds.received
  simp only [RxContext.remaining, maxPayloadSize] at *
  omega

theorem Holds.block (holds : Holds ctx payload frames) :
    (carried payload frames).take ctx.expectedLength ++ ctx.block frame =
      (carried payload (frames ++ [frame])).take ctx.expectedLength := by
  rw [carried_concat, List.take_append, RxContext.block, holds.remaining]

theorem Holds.received_block (holds : Holds ctx payload frames) :
    ctx.receivedLength + (ctx.block frame).length =
      min ctx.expectedLength (carried payload (frames ++ [frame])).length := by
  have both := congrArg List.length (@Holds.block _ _ frame _ holds)
  rwa [List.length_append, List.length_take, List.length_take, ← holds.received] at both

theorem Holds.written (holds : Holds ctx payload frames) :
    readPrefix (writeBlock ctx.buffer ctx.receivedLength (ctx.block frame))
        (ctx.receivedLength + (ctx.block frame).length) =
      (carried payload (frames ++ [frame])).take ctx.expectedLength := by
  have fits : ctx.receivedLength + (ctx.block frame).length ≤ maxPayloadSize := by
    rw [holds.received_block]
    exact Nat.le_trans (Nat.min_le_left _ _) holds.bounded
  rw [readPrefix_writeBlock _ _ _ fits, holds.buffer, holds.block]

theorem Holds.message (holds : Holds ctx payload frames) (frame : Bytes)
    (whole : ctx.expectedLength ≤ ctx.receivedLength + (ctx.block frame).length) :
    let message := readPrefix (writeBlock ctx.buffer ctx.receivedLength (ctx.block frame)) ctx.expectedLength
    message = (carried payload (frames ++ [frame])).take ctx.expectedLength ∧ message.length = ctx.expectedLength := by
  have received := @Holds.received_block _ _ frame _ holds
  have exactly : ctx.receivedLength + (ctx.block frame).length = ctx.expectedLength := by omega
  have written := @Holds.written _ _ frame _ holds
  rw [exactly] at written
  exact ⟨written, readPrefix_length _ holds.bounded⟩

theorem Holds.numbered_concat (holds : Holds ctx payload frames)
    (right : sequenceNumber frame = ctx.nextSequenceNumber) : Numbered (frames ++ [frame]) :=
  Isotp.numbered_concat holds.numbered (right.trans holds.next)

theorem Holds.extended (holds : Holds ctx payload frames) (right : sequenceNumber frame = ctx.nextSequenceNumber)
    (nowMs : UInt32) :
    Holds ((ctx.countFrame nowMs).store ctx.receivedLength (ctx.block frame)).nextFrame payload (frames ++ [frame]) where
  numbered := holds.numbered_concat right
  next := by
    rw [RxContext.nextFrame_nextSequenceNumber, RxContext.store_nextSequenceNumber,
      RxContext.countFrame_nextSequenceNumber, holds.next, nextNumber, List.length_append, List.length_singleton]
  bounded := by
    rw [extended_expectedLength]
    exact holds.bounded
  received := by
    rw [extended_expectedLength]
    exact holds.received_block
  buffer := by
    rw [extended_expectedLength]
    exact holds.written

theorem Opens.holds {length : Nat} (opens : Opens frame length payload) (nowMs : UInt32) :
    Holds (((ctx.countFrame nowMs).store 0 (payload.take length)).openTransfer length) payload [] where
  numbered := rfl
  next := rfl
  bounded := opens.fits
  received := by simp [carried]
  buffer := by
    have fits : 0 + (payload.take length).length ≤ maxPayloadSize := by
      rw [Nat.zero_add, List.length_take]
      exact Nat.le_trans (Nat.min_le_left _ _) opens.fits
    simpa [carried] using readPrefix_writeBlock ctx.buffer 0 (payload.take length) fits

end

section
variable {past : List RxStep} {ctx : RxContext}

theorem PassesOver.undisturbed {e : RxStep} {bytes : Bytes} {nowMs : UInt32} {state : RxState}
    (passes : PassesOver state bytes) (action : e.action = .frame bytes nowMs) (quiet : e.output.event = .none) :
    Undisturbed e where
  noDelivery := by rw [quiet]; decide
  noAbort := by rw [quiet]; decide
  noSingle := fun other time same => by
    cases action.symm.trans same
    exact passes.notSingle
  noOpening := fun other time same => by
    cases action.symm.trans same
    exact passes.notOpening
  noOverflow := fun other time same => by
    cases action.symm.trans same
    exact passes.notOverflow

theorem Assembling.keep {e : RxStep} {after : RxContext} (assembling : Assembling past ctx)
    (quiet : after.state = .waitConsecutive → Undisturbed e ∧ consecutiveFrame e = none)
    (state : after.state = ctx.state) (buffer : after.buffer = ctx.buffer)
    (expected : after.expectedLength = ctx.expectedLength) (received : after.receivedLength = ctx.receivedLength)
    (next : after.nextSequenceNumber = ctx.nextSequenceNumber) : Assembling (past ++ [e]) after := by
  intro waiting
  obtain ⟨index, payload, between, opened, holds⟩ := assembling (state ▸ waiting)
  obtain ⟨undisturbed, none⟩ := quiet waiting
  refine ⟨index, payload, between ++ [e], expected ▸ opened.extend undisturbed, ?_⟩
  rw [consecutiveFrames_concat, none, Option.toList_none, List.append_nil]
  exact ⟨holds.numbered, next ▸ holds.next, expected ▸ holds.bounded, by rw [received, expected, holds.received],
    by rw [buffer, received, expected, holds.buffer]⟩

theorem Assembling.idle (ctx : RxContext) (idle : ctx.state = .idle) : Assembling past ctx := by
  intro waiting
  rw [idle] at waiting
  cases waiting

theorem event_frame (bytes : Bytes) (nowMs : UInt32) : event rxStep ctx (.frame bytes nowMs) =
    ⟨ctx, .frame bytes nowMs, (process ctx bytes nowMs).2, (process ctx bytes nowMs).1⟩ :=
  rfl

theorem event_poll (nowMs : UInt32) : event rxStep ctx (.pollTimeout nowMs) =
    ⟨ctx, .pollTimeout nowMs, (pollTimeout ctx nowMs).2, (pollTimeout ctx nowMs).1⟩ :=
  rfl

theorem consecutiveFrame_frame (before after : RxContext) (bytes : Bytes) (nowMs : UInt32) (output : RxResult) :
    consecutiveFrame ⟨before, .frame bytes nowMs, output, after⟩ = if IsConsecutive bytes then some bytes else none :=
  rfl

theorem undisturbed_consecutive {before after : RxContext} {bytes : Bytes} {nowMs : UInt32}
    (consecutive : IsConsecutive bytes) : Undisturbed ⟨before, .frame bytes nowMs, .clear, after⟩ := by
  have passes : PassesOver .idle bytes := passesOver_of_type
    (fun single => absurd (single.symm.trans consecutive.1) (by decide))
    (fun first => absurd (first.symm.trans consecutive.1) (by decide)) (fun waiting => by cases waiting)
  exact passes.undisturbed rfl rfl

theorem undisturbed_poll {before after : RxContext} {nowMs : UInt32} :
    Undisturbed ⟨before, .pollTimeout nowMs, .clear, after⟩ where
  noDelivery := fun ready => by cases ready
  noAbort := fun aborted => by cases aborted
  noSingle := fun _ _ action => by cases action
  noOpening := fun _ _ action => by cases action
  noOverflow := fun _ _ action => by cases action

theorem assembling_frame (assembling : Assembling past ctx) (bytes : Bytes) (nowMs : UInt32) :
    Assembling (past ++ [event rxStep ctx (.frame bytes nowMs)]) (process ctx bytes nowMs).1 := by
  have processed := process_processed ctx bytes nowMs
  rw [event_frame]
  generalize process ctx bytes nowMs = outcome at processed ⊢
  cases processed with
  | empty nothing =>
    subst nothing
    refine assembling.keep (fun _ => ⟨?_, rfl⟩) rfl rfl rfl rfl rfl
    exact (passesOver_nil ctx.state).undisturbed rfl rfl
  | rejected reason failure passes =>
    refine assembling.keep (fun waiting => ⟨passes.undisturbed rfl rfl, ?_⟩) rfl rfl rfl rfl rfl
    rw [consecutiveFrame_frame, if_neg (passes.notAwaited waiting)]
  | single base payload decoded idle same => exact .idle _ idle
  | opened length payload opens =>
    -- The transfer starts here, whether or not another one was open.
    intro _
    exact ⟨past.length, payload, [], .now rfl opens, opens.holds nowMs⟩
  | overflowed overflows => exact .idle _ rfl
  | outOfSequence waiting consecutive wrong => exact .idle _ rfl
  | tooLong waiting consecutive excess => exact .idle _ rfl
  | extended waiting consecutive right fits short =>
    -- The transfer goes on with one more Consecutive Frame.
    intro _
    obtain ⟨index, payload, between, opened, holds⟩ := assembling waiting
    have goesOn := opened.extend (@undisturbed_consecutive ctx
      ((ctx.countFrame nowMs).store ctx.receivedLength (ctx.block bytes)).nextFrame bytes nowMs consecutive)
    rw [← extended_expectedLength ctx nowMs ctx.receivedLength (ctx.block bytes)] at goesOn
    refine ⟨index, payload, _, goesOn, ?_⟩
    rw [consecutiveFrames_concat, consecutiveFrame_frame, if_pos consecutive]
    exact holds.extended right nowMs
  | completed waiting consecutive right fits whole => exact .idle _ rfl

theorem assembling_poll (assembling : Assembling past ctx) (nowMs : UInt32) :
    Assembling (past ++ [event rxStep ctx (.pollTimeout nowMs)]) (pollTimeout ctx nowMs).1 := by
  rw [event_poll]
  rcases pollTimeout_cases ctx nowMs with same | ⟨_, _, same⟩ <;> rw [same]
  · exact assembling.keep (fun _ => ⟨undisturbed_poll, rfl⟩) rfl rfl rfl rfl rfl
  · exact .idle _ rfl

theorem delivers_frame (assembling : Assembling past ctx) (bytes : Bytes) (nowMs : UInt32) :
    Delivers past (event rxStep ctx (.frame bytes nowMs)) := by
  have processed := process_processed ctx bytes nowMs
  rw [event_frame]
  generalize process ctx bytes nowMs = outcome at processed ⊢
  intro ready
  cases processed with
  | single base payload decoded idle same => exact .inl ⟨bytes, nowMs, rfl, decoded⟩
  | completed waiting consecutive right fits whole =>
    obtain ⟨index, payload, between, opened, holds⟩ := assembling waiting
    obtain ⟨message, length⟩ := holds.message bytes whole
    -- No other index opens a transfer that lasts until here.
    refine .inr ⟨index, ⟨payload, between, bytes, nowMs, ?_, rfl, consecutive, holds.numbered_concat right, ?_⟩, ?_⟩
    · simpa only [RxResult.ready, length] using opened
    · simp only [RxResult.ready]
      rw [length]
      exact message
    · rintro other ⟨data, later, frame, time, again, _⟩
      exact again.unique opened
  | _ => cases ready

theorem delivers_poll (nowMs : UInt32) : Delivers past (event rxStep ctx (.pollTimeout nowMs)) := by
  rw [event_poll]
  intro ready
  rcases pollTimeout_cases ctx nowMs with same | ⟨_, _, same⟩ <;> rw [same] at ready <;> cases ready

end

/-- Reassembly is exact on every run, whatever the frames, the clock and the
bytes the buffer starts with. -/
theorem reassembly_exact (buffer : Vector UInt8 maxPayloadSize) (actions : List RxAction) :
    AllEvents Delivers (trace rxStep (.init buffer) actions) := by
  refine every_event rxStep actions fun done action => ?_
  have reached : Assembling (trace rxStep (.init buffer) done) (final rxStep (.init buffer) done) := by
    refine run_induction rxStep Assembling (.idle _ rfl) (fun past ctx action assembling => ?_) done
    cases action with
    | frame bytes nowMs => exact assembling_frame assembling bytes nowMs
    | pollTimeout nowMs => exact assembling_poll assembling nowMs
  cases action with
  | frame bytes nowMs => exact delivers_frame reached bytes nowMs
  | pollTimeout nowMs => exact delivers_poll nowMs

end DiagnosticGateway.Isotp
