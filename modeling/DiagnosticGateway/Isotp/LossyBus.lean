import DiagnosticGateway.Library.LossyQueue
import DiagnosticGateway.Isotp.Exchange

/-! An emitter and a receiver on a bus that loses and repeats frames, in both
directions and at any moment, but does not reorder them.

A message that is delivered is the one being sent. Frames that went missing
leave the receiver fewer bytes than its First Frame announced, and the four bits
of the sequence number cannot make up for them. What this rests on is that a
message is started on a silent bus: a Flow Control still on its way would
authorise the next message and mix the two.
-/

set_option autoImplicit false

namespace DiagnosticGateway.Isotp
open BigEndian Buffer Traces LossyQueue

/-- Both ends and the frames on their way, oldest first. -/
structure Bus where
  tx : TxContext
  rx : RxContext
  toReceiver : List Bytes
  toEmitter : List Bytes
  deriving DecidableEq, Repr

inductive BusAction where
  | start (payload : Bytes) (nowMs : UInt32)
  | pollEmitter (nowMs : UInt32)
  | pollReceiver (nowMs : UInt32)
  | receive (nowMs : UInt32)
  | flowControl (nowMs : UInt32)
  | loseFrame (index : Nat)
  | loseFlowControl (index : Nat)
  | repeatFrame (index : Nat)
  | repeatFlowControl (index : Nat)
  deriving DecidableEq, Repr

namespace Bus

def init (sent received : Vector UInt8 maxPayloadSize) : Bus := ⟨.init sent, .init received, [], []⟩

def emit (bus : Bus) (tx : TxContext) (out : TxResult) : Bus :=
  { bus with tx, toReceiver := if out.event = .sendFrame then bus.toReceiver ++ [out.frame] else bus.toReceiver }

def answer (bus : Bus) (rx : RxContext) (out : RxResult) : Bus :=
  { bus with rx, toEmitter := if out.event = .sendFlowControl then bus.toEmitter ++ [out.fcFrame] else bus.toEmitter }

def delivered (out : RxResult) : Option Bytes := if out.event = .messageReady then some out.message else none

def step (bus : Bus) : BusAction → Bus × Option Bytes
  | .start payload nowMs =>
    let (tx, _, out) := txStart bus.tx payload nowMs
    (bus.emit tx out, none)
  | .pollEmitter nowMs =>
    let (tx, out) := txPoll bus.tx nowMs
    (bus.emit tx out, none)
  | .pollReceiver nowMs =>
    let (rx, out) := pollTimeout bus.rx nowMs
    (bus.answer rx out, delivered out)
  | .receive nowMs =>
    match bus.toReceiver with
    | [] => (bus, none)
    | frame :: rest =>
      let (rx, out) := process bus.rx frame nowMs
      ({ bus with toReceiver := rest }.answer rx out, delivered out)
  | .flowControl nowMs =>
    match bus.toEmitter with
    | [] => (bus, none)
    | frame :: rest =>
      let (tx, out) := txOnFlowControl bus.tx frame nowMs
      ({ bus with toEmitter := rest }.emit tx out, none)
  | .loseFrame index => ({ bus with toReceiver := bus.toReceiver.eraseIdx index }, none)
  | .loseFlowControl index => ({ bus with toEmitter := bus.toEmitter.eraseIdx index }, none)
  | .repeatFrame index => ({ bus with toReceiver := repeatAt bus.toReceiver index }, none)
  | .repeatFlowControl index => ({ bus with toEmitter := repeatAt bus.toEmitter index }, none)

end Bus

abbrev BusStep := Event Bus BusAction (Option Bytes)

def started (e : BusStep) : Option Bytes :=
  match e.action with
  | .start payload nowMs => if (txStart e.before.tx payload nowMs).2.1 = .ok then some payload else none
  | _ => none

def current (past : List BusStep) : Option Bytes := (past.filterMap started).getLast?

/-- A message is started with nothing on its way. -/
def StartsSilent (e : BusStep) : Prop :=
  (started e).isSome = true → e.before.toReceiver = [] ∧ e.before.toEmitter = []

theorem startsSilent_of_none {e : BusStep} (none : started e = none) : StartsSilent e := by
  intro begun
  rw [none] at begun
  cases begun

def frameAt (payload : Bytes) : Nat → Bytes
  | 0 => canonicalFirst payload
  | index + 1 => canonicalConsecutive payload index

structure Taking (rx : RxContext) (payload : Bytes) (taken : List Nat) : Prop where
  expected : rx.expectedLength = payload.length
  holds : Holds rx (payload.take 6) (taken.map (canonicalConsecutive payload))
  increasing : taken.Pairwise (· < ·)

/-- The First Frame has been answered. The frames on their way are in order, and
those the receiver has taken lie behind them. -/
structure Answered (payload : Bytes) (tx : TxContext) (rx : RxContext) (onTheWay : List Bytes)
    (indices taken : List Nat) (produced : Nat) : Prop where
  frames : onTheWay = indices.map (frameAt payload)
  ordered : indices.Pairwise (· ≤ ·)
  sent : ∀ index ∈ indices, index ≤ produced
  within : produced ≤ consecutiveCount payload
  emits : tx.state = .idle ∨ Emitting tx payload produced
  takes : rx.state = .waitConsecutive → Taking rx payload taken
  behind : ∀ number ∈ taken, number < produced ∧ ∀ index ∈ indices, number + 1 ≤ index

/-- How many deliveries can still follow: one for each First Frame on its way, and
one if the receiver has opened the transfer. -/
def openings (indices : List Nat) (state : RxState) : Nat :=
  indices.countP (· == 0) + if state = .waitConsecutive then 1 else 0

/-- Where the message being sent stands. It is delivered at most `quota` times more. -/
inductive Tracks (payload : Bytes) (quota : Nat) (bus : Bus) : Prop where
  | single (nonempty : payload.length ≠ 0) (short : payload.length ≤ 7) (resting : bus.tx.state = .idle)
      (frames : ∀ frame ∈ bus.toReceiver, frame = canonicalSingle payload) (few : bus.toReceiver.length ≤ quota)
  /-- The receiver has not seen the First Frame, so no Flow Control is on its way. -/
  | unanswered (long : 7 < payload.length) (fits : payload.length ≤ maxPayloadSize)
      (frames : ∀ frame ∈ bus.toReceiver, frame = canonicalFirst payload) (silent : bus.toEmitter = [])
      (emits : bus.tx.state = .idle ∨ bus.tx.state = .waitFlowControl ∧ Emitting bus.tx payload 0)
      (few : bus.toReceiver.length ≤ quota)
  | answered (long : 7 < payload.length) (fits : payload.length ≤ maxPayloadSize) {indices taken : List Nat}
      {produced : Nat} (answered : Answered payload bus.tx bus.rx bus.toReceiver indices taken produced)
      (few : openings indices bus.rx.state ≤ quota)

theorem successor_ne (count : Nat) : UInt8.ofNat (count % 16) ≠ UInt8.ofNat ((count + 1) % 16) := by
  have all : ∀ low < 16, UInt8.ofNat low ≠ UInt8.ofNat ((low + 1) % 16) := by decide
  rw [← Nat.mod_add_mod]
  exact all _ (Nat.mod_lt _ (by decide))

theorem Numbered.last {frames : List Bytes} {frame : Bytes} (numbered : Numbered (frames ++ [frame])) :
    sequenceNumber frame = UInt8.ofNat ((frames.length + 1) % 16) := by
  simp only [Numbered, List.map_append, List.length_append, List.length_singleton, List.map_singleton,
    List.range'_concat] at numbered
  have last := (List.append_inj' numbered rfl).2
  simpa [Nat.add_comm] using last

section
variable {payload : Bytes} {taken : List Nat}

theorem carried_length (long : 7 < payload.length) (numbers : List Nat) :
    (carried (payload.take 6) (numbers.map (canonicalConsecutive payload))).length = 6 + 7 * numbers.length := by
  have first : (payload.take 6).length = 6 := by
    rw [List.length_take]
    omega
  induction numbers using List.reverseRecOn with
  | nil => simp [carried, first]
  | append_singleton numbers number ih =>
    rw [List.map_append, List.map_singleton, carried_concat, List.length_append, ih, List.length_drop,
      canonicalConsecutive_length, List.length_append, List.length_singleton]
    simp only [cfPciLen]
    omega

theorem carried_whole (long : 7 < payload.length) :
    (carried (payload.take 6) ((List.range (consecutiveCount payload)).map (canonicalConsecutive payload))).take
      payload.length = payload := by
  have positive : 0 < consecutiveCount payload := lt_consecutiveCount.mpr (by omega)
  have last : consecutiveCount payload - 1 < consecutiveCount payload := Nat.sub_lt positive Nat.one_pos
  have all := carried_take last
  have beyond := @lt_consecutiveCount payload (consecutiveCount payload)
  rw [Nat.sub_add_cancel positive] at all
  rw [all, List.take_of_length_le (by omega)]

variable {rx : RxContext} {number : Nat}

/-- A frame that is taken has a number above all the others: one that comes again
has the sequence number before the awaited one. -/
theorem Taking.increasing_concat (taking : Taking rx payload taken) (behind : ∀ earlier ∈ taken, earlier ≤ number)
    (right : sequenceNumber (canonicalConsecutive payload number) = rx.nextSequenceNumber) :
    (taken ++ [number]).Pairwise (· < ·) := by
  have above : ∀ earlier ∈ taken, earlier < number := by
    rcases List.eq_nil_or_concat taken with rfl | ⟨init, last, rfl⟩
    · simp
    · rw [List.concat_eq_append] at *
      have numbered := taking.holds.numbered
      rw [List.map_append, List.map_singleton] at numbered
      have next := taking.holds.next
      rw [← right, List.length_map, List.length_append, List.length_singleton] at next
      have repeated : last ≠ number := by
        rintro rfl
        have previous := numbered.last
        rw [next, List.length_map] at previous
        exact successor_ne _ previous.symm
      have less : last < number := Nat.lt_of_le_of_ne (behind last (by simp)) repeated
      obtain ⟨_, _, lower⟩ := List.pairwise_append.mp taking.increasing
      intro earlier member
      rcases List.mem_append.mp member with before | now
      · exact Nat.lt_trans (lower earlier before last (by simp)) less
      · rwa [List.mem_singleton.mp now]
  exact List.pairwise_append.mpr ⟨taking.increasing, List.pairwise_singleton _ _,
    fun earlier member other now => List.mem_singleton.mp now ▸ above earlier member⟩

inductive TakenOne (rx : RxContext) (payload : Bytes) (taken : List Nat) (number : Nat) : RxContext × RxResult → Prop where
  | refused {after : RxContext} {out : RxResult} (idle : after.state = .idle) (quiet : Bus.delivered out = none)
      (silent : out.event ≠ .sendFlowControl) : TakenOne rx payload taken number (after, out)
  | extended {after : RxContext} (waited : rx.state = .waitConsecutive)
      (taking : Taking after payload (taken ++ [number])) : TakenOne rx payload taken number (after, .clear)
  | completed {after : RxContext} (waited : rx.state = .waitConsecutive) (idle : after.state = .idle) :
      TakenOne rx payload taken number (after, .ready payload)

theorem process_takenOne (long : 7 < payload.length) (takes : rx.state = .waitConsecutive → Taking rx payload taken)
    (behind : ∀ earlier ∈ taken, earlier ≤ number) (within : number < consecutiveCount payload) (nowMs : UInt32) :
    TakenOne rx payload taken number (process rx (canonicalConsecutive payload number) nowMs) := by
  have consecutive := @canonicalConsecutive_isConsecutive payload number
  have processed := process_processed rx (canonicalConsecutive payload number) nowMs
  generalize process rx (canonicalConsecutive payload number) nowMs = outcome at processed ⊢
  cases processed with
  | empty nothing => simp [canonicalConsecutive] at nothing
  | rejected reason failure passes =>
    have resting : rx.state = .idle := by
      cases state : rx.state with
      | idle => rfl
      | waitConsecutive => exact absurd consecutive (passes.notAwaited state)
    exact .refused resting rfl RxEvent.noConfusion
  | single base data decoded => exact absurd (consecutive.1.symm.trans (decodeSingleFrame_ok decoded).1) (by decide)
  | opened size data opens => exact absurd (consecutive.1.symm.trans opens.type) (by decide)
  | overflowed overflows => exact absurd (consecutive.1.symm.trans overflows.1) (by decide)
  | outOfSequence | tooLong => exact .refused rfl rfl RxEvent.noConfusion
  | extended waiting _ right fits shorter =>
    have taking := takes waiting
    refine .extended waiting ⟨?_, ?_, taking.increasing_concat behind right⟩
    · exact (extended_expectedLength rx nowMs _ _).trans taking.expected
    · rw [List.map_append, List.map_singleton]
      exact taking.holds.extended right nowMs
  | completed waiting _ right fits whole =>
    have taking := takes waiting
    -- Enough bytes have come, so no Consecutive Frame is missing.
    have enough := @Holds.received_block _ _ (canonicalConsecutive payload number) _ taking.holds
    have bytes := carried_length long (taken ++ [number])
    rw [List.map_append, List.map_singleton] at bytes
    rw [bytes, taking.expected] at enough
    have many : consecutiveCount payload ≤ (taken ++ [number]).length := by
      have beyond := @lt_consecutiveCount payload (taken ++ [number]).length
      rw [taking.expected] at whole
      omega
    have below : ∀ n ∈ taken ++ [number], n < consecutiveCount payload := by
      intro n member
      rcases List.mem_append.mp member with earlier | now
      · exact Nat.lt_of_le_of_lt (behind n earlier) within
      · rwa [List.mem_singleton.mp now]
    have all := increasing_eq_range (taking.increasing_concat behind right) below many
    have message := (taking.holds.message (canonicalConsecutive payload number) whole).1
    rw [← List.map_singleton, ← List.map_append, all, taking.expected, carried_whole long] at message
    rw [taking.expected, message]
    exact .completed waiting rfl

end

/-! ## What one step does to the transfer -/

section
variable {payload : Bytes} {quota : Nat} {bus : Bus} {tx : TxContext} {rx : RxContext} {onTheWay : List Bytes}
  {indices taken : List Nat} {produced : Nat}

theorem Answered.rest (answered : Answered payload tx rx onTheWay indices taken produced) {after : RxContext}
    (idle : after.state = .idle) : Answered payload tx after onTheWay indices [] produced where
  frames := answered.frames
  ordered := answered.ordered
  sent := answered.sent
  within := answered.within
  emits := answered.emits
  takes := fun waiting => by
    rw [idle] at waiting
    cases waiting
  behind := by simp

theorem Answered.append (answered : Answered payload tx rx onTheWay indices taken produced) {after : TxContext}
    (next : produced < consecutiveCount payload) (emits : after.state = .idle ∨ Emitting after payload (produced + 1)) :
    Answered payload after rx (onTheWay ++ [canonicalConsecutive payload produced]) (indices ++ [produced + 1]) taken
      (produced + 1) where
  frames := by rw [answered.frames, List.map_append]; rfl
  ordered := List.pairwise_append.mpr ⟨answered.ordered, List.pairwise_singleton _ _, fun index member other now =>
    List.mem_singleton.mp now ▸ Nat.le_succ_of_le (answered.sent index member)⟩
  sent := fun index member => by
    rcases List.mem_append.mp member with earlier | now
    · exact Nat.le_succ_of_le (answered.sent index earlier)
    · exact Nat.le_of_eq (List.mem_singleton.mp now)
  within := next
  emits := emits
  takes := answered.takes
  behind := fun number member => by
    obtain ⟨below, before⟩ := answered.behind number member
    refine ⟨Nat.lt_succ_of_lt below, fun index among => ?_⟩
    rcases List.mem_append.mp among with earlier | now
    · exact before index earlier
    · rw [List.mem_singleton.mp now]
      exact Nat.succ_le_succ (Nat.le_of_lt below)

theorem Answered.thin (answered : Answered payload tx rx onTheWay indices taken produced) {others : List Nat}
    (fewer : ∀ index ∈ others, index ∈ indices) (ordered : others.Pairwise (· ≤ ·)) :
    Answered payload tx rx (others.map (frameAt payload)) others taken produced where
  frames := rfl
  ordered := ordered
  sent := fun index member => answered.sent index (fewer index member)
  within := answered.within
  emits := answered.emits
  takes := answered.takes
  behind := fun number member =>
    ⟨(answered.behind number member).1, fun index among => (answered.behind number member).2 index (fewer index among)⟩

theorem Answered.emit (answered : Answered payload bus.tx bus.rx bus.toReceiver indices taken produced)
    {out : TxResult} (next : (tx.state = .idle ∧ out.event ≠ .sendFrame) ∨ Advanced payload produced (tx, out)) :
    ∃ others later, Answered payload (bus.emit tx out).tx (bus.emit tx out).rx (bus.emit tx out).toReceiver others taken
      later ∧ openings others bus.rx.state = openings indices bus.rx.state := by
  have silent : ∀ {out : TxResult}, (tx.state = .idle ∨ Emitting tx payload produced) → out.event ≠ .sendFrame →
      Answered payload (bus.emit tx out).tx (bus.emit tx out).rx (bus.emit tx out).toReceiver indices taken produced := by
    intro out emits quiet
    simp only [Bus.emit, if_neg quiet]
    exact ⟨answered.frames, answered.ordered, answered.sent, answered.within, emits, answered.takes, answered.behind⟩
  have later : openings (indices ++ [produced + 1]) bus.rx.state = openings indices bus.rx.state := by
    simp [openings, List.countP_append]
  rcases next with ⟨idle, quiet⟩ | advanced
  · exact ⟨indices, produced, silent (.inl idle) quiet, rfl⟩
  · cases advanced with
    | held emitting quiet => exact ⟨indices, produced, silent (.inr emitting) quiet, rfl⟩
    | sent emitting =>
      exact ⟨_, _, answered.append (Nat.lt_of_succ_lt emitting.within) (.inr emitting), later⟩
    | finished idle last =>
      exact ⟨_, _, answered.append (by omega) (.inl idle), later⟩
    | aborted idle reason => exact ⟨indices, produced, silent (.inl idle) TxEvent.noConfusion, rfl⟩

/-! One lemma for each kind of step, none of them a start. -/

theorem Tracks.pollEmitter (tracks : Tracks payload quota bus) (nowMs : UInt32) :
    Tracks payload quota (Bus.step bus (.pollEmitter nowMs)).1 := by
  simp only [Bus.step]
  cases tracks with
  | single nonempty short resting frames few =>
    rw [txPoll_idle resting]
    exact .single nonempty short resting frames few
  | unanswered long fits frames silent emits few =>
    rcases emits with idle | ⟨waiting, emitting⟩
    · rw [txPoll_idle idle]
      exact .unanswered long fits frames silent (.inl idle) few
    · rw [txPoll_waiting waiting]
      split
      · exact .unanswered long fits frames silent (.inl rfl) few
      · exact .unanswered long fits frames silent (.inr ⟨waiting, emitting⟩) few
  | @answered long fits indices taken produced answered few =>
    have next : ((txPoll bus.tx nowMs).1.state = .idle ∧ (txPoll bus.tx nowMs).2.event ≠ .sendFrame) ∨
        Advanced payload produced (txPoll bus.tx nowMs) := by
      rcases answered.emits with idle | emitting
      · rw [txPoll_idle idle]
        exact .inl ⟨idle, TxEvent.noConfusion⟩
      · exact .inr (txPoll_advanced emitting nowMs)
    obtain ⟨others, later, goesOn, same⟩ := answered.emit next
    exact .answered long fits goesOn (same ▸ few)

theorem Tracks.flowControl (tracks : Tracks payload quota bus) (nowMs : UInt32) :
    Tracks payload quota (Bus.step bus (.flowControl nowMs)).1 ∧ (Bus.step bus (.flowControl nowMs)).2 = none := by
  simp only [Bus.step]
  cases onTheWay : bus.toEmitter with
  | nil => exact ⟨tracks, rfl⟩
  | cons frame rest =>
    refine ⟨?_, rfl⟩
    cases tracks with
    | single nonempty short resting frames few =>
      have ignores : bus.tx.state ≠ .waitFlowControl := by
        rw [resting]
        decide
      simp only [txOnFlowControl_ignored ignores]
      exact .single nonempty short resting frames few
    | unanswered long fits frames silent emits few =>
      rw [silent] at onTheWay
      cases onTheWay
    | @answered long fits indices taken produced answered few =>
      have next : ((txOnFlowControl bus.tx frame nowMs).1.state = .idle ∧
          (txOnFlowControl bus.tx frame nowMs).2.event ≠ .sendFrame) ∨
            Advanced payload produced (txOnFlowControl bus.tx frame nowMs) := by
        rcases answered.emits with idle | emitting
        · have ignores : bus.tx.state ≠ .waitFlowControl := by
            rw [idle]
            decide
          rw [txOnFlowControl_ignored ignores]
          exact .inl ⟨idle, TxEvent.noConfusion⟩
        · exact .inr (txOnFlowControl_advanced emitting frame nowMs)
      obtain ⟨others, later, goesOn, same⟩ := @Answered.emit payload { bus with toEmitter := rest } _ _ _ _ answered _ next
      exact .answered long fits goesOn (same ▸ few)

theorem Tracks.pollReceiver (tracks : Tracks payload quota bus) (nowMs : UInt32) :
    Tracks payload quota (Bus.step bus (.pollReceiver nowMs)).1 ∧ (Bus.step bus (.pollReceiver nowMs)).2 = none := by
  simp only [Bus.step]
  rcases pollTimeout_cases bus.rx nowMs with same | ⟨waiting, _, same⟩
  · rw [same]
    exact ⟨tracks, rfl⟩
  · rw [same]
    refine ⟨?_, rfl⟩
    cases tracks with
    | single nonempty short resting frames few => exact .single nonempty short resting frames few
    | unanswered long fits frames silent emits few => exact .unanswered long fits frames silent emits few
    | answered long fits answered few =>
      refine .answered long fits (answered.rest rfl) (Nat.le_trans ?_ few)
      simp [openings, Bus.answer, abortTransfer]

def DeliversOnce (payload : Bytes) (quota : Nat) (outcome : Bus × Option Bytes) : Prop :=
  (outcome.2 = none ∧ Tracks payload quota outcome.1) ∨
    (outcome.2 = some payload ∧ ∃ less, quota = less + 1 ∧ Tracks payload less outcome.1)

theorem Taking.opened (long : 7 < payload.length) (fits : payload.length ≤ maxPayloadSize) (rx : RxContext)
    (nowMs : UInt32) : Taking (process rx (canonicalFirst payload) nowMs).1 payload [] := by
  obtain ⟨-, holding⟩ := @process_first payload rx long fits nowMs
  exact ⟨holding.expected, holding.holds, List.Pairwise.nil⟩

theorem openings_opened (long : 7 < payload.length) (fits : payload.length ≤ maxPayloadSize) (rx : RxContext)
    (nowMs : UInt32) :
    openings indices (process rx (canonicalFirst payload) nowMs).1.state = indices.countP (· == 0) + 1 ∧
      Bus.delivered (process rx (canonicalFirst payload) nowMs).2 = none := by
  rw [process_opens (canonicalFirst_opens long fits)]
  exact ⟨rfl, rfl⟩

theorem Tracks.receive_unanswered {rest : List Bytes} (long : 7 < payload.length)
    (fits : payload.length ≤ maxPayloadSize) (others : ∀ frame ∈ rest, frame = canonicalFirst payload)
    (emits : bus.tx.state = .idle ∨ Emitting bus.tx payload 0) (few : rest.length + 1 ≤ quota) (nowMs : UInt32) :
    let outcome := process bus.rx (canonicalFirst payload) nowMs
    Tracks payload quota ({ bus with toReceiver := rest }.answer outcome.1 outcome.2) ∧
      Bus.delivered outcome.2 = none := by
  obtain ⟨same, quiet⟩ := @openings_opened payload (List.replicate rest.length 0) long fits bus.rx nowMs
  have frames : rest = (List.replicate rest.length 0).map (frameAt payload) := by
    rw [List.map_replicate]
    exact List.eq_replicate_of_mem others
  have answered : Answered payload bus.tx (process bus.rx (canonicalFirst payload) nowMs).1 rest
      (List.replicate rest.length 0) [] 0 := by
    refine ⟨frames, List.pairwise_replicate.mpr (.inr (Nat.le_refl 0)), fun index member => ?_, Nat.zero_le _, emits,
      fun _ => .opened long fits bus.rx nowMs, by simp⟩
    exact Nat.le_of_eq (List.eq_of_mem_replicate member)
  refine ⟨.answered long fits answered ?_, quiet⟩
  simp only [Bus.answer, same, List.countP_replicate, beq_self_eq_true, if_true]
  exact few

theorem Tracks.receive_answered {index : Nat} {more : List Nat} (long : 7 < payload.length)
    (fits : payload.length ≤ maxPayloadSize)
    (answered : Answered payload bus.tx bus.rx bus.toReceiver (index :: more) taken produced)
    (few : openings (index :: more) bus.rx.state ≤ quota) (nowMs : UInt32) :
    let outcome := process bus.rx (frameAt payload index) nowMs
    DeliversOnce payload quota
      ({ bus with toReceiver := more.map (frameAt payload) }.answer outcome.1 outcome.2, Bus.delivered outcome.2) := by
  obtain ⟨first, ordered⟩ := List.pairwise_cons.mp answered.ordered
  have rest := answered.thin (fun number member => List.mem_cons_of_mem index member) ordered
  cases index with
  | zero =>
    -- The First Frame came twice, and the transfer starts again.
    obtain ⟨same, quiet⟩ := @openings_opened payload more long fits bus.rx nowMs
    have reopened : Answered payload bus.tx (process bus.rx (canonicalFirst payload) nowMs).1
        (more.map (frameAt payload)) more [] produced :=
      ⟨rest.frames, rest.ordered, rest.sent, rest.within, rest.emits, fun _ => .opened long fits bus.rx nowMs, by simp⟩
    refine .inl ⟨quiet, .answered long fits reopened ?_⟩
    simp only [Bus.answer, frameAt, same]
    simp only [openings, List.countP_cons, beq_self_eq_true, if_true] at few
    omega
  | succ number =>
    have within : number < consecutiveCount payload :=
      Nat.lt_of_lt_of_le (answered.sent _ List.mem_cons_self) answered.within
    have behind : ∀ earlier ∈ taken, earlier ≤ number := fun earlier member =>
      Nat.le_of_succ_le_succ ((answered.behind earlier member).2 _ List.mem_cons_self)
    have received := process_takenOne long answered.takes behind within nowMs
    simp only [openings, List.countP_cons, Nat.succ_ne_zero, beq_iff_eq, if_false, Nat.add_zero] at few
    rw [frameAt]
    generalize process bus.rx (canonicalConsecutive payload number) nowMs = outcome at received ⊢
    cases received with
    | refused idle quiet silent =>
      refine .inl ⟨quiet, .answered long fits (rest.rest idle) ?_⟩
      simp only [Bus.answer, openings, idle, reduceCtorEq, if_false]
      omega
    | @extended after waited taking =>
      have extended : Answered payload bus.tx after (more.map (frameAt payload)) more (taken ++ [number]) produced := by
        refine ⟨rest.frames, rest.ordered, rest.sent, rest.within, rest.emits, fun _ => taking, fun earlier member => ?_⟩
        rcases List.mem_append.mp member with before | now
        · exact rest.behind earlier before
        · rw [List.mem_singleton.mp now]
          exact ⟨answered.sent _ List.mem_cons_self, first⟩
      refine .inl ⟨rfl, .answered long fits extended ?_⟩
      rw [if_pos waited] at few
      simp only [Bus.answer, openings]
      split <;> omega
    | completed waited idle =>
      rw [if_pos waited] at few
      obtain ⟨less, rfl⟩ := Nat.exists_eq_add_of_le' (Nat.le_trans (Nat.le_add_left 1 _) few)
      refine .inr ⟨rfl, less, rfl, .answered long fits (rest.rest idle) ?_⟩
      simp only [Bus.answer, openings, idle, reduceCtorEq, if_false]
      omega

theorem Tracks.receive (tracks : Tracks payload quota bus) (nowMs : UInt32) :
    DeliversOnce payload quota (Bus.step bus (.receive nowMs)) := by
  simp only [Bus.step]
  cases onTheWay : bus.toReceiver with
  | nil => exact .inl ⟨rfl, tracks⟩
  | cons frame rest =>
    dsimp only
    cases tracks with
    | single nonempty short resting frames few =>
      rw [onTheWay] at frames few
      obtain ⟨rfl, others⟩ := List.forall_mem_cons.mp frames
      obtain ⟨less, rfl⟩ := Nat.exists_eq_add_of_le' (Nat.le_trans (Nat.succ_le_succ (Nat.zero_le _)) few)
      have ready := @process_single bus.rx _ nowMs _ (decodeSingleFrame_canonical nonempty short)
      rw [ready]
      exact .inr ⟨rfl, less, rfl, .single nonempty short resting others (Nat.le_of_succ_le_succ few)⟩
    | unanswered long fits frames silent emits few =>
      rw [onTheWay] at frames few
      obtain ⟨rfl, others⟩ := List.forall_mem_cons.mp frames
      obtain ⟨goesOn, quiet⟩ := Tracks.receive_unanswered long fits others (emits.imp_right And.right) few nowMs
      exact .inl ⟨quiet, goesOn⟩
    | @answered long fits indices taken produced answered few =>
      have frames := answered.frames
      cases indices with
      | nil =>
        rw [onTheWay] at frames
        cases frames
      | cons index more =>
        have goesOn := Tracks.receive_answered long fits answered few nowMs
        rw [onTheWay, List.map_cons] at frames
        obtain ⟨rfl, rfl⟩ := List.cons.inj frames
        exact goesOn

theorem Tracks.thin (tracks : Tracks payload quota bus) {others : List Bytes} {more : Nat}
    (fewer : ∀ frame ∈ others, frame ∈ bus.toReceiver) (length : others.length ≤ bus.toReceiver.length + more)
    (numbers : ∀ indices : List Nat, bus.toReceiver = indices.map (frameAt payload) → indices.Pairwise (· ≤ ·) →
      ∃ rest : List Nat, others = rest.map (frameAt payload) ∧ (∀ index ∈ rest, index ∈ indices) ∧
        rest.Pairwise (· ≤ ·) ∧ rest.countP (· == 0) ≤ indices.countP (· == 0) + more) :
    Tracks payload (quota + more) { bus with toReceiver := others } := by
  cases tracks with
  | single nonempty short resting frames few =>
    exact .single nonempty short resting (fun frame member => frames frame (fewer frame member))
      (Nat.le_trans length (Nat.add_le_add_right few more))
  | unanswered long fits frames silent emits few =>
    exact .unanswered long fits (fun frame member => frames frame (fewer frame member)) silent emits
      (Nat.le_trans length (Nat.add_le_add_right few more))
  | answered long fits answered few =>
    obtain ⟨rest, rfl, among, ordered, count⟩ := numbers _ answered.frames answered.ordered
    refine .answered long fits (answered.thin among ordered) ?_
    simp only [openings] at few ⊢
    omega

theorem Tracks.loseFrame (tracks : Tracks payload quota bus) (index : Nat) :
    Tracks payload quota (Bus.step bus (.loseFrame index)).1 := by
  have sublist := List.eraseIdx_sublist bus.toReceiver index
  refine @Tracks.thin _ _ _ tracks _ 0 (fun frame member => sublist.subset member) sublist.length_le
    fun indices frames ordered => ?_
  have kept := List.eraseIdx_sublist indices index
  exact ⟨indices.eraseIdx index, by rw [frames, List.eraseIdx_map], fun number member => kept.subset member,
    ordered.sublist kept, kept.countP_le⟩

theorem Tracks.repeatFrame (tracks : Tracks payload quota bus) (index : Nat) :
    Tracks payload (quota + 1) (Bus.step bus (.repeatFrame index)).1 := by
  have longer := countP_repeatAt (fun _ => true) bus.toReceiver index
  simp only [List.countP_true] at longer
  refine tracks.thin (fun frame member => (mem_repeatAt _ _).mp member) longer fun indices frames ordered => ?_
  exact ⟨repeatAt indices index, by rw [frames, repeatAt_map], fun number member => (mem_repeatAt _ _).mp member,
    pairwise_repeatAt Nat.le_refl ordered index, countP_repeatAt _ indices index⟩

theorem Tracks.others (tracks : Tracks payload quota bus) {others : List Bytes}
    (fewer : bus.toEmitter = [] → others = []) : Tracks payload quota { bus with toEmitter := others } := by
  cases tracks with
  | single nonempty short resting frames few => exact .single nonempty short resting frames few
  | unanswered long fits frames silent emits few => exact .unanswered long fits frames (fewer silent) emits few
  | answered long fits answered few => exact .answered long fits answered few

def BusAction.repeats : BusAction → Nat
  | .repeatFrame _ => 1
  | _ => 0

theorem Tracks.step (tracks : Tracks payload quota bus) (action : BusAction)
    (notStart : ∀ other nowMs, action ≠ .start other nowMs) :
    DeliversOnce payload (quota + action.repeats) (Bus.step bus action) := by
  cases action with
  | start other nowMs => exact absurd rfl (notStart other nowMs)
  | pollEmitter nowMs => exact .inl ⟨rfl, tracks.pollEmitter nowMs⟩
  | pollReceiver nowMs => exact .inl (tracks.pollReceiver nowMs).symm
  | receive nowMs => exact tracks.receive nowMs
  | flowControl nowMs => exact .inl (tracks.flowControl nowMs).symm
  | loseFrame index => exact .inl ⟨rfl, tracks.loseFrame index⟩
  | loseFlowControl index => exact .inl ⟨rfl, tracks.others fun silent => by rw [silent]; rfl⟩
  | repeatFrame index => exact .inl ⟨rfl, tracks.repeatFrame index⟩
  | repeatFlowControl index => exact .inl ⟨rfl, tracks.others fun silent => by rw [silent]; rfl⟩

end

inductive Started (tx : TxContext) (payload : Bytes) (nowMs : UInt32) : TxContext × Result × TxResult → Prop where
  | refused (reason : Result) (failure : reason ≠ .ok) : Started tx payload nowMs (tx, reason, .clear)
  | short (nonempty : payload.length ≠ 0) (short : payload.length ≤ 7) :
      Started tx payload nowMs (tx.countFrame.countMessage.goIdle, .ok, .send (canonicalSingle payload))
  | long (long : 7 < payload.length) (fits : payload.length ≤ maxPayloadSize) :
      Started tx payload nowMs
        (((tx.load payload nowMs).awaitFlowControl nowMs).countFrame, .ok, .send (canonicalFirst payload))

theorem txStart_started (tx : TxContext) (payload : Bytes) (nowMs : UInt32) :
    Started tx payload nowMs (txStart tx payload nowMs) := by
  by_cases idle : tx.state = .idle
  · by_cases empty : payload.length = 0
    · rw [txStart, if_neg (not_not.mpr idle), if_pos empty]
      exact .refused _ Result.noConfusion
    · by_cases large : payload.length > maxPayloadSize
      · rw [txStart, if_neg (not_not.mpr idle), if_neg empty, if_pos large]
        exact .refused _ Result.noConfusion
      · by_cases short : payload.length ≤ 7
        · rw [txStart_short idle empty short]
          exact .short empty short
        · rw [txStart_long idle (Nat.not_le.mp short) (Nat.not_lt.mp large)]
          exact .long (Nat.not_le.mp short) (Nat.not_lt.mp large)
  · rw [txStart, if_pos idle]
    exact .refused _ Result.noConfusion

theorem started_start (bus : Bus) (payload : Bytes) (nowMs : UInt32) :
    started (event Bus.step bus (.start payload nowMs)) =
      if (txStart bus.tx payload nowMs).2.1 = .ok then some payload else none :=
  rfl

theorem start_cases (bus : Bus) (payload : Bytes) (nowMs : UInt32)
    (silent : StartsSilent (event Bus.step bus (.start payload nowMs))) :
    (Bus.step bus (.start payload nowMs) = (bus, none) ∧ started (event Bus.step bus (.start payload nowMs)) = none) ∨
      (started (event Bus.step bus (.start payload nowMs)) = some payload ∧
        Tracks payload 1 (Bus.step bus (.start payload nowMs)).1 ∧ (Bus.step bus (.start payload nowMs)).2 = none) := by
  unfold StartsSilent at silent
  have onTheWay : (event Bus.step bus (.start payload nowMs)).before = bus := rfl
  rw [onTheWay] at silent
  rw [started_start] at silent ⊢
  have outcome := txStart_started bus.tx payload nowMs
  simp only [Bus.step]
  generalize txStart bus.tx payload nowMs = out at outcome silent ⊢
  cases outcome with
  | refused reason failure => exact .inl ⟨rfl, if_neg failure⟩
  | short nonempty short =>
    obtain ⟨frames, -⟩ := silent rfl
    refine .inr ⟨rfl, .single nonempty short rfl ?_ ?_, trivial⟩
    · simp [Bus.emit, frames, TxResult.send]
    · simp [Bus.emit, frames, TxResult.send]
  | long long fits =>
    obtain ⟨frames, controls⟩ := silent rfl
    refine .inr ⟨rfl, .unanswered long fits ?_ controls (.inr ⟨rfl, emitting_start long fits nowMs⟩) ?_, trivial⟩
    · simp [Bus.emit, frames, TxResult.send]
    · simp [Bus.emit, frames, TxResult.send]

theorem started_none {bus : Bus} {action : BusAction} (notStart : ∀ other nowMs, action ≠ .start other nowMs) :
    started (event Bus.step bus action) = none := by
  cases action with
  | start payload nowMs => exact absurd rfl (notStart payload nowMs)
  | _ => rfl

theorem current_concat (past : List BusStep) (e : BusStep) :
    current (past ++ [e]) = (started e).or (current past) := by
  rw [current, List.filterMap_append]
  cases begun : started e with
  | none => simp [begun, current]
  | some payload => simp [begun]

structure Quiet (bus : Bus) : Prop where
  frames : bus.toReceiver = []
  controls : bus.toEmitter = []
  emitter : bus.tx.state = .idle
  receiver : bus.rx.state = .idle

theorem Quiet.step {bus : Bus} (quiet : Quiet bus) {action : BusAction}
    (notStart : ∀ other nowMs, action ≠ .start other nowMs) : Bus.step bus action = (bus, none) := by
  obtain ⟨tx, rx, toReceiver, toEmitter⟩ := bus
  obtain ⟨rfl, rfl, emitter, receiver⟩ := quiet
  cases action with
  | start payload nowMs => exact absurd rfl (notStart payload nowMs)
  | pollEmitter nowMs =>
    simp only [Bus.step, txPoll_idle emitter]
    rfl
  | pollReceiver nowMs =>
    rcases pollTimeout_cases rx nowMs with same | ⟨waiting, _⟩
    · simp only [Bus.step, same]
      rfl
    · cases receiver.symm.trans waiting
  | _ => rfl

/-- Every way a step can go: it changes nothing, it starts a message, or it takes
the message being sent on. -/
theorem step_cases (bus : Bus) (action : BusAction) (silent : StartsSilent (event Bus.step bus action)) :
    (Bus.step bus action = (bus, none) ∧ started (event Bus.step bus action) = none) ∨
      (∃ payload, started (event Bus.step bus action) = some payload ∧ Tracks payload 1 (Bus.step bus action).1 ∧
        (Bus.step bus action).2 = none) ∨
      ((∀ other nowMs, action ≠ .start other nowMs) ∧ started (event Bus.step bus action) = none) := by
  by_cases start : ∃ other nowMs, action = .start other nowMs
  · obtain ⟨other, nowMs, rfl⟩ := start
    exact (start_cases bus other nowMs silent).imp_right fun begun => .inl ⟨other, begun⟩
  · have notStart : ∀ other nowMs, action ≠ .start other nowMs := fun other nowMs same => start ⟨other, nowMs, same⟩
    exact .inr (.inr ⟨notStart, started_none notStart⟩)

def Following (past : List BusStep) (bus : Bus) : Prop :=
  (current past = none ∧ Quiet bus) ∨ ∃ payload quota, current past = some payload ∧ Tracks payload quota bus

theorem Following.step {past : List BusStep} {bus : Bus} (following : Following past bus) (action : BusAction)
    (silent : StartsSilent (event Bus.step bus action)) :
    Following (past ++ [event Bus.step bus action]) (Bus.step bus action).1 ∧
      ∀ message, (Bus.step bus action).2 = some message → current past = some message := by
  unfold Following
  rw [current_concat]
  rcases step_cases bus action silent with ⟨same, none⟩ | ⟨payload, begun, tracks, nothing⟩ | ⟨notStart, none⟩
  · rw [same, none]
    exact ⟨following, nofun⟩
  · rw [begun, nothing]
    exact ⟨.inr ⟨payload, 1, rfl, tracks⟩, nofun⟩
  · rw [none]
    rcases following with ⟨before, quiet⟩ | ⟨payload, quota, sending, tracks⟩
    · rw [quiet.step notStart]
      exact ⟨.inl ⟨before, quiet⟩, nofun⟩
    · rw [sending]
      rcases tracks.step action notStart with ⟨nothing, goesOn⟩ | ⟨message, less, _, goesOn⟩
      · rw [nothing]
        exact ⟨.inr ⟨payload, _, rfl, goesOn⟩, nofun⟩
      · rw [message]
        exact ⟨.inr ⟨payload, _, rfl, goesOn⟩, fun other same => same⟩

theorem following_init (sent received : Vector UInt8 maxPayloadSize) : Following [] (.init sent received) :=
  .inl ⟨rfl, rfl, rfl, rfl, rfl⟩

/-- Whatever is lost or repeated, and whenever either end is polled: a message that
comes out is the one being sent, whole. -/
theorem lossy_bus_exact (sent received : Vector UInt8 maxPayloadSize) (actions : List BusAction)
    (silent : ∀ e ∈ trace Bus.step (.init sent received) actions, StartsSilent e) :
    AllEvents (fun past e => ∀ message, e.output = some message → current past = some message)
      (trace Bus.step (.init sent received) actions) :=
  guarded_events Bus.step (fun _ => StartsSilent) Following (following_init sent received)
    (fun _ _ action following silent => (following.step action silent).1)
    (fun _ _ action following silent => (following.step action silent).2) actions
    ((allEvents_forall _ _).mpr silent)

/-- The first message is lost, and the second one is the one that comes out. -/
theorem lossy_bus_exact_three : AllEvents (fun past e => ∀ message, e.output = some message → current past = some message)
    (trace Bus.step (.init (Vector.replicate maxPayloadSize 0) (Vector.replicate maxPayloadSize 0))
      [.start [9, 9] 0, .loseFrame 0, .start [1, 2, 3] 5, .repeatFrame 0, .receive 6]) := by
  refine lossy_bus_exact _ _ _ fun e member => ?_
  simp only [trace, List.mem_cons, List.not_mem_nil, or_false] at member
  rcases member with rfl | rfl | rfl | rfl | rfl
  · exact fun _ => ⟨rfl, rfl⟩
  · exact startsSilent_of_none rfl
  · exact fun _ => ⟨rfl, rfl⟩
  · exact startsSilent_of_none rfl
  · exact startsSilent_of_none rfl

/-- What has been delivered, in terms of what can still be. -/
def Delivering (past : List BusStep) (bus : Bus) : Prop :=
  (past.filterMap started = [] ∧ past.filterMap Event.output = [] ∧ Quiet bus) ∨
    ∃ earlier payload, past.filterMap started = earlier ++ [payload] ∧
      (((past.filterMap Event.output).Sublist earlier ∧ Tracks payload 1 bus) ∨
        ((past.filterMap Event.output).Sublist (earlier ++ [payload]) ∧ Tracks payload 0 bus))

theorem Delivering.sublist {past : List BusStep} {bus : Bus} (delivering : Delivering past bus) :
    (past.filterMap Event.output).Sublist (past.filterMap started) := by
  rcases delivering with ⟨none, nothing, _⟩ | ⟨earlier, payload, begun, ⟨less, _⟩ | ⟨all, _⟩⟩
  · rw [none, nothing]
  · rw [begun]
    exact less.trans (List.sublist_append_left _ _)
  · rwa [begun]

theorem filterMap_concat {α β : Type} (f : α → Option β) (past : List α) (last : α) :
    (past ++ [last]).filterMap f = past.filterMap f ++ (f last).toList := by
  cases found : f last <;> simp [found]

theorem Delivering.step {past : List BusStep} {bus : Bus} (delivering : Delivering past bus) (action : BusAction)
    (silent : StartsSilent (event Bus.step bus action)) (once : action.repeats = 0) :
    Delivering (past ++ [event Bus.step bus action]) (Bus.step bus action).1 := by
  have sublist := delivering.sublist
  have output : (event Bus.step bus action).output = (Bus.step bus action).2 := rfl
  unfold Delivering
  rw [filterMap_concat, filterMap_concat, output]
  rcases step_cases bus action silent with ⟨same, none⟩ | ⟨payload, begun, tracks, nothing⟩ | ⟨notStart, none⟩
  · rw [same, none, Option.toList_none, List.append_nil, List.append_nil]
    exact delivering
  · rw [begun, nothing, Option.toList_none, List.append_nil]
    exact .inr ⟨_, payload, rfl, .inl ⟨sublist, tracks⟩⟩
  · rw [none, Option.toList_none, List.append_nil]
    rcases delivering with ⟨begun, before, quiet⟩ | ⟨earlier, payload, begun, ⟨less, tracks⟩ | ⟨all, tracks⟩⟩
    · rw [quiet.step notStart, Option.toList_none, List.append_nil]
      exact .inl ⟨begun, before, quiet⟩
    · have next := tracks.step action notStart
      rw [once] at next
      rcases next with ⟨nothing, goesOn⟩ | ⟨message, rest, same, goesOn⟩
      · rw [nothing, Option.toList_none, List.append_nil]
        exact .inr ⟨earlier, payload, begun, .inl ⟨less, goesOn⟩⟩
      · obtain rfl : rest = 0 := by omega
        rw [message]
        exact .inr ⟨earlier, payload, begun, .inr ⟨less.append (List.Sublist.refl _), goesOn⟩⟩
    · have next := tracks.step action notStart
      rw [once] at next
      rcases next with ⟨nothing, goesOn⟩ | ⟨message, rest, same, goesOn⟩
      · rw [nothing, Option.toList_none, List.append_nil]
        exact .inr ⟨earlier, payload, begun, .inr ⟨all, goesOn⟩⟩
      · cases same

/-- Where nothing is repeated, messages come out in the order they were sent, none
of them twice. -/
theorem lossy_bus_ordered (sent received : Vector UInt8 maxPayloadSize) (actions : List BusAction)
    (silent : ∀ e ∈ trace Bus.step (.init sent received) actions, StartsSilent e)
    (once : ∀ action ∈ actions, action.repeats = 0) :
    ((trace Bus.step (.init sent received) actions).filterMap Event.output).Sublist
      ((trace Bus.step (.init sent received) actions).filterMap started) := by
  refine Delivering.sublist (guarded_run Bus.step (fun _ e => StartsSilent e ∧ e.action.repeats = 0) Delivering
    (.inl ⟨rfl, rfl, rfl, rfl, rfl, rfl⟩) (fun past state action delivering guard => ?_) actions
    ((allEvents_forall _ _).mpr fun e member => ⟨silent e member, ?_⟩))
  · exact delivering.step action guard.1 guard.2
  · have acted := List.mem_map_of_mem (f := Event.action) member
    rw [trace_actions] at acted
    exact once _ acted

/-- The same run, without the repetition. -/
theorem lossy_bus_ordered_three :
    let steps := trace Bus.step (.init (Vector.replicate maxPayloadSize 0) (Vector.replicate maxPayloadSize 0))
      [.start [9, 9] 0, .loseFrame 0, .start [1, 2, 3] 5, .receive 6]
    (steps.filterMap Event.output).Sublist (steps.filterMap started) := by
  refine lossy_bus_ordered _ _ _ (fun e member => ?_) (by decide)
  simp only [trace, List.mem_cons, List.not_mem_nil, or_false] at member
  rcases member with rfl | rfl | rfl | rfl
  · exact fun _ => ⟨rfl, rfl⟩
  · exact startsSilent_of_none rfl
  · exact fun _ => ⟨rfl, rfl⟩
  · exact startsSilent_of_none rfl

/-! ## A Flow Control that outlives its message -/

def drain : Nat → List BusAction
  | 0 => []
  | left + 1 => .receive 1000 :: .pollEmitter 1000 :: drain left

/-- The Flow Control for the first message is still on its way when N_Bs has run out
and the second one is started; the second First Frame is lost. -/
def staleRun (first second : Bytes) : List BusAction :=
  [.start first 0, .receive 500, .pollEmitter 1000, .start second 1000, .loseFrame 0, .flowControl 1000,
    .pollReceiver 1000] ++ drain (consecutiveCount second)

/-- The head of the first message with the tail of the second. -/
def mixed (first second : Bytes) : Bytes := first.take 6 ++ second.drop 6

section
variable {first second : Bytes}

theorem mixed_length (long : 7 < first.length) (same : first.length = second.length) :
    (mixed first second).length = first.length := by
  simp only [mixed, List.length_append, List.length_take, List.length_drop]
  omega

theorem head_length (long : 7 < first.length) : (first.take 6).length = 6 := by
  rw [List.length_take]
  omega

theorem canonicalFirst_mixed (long : 7 < first.length) (same : first.length = second.length) :
    canonicalFirst (mixed first second) = canonicalFirst first := by
  rw [canonicalFirst, mixed_length long same, mixed, List.take_left' (head_length long)]
  rfl

theorem canonicalConsecutive_mixed (long : 7 < first.length) (index : Nat) :
    canonicalConsecutive (mixed first second) index = canonicalConsecutive second index := by
  have block : blockAt (mixed first second) index = blockAt second index := by
    rw [blockAt, blockAt, ← List.drop_drop, mixed, List.drop_left' (head_length long), List.drop_drop]
  rw [canonicalConsecutive, canonicalConsecutive, block]

theorem consecutiveCount_mixed (long : 7 < first.length) (same : first.length = second.length) :
    consecutiveCount (mixed first second) = consecutiveCount second := by
  rw [consecutiveCount, consecutiveCount, mixed_length long same, same]

def continueFrame : Bytes := (buildFlowControl .continueToSend .ok).fcFrame

variable {bus : Bus} {payload : Bytes} {rest : List Bytes}

theorem step_start (idle : bus.tx.state = .idle) (long : 7 < payload.length) (fits : payload.length ≤ maxPayloadSize)
    (nowMs : UInt32) : ∃ tx, Bus.step bus (.start payload nowMs) =
      ({ bus with tx, toReceiver := bus.toReceiver ++ [canonicalFirst payload] }, none) ∧
        tx.state = .waitFlowControl ∧ tx.waitStartMs = nowMs ∧ Emitting tx payload 0 := by
  simp only [Bus.step, txStart_long idle long fits]
  exact ⟨_, rfl, rfl, rfl, emitting_start long fits nowMs⟩

theorem step_receiveFirst (long : 7 < payload.length) (fits : payload.length ≤ maxPayloadSize)
    (onTheWay : bus.toReceiver = canonicalFirst payload :: rest) (nowMs : UInt32) :
    ∃ rx, Bus.step bus (.receive nowMs) =
      ({ bus with rx, toReceiver := rest, toEmitter := bus.toEmitter ++ [continueFrame] }, none) ∧
        Holding rx payload 0 ∧ rx.lastFrameTimeMs = nowMs := by
  obtain ⟨answered, holding⟩ := @process_first payload bus.rx long fits nowMs
  have dated : (process bus.rx (canonicalFirst payload) nowMs).1.lastFrameTimeMs = nowMs := by
    rw [process_opens (canonicalFirst_opens long fits)]
    rfl
  simp only [Bus.step, onTheWay, answered]
  exact ⟨_, rfl, holding, dated⟩

theorem step_giveUp (waiting : bus.tx.state = .waitFlowControl) {nowMs : UInt32}
    (expired : nowMs - bus.tx.waitStartMs ≥ nBsTimeoutMs) :
    ∃ tx, Bus.step bus (.pollEmitter nowMs) = ({ bus with tx }, none) ∧ tx.state = .idle := by
  simp only [Bus.step, txPoll_waiting waiting, if_pos expired]
  exact ⟨_, rfl, rfl⟩

theorem step_authorise (waiting : bus.tx.state = .waitFlowControl) (emitting : Emitting bus.tx payload 0)
    (onTheWay : bus.toEmitter = continueFrame :: rest) (nowMs : UInt32) :
    ∃ tx, Bus.step bus (.flowControl nowMs) =
      ({ bus with tx, toEmitter := rest, toReceiver := bus.toReceiver ++ [canonicalConsecutive payload 0] }, none) ∧
        Produced tx payload 0 := by
  obtain ⟨sent, produced⟩ := drive_continue emitting waiting nowMs
  have asks : (buildFlowControl .continueToSend .ok).event = .sendFlowControl := rfl
  rw [drive, if_pos asks, ← continueFrame] at sent produced
  simp only [Bus.step, onTheWay, sent]
  exact ⟨_, rfl, produced⟩

theorem drain_delivers {tx : TxContext} {rx : RxContext} {count left : Nat} (long : 7 < first.length)
    (same : first.length = second.length) (holding : Holding rx (mixed first second) count)
    (produced : Produced tx second count) (further : count < consecutiveCount second)
    (whole : count + left = consecutiveCount second) :
    (trace Bus.step ⟨tx, rx, [canonicalConsecutive second count], []⟩ (drain left)).filterMap Event.output =
      [mixed first second] := by
  induction left generalizing tx rx count with
  | zero => omega
  | succ left ih =>
    have processed := process_consecutive holding (by rwa [consecutiveCount_mixed long same]) 1000
    dsimp only at processed
    rw [canonicalConsecutive_mixed long, consecutiveCount_mixed long same] at processed
    simp only [drain, trace, event]
    split at processed
    · -- The last frame: the emitter is at rest, and the poll behind it does nothing.
      rename_i last
      obtain rfl : left = 0 := by omega
      simp [Bus.step, processed, Bus.delivered, RxResult.ready, drain, trace]
    · rename_i notLast
      obtain ⟨quiet, holding⟩ := processed
      have flowing := produced.resolve_right fun ended => notLast ended.2
      obtain ⟨sent, produced⟩ := txPoll_flowing flowing 1000
      have received : Bus.step ⟨tx, rx, [canonicalConsecutive second count], []⟩ (.receive 1000) =
          (⟨tx, (process rx (canonicalConsecutive second count) 1000).1, [], []⟩, none) := by
        simp only [Bus.step, quiet]
        rfl
      have polled : Bus.step ⟨tx, (process rx (canonicalConsecutive second count) 1000).1, [], []⟩ (.pollEmitter 1000) =
          (⟨(txPoll tx 1000).1, (process rx (canonicalConsecutive second count) 1000).1,
            [canonicalConsecutive second (count + 1)], []⟩, none) := by
        simp only [Bus.step, sent]
        rfl
      rw [received, polled]
      exact ih holding produced (by omega) (by omega)

/-- The silent bus is needed: two messages of the same length come out as one, the
head of the first with the tail of the second. -/
theorem stale_flowControl_mixes (sent received : Vector UInt8 maxPayloadSize) (long : 7 < first.length)
    (fits : first.length ≤ maxPayloadSize) (same : first.length = second.length) :
    (trace Bus.step (.init sent received) (staleRun first second)).filterMap Event.output = [mixed first second] := by
  obtain ⟨tx, opened, waiting, since, -⟩ := step_start (rfl : (Bus.init sent received).tx.state = .idle) long fits 0
  -- To the receiver this is the First Frame of the mixture.
  have length := mixed_length long same
  obtain ⟨rx, answered, holding, dated⟩ :=
    @step_receiveFirst ⟨tx, (Bus.init sent received).rx, [canonicalFirst first], []⟩ (mixed first second) []
      (length ▸ long) (length ▸ fits) (by rw [canonicalFirst_mixed long same]) 500
  obtain ⟨idle, gaveUp, resting⟩ := @step_giveUp ⟨tx, rx, [], [continueFrame]⟩ waiting 1000 (by rw [since]; decide)
  obtain ⟨next, restarted, awaits, -, emitting⟩ :=
    @step_start ⟨idle, rx, [], [continueFrame]⟩ second resting (same ▸ long) (same ▸ fits) 1000
  have lost : Bus.step ⟨next, rx, [canonicalFirst second], [continueFrame]⟩ (.loseFrame 0) =
      (⟨next, rx, [], [continueFrame]⟩, none) := rfl
  obtain ⟨sending, authorised, produced⟩ :=
    @step_authorise ⟨next, rx, [], [continueFrame]⟩ second [] awaits emitting rfl 1000
  -- N_Cr of the receiver has not run out.
  have open' : pollTimeout rx 1000 = (rx, .clear) := by
    rcases pollTimeout_cases rx 1000 with same | ⟨_, expired, _⟩
    · exact same
    · rw [dated] at expired
      exact absurd expired (by decide)
  have polled : Bus.step ⟨sending, rx, [canonicalConsecutive second 0], []⟩ (.pollReceiver 1000) =
      (⟨sending, rx, [canonicalConsecutive second 0], []⟩, none) := by
    simp only [Bus.step, open']
    rfl
  have rest := drain_delivers long same holding produced (lt_consecutiveCount.mpr (by omega)) (Nat.zero_add _)
  simp only [Bus.init, List.nil_append] at opened answered gaveUp restarted authorised
  simp only [staleRun, List.cons_append, List.nil_append, trace, event, Bus.init, opened, answered, gaveUp, restarted,
    lost, authorised, polled, List.filterMap_cons, rest]

theorem stale_flowControl_mixes_eight :
    (trace Bus.step (.init (Vector.replicate maxPayloadSize 0) (Vector.replicate maxPayloadSize 0))
      (staleRun [1, 2, 3, 4, 5, 6, 7, 8] [11, 12, 13, 14, 15, 16, 17, 18])).filterMap Event.output =
      [[1, 2, 3, 4, 5, 6, 17, 18]] :=
  stale_flowControl_mixes _ _ (by decide) (by decide) rfl

end

end DiagnosticGateway.Isotp
