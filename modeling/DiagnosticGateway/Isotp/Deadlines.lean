import DiagnosticGateway.Isotp.Bounds
import DiagnosticGateway.Isotp.Segmentation

/-! Late frames. The deadlines N_Cr and N_Bs are looked at by the two poll
functions only, so a late frame goes on with a transfer whose poll has not been
called in time: exactly those transfers that are still open when it comes.
-/

set_option autoImplicit false

namespace DiagnosticGateway.Isotp
open BigEndian Buffer Traces

/-- A Consecutive Frame that completes its message or brings it closer. -/
def Resumes (e : RxStep) : Prop :=
  e.output.event = .messageReady ∨
    (e.after.state = .waitConsecutive ∧ e.before.receivedLength < e.after.receivedLength)

/-- A First Frame that opens a transfer or a Consecutive Frame that takes it on,
processed at `time`. -/
def AdvancesAt (time : UInt32) (e : RxStep) : Prop :=
  ∃ bytes, e.action = .frame bytes time ∧
    ((∃ length payload, Opens bytes length payload) ∨
      (e.before.state = .waitConsecutive ∧ IsConsecutive bytes ∧ Resumes e))

def LastAdvance (time : UInt32) : List RxStep → Prop :=
  Since (fun e => ∀ other, ¬ AdvancesAt other e) fun _ e => AdvancesAt time e

/-- A Consecutive Frame N_Cr or more after the last advance. -/
def LateConsecutive (past : List RxStep) (e : RxStep) (bytes : Bytes) : Prop :=
  ∃ nowMs time, e.action = .frame bytes nowMs ∧ frameType bytes = .consecutive ∧ LastAdvance time past ∧
    nowMs - time ≥ nCrTimeoutMs

def NoStaleExtension (past : List RxStep) (e : RxStep) : Prop :=
  ∀ bytes, LateConsecutive past e bytes → ¬ Resumes e

/-- The transfer is closed by then, or the frame is not the one it awaits. -/
def ClosedToLate (past : List RxStep) (e : RxStep) : Prop :=
  ∀ bytes, LateConsecutive past e bytes →
    e.before.state = .idle ∨ bytes.length < 2 ∨ sequenceNumber bytes ≠ e.before.nextSequenceNumber

theorem resumes_iff {ctx : RxContext} {bytes : Bytes} (bounded : Bounded ctx) (type : frameType bytes = .consecutive)
    (nowMs : UInt32) :
    Resumes (event rxStep ctx (.frame bytes nowMs)) ↔
      ctx.state = .waitConsecutive ∧ 2 ≤ bytes.length ∧ sequenceNumber bytes = ctx.nextSequenceNumber := by
  rw [event_frame]
  constructor
  · intro resumes
    have processed := process_processed ctx bytes nowMs
    generalize process ctx bytes nowMs = outcome at processed resumes
    cases processed with
    | empty nothing =>
      rcases resumes with ready | ⟨_, more⟩
      · cases ready
      · exact absurd more (Nat.lt_irrefl _)
    | rejected reason failure passes =>
      rcases resumes with ready | ⟨_, more⟩
      · cases ready
      · exact absurd more (Nat.lt_irrefl _)
    | single base payload decoded => exact absurd (type.symm.trans (decodeSingleFrame_ok decoded).1) (by decide)
    | opened length payload opens => exact absurd (type.symm.trans opens.type) (by decide)
    | overflowed overflows => exact absurd (type.symm.trans overflows.1) (by decide)
    | outOfSequence waiting consecutive wrong =>
      rcases resumes with ready | ⟨waits, _⟩
      · cases ready
      · cases waits
    | tooLong waiting consecutive excess =>
      rcases resumes with ready | ⟨waits, _⟩
      · cases ready
      · cases waits
    | extended waiting consecutive right => exact ⟨waiting, consecutive.2, right⟩
    | completed waiting consecutive right => exact ⟨waiting, consecutive.2, right⟩
  · rintro ⟨waiting, long, right⟩
    exact process_progress bounded waiting ⟨type, long⟩ right nowMs

theorem noStaleExtension_iff {past : List RxStep} {ctx : RxContext} (bounded : Bounded ctx) (action : RxAction) :
    NoStaleExtension past (event rxStep ctx action) ↔ ClosedToLate past (event rxStep ctx action) := by
  refine forall_congr' fun bytes => imp_congr_right fun late => ?_
  obtain ⟨nowMs, time, isFrame, type, -⟩ := late
  cases isFrame
  rw [resumes_iff bounded type nowMs]
  have closed : ctx.state = .idle ↔ ¬ ctx.state = .waitConsecutive := by
    cases ctx.state <;> decide
  have short : bytes.length < 2 ↔ ¬ 2 ≤ bytes.length := Nat.not_le.symm
  have before : (event rxStep ctx (.frame bytes nowMs)).before = ctx := rfl
  rw [before, closed, short]
  tauto

def TxAction.nowMs : TxAction → UInt32
  | .start _ nowMs => nowMs
  | .flowControl _ nowMs => nowMs
  | .poll nowMs => nowMs

/-- The emitter begins to wait for a Flow Control, or is told to wait on. -/
def StartsWait (e : TxStep) : Prop :=
  e.after.state = .waitFlowControl ∧
    (e.before.state ≠ .waitFlowControl ∨
      ∃ frame nowMs blockSize stmin, e.action = .flowControl frame nowMs ∧
        decodeFlowControl frame = .ok (.wait, blockSize, stmin))

def LastWait (time : UInt32) : List TxStep → Prop :=
  Since (fun e => ¬ StartsWait e) fun _ e => StartsWait e ∧ e.action.nowMs = time

def LateContinue (past : List TxStep) (e : TxStep) : Prop :=
  ∃ frame nowMs blockSize stmin time, e.action = .flowControl frame nowMs ∧
    decodeFlowControl frame = .ok (.continueToSend, blockSize, stmin) ∧ LastWait time past ∧
    nowMs - time ≥ nBsTimeoutMs

def Continues (e : TxStep) : Prop :=
  e.output.out.event = .sendFrame ∨ (e.before.state = .waitFlowControl ∧ e.after.state = .sending)

def NoStaleRestart (past : List TxStep) (e : TxStep) : Prop := LateContinue past e → ¬ Continues e

def GivenUpBefore (past : List TxStep) (e : TxStep) : Prop :=
  LateContinue past e → e.before.state ≠ .waitFlowControl

theorem continues_iff {ctx : TxContext} {frame : Bytes} {blockSize stmin : UInt8}
    (decoded : decodeFlowControl frame = .ok (.continueToSend, blockSize, stmin)) (nowMs : UInt32) :
    Continues (event txStep ctx (.flowControl frame nowMs)) ↔ ctx.state = .waitFlowControl := by
  by_cases waiting : ctx.state = .waitFlowControl
  · refine iff_of_true (.inl ?_) waiting
    simp only [event, txStep, txOnFlowControl_continue waiting decoded, txPoll_resume]
  · refine iff_of_false ?_ waiting
    simp [Continues, event, txStep, txOnFlowControl_ignored waiting, waiting, TxResult.clear]

theorem noStaleRestart_iff {past : List TxStep} {ctx : TxContext} (action : TxAction) :
    NoStaleRestart past (event txStep ctx action) ↔ GivenUpBefore past (event txStep ctx action) := by
  refine imp_congr_right fun late => ?_
  obtain ⟨frame, nowMs, blockSize, stmin, time, isFlowControl, decoded, -⟩ := late
  cases isFlowControl
  exact not_congr (continues_iff decoded nowMs)

/-! ## Runs -/

/-- A late frame does nothing exactly when its transfer is closed by then or it
is not the frame the transfer waits for. -/
theorem no_stale_resume_iff (rxBuffer : Vector UInt8 maxPayloadSize) (rxActions : List RxAction)
    (txBuffer : Vector UInt8 maxPayloadSize) (txActions : List TxAction) :
    (AllEvents NoStaleExtension (trace rxStep (.init rxBuffer) rxActions) ∧
      AllEvents NoStaleRestart (trace txStep (.init txBuffer) txActions)) ↔
    AllEvents ClosedToLate (trace rxStep (.init rxBuffer) rxActions) ∧
      AllEvents GivenUpBefore (trace txStep (.init txBuffer) txActions) := by
  have receiver : AllEvents NoStaleExtension (trace rxStep (.init rxBuffer) rxActions) ↔
      AllEvents ClosedToLate (trace rxStep (.init rxBuffer) rxActions) :=
    allEvents_iff rxStep (fun _ => Bounded) (.idle ⟨rfl, rfl, rfl⟩) (fun _ _ action bounded _ => bounded.step action)
      (fun _ _ action bounded => noStaleExtension_iff bounded action) rxActions
  have emitter : AllEvents NoStaleRestart (trace txStep (.init txBuffer) txActions) ↔
      AllEvents GivenUpBefore (trace txStep (.init txBuffer) txActions) :=
    allEvents_iff txStep (fun _ _ => True) trivial (fun _ _ _ _ _ => trivial)
      (fun _ _ action _ => noStaleRestart_iff action) txActions
  exact and_congr receiver emitter

/-- No poll comes between the First Frame and the frame one second later, on
either side. -/
theorem late_frame_resumes :
    ¬ AllEvents NoStaleExtension
      (trace rxStep (.init (.replicate maxPayloadSize 0))
        [.frame [0x10, 8, 1, 2, 3, 4, 5, 6] 0, .frame [0x21, 7, 8] 1000]) ∧
    ¬ AllEvents NoStaleRestart
      (trace txStep (.init (.replicate maxPayloadSize 0))
        [.start [1, 2, 3, 4, 5, 6, 7, 8] 0, .flowControl [0x30, 0, 0] 1000]) := by
  constructor
  · intro all
    have opens : Opens [0x10, 8, 1, 2, 3, 4, 5, 6] 8 [1, 2, 3, 4, 5, 6] :=
      ⟨rfl, ⟨2, rfl, rfl⟩, by decide, by decide, by decide⟩
    have late := all [_] _ [] rfl [0x21, 7, 8]
      ⟨1000, 0, rfl, rfl, ⟨[], _, [], rfl, ⟨_, rfl, .inl ⟨8, _, opens⟩⟩, by simp⟩, by decide⟩
    exact late (.inl (by
      simp only [event, rxStep]
      rw [process_opens opens]
      rfl))
  · intro all
    have late := all [_] _ [] rfl
      ⟨_, 1000, 0, 0, 0, rfl, rfl, ⟨[], _, [], rfl, ⟨⟨rfl, .inl TxState.noConfusion⟩, rfl⟩, by simp⟩, by decide⟩
    exact late (.inl rfl)

end DiagnosticGateway.Isotp
