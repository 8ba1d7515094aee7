import Mathlib.Tactic.IntervalCases
import DiagnosticGateway.Fuzz.Explorer
import DiagnosticGateway.Library.Coverage
import DiagnosticGateway.Uds.Conduct

/-! The campaigns of the explorer (`ahdg_run`): what none of them can report, and how
many states all of them together can see.
-/

set_option autoImplicit false

namespace DiagnosticGateway.Fuzz
open BigEndian Uds Coverage

def ahdgRngNext (s : UInt32) : UInt32 :=
  let s := s ^^^ (s <<< 13)
  let s := s ^^^ (s >>> 17)
  s ^^^ (s <<< 5)

def Action.all : List Action :=
  [.sessionDefault, .sessionExtended, .sessionProgramming, .readDid, .testerPresent, .seedRequest, .keyCorrect,
    .keyWrong, .keyReplay, .ecuReset, .clearDtc, .clockPastS3, .clockSmall, .clockPastLockout]

abbrev ahdgActCount : UInt32 := 14

def Action.draw (value : UInt32) : Action := Action.all.getD (value % ahdgActCount).toNat .sessionDefault

def SecurityLevel.code : SecurityLevel → UInt32
  | .locked => 0
  | .level1 => 1

def Snapshot.hash (snap : Snapshot) : UInt32 :=
  snap.session.code.toUInt32 ^^^ (SecurityLevel.code snap.securityLevel <<< 3) ^^^
    (snap.seedPending.toNat.toUInt32 <<< 6) ^^^ (snap.lockedOut.toNat.toUInt32 <<< 7) ^^^
    (snap.failedAttempts.toUInt32 <<< 8)

def seenIndex (snap : Snapshot) : Fin 512 := ⟨(snap.hash % 512).toNat, by
  rw [UInt32.toNat_mod]
  exact Nat.mod_lt _ (by decide)⟩

/-- `seen` and `states` are one tally; `found`, `cex` and `cex_len` are the stored
sequences, each under its invariant. -/
structure Results where
  tested : Nat
  states : Tally 512
  cex : List (Int × List Action)

def Results.report (res : Results) (v : Int) (seq : List Action) : Option Results :=
  if res.cex.any fun stored => stored.1 = v then some res
  else (ahdgMinimize ahdgReplay v seq).map fun stored => { res with cex := res.cex ++ [(v, stored)] }

/-- The loop over `step`; `none` is a write behind the end of `seq`, or a minimisation
that does not end. -/
def exploreSteps : Nat → Target → List Action → UInt32 → Results → Option (UInt32 × Results)
  | 0, _, _, rng, res => some (rng, res)
  | left + 1, target, seq, rng, res =>
    if seq.length < ahdgMaxSeq then
      let rng := ahdgRngNext rng
      let action := Action.draw rng
      let seq := seq ++ [action]
      let after := (ahdgApply target action).1
      let res := { res with states := res.states.visit (seenIndex (ahdgSnapshot after.ctx)) }
      if verdict target action ≥ 0 then (res.report (verdict target action) seq).map fun res => (rng, res)
      else exploreSteps left after seq rng res
    else none

def exploreAll (maxLen : UInt32) : Nat → UInt32 → Results → Option Results
  | 0, _, res => some res
  | left + 1, rng, res =>
    let rng := ahdgRngNext rng
    let len := (rng % maxLen).toNat + 1
    match exploreSteps len ahdgResetCtx [] rng { res with tested := res.tested + 1 } with
    | none => none
    | some (rng, res) => exploreAll maxLen left rng res

def clampLen (maxLen : Int) : Int :=
  let maxLen := if maxLen < 1 then 1 else maxLen
  if maxLen > ahdgMaxSeq then (ahdgMaxSeq : Int) else maxLen

def ahdgRun (budget : Nat) (seed : UInt32) (maxLen : Int) : Option Results :=
  exploreAll (clampLen maxLen).toNat.toUInt32 budget (if seed ≠ 0 then seed else 1) ⟨0, .empty, []⟩

/-! ## The states a campaign can be in -/

/-- Beside the server's own invariant: an unlocked server has no wrong key counted. -/
structure Reached (ctx : Context) : Prop where
  valid : Valid ctx
  earned : ctx.securityLevel = .level1 → ctx.failedAttempts = 0

theorem reached_init : Reached Uds.init := ⟨valid_init, fun unlocked => by cases unlocked⟩

section
variable {σ : Type} {ctx : Context}

theorem Reached.poll (reached : Reached ctx) (nowMs : UInt32) : Reached (Uds.poll ctx nowMs) where
  valid := reached.valid.poll nowMs
  earned := fun unlocked => by
    have zero := reached.earned (unlocked_of_poll unlocked)
    have free : ctx.lockedOut ≠ true := fun locked => by
      have level := reached.valid.lockoutLocked locked
      rw [unlocked_of_poll unlocked] at level
      cases level
    rcases poll_attempts ctx nowMs with ⟨same, -⟩ | ⟨locked, -⟩
    · rw [same, zero]
    · exact absurd locked free

theorem Reached.handled {app : Application σ} {user : σ} {request : Bytes} {nowMs : UInt32} {capacity : Nat}
    {outcome : Outcome σ} (reached : Reached ctx) (handled : Handled app ctx user request nowMs capacity outcome) :
    Reached outcome.ctx where
  valid := reached.valid.handled handled
  earned := fun unlocked => by
    cases handled with
    | toDefault | reset => cases unlocked
    | keyAccepted => rfl
    -- A seed is only pending while the server is locked.
    | keyWrong _ _ _ pending | keyExceeded _ _ _ pending =>
      have locked := (reached.valid.pendingLocked pending).1
      exact absurd (locked.symm.trans unlocked) (by decide)
    | _ => exact reached.earned unlocked

theorem reached_request (app : Application σ) (reached : Reached ctx) (user : σ) (request : Bytes) (nowMs : UInt32)
    (capacity : Nat) : Reached (handleRequest app ctx user request nowMs capacity).ctx :=
  (reached.poll nowMs).handled (handleRequest_handled app ctx user request nowMs capacity)

theorem attempts_cases {count : UInt8} (low : count ≤ 3) : count = 0 ∨ count = 1 ∨ count = 2 ∨ count = 3 := by
  have low : count.toNat ≤ 3 := low
  have value : count = UInt8.ofNat count.toNat := UInt8.ofNat_toNat.symm
  interval_cases count.toNat <;> simp [value]

/-- The authority a server can have: three counts below the limit and the lockout in
each session, three counts with a seed pending, and the unlocked state. -/
def authorities : List Snapshot :=
  [⟨.default, .locked, false, 0, false⟩, ⟨.default, .locked, false, 1, false⟩, ⟨.default, .locked, false, 2, false⟩,
    ⟨.default, .locked, false, 3, true⟩, ⟨.extended, .locked, false, 0, false⟩, ⟨.extended, .locked, false, 1, false⟩,
    ⟨.extended, .locked, false, 2, false⟩, ⟨.extended, .locked, false, 3, true⟩, ⟨.extended, .locked, true, 0, false⟩,
    ⟨.extended, .locked, true, 1, false⟩, ⟨.extended, .locked, true, 2, false⟩, ⟨.extended, .level1, false, 0, false⟩]

theorem Reached.snapshot (reached : Reached ctx) : ahdgSnapshot ctx ∈ authorities := by
  obtain ⟨session, level, activity, seed, pending, count, deadline, locked, state⟩ := ctx
  obtain ⟨⟨sessions, defaultLocked, pendingLocked, attempts, lockout, lockoutLocked⟩, earned⟩ := reached
  dsimp only at *
  have counts := attempts_cases attempts
  cases level with
  | level1 =>
    obtain rfl := earned rfl
    cases pending <;> cases locked <;> rcases sessions with rfl | rfl <;> simp_all [ahdgSnapshot, authorities]
  | locked =>
    cases pending <;> cases locked <;> rcases sessions with rfl | rfl <;> rcases counts with rfl | rfl | rfl | rfl <;>
      simp_all [ahdgSnapshot, authorities]

end

/-- The five tests that all the adversaries make, in their order. -/
structure Passes (pre : Snapshot) (post : Context) (resp : Bytes) : Prop where
  authorised : ¬ ((resp.length ≥ 1 ∧ byteAt resp 0 = 0x51) ∧ pre.securityLevel = .locked)
  bound : ¬ ((resp.length ≥ 2 ∧ byteAt resp 0 = 0x67 ∧ byteAt resp 1 = 0x02) ∧ pre.seedPending = false)
  relocked : ¬ ((resp.length ≥ 1 ∧ byteAt resp 0 = 0x51) ∧ post.securityLevel ≠ .locked)
  dropped : ¬ ((resp.length ≥ 1 ∧ byteAt resp 0 = 0x51) ∧ post.seedPending = true)
  defaultLocked : ¬ (post.session = .default ∧ post.securityLevel ≠ .locked)

theorem passes_lawful {pre post : Context} {resp : Bytes} (lawful : Lawful pre post resp) :
    Passes (ahdgSnapshot pre) post resp where
  authorised := fun h => SecurityLevel.noConfusion ((lawful.authorised h.1.2).symm.trans h.2)
  bound := fun h => Bool.noConfusion ((lawful.bound h.1.2).symm.trans h.2)
  relocked := fun h => h.2 (lawful.relocked h.1.2).1
  dropped := fun h => Bool.noConfusion ((lawful.relocked h.1.2).2.symm.trans h.2)
  defaultLocked := fun h => h.2 (lawful.defaultLocked h.1)

theorem answersKey_length {resp : Bytes} (answers : AnswersKey resp) : 2 ≤ resp.length := by
  by_contra short
  have nothing : byteAt resp 1 = 0 := by
    rw [byteAt, List.getD_eq_getElem?_getD, List.getElem?_eq_none (by omega), Option.getD_none]
  rw [answers.2] at nothing
  exact absurd nothing (by decide)

theorem ahdgCheck_lawful {pre post : Context} {resp : Bytes} (lawful : Lawful pre post resp) (action : Action) :
    ahdgCheck (ahdgSnapshot pre) post action resp = -1 := by
  have passes := passes_lawful lawful
  simp only [ahdgCheck, decide_eq_true_eq, decide_eq_false_iff_not]
  rw [if_neg passes.authorised, if_neg passes.bound, if_neg passes.relocked, if_neg passes.dropped,
    if_neg passes.defaultLocked, if_neg]
  rintro ⟨fewer, noKey, -, kept⟩
  rcases lawful.counted fewer with answers | ended
  · exact noKey ⟨answersKey_length answers, answers⟩
  · exact kept ended

section
variable {target : Target}

theorem request_lawful (valid : Valid target.ctx) (bytes : Bytes) :
    Lawful target.ctx (target.request bytes).1.ctx (target.request bytes).2 :=
  lawful_request application valid () bytes target.attacker.clock (by decide : 2 ≤ 64)

theorem advance_lawful (valid : Valid target.ctx) (ms : UInt32) :
    Lawful target.ctx (target.advance ms).1.ctx (target.advance ms).2 := lawful_poll valid _

theorem ahdgApply_lawful (valid : Valid target.ctx) (action : Action) :
    Lawful target.ctx (ahdgApply target action).1.ctx (ahdgApply target action).2 := by
  cases action with
  | clockPastS3 | clockSmall | clockPastLockout => exact advance_lawful valid _
  -- Remembering a key leaves the server alone.
  | keyCorrect | keyWrong =>
    exact @request_lawful { target with attacker := _ } valid _
  | _ => exact request_lawful valid _

theorem ahdgApply_reached (reached : Reached target.ctx) (action : Action) :
    Reached (ahdgApply target action).1.ctx := by
  cases action with
  | clockPastS3 | clockSmall | clockPastLockout => exact reached.poll _
  | _ => exact reached_request application reached () _ _ _

theorem verdict_reached (reached : Reached target.ctx) (action : Action) : verdict target action = -1 :=
  ahdgCheck_lawful (ahdgApply_lawful reached.valid action) action

theorem replayFrom_reached (reached : Reached target.ctx) (seq : List Action) : replayFrom target seq = -1 := by
  induction seq generalizing target with
  | nil => rfl
  | cons action rest ih =>
    rw [replayFrom, verdict_reached reached action, if_neg (by decide)]
    exact ih (ahdgApply_reached reached action)

def seenIndices : Finset (Fin 512) := (authorities.map seenIndex).toFinset

theorem seenIndices_card : seenIndices.card = 9 := by decide

structure Uneventful (res : Results) (tested : Nat) : Prop where
  tested : res.tested = tested
  cex : res.cex = []
  seen : marked res.states.flags ⊆ seenIndices

theorem exploreSteps_uneventful (reached : Reached target.ctx) (left : Nat) (seq : List Action)
    (fits : seq.length + left ≤ ahdgMaxSeq) (rng : UInt32) {res : Results} {tested : Nat}
    (uneventful : Uneventful res tested) :
    ∃ rng' res', exploreSteps left target seq rng res = some (rng', res') ∧ Uneventful res' tested := by
  induction left generalizing target seq rng res with
  | zero => exact ⟨rng, res, rfl, uneventful⟩
  | succ left ih =>
    have after := ahdgApply_reached reached (Action.draw (ahdgRngNext rng))
    rw [exploreSteps, if_pos (by omega)]
    dsimp only
    rw [verdict_reached reached, if_neg (by decide)]
    refine ih after _ (by rw [List.length_append, List.length_singleton]; omega) _
      ⟨uneventful.tested, uneventful.cex, ?_⟩
    rw [Tally.marked_visit]
    refine Finset.insert_subset ?_ uneventful.seen
    exact List.mem_toFinset.mpr (List.mem_map_of_mem after.snapshot)

end

theorem exploreAll_uneventful {maxLen : UInt32} (positive : 0 < maxLen.toNat) (fits : maxLen.toNat ≤ ahdgMaxSeq)
    (left : Nat) (rng : UInt32) {res : Results} {tested : Nat} (uneventful : Uneventful res tested) :
    ∃ res', exploreAll maxLen left rng res = some res' ∧ Uneventful res' (tested + left) := by
  induction left generalizing rng res tested with
  | zero => exact ⟨res, rfl, uneventful⟩
  | succ left ih =>
    have len : (ahdgRngNext rng % maxLen).toNat + 1 ≤ ahdgMaxSeq := by
      rw [UInt32.toNat_mod]
      exact Nat.le_trans (Nat.succ_le_of_lt (Nat.mod_lt _ positive)) fits
    have counted : Uneventful { res with tested := res.tested + 1 } (tested + 1) :=
      ⟨congrArg (· + 1) uneventful.tested, uneventful.cex, uneventful.seen⟩
    have start : Reached ahdgResetCtx.ctx := reached_init
    obtain ⟨rng', res', ran, still⟩ := exploreSteps_uneventful start
      ((ahdgRngNext rng % maxLen).toNat + 1) [] (by rwa [List.length_nil, Nat.zero_add]) (ahdgRngNext rng) counted
    obtain ⟨final, rest, ends⟩ := ih rng' still
    refine ⟨final, ?_, by rwa [Nat.add_right_comm] at ends⟩
    rw [exploreAll, ran]
    exact rest

theorem clampLen_bounds (maxLen : Int) :
    0 < (clampLen maxLen).toNat.toUInt32.toNat ∧ (clampLen maxLen).toNat.toUInt32.toNat ≤ ahdgMaxSeq := by
  have size : ahdgMaxSeq = 64 := rfl
  have low : 1 ≤ clampLen maxLen := by
    unfold clampLen
    dsimp only
    split
    · rw [size]
      decide
    · split <;> omega
  have high : clampLen maxLen ≤ 64 := by
    unfold clampLen
    dsimp only
    split
    · rw [size]
      decide
    · omega
  have narrow : (clampLen maxLen).toNat.toUInt32.toNat = (clampLen maxLen).toNat := by
    rw [Nat.toUInt32_eq, UInt32.toNat_ofNat']
    exact Nat.mod_eq_of_lt (by omega)
  rw [narrow, size]
  omega

/-- No sequence of actions violates anything, however long. So every campaign plays
all its sequences, stores no counterexample, and counts at most nine of the twelve
authorities the server can have. -/
theorem explorer_assured :
    (∀ seq, ahdgReplay seq = -1) ∧
      ∀ (budget : Nat) (seed : UInt32) (maxLen : Int), ∃ res, ahdgRun budget seed maxLen = some res ∧
        res.tested = budget ∧ res.cex = [] ∧ res.states.distinct ≤ 9 := by
  refine ⟨fun seq => replayFrom_reached reached_init seq, fun budget seed maxLen => ?_⟩
  have start : Uneventful ⟨0, .empty, []⟩ 0 := ⟨rfl, rfl, by rw [Tally.marked_empty]; exact Finset.empty_subset _⟩
  obtain ⟨res, returned, tested, cex, seen⟩ := exploreAll_uneventful (clampLen_bounds maxLen).1
    (clampLen_bounds maxLen).2 budget (if seed ≠ 0 then seed else 1) start
  refine ⟨res, returned, by rw [tested, Nat.zero_add], cex, ?_⟩
  exact seenIndices_card ▸ Tally.distinct_le seen

end DiagnosticGateway.Fuzz
