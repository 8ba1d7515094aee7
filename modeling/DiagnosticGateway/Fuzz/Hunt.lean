import Mathlib.Data.Finset.Prod
import DiagnosticGateway.Fuzz.Tables

/-! The campaigns of the hunter (`ahdg_hunt.c`), at random and guided by coverage.

Both see at most the twenty-four states of the alphabet. As new coverage is all that
keeps the guided engine from its plateau, it ends without a limit of its own.
-/

set_option autoImplicit false

namespace DiagnosticGateway.Fuzz
open BigEndian Uds Coverage
open Ecu (Model Data)
open Isotp (RxContext maxPayloadSize)

abbrev maxSeq : Nat := 256
abbrev actCount : UInt32 := 19

def Act.all : List Act :=
  [.sessExt, .sessDef, .seed, .keyOk, .keyBad, .reset, .read, .present, .clear, .ff, .cfOk, .cfBad, .garbage, .fc, .ncr,
    .tick, .s3, .lockout, .interleave]

def Act.draw (value : UInt32) : Act := Act.all.getD (value % actCount).toNat .sessExt

def drawActs : Nat → UInt32 → List Act × UInt32
  | 0, rng => ([], rng)
  | len + 1, rng =>
    let rng := ahdgRngNext rng
    let drawn := drawActs len rng
    (Act.draw rng :: drawn.1, drawn.2)

/-- What is noted behind an action: the state, the way to it and the outcome. `Bool`
tells whether a table had not seen it. -/
def Covered.note (cov : Covered) (prev : UInt32) (next : UInt32) (outcome : UInt32) : Option (Covered × Bool) :=
  (covState cov next).bind fun shown =>
    (covTransition shown.1 prev next).bind fun passed =>
      some (if outcome ≠ 0 then covOutcome passed.1 outcome else passed.1, shown.2 || passed.2)

def Covered.deepen (cov : Covered) (depth : Nat) : Covered :=
  { cov with maxDepth := if depth > cov.maxDepth then depth else cov.maxDepth }

/-- What an execution leaves: coverage, generator, whether it gained any, and the
violation or -1. -/
structure Executed where
  cov : Covered
  rng : UInt32
  gained : Bool
  viol : Int

def execFrom (m : Model) (prev : UInt32) (step : Nat) (gained : Bool) (cov : Covered) (rng : UInt32) :
    List Act → Option Executed
  | [] => some ⟨cov, rng, gained, if goldenOk m = false then availNoWedgedContext else -1⟩
  | a :: rest =>
    let applied := applyAct m a rng
    let fp := fingerprint applied.1.1
    (cov.note prev fp applied.1.2.outcome).bind fun noted =>
      let cov := noted.1.deepen (step + 1)
      if applied.1.2.verdict ≥ 0 then some ⟨cov, applied.2, gained || noted.2, applied.1.2.verdict⟩
      else execFrom applied.1.1 fp (step + 1) (gained || noted.2) cov applied.2 rest

def execSeq (buffer : Vector UInt8 maxPayloadSize) (seq : List Act) (cov : Covered) (rng : UInt32) : Option Executed :=
  let m := Model.init buffer
  (covState cov (fingerprint m)).bind fun shown => execFrom m (fingerprint m) 0 shown.2 shown.1 rng seq

/-! ## What the alphabet covers -/

def chartedList : List UInt32 :=
  [(1, 0), (3, 0), (3, 1)].flatMap fun (session, pending) =>
    [(0, 0, 0, 0), (0, 1, 0, 1), (1, 1, 1, 1), (1, 1, 2, 2)].flatMap fun (rxst, trActive, sn, bucket) =>
      [2, 0].map fun dtc => packFields session 0 pending 0 0 rxst trActive sn dtc bucket 0

def charted : Finset UInt32 := chartedList.toFinset

theorem charted_card : charted.card = 24 := by decide

theorem charted_valued {fp : UInt32} (member : fp ∈ charted) : fp ≠ 0xFFFFFFFF := by
  rintro rfl
  exact absurd member (by decide)

theorem Phase.fields {ctx : RxContext} (phase : Phase ctx) :
    (rxStateCode ctx.state, if ctx.expectedLength > 0 then (1 : UInt32) else 0,
        (ctx.nextSequenceNumber &&& 0x0F).toUInt32, lengthBucket ctx.receivedLength) ∈
      [((0 : UInt32), (0 : UInt32), (0 : UInt32), (0 : UInt32)), (0, 1, 0, 1), (1, 1, 1, 1), (1, 1, 2, 2)] := by
  cases phase with
  | empty idle number expected received =>
    rw [idle, number, expected, received]
    decide
  | served idle number expected received =>
    have bucket : lengthBucket ctx.receivedLength = 1 := by
      rw [lengthBucket, if_neg (by omega), if_pos received.2]
    rw [idle, number, bucket, if_pos expected]
    decide
  | opened waiting number expected received =>
    rw [waiting, number, received, if_pos (by omega)]
    decide
  | extended waiting number expected received =>
    rw [waiting, number, received, expected]
    decide

theorem Confined.fields {server : Server Data} (confined : Confined server) :
    (server.ctx.session.code.toUInt32, server.ctx.seedPending.toNat.toUInt32) ∈
      [((1 : UInt32), (0 : UInt32)), (3, 0), (3, 1)] := by
  have valid := confined.reached.valid
  rcases valid.session with default | extended
  · rw [default, (valid.defaultLocked default).2]
    decide
  · rw [extended]
    cases server.ctx.seedPending <;> decide

theorem Tethered.fingerprint {m : Model} (tethered : Tethered m) : fingerprint m ∈ charted := by
  have server := tethered.server
  have active : (m.uds.user.dtc.countP fun dtc => dtc.active).toUInt32 ∈ [(2 : UInt32), 0] := by
    rcases server.data.active with two | none
    · rw [two]
      decide
    · rw [none]
      decide
  rw [Fuzz.fingerprint, server.locked, server.free, server.attempts, server.data.resetCount]
  exact List.mem_toFinset.mpr (List.mem_flatMap.mpr ⟨_, server.fields,
    List.mem_flatMap.mpr ⟨_, tethered.phase.fields, List.mem_map.mpr ⟨_, active, rfl⟩⟩⟩)

/-- The tables have only been shown states of the alphabet and ways between them. -/
structure Charting (cov : Covered) : Prop where
  states : ∃ seen ⊆ charted, Counts cov seen
  transitions : ∃ ways ⊆ charted ×ˢ charted, Records cov.tr (ways.image fun way => trEntry way.1 way.2)

def Covered.total (cov : Covered) : Nat := cov.st.distinct + cov.tr.distinct

structure Extends (cov after : Covered) (new : Bool) : Prop where
  charts : Charting after
  grows : cov.total ≤ after.total
  gains : new = true → cov.total < after.total
  depth : after.maxDepth = cov.maxDepth

theorem charting_reset : Charting covReset :=
  ⟨⟨∅, Finset.empty_subset _, counts_reset⟩, ⟨∅, Finset.empty_subset _, by rw [Finset.image_empty]; exact records_empty⟩⟩

section
variable {cov : Covered} (charting : Charting cov)
include charting

theorem Charting.st_le : cov.st.distinct ≤ 24 := by
  obtain ⟨seen, within, counts⟩ := charting.states
  rw [counts.exact, ← charted_card]
  exact Finset.card_le_card within

theorem Charting.tr_le : cov.tr.distinct ≤ 576 := by
  obtain ⟨ways, within, records⟩ := charting.transitions
  have pairs : (charted ×ˢ charted).card = 576 := by rw [Finset.card_product, charted_card]
  rw [← pairs]
  exact records.distinct.trans (Finset.card_image_le.trans (Finset.card_le_card within))

theorem Charting.total_le : cov.total ≤ 600 := Nat.add_le_add charting.st_le charting.tr_le

theorem Charting.state {fp : UInt32} (member : fp ∈ charted) :
    ∃ after new, covState cov fp = some (after, new) ∧ Extends cov after new := by
  obtain ⟨seen, within, counts⟩ := charting.states
  have spare : seen.card < stSize := Nat.lt_of_le_of_lt (counts.exact ▸ charting.st_le) (by decide)
  obtain ⟨after, new, returned, next, fresh, tr, -, depth⟩ := counts.covState (charted_valued member) spare
  have grown := Finset.card_le_card (Finset.subset_insert fp seen)
  refine ⟨after, new, returned, ⟨⟨⟨_, Finset.insert_subset member within, next⟩, ?_⟩, ?_, fun added => ?_, depth⟩⟩
  · rw [tr]
    exact charting.transitions
  · rw [Covered.total, Covered.total, next.exact, counts.exact, tr]
    omega
  · have counted := Finset.card_insert_of_notMem (fresh.mp added)
    rw [Covered.total, Covered.total, next.exact, counts.exact, tr]
    omega

theorem Charting.transition {prev next : UInt32} (source : prev ∈ charted) (target : next ∈ charted) :
    ∃ after new, covTransition cov prev next = some (after, new) ∧ Extends cov after new := by
  obtain ⟨ways, within, records⟩ := charting.transitions
  have keyed := trEntry_valued prev next
  have spare : cov.tr.distinct < trSize := Nat.lt_of_le_of_lt charting.tr_le (by decide)
  obtain ⟨tr, slot, new, returned⟩ := ProbeTable.visit_returns spare keyed
  have visited := ProbeTable.visit_visited returned
  have recorded := records.visited keyed visited
  have counted : cov.tr.distinct ≤ tr.distinct ∧ (new = true → cov.tr.distinct < tr.distinct) := by
    cases visited with
    | known => exact ⟨Nat.le_refl _, nofun⟩
    | added _ _ _ _ counted => omega
  refine ⟨{ cov with tr }, new, by rw [covTransition, dif_pos keyed, returned], ⟨⟨?_, ?_⟩,
    Nat.add_le_add_left counted.1 _, fun added => Nat.add_lt_add_left (counted.2 added) _, rfl⟩⟩
  · obtain ⟨seen, within, records, exact⟩ := charting.states
    exact ⟨seen, within, records, exact⟩
  · refine ⟨insert (prev, next) ways, Finset.insert_subset (Finset.mk_mem_product source target) within, ?_⟩
    rwa [Finset.image_insert]

theorem Charting.of_tables {after : Covered} (st : after.st = cov.st) (tr : after.tr = cov.tr) : Charting after := by
  obtain ⟨⟨seen, within, records, exact⟩, transitions⟩ := charting
  exact ⟨⟨seen, within, by rwa [st], by rwa [st]⟩, by rwa [tr]⟩

theorem Charting.deepen (depth : Nat) : Charting (cov.deepen depth) := charting.of_tables rfl rfl

theorem Charting.note {prev next : UInt32} (source : prev ∈ charted) (target : next ∈ charted) (outcome : UInt32) :
    ∃ after new, cov.note prev next outcome = some (after, new) ∧ Extends cov after new := by
  obtain ⟨first, newState, shown, state⟩ := charting.state target
  obtain ⟨second, newTransition, passed, way⟩ := state.charts.transition source target
  have noted : cov.note prev next outcome =
      some (if outcome ≠ 0 then covOutcome second outcome else second, newState || newTransition) := by
    rw [Covered.note, shown, Option.bind_some, passed, Option.bind_some]
  generalize found : (if outcome ≠ 0 then covOutcome second outcome else second) = after at noted
  have same : after.st = second.st ∧ after.tr = second.tr ∧ after.maxDepth = second.maxDepth := by
    rw [← found]
    split
    · exact ⟨covOutcome_st second outcome, covOutcome_tr second outcome, covOutcome_maxDepth second outcome⟩
    · exact ⟨rfl, rfl, rfl⟩
  have total : after.total = second.total := by rw [Covered.total, Covered.total, same.1, same.2.1]
  refine ⟨after, newState || newTransition, noted, way.charts.of_tables same.1 same.2.1, ?_, fun added => ?_, ?_⟩
  · rw [total]
    exact Nat.le_trans state.grows way.grows
  · rw [total]
    rcases Bool.or_eq_true_iff.mp added with new | new
    · exact Nat.lt_of_lt_of_le (state.gains new) way.grows
    · exact Nat.lt_of_le_of_lt state.grows (way.gains new)
  · rw [same.2.2, way.depth, state.depth]

end

structure Executes (cov : Covered) (gained : Bool) (depth : Nat) (done : Executed) : Prop where
  charts : Charting done.cov
  grows : cov.total ≤ done.cov.total
  gains : done.gained = true → gained = true ∨ cov.total < done.cov.total
  depth : done.cov.maxDepth ≤ max cov.maxDepth depth
  clean : done.viol = -1

theorem Covered.deepen_le (cov : Covered) (depth : Nat) : (cov.deepen depth).maxDepth ≤ max cov.maxDepth depth := by
  change (if depth > cov.maxDepth then depth else cov.maxDepth) ≤ _
  split <;> omega

theorem execFrom_executes {m : Model} (tethered : Tethered m) (step : Nat) (gained : Bool) {cov : Covered}
    (charting : Charting cov) (rng : UInt32) (seq : List Act) :
    ∃ done, execFrom m (fingerprint m) step gained cov rng seq = some done ∧
      Executes cov gained (step + seq.length) done := by
  induction seq generalizing m step gained cov rng with
  | nil =>
    refine ⟨_, rfl, charting, Nat.le_refl _, .inl, Nat.le_max_left .., ?_⟩
    rw [goldenOk_always, if_neg (by decide)]
  | cons a rest ih =>
    have after := tethered.act a rng
    have verdict : (applyAct m a rng).1.2.verdict = -1 := perform_verdict tethered.sane _
    obtain ⟨noted, new, returned, now⟩ :=
      charting.note tethered.fingerprint after.fingerprint (applyAct m a rng).1.2.outcome
    obtain ⟨done, ran, later⟩ :=
      ih after (step + 1) (gained || new) (now.charts.deepen (step + 1)) (applyAct m a rng).2
    have total : (noted.deepen (step + 1)).total = noted.total := rfl
    refine ⟨done, ?_, later.charts, ?_, fun more => ?_, ?_, later.clean⟩
    · rw [execFrom, returned, Option.bind_some, if_neg (by rw [verdict]; decide)]
      exact ran
    · exact Nat.le_trans now.grows (total ▸ later.grows)
    · rcases later.gains more with earlier | gain
      · rcases Bool.or_eq_true_iff.mp earlier with before | fresh
        · exact .inl before
        · exact .inr (Nat.lt_of_lt_of_le (now.gains fresh) (total ▸ later.grows))
      · exact .inr (Nat.lt_of_le_of_lt now.grows (total ▸ gain))
    · have deepened := noted.deepen_le (step + 1)
      have reached := later.depth
      rw [now.depth] at deepened
      rw [List.length_cons]
      omega

theorem execSeq_executes (buffer : Vector UInt8 maxPayloadSize) (seq : List Act) {cov : Covered} (charting : Charting cov)
    (rng : UInt32) :
    ∃ done, execSeq buffer seq cov rng = some done ∧ Executes cov false seq.length done := by
  have tethered := tethered_init buffer
  obtain ⟨shown, new, returned, now⟩ := charting.state tethered.fingerprint
  obtain ⟨done, ran, later⟩ := execFrom_executes tethered 0 new now.charts rng seq
  refine ⟨done, by rw [execSeq, returned, Option.bind_some, ran], later.charts, Nat.le_trans now.grows later.grows,
    fun more => .inr ?_, ?_, later.clean⟩
  · rcases later.gains more with first | gain
    · exact Nat.lt_of_lt_of_le (now.gains first) later.grows
    · exact Nat.lt_of_le_of_lt now.grows gain
  · have reached := later.depth
    rwa [now.depth, Nat.zero_add] at reached

end DiagnosticGateway.Fuzz
