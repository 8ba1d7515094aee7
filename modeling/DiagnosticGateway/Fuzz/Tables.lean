import DiagnosticGateway.Fuzz.Confinement
import Mathlib.Data.UInt

/-! The coverage tables of the hunter (`ahdg_hunt.c`), and what they can hold.

A search of a table ends because the tables are never full: the fingerprints of all
states that the alphabet reaches are twenty-four.
-/

set_option autoImplicit false

namespace DiagnosticGateway.Fuzz
open BigEndian Uds Coverage
open Ecu (Model Data)
open Isotp (RxContext maxPayloadSize)

def rxStateCode : Isotp.RxState → UInt32
  | .idle => 0
  | .waitConsecutive => 1

def field (value mask shift : UInt32) : UInt32 := (value &&& mask) <<< shift

def packFields (session level pending lockedOut fa rxst trActive sn dtc bucket resetFlag : UInt32) : UInt32 :=
  field session 0x3 0 ||| field level 0x1 2 ||| field pending 0x1 3 ||| field lockedOut 0x1 4 ||| field fa 0x3 5 |||
    field rxst 0x1 7 ||| field trActive 0x1 8 ||| field sn 0xF 9 ||| field dtc 0x7 13 ||| field bucket 0x3 16 |||
    field resetFlag 0x1 18

def lengthBucket (received : Nat) : UInt32 :=
  if received = 0 then 0 else if received ≤ 6 then 1 else if received ≤ 13 then 2 else 3

def fingerprint (m : Model) : UInt32 :=
  packFields m.uds.ctx.session.code.toUInt32 (SecurityLevel.code m.uds.ctx.securityLevel)
    m.uds.ctx.seedPending.toNat.toUInt32 m.uds.ctx.lockedOut.toNat.toUInt32
    (if m.uds.ctx.failedAttempts > 3 then 3 else m.uds.ctx.failedAttempts.toUInt32)
    (rxStateCode m.rx.state) (if m.rx.expectedLength > 0 then 1 else 0)
    (m.rx.nextSequenceNumber &&& 0x0F).toUInt32 (m.uds.user.dtc.countP fun dtc => dtc.active).toUInt32
    (lengthBucket m.rx.receivedLength) (if m.uds.user.resetCount > 0 then 1 else 0)

abbrev stSize : Nat := 0x10000
abbrev trSize : Nat := 0x40000
abbrev rareThreshold : UInt16 := 3

/-- The coverage of a campaign: `g_st_key` with `g_st_distinct`, `g_st_cnt`, `g_tr_key`
with `g_tr_distinct`, `g_out_seen` with `g_out_distinct`, and the depth. -/
structure Covered where
  st : ProbeTable UInt32 stSize
  stCnt : Vector UInt16 stSize
  tr : ProbeTable UInt32 trSize
  out : Tally 512
  maxDepth : Nat

def covReset : Covered := ⟨.empty, .replicate stSize 0, .empty, .empty, 0⟩

theorem masked_lt (word mask : UInt32) (size : Nat) (fits : mask.toNat < size) : (word &&& mask).toNat < size :=
  Nat.lt_of_le_of_lt (UInt32.le_iff_toNat_le.mp UInt32.and_le_right) fits

def stEntry (fp : UInt32) : Entry UInt32 stSize where
  start := ⟨(fp * 2654435761 &&& 0xFFFF).toNat, masked_lt _ _ _ (by decide)⟩
  key := fp + 1

/-- The key loses the last bit of the hash, so that two transitions can share it. -/
def trEntry (prev next : UInt32) : Entry UInt32 trSize where
  start := ⟨((prev * 0x9E3779B1 ^^^ (next + 0x85EBCA6B)) * 2246822519 &&& 0x3FFFF).toNat, masked_lt _ _ _ (by decide)⟩
  key := (prev * 0x9E3779B1 ^^^ (next + 0x85EBCA6B)) ||| 1

def Covered.noteState (cov : Covered) (st : ProbeTable UInt32 stSize) (h : Fin stSize) (new : Bool) : Covered :=
  let count := if new then 1 else if cov.stCnt[h] < 0xFFFF then cov.stCnt[h] + 1 else cov.stCnt[h]
  { cov with st, stCnt := cov.stCnt.set h count }

/-- `none` is a search without an end. It also stands for the fingerprint of all ones,
which no state has: its key marks a vacant slot, so the code counts it at each call. -/
def covState (cov : Covered) (fp : UInt32) : Option (Covered × Bool) :=
  if valued : (stEntry fp).key ≠ 0 then
    match cov.st.visit (stEntry fp) valued with
    | some (st, h, new) => some (cov.noteState st h new, new)
    | none => none
  else none

def covTransition (cov : Covered) (prev next : UInt32) : Option (Covered × Bool) :=
  if valued : (trEntry prev next).key ≠ 0 then
    match cov.tr.visit (trEntry prev next) valued with
    | some (tr, _, new) => some ({ cov with tr }, new)
    | none => none
  else none

def covOutcome (cov : Covered) (o : UInt32) : Covered :=
  { cov with out := cov.out.visit ⟨(o &&& 511).toNat, masked_lt _ _ _ (by decide)⟩ }

theorem covOutcome_st (cov : Covered) (o : UInt32) : (covOutcome cov o).st = cov.st := rfl

theorem covOutcome_tr (cov : Covered) (o : UInt32) : (covOutcome cov o).tr = cov.tr := rfl

theorem covOutcome_maxDepth (cov : Covered) (o : UInt32) : (covOutcome cov o).maxDepth = cov.maxDepth := rfl

def covRare (cov : Covered) : Nat :=
  (List.finRange stSize).countP fun i => cov.st.slots[i] ≠ 0 ∧ cov.stCnt[i] ≤ rareThreshold

/-! ## The count of states is exact -/

theorem stEntry_valued {fp : UInt32} (small : fp ≠ 0xFFFFFFFF) : (stEntry fp).key ≠ 0 := by
  intro zero
  apply small
  have back : fp = fp + 1 - 1 := (UInt32.add_sub_cancel fp 1).symm
  rw [back, show fp + 1 = 0 from zero]
  decide

theorem stEntry_injective {fp other : UInt32} (same : (stEntry fp).key = (stEntry other).key) : fp = other :=
  (UInt32.add_left_inj 1).mp same

theorem trEntry_valued (prev next : UInt32) : (trEntry prev next).key ≠ 0 := by
  intro zero
  have least : (1 : UInt32) ≤ (trEntry prev next).key := UInt32.right_le_or
  rw [zero] at least
  exact absurd least (by decide)

/-- The states shown to `cov_state` are those counted. -/
structure Counts (cov : Covered) (seen : Finset UInt32) : Prop where
  records : Records cov.st (seen.image stEntry)
  exact : cov.st.distinct = seen.card

theorem counts_reset : Counts covReset ∅ := ⟨by rw [Finset.image_empty]; exact records_empty, rfl⟩

theorem image_stEntry_card (seen : Finset UInt32) : (seen.image stEntry).card = seen.card :=
  Finset.card_image_of_injective _ fun _ _ same => stEntry_injective (congrArg Entry.key same)

section
variable {cov : Covered} {seen : Finset UInt32} {fp : UInt32}

theorem Counts.covState (counts : Counts cov seen) (valued : fp ≠ 0xFFFFFFFF) (spare : seen.card < stSize) :
    ∃ after new, covState cov fp = some (after, new) ∧ Counts after (insert fp seen) ∧
      (new = true ↔ fp ∉ seen) ∧ after.tr = cov.tr ∧ after.out = cov.out ∧ after.maxDepth = cov.maxDepth := by
  have keyed := stEntry_valued valued
  obtain ⟨st, slot, new, returned⟩ := ProbeTable.visit_returns (counts.exact ▸ spare) keyed
  have visited := ProbeTable.visit_visited returned
  have hashed : ∀ other ∈ seen.image stEntry, other.key = (stEntry fp).key → other = stEntry fp := by
    rintro other member same
    obtain ⟨earlier, -, rfl⟩ := Finset.mem_image.mp member
    rw [stEntry_injective same]
  have exact := counts.records.exact keyed visited hashed (by rw [counts.exact, image_stEntry_card])
  have member : stEntry fp ∈ seen.image stEntry ↔ fp ∈ seen := by
    refine ⟨fun member => ?_, Finset.mem_image_of_mem _⟩
    obtain ⟨other, shown, same⟩ := Finset.mem_image.mp member
    rwa [← stEntry_injective (congrArg Entry.key same)]
  refine ⟨cov.noteState st slot new, new, by rw [Fuzz.covState, dif_pos keyed, returned], ⟨?_, ?_⟩, ?_, rfl, rfl, rfl⟩
  · rw [Finset.image_insert]
    exact counts.records.visited keyed visited
  · rw [← image_stEntry_card, Finset.image_insert]
    exact exact.2
  · rw [exact.1, member]

end

def showStates (cov : Covered) : List UInt32 → Option Covered
  | [] => some cov
  | fp :: rest => (covState cov fp).bind fun shown => showStates shown.1 rest

/-- As long as its slots last, the table counts every state it is shown once. -/
theorem showStates_exact (fps : List UInt32) (valued : 0xFFFFFFFF ∉ fps) (few : fps.toFinset.card < stSize) :
    ∃ cov, showStates covReset fps = some cov ∧ cov.st.distinct = fps.toFinset.card := by
  have general : ∀ (cov : Covered) (seen : Finset UInt32), Counts cov seen → (seen ∪ fps.toFinset).card < stSize →
      ∃ after, showStates cov fps = some after ∧ after.st.distinct = (seen ∪ fps.toFinset).card := by
    clear few
    induction fps with
    | nil => exact fun cov seen counts _ => ⟨cov, rfl, by simpa using counts.exact⟩
    | cons fp rest ih =>
      intro cov seen counts few
      have both : insert fp seen ∪ rest.toFinset = seen ∪ (fp :: rest).toFinset := by
        rw [List.toFinset_cons, Finset.insert_union, Finset.union_insert]
      have spare : seen.card < stSize := Nat.lt_of_le_of_lt (Finset.card_le_card Finset.subset_union_left) few
      obtain ⟨after, new, returned, next, -⟩ :=
        counts.covState (fun same => valued (same ▸ List.mem_cons_self ..)) spare
      obtain ⟨final, rest, counted⟩ := ih (fun member => valued (List.mem_cons_of_mem _ member)) after _ next
        (by rwa [both])
      exact ⟨final, by rw [showStates, returned, Option.bind_some, rest], by rw [counted, both]⟩
  have result := general covReset ∅ counts_reset (by rwa [Finset.empty_union])
  rwa [Finset.empty_union] at result

theorem showStates_exact_three : 0xFFFFFFFF ∉ [(1 : UInt32), 2, 1] ∧
    ∃ cov, showStates covReset [1, 2, 1] = some cov ∧ cov.st.distinct = ([1, 2, 1] : List UInt32).toFinset.card :=
  ⟨by decide, showStates_exact [1, 2, 1] (by decide) (by decide)⟩

end DiagnosticGateway.Fuzz
