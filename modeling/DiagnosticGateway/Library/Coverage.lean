import Mathlib.Data.Finset.Card
import Mathlib.Data.Fintype.Card

/-! Tables that count how many different things they have been shown.

A tally has one flag for each of them. A probe table is an array of keys searched
linearly from a start that the caller computes; nothing is ever taken out of it, so
what a probe once found it finds again. Zero is no key: it marks a vacant slot.
-/

set_option autoImplicit false

namespace Coverage

variable {n : Nat}

def marked (flags : Vector Bool n) : Finset (Fin n) := Finset.univ.filter fun i => flags[i] = true

@[simp] theorem mem_marked {flags : Vector Bool n} {i : Fin n} : i ∈ marked flags ↔ flags[i] = true := by
  simp [marked]

theorem marked_set (flags : Vector Bool n) (i : Fin n) : marked (flags.set i true) = insert i (marked flags) := by
  ext j
  simp only [mem_marked, Finset.mem_insert, Fin.getElem_fin, Vector.getElem_set, Fin.ext_iff]
  by_cases same : i.val = j.val
  · simp [same]
  · simp [same, Ne.symm same]

structure Tally (n : Nat) where
  flags : Vector Bool n
  distinct : Nat
  counted : distinct = (marked flags).card

namespace Tally

def empty : Tally n := ⟨.replicate n false, 0, by simp [marked]⟩

def visit (tally : Tally n) (i : Fin n) : Tally n :=
  if clear : tally.flags[i] = false then
    ⟨tally.flags.set i true, tally.distinct + 1, by
      have fresh : i ∉ marked tally.flags := by simp [clear]
      rw [marked_set, Finset.card_insert_of_notMem fresh, tally.counted]⟩
  else tally

theorem marked_empty : marked (empty : Tally n).flags = ∅ := by simp [marked, empty]

theorem marked_visit (tally : Tally n) (i : Fin n) : marked (tally.visit i).flags = insert i (marked tally.flags) := by
  unfold visit
  split
  · exact marked_set tally.flags i
  · rename_i set
    have member : i ∈ marked tally.flags := mem_marked.mpr (by simpa using set)
    exact (Finset.insert_eq_of_mem member).symm

theorem distinct_le {tally : Tally n} {shown : Finset (Fin n)} (within : marked tally.flags ⊆ shown) :
    tally.distinct ≤ shown.card := tally.counted ▸ Finset.card_le_card within

end Tally

/-! ## Linear probing -/

variable {α : Type*} [Zero α] [DecidableEq α]

def slotAt (start : Fin n) (distance : Nat) : Fin n :=
  ⟨(start + distance) % n, Nat.mod_lt _ (Nat.lt_of_le_of_lt (Nat.zero_le _) start.isLt)⟩

@[simp] theorem slotAt_zero (start : Fin n) : slotAt start 0 = start :=
  Fin.ext (Nat.mod_eq_of_lt start.isLt)

@[simp] theorem slotAt_slotAt (start : Fin n) (first second : Nat) :
    slotAt (slotAt start first) second = slotAt start (first + second) := by
  apply Fin.ext
  simp [slotAt, Nat.add_assoc]

theorem exists_slotAt (start slot : Fin n) : ∃ distance < n, slotAt start distance = slot := by
  refine ⟨(slot + n - start) % n, Nat.mod_lt _ (Nat.lt_of_le_of_lt (Nat.zero_le _) start.isLt), Fin.ext ?_⟩
  have lower := start.isLt
  have upper := slot.isLt
  have around : start.val + (slot.val + n - start.val) = slot.val + n := by omega
  change (start.val + (slot.val + n - start.val) % n) % n = slot.val
  rw [Nat.add_mod_mod, around, Nat.add_mod_right, Nat.mod_eq_of_lt upper]

/-- The first slot that holds the key or nothing, if it comes up in so many turns. -/
def probe (slots : Vector α n) (key : α) (start : Fin n) : Nat → Option (Fin n)
  | 0 => none
  | turns + 1 =>
    if slots[start] = 0 ∨ slots[start] = key then some start else probe slots key (slotAt start 1) turns

structure EndsAt (slots : Vector α n) (key : α) (start : Fin n) (distance : Nat) : Prop where
  ends : slots[slotAt start distance] = 0 ∨ slots[slotAt start distance] = key
  passes : ∀ nearer < distance, slots[slotAt start nearer] ≠ 0 ∧ slots[slotAt start nearer] ≠ key

section
variable {slots : Vector α n} {key : α} {start : Fin n}

omit [DecidableEq α] in
theorem EndsAt.of_next {distance : Nat} (here : ¬ (slots[start] = 0 ∨ slots[start] = key))
    (later : EndsAt slots key (slotAt start 1) distance) : EndsAt slots key start (distance + 1) where
  ends := by simpa [Nat.add_comm] using later.ends
  passes := fun nearer close => by
    cases nearer with
    | zero => simpa using not_or.mp here
    | succ nearer => simpa [Nat.add_comm] using later.passes nearer (Nat.lt_of_succ_lt_succ close)

theorem probe_some {turns : Nat} {slot : Fin n} (found : probe slots key start turns = some slot) :
    ∃ distance < turns, slot = slotAt start distance ∧ EndsAt slots key start distance := by
  induction turns generalizing start with
  | zero => cases found
  | succ turns ih =>
    rw [probe] at found
    split at found
    · rename_i here
      obtain rfl := Option.some.inj found
      exact ⟨0, Nat.succ_pos _, (slotAt_zero _).symm, by simpa using here,
        fun nearer close => absurd close (Nat.not_lt_zero _)⟩
    · rename_i here
      obtain ⟨distance, close, rfl, later⟩ := ih found
      exact ⟨distance + 1, Nat.succ_lt_succ close, by rw [slotAt_slotAt, Nat.add_comm], .of_next here later⟩

theorem probe_none {turns : Nat} (missed : probe slots key start turns = none) :
    ∀ distance < turns, slots[slotAt start distance] ≠ (0 : α) := by
  induction turns generalizing start with
  | zero => exact fun distance close => absurd close (Nat.not_lt_zero _)
  | succ turns ih =>
    rw [probe] at missed
    split at missed
    · cases missed
    · rename_i here
      intro distance close
      cases distance with
      | zero => simpa using (not_or.mp here).1
      | succ distance => simpa [Nat.add_comm] using ih missed distance (Nat.lt_of_succ_lt_succ close)

end

def occupied (slots : Vector α n) : Finset (Fin n) := Finset.univ.filter fun i => slots[i] ≠ 0

@[simp] theorem mem_occupied {slots : Vector α n} {i : Fin n} : i ∈ occupied slots ↔ slots[i] ≠ 0 := by
  simp [occupied]

theorem occupied_set {slots : Vector α n} {i : Fin n} {key : α} (valued : key ≠ 0) :
    occupied (slots.set i key) = insert i (occupied slots) := by
  ext j
  simp only [mem_occupied, Finset.mem_insert, Fin.getElem_fin, Vector.getElem_set, Fin.ext_iff]
  by_cases same : i.val = j.val
  · simp [same, valued]
  · simp [same, Ne.symm same]

structure ProbeTable (α : Type*) [Zero α] [DecidableEq α] (n : Nat) where
  slots : Vector α n
  distinct : Nat
  counted : distinct = (occupied slots).card

structure Entry (α : Type*) (n : Nat) where
  start : Fin n
  key : α
  deriving DecidableEq

namespace ProbeTable

def empty : ProbeTable α n := ⟨.replicate n 0, 0, by simp [occupied]⟩

/-- Look a key up and put it in if it is not there: the slot it is in now and whether
it is new. `none` is a search that has gone around the whole table. -/
def visit (table : ProbeTable α n) (entry : Entry α n) (valued : entry.key ≠ 0) :
    Option (ProbeTable α n × Fin n × Bool) :=
  match probe table.slots entry.key entry.start n with
  | none => none
  | some slot =>
    if vacant : table.slots[slot] = 0 then
      some (⟨table.slots.set slot entry.key, table.distinct + 1, by
        have fresh : slot ∉ occupied table.slots := by simp [vacant]
        rw [occupied_set valued, Finset.card_insert_of_notMem fresh, table.counted]⟩, slot, true)
    else some (table, slot, false)

/-- The key is in the table, and a search from the start comes to it. -/
def Finds (table : ProbeTable α n) (entry : Entry α n) : Prop :=
  ∃ distance, table.slots[slotAt entry.start distance] = entry.key ∧
    ∀ nearer < distance, table.slots[slotAt entry.start nearer] ≠ 0

variable {table : ProbeTable α n} {entry : Entry α n}

theorem visit_returns (spare : table.distinct < n) (valued : entry.key ≠ 0) :
    ∃ after slot new, table.visit entry valued = some (after, slot, new) := by
  cases searched : probe table.slots entry.key entry.start n with
  | none =>
    have full : occupied table.slots = Finset.univ := by
      ext slot
      obtain ⟨distance, close, rfl⟩ := exists_slotAt entry.start slot
      simpa using probe_none searched distance close
    have all := table.counted
    rw [full, Finset.card_univ, Fintype.card_fin] at all
    omega
  | some slot =>
    simp only [visit, searched]
    split
    · exact ⟨_, _, _, rfl⟩
    · exact ⟨_, _, _, rfl⟩

inductive Visited (table : ProbeTable α n) (entry : Entry α n) : ProbeTable α n → Bool → Prop where
  | known (found : table.Finds entry) : Visited table entry table false
  | added {after : ProbeTable α n} (distance : Nat) (vacant : table.slots[slotAt entry.start distance] = 0)
      (passes : ∀ nearer < distance,
        table.slots[slotAt entry.start nearer] ≠ 0 ∧ table.slots[slotAt entry.start nearer] ≠ entry.key)
      (slots : after.slots = table.slots.set (slotAt entry.start distance) entry.key)
      (counted : after.distinct = table.distinct + 1) : Visited table entry after true

theorem visit_visited {valued : entry.key ≠ 0} {after : ProbeTable α n} {slot : Fin n} {new : Bool}
    (returned : table.visit entry valued = some (after, slot, new)) : Visited table entry after new := by
  cases searched : probe table.slots entry.key entry.start n with
  | none => simp [visit, searched] at returned
  | some found =>
    obtain ⟨distance, -, rfl, ends⟩ := probe_some searched
    simp only [visit, searched] at returned
    split at returned
    · rename_i vacant
      cases returned
      exact .added distance vacant ends.passes rfl rfl
    · rename_i taken
      cases returned
      exact .known ⟨distance, ends.ends.resolve_left taken, fun nearer close => (ends.passes nearer close).1⟩

theorem Visited.keeps {after : ProbeTable α n} {new : Bool} (visited : Visited table entry after new) {slot : Fin n}
    (taken : table.slots[slot] ≠ 0) : after.slots[slot] = table.slots[slot] := by
  cases visited with
  | known => rfl
  | added distance vacant passes slots =>
    have other : (slotAt entry.start distance).val ≠ slot.val := fun same => taken (Fin.ext same ▸ vacant)
    simp only [slots, Fin.getElem_fin, Vector.getElem_set, if_neg other]

theorem Visited.finds {after : ProbeTable α n} {new : Bool} (visited : Visited table entry after new)
    {other : Entry α n} (valued : other.key ≠ 0) (found : table.Finds other) : after.Finds other := by
  obtain ⟨distance, here, passes⟩ := found
  refine ⟨distance, ?_, fun nearer close => ?_⟩
  · rw [visited.keeps (by rwa [here]), here]
  · rw [visited.keeps (passes nearer close)]
    exact passes nearer close

theorem Visited.finds_entry {after : ProbeTable α n} {new : Bool} (visited : Visited table entry after new) :
    after.Finds entry := by
  have keeps := @Visited.keeps _ _ _ _ _ _ _ _ visited
  cases visited with
  | known found => exact found
  | added distance vacant passes slots =>
    refine ⟨distance, by simp [slots], fun nearer close => ?_⟩
    rw [keeps (passes nearer close).1]
    exact (passes nearer close).1

theorem Visited.known_of_finds {after : ProbeTable α n} {new : Bool} (visited : Visited table entry after new)
    (found : table.Finds entry) (valued : entry.key ≠ 0) : after = table ∧ new = false := by
  cases visited with
  | known => exact ⟨rfl, rfl⟩
  | added distance vacant passes slots =>
    obtain ⟨there, here, before⟩ := found
    -- The search would have ended at the key, or at the vacant slot before it.
    rcases Nat.lt_trichotomy there distance with closer | rfl | further
    · exact absurd here (passes there closer).2
    · exact absurd (here.symm.trans vacant) valued
    · exact absurd vacant (before distance further)

end ProbeTable

/-- The table is what visiting these entries left of an empty one: it finds each of
them, holds nothing else, and has counted none of them twice. -/
structure Records (table : ProbeTable α n) (entries : Finset (Entry α n)) : Prop where
  valued : ∀ entry ∈ entries, entry.key ≠ 0
  finds : ∀ entry ∈ entries, table.Finds entry
  stored : ∀ slot : Fin n, table.slots[slot] ≠ 0 → ∃ entry ∈ entries, entry.key = table.slots[slot]
  distinct : table.distinct ≤ entries.card

theorem records_empty : Records (.empty : ProbeTable α n) ∅ where
  valued := fun _ member => absurd member (Finset.notMem_empty _)
  finds := fun _ member => absurd member (Finset.notMem_empty _)
  stored := fun slot taken => absurd (by simp [ProbeTable.empty]) taken
  distinct := Nat.zero_le _

section
variable {table after : ProbeTable α n} {entries : Finset (Entry α n)} {entry : Entry α n}
  {new : Bool}

theorem Records.visited (records : Records table entries) (valued : entry.key ≠ 0)
    (visited : table.Visited entry after new) : Records after (insert entry entries) where
  valued := fun other member => (Finset.mem_insert.mp member).elim (fun same => same ▸ valued) (records.valued other)
  finds := fun other member => by
    rcases Finset.mem_insert.mp member with rfl | earlier
    · exact visited.finds_entry
    · exact visited.finds (records.valued other earlier) (records.finds other earlier)
  stored := fun slot taken => by
    cases visited with
    | known =>
      obtain ⟨other, member, same⟩ := records.stored slot taken
      exact ⟨other, Finset.mem_insert_of_mem member, same⟩
    | added distance _ _ slots =>
      simp only [slots, Fin.getElem_fin, Vector.getElem_set] at taken ⊢
      by_cases here : (slotAt entry.start distance).val = slot.val
      · exact ⟨entry, Finset.mem_insert_self _ _, by rw [if_pos here]⟩
      · rw [if_neg here] at taken ⊢
        obtain ⟨other, member, same⟩ := records.stored slot taken
        exact ⟨other, Finset.mem_insert_of_mem member, same⟩
  distinct := by
    by_cases member : entry ∈ entries
    · rw [(visited.known_of_finds (records.finds entry member) valued).1, Finset.insert_eq_of_mem member]
      exact records.distinct
    · rw [Finset.card_insert_of_notMem member]
      cases visited with
      | known => exact Nat.le_succ_of_le records.distinct
      | added _ _ _ _ counted =>
        rw [counted]
        exact Nat.succ_le_succ records.distinct

/-- Where the start is a function of the key, a key is new exactly if it was never
visited, and the count is exact. -/
theorem Records.exact (records : Records table entries) (valued : entry.key ≠ 0)
    (visited : table.Visited entry after new) (hashed : ∀ other ∈ entries, other.key = entry.key → other = entry)
    (all : table.distinct = entries.card) :
    (new = true ↔ entry ∉ entries) ∧ after.distinct = (insert entry entries).card := by
  by_cases member : entry ∈ entries
  · obtain ⟨rfl, rfl⟩ := visited.known_of_finds (records.finds entry member) valued
    exact ⟨iff_of_false Bool.false_ne_true (not_not.mpr member), by rw [Finset.insert_eq_of_mem member, all]⟩
  · cases visited with
    | known found =>
      obtain ⟨distance, here, -⟩ := found
      obtain ⟨other, earlier, same⟩ := records.stored _ (by rwa [here])
      exact absurd (hashed other earlier (same.trans here) ▸ earlier) member
    | added _ _ _ _ counted =>
      exact ⟨iff_of_true rfl member, by rw [counted, all, Finset.card_insert_of_notMem member]⟩

end

end Coverage
