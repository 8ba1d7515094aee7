import Mathlib.Data.List.Forall2
import DiagnosticGateway.Library.Traces
import DiagnosticGateway.Ecu.Data

/-! The fault memory of the virtual ECU (`ecu_data.c`): what `ecu_data_read_dtc`
reports, and what `ecu_data_clear_dtc` takes from every later report.

Activity and status are set apart by four operations. That an active entry has a
status within the availability mask is an invariant of the runs.
-/

set_option autoImplicit false

namespace DiagnosticGateway.Ecu
open BigEndian Uds Traces

/-- The loop over the table: `out` is the array of the caller, as long as its
capacity, and `written` the bytes written so far. -/
def writeDtc (statusMask : UInt8) : List Dtc → Bytes → Nat → Result × Bytes × Nat
  | [], out, written => (.ok, out, written)
  | dtc :: rest, out, written =>
    if dtc.active = false then writeDtc statusMask rest out written
    else if dtc.status &&& statusMask = 0 then writeDtc statusMask rest out written
    -- The room is checked before a byte is written.
    else if written + 4 > out.length then (.errBufferTooSmall, out, written)
    else
      let out := out.set written (dtc.code >>> 16).toUInt8
      let out := out.set (written + 1) (dtc.code >>> 8).toUInt8
      let out := out.set (written + 2) dtc.code.toUInt8
      let out := out.set (written + 3) dtc.status
      writeDtc statusMask rest out (written + 4)

def readDtcInto (statusMask : UInt8) (out : Bytes) (outLen : Nat) (data : Data) : Result × Bytes × Nat :=
  match writeDtc statusMask data.dtc out 0 with
  | (.ok, out, written) => (.ok, out, written)
  | (res, out, _) => (res, out, outLen)

def Dtc.record (dtc : Dtc) : Bytes :=
  [(dtc.code >>> 16).toUInt8, (dtc.code >>> 8).toUInt8, dtc.code.toUInt8, dtc.status]

def Dtc.Meets (statusMask : UInt8) (dtc : Dtc) : Prop := dtc.active = true ∧ dtc.status &&& statusMask ≠ 0

instance (statusMask : UInt8) (dtc : Dtc) : Decidable (dtc.Meets statusMask) := inferInstanceAs (Decidable (_ ∧ _))

def selected (statusMask : UInt8) (dtcs : List Dtc) : List Dtc := dtcs.filter fun dtc => dtc.Meets statusMask

def report (statusMask : UInt8) (dtcs : List Dtc) : Bytes := (selected statusMask dtcs).flatMap Dtc.record

section
variable {statusMask : UInt8} {dtc : Dtc} {dtcs : List Dtc}

theorem selected_cons_of_meets (meets : dtc.Meets statusMask) :
    selected statusMask (dtc :: dtcs) = dtc :: selected statusMask dtcs :=
  List.filter_cons_of_pos (decide_eq_true meets)

theorem selected_cons_of_not (passed : ¬ dtc.Meets statusMask) :
    selected statusMask (dtc :: dtcs) = selected statusMask dtcs :=
  List.filter_cons_of_neg (by simpa using passed)

theorem report_length (statusMask : UInt8) (dtcs : List Dtc) :
    (report statusMask dtcs).length = 4 * (selected statusMask dtcs).length := by
  rw [report]
  induction selected statusMask dtcs with
  | nil => rfl
  | cons dtc rest ih =>
    rw [List.flatMap_cons, List.length_append, ih, List.length_cons]
    simp only [Dtc.record, List.length_cons, List.length_nil]
    omega

theorem set_record {before after : Bytes} (room : 4 ≤ after.length) (dtc : Dtc) :
    ((((before ++ after).set before.length (dtc.code >>> 16).toUInt8).set (before.length + 1)
      (dtc.code >>> 8).toUInt8).set (before.length + 2) dtc.code.toUInt8).set (before.length + 3) dtc.status =
      (before ++ dtc.record) ++ after.drop 4 := by
  match after, room with
  | a :: b :: c :: d :: rest, _ => simp [Dtc.record, List.set_append_right]

theorem writeDtc_meets (meets : dtc.Meets statusMask) (out : Bytes) (written : Nat) :
    writeDtc statusMask (dtc :: dtcs) out written =
      if written + 4 > out.length then (.errBufferTooSmall, out, written)
      else
        writeDtc statusMask dtcs
          ((((out.set written (dtc.code >>> 16).toUInt8).set (written + 1) (dtc.code >>> 8).toUInt8).set (written + 2)
            dtc.code.toUInt8).set (written + 3) dtc.status) (written + 4) := by
  rw [writeDtc, if_neg (by simp [meets.1]), if_neg meets.2]

theorem writeDtc_passes (passed : ¬ dtc.Meets statusMask) (out : Bytes) (written : Nat) :
    writeDtc statusMask (dtc :: dtcs) out written = writeDtc statusMask dtcs out written := by
  rw [writeDtc]
  split
  · rfl
  · rename_i active
    have active : dtc.active = true := by simpa using active
    exact if_pos (by_contra fun meets => passed ⟨active, meets⟩)

theorem writeDtc_fits (dtcs : List Dtc) (before after : Bytes)
    (fits : 4 * (selected statusMask dtcs).length ≤ after.length) :
    writeDtc statusMask dtcs (before ++ after) before.length =
      (.ok, (before ++ report statusMask dtcs) ++ after.drop (report statusMask dtcs).length,
        before.length + (report statusMask dtcs).length) := by
  induction dtcs generalizing before after with
  | nil => simp [writeDtc, report, selected]
  | cons dtc rest ih =>
    by_cases meets : dtc.Meets statusMask
    · have reported : report statusMask (dtc :: rest) = dtc.record ++ report statusMask rest := by
        rw [report, selected_cons_of_meets meets, List.flatMap_cons]
        rfl
      rw [selected_cons_of_meets meets, List.length_cons] at fits
      have room : 4 ≤ after.length := by omega
      rw [writeDtc_meets meets, if_neg (by rw [List.length_append]; omega), set_record room]
      have length : (before ++ dtc.record).length = before.length + 4 := by simp [Dtc.record]
      have rests := ih (before ++ dtc.record) (after.drop 4) (by rw [List.length_drop]; omega)
      rw [length] at rests
      rw [rests, reported, List.length_append, List.drop_drop, List.append_assoc before dtc.record]
      simp only [Dtc.record, List.length_cons, List.length_nil]
      rw [Nat.add_assoc before.length]
    · have reported : report statusMask (dtc :: rest) = report statusMask rest := by
        rw [report, selected_cons_of_not meets]
        rfl
      rw [writeDtc_passes meets, reported]
      exact ih before after (by rwa [selected_cons_of_not meets] at fits)

theorem writeDtc_short (dtcs : List Dtc) (out : Bytes) (written : Nat)
    (short : out.length < written + 4 * (selected statusMask dtcs).length) (within : written ≤ out.length) :
    (writeDtc statusMask dtcs out written).1 = .errBufferTooSmall := by
  induction dtcs generalizing out written with
  | nil =>
    simp only [selected, List.filter_nil, List.length_nil] at short
    omega
  | cons dtc rest ih =>
    by_cases meets : dtc.Meets statusMask
    · rw [selected_cons_of_meets meets, List.length_cons] at short
      rw [writeDtc_meets meets]
      split
      · rfl
      · rename_i room
        refine ih _ _ ?_ ?_
        · simp only [List.length_set]
          omega
        · simp only [List.length_set]
          omega
    · rw [selected_cons_of_not meets] at short
      rw [writeDtc_passes meets]
      exact ih out written short within

theorem readDtcInto_eq (statusMask : UInt8) (out : Bytes) (outLen : Nat) (data : Data) :
    if 4 * (selected statusMask data.dtc).length ≤ out.length then
      readDtcInto statusMask out outLen data =
        (.ok, report statusMask data.dtc ++ out.drop (report statusMask data.dtc).length,
          (report statusMask data.dtc).length)
    else
      (readDtcInto statusMask out outLen data).1 = .errBufferTooSmall ∧
        (readDtcInto statusMask out outLen data).2.2 = outLen := by
  split
  · rename_i fits
    have written := writeDtc_fits data.dtc [] out fits
    simp only [List.nil_append, List.length_nil, Nat.zero_add] at written
    rw [readDtcInto, written]
  · rename_i full
    have failed := @writeDtc_short statusMask data.dtc out 0 (by omega) (Nat.zero_le _)
    rw [readDtcInto]
    generalize writeDtc statusMask data.dtc out 0 = written at failed
    obtain ⟨res, out, length⟩ := written
    dsimp only at failed
    subst failed
    exact ⟨rfl, rfl⟩

theorem collectDtc_eq (capacity : Nat) (dtcs : List Dtc) (out : Bytes) (within : out.length ≤ capacity) :
    collectDtc statusMask capacity dtcs out =
      if out.length + 4 * (selected statusMask dtcs).length ≤ capacity then some (out ++ report statusMask dtcs) else none := by
  induction dtcs generalizing out with
  | nil => simp [collectDtc, report, selected, within]
  | cons dtc rest ih =>
    rw [collectDtc]
    by_cases meets : dtc.Meets statusMask
    · have taken : ¬ (dtc.active = false ∨ dtc.status &&& statusMask = 0) := by simp [meets.1, meets.2]
      have length : (out ++ dtc.record).length = out.length + 4 := by simp [Dtc.record]
      rw [if_neg taken, report, selected_cons_of_meets meets, List.flatMap_cons, List.length_cons]
      split
      · rw [if_neg (by omega)]
      · rename_i room
        refine (ih (out ++ dtc.record) (by rw [length]; omega)).trans ?_
        rw [length, List.append_assoc, report]
        refine if_congr ?_ rfl rfl
        omega
    · have passed : dtc.active = false ∨ dtc.status &&& statusMask = 0 := by
        by_contra taken
        obtain ⟨active, status⟩ := not_or.mp taken
        exact meets ⟨by simpa using active, status⟩
      rw [if_pos passed, report, selected_cons_of_not meets]
      exact ih out within

theorem readDtc_eq (statusMask : UInt8) (capacity : Nat) (data : Data) :
    readDtc statusMask capacity data =
      if 4 * (selected statusMask data.dtc).length ≤ capacity then (.ok, report statusMask data.dtc, data)
      else (.errBufferTooSmall, [], data) := by
  rw [readDtc, collectDtc_eq capacity data.dtc [] (Nat.zero_le _)]
  simp only [List.length_nil, Nat.zero_add, List.nil_append]
  by_cases fits : 4 * (selected statusMask data.dtc).length ≤ capacity
  · rw [if_pos fits, if_pos fits]
  · rw [if_neg fits, if_neg fits]

/-- The provider of the server is this call: the bytes it gives are those written. -/
theorem readDtc_refines (statusMask : UInt8) (out : Bytes) (outLen : Nat) (data : Data) :
    (readDtc statusMask out.length data).1 = (readDtcInto statusMask out outLen data).1 ∧
      ((readDtcInto statusMask out outLen data).1 = .ok →
        (readDtc statusMask out.length data).2.1 =
          (readDtcInto statusMask out outLen data).2.1.take (readDtcInto statusMask out outLen data).2.2) := by
  have into := readDtcInto_eq statusMask out outLen data
  rw [readDtc_eq]
  by_cases fits : 4 * (selected statusMask data.dtc).length ≤ out.length
  · rw [if_pos fits] at into ⊢
    rw [into]
    exact ⟨rfl, fun _ => List.take_left.symm⟩
  · rw [if_neg fits] at into ⊢
    rw [into.1]
    exact ⟨rfl, fun done => nomatch done⟩

end

inductive FaultAction where
  | tick
  | clear (group : UInt32)
  | reset (resetType : UInt8)
  deriving DecidableEq, Repr

def faultStep (data : Data) : FaultAction → Data × Result
  | .tick => (tick data, .ok)
  | .clear group => ((clearDtc group data).2, (clearDtc group data).1)
  | .reset resetType => ((reset resetType data).2, (reset resetType data).1)

abbrev FaultStep : Type := Event Data FaultAction Result

def tableCodes : List UInt32 := [0x011700, 0xC12345, 0x016200, 0x010100]

def Dtc.Available (dtc : Dtc) : Prop := dtc.status ≠ 0 ∧ dtc.status &&& dtcAvailabilityMask = dtc.status

instance (dtc : Dtc) : Decidable dtc.Available := inferInstanceAs (Decidable (_ ∧ _))

/-- The codes are those of the table, and an active entry has something to report. -/
structure Consistent (data : Data) : Prop where
  codes : data.dtc.map Dtc.code = tableCodes
  available : ∀ dtc ∈ data.dtc, dtc.active = true → dtc.Available

/-- The group of a clear takes in a code. -/
def Selects (group code : UInt32) : Prop := group = dtcGroupAll ∨ code = group

instance (group code : UInt32) : Decidable (Selects group code) := inferInstanceAs (Decidable (_ ∨ _))

def Dtc.clear (group : UInt32) (dtc : Dtc) : Dtc :=
  if Selects group dtc.code then { dtc with active := false, status := 0 } else dtc

section
variable {data : Data} {group : UInt32}

theorem consistent_init : Consistent .init where
  codes := rfl
  available := by decide

theorem Consistent.entries {dtcs : List Dtc} (consistent : Consistent data)
    (changed : List.Forall₂ (fun before after : Dtc => after.code = before.code ∧
      (after = before ∨ after.active = false ∨ after.Available)) data.dtc dtcs) :
    dtcs.map Dtc.code = tableCodes ∧ ∀ dtc ∈ dtcs, dtc.active = true → dtc.Available := by
  obtain ⟨codes, available⟩ := consistent
  rw [← codes]
  generalize data.dtc = before at changed available
  clear codes
  induction changed with
  | nil => exact ⟨rfl, available⟩
  | @cons b a _ _ change _ ih =>
    obtain ⟨code, kind⟩ := change
    obtain ⟨first, others⟩ := List.forall_mem_cons.mp available
    obtain ⟨codes, rests⟩ := ih others
    refine ⟨by rw [List.map_cons, List.map_cons, code, codes], List.forall_mem_cons.mpr ⟨fun active => ?_, rests⟩⟩
    rcases kind with rfl | inactive | fine
    · exact first active
    · exact Bool.noConfusion (inactive.symm.trans active)
    · exact fine

theorem clearDtc_dtc (group : UInt32) (data : Data) : (clearDtc group data).2.dtc = data.dtc.map (Dtc.clear group) := by
  simp only [clearDtc]
  exact List.map_congr_left fun dtc _ => if_congr (by simp [Selects]) rfl rfl

theorem clearDtc_ok : (clearDtc group data).1 = .ok ↔ ∃ dtc ∈ data.dtc, Selects group dtc.code := by
  simp only [clearDtc]
  split
  · rename_i found
    exact iff_of_true rfl (by simpa [Selects] using found)
  · rename_i missing
    exact iff_of_false (by decide) (by simpa [Selects] using missing)

theorem Dtc.clear_code (group : UInt32) (dtc : Dtc) : (dtc.clear group).code = dtc.code := by
  rw [Dtc.clear]
  split <;> rfl

theorem Consistent.clear (consistent : Consistent data) (group : UInt32) : Consistent (clearDtc group data).2 := by
  have changed := @Consistent.entries data (data.dtc.map (Dtc.clear group)) consistent (by
    rw [List.forall₂_map_right_iff, List.forall₂_same]
    intro dtc _
    refine ⟨dtc.clear_code group, ?_⟩
    rw [Dtc.clear]
    split
    · exact .inr (.inl rfl)
    · exact .inl rfl)
  rw [← clearDtc_dtc] at changed
  exact ⟨changed.1, changed.2⟩

theorem forall₂_modify {α β : Type} {related : α → β → Prop} {first : List α} {second : List β} (f : α → α) (g : β → β)
    (keep : ∀ a b, related a b → related (f a) (g b)) (all : List.Forall₂ related first second) (index : Nat) :
    List.Forall₂ related (first.modify index f) (second.modify index g) := by
  induction all generalizing index with
  | nil => cases index <;> exact .nil
  | @cons a b _ _ head tail ih =>
    cases index with
    | zero => exact .cons (keep a b head) tail
    | succ index => exact .cons head (ih index)

theorem raiseUndervoltage_code (batteryMv : UInt16) (dtc : Dtc) : (raiseUndervoltage batteryMv dtc).code = dtc.code := by
  rw [raiseUndervoltage]
  split <;> rfl

theorem tick_dtc (data : Data) : (tick data).dtc = data.dtc.modify 2 (raiseUndervoltage (tick data).batteryMv) := rfl

theorem Consistent.tick (consistent : Consistent data) : Consistent (Ecu.tick data) := by
  have fine : (dtcStatusTestFailed ||| dtcStatusConfirmed) ≠ 0 ∧
      (dtcStatusTestFailed ||| dtcStatusConfirmed) &&& dtcAvailabilityMask =
        dtcStatusTestFailed ||| dtcStatusConfirmed := by decide
  have same : List.Forall₂ (fun before after : Dtc => after.code = before.code ∧
      (after = before ∨ after.active = false ∨ after.Available)) data.dtc data.dtc :=
    List.forall₂_same.mpr fun dtc _ => ⟨rfl, .inl rfl⟩
  have raised := forall₂_modify id (raiseUndervoltage (Ecu.tick data).batteryMv) (by
    rintro before after ⟨code, kind⟩
    refine ⟨(raiseUndervoltage_code _ after).trans code, ?_⟩
    rw [raiseUndervoltage]
    split
    · exact .inr (.inr fine)
    · exact kind) same 2
  rw [List.modify_id] at raised
  have changed := consistent.entries raised
  exact ⟨changed.1, changed.2⟩

theorem Consistent.step (consistent : Consistent data) (action : FaultAction) :
    Consistent (faultStep data action).1 := by
  cases action with
  | tick => exact consistent.tick
  | clear group => exact consistent.clear group
  | reset resetType => exact ⟨consistent_init.codes, consistent_init.available⟩

end

/-! ## What a clear takes away -/

def Active (code : UInt32) (data : Data) : Prop := ∃ dtc ∈ data.dtc, dtc.code = code ∧ dtc.active = true

def Raises (code : UInt32) (e : FaultStep) : Prop :=
  (e.action = .tick ∨ ∃ resetType, e.action = .reset resetType) ∧ ¬ Active code e.before ∧ Active code e.after

/-- In every later report the entries of the group are gone until they are raised
again, and the others are those of the same calls without the clear. -/
def ClearsExactly (group : UInt32) (data : Data) : Prop :=
  ∀ (later : List FaultAction) (statusMask : UInt8),
    let cleared := final faultStep (clearDtc group data).2 later
    let kept := final faultStep data later
    (∀ dtc ∈ selected statusMask cleared.dtc, Selects group dtc.code →
      ∃ e ∈ trace faultStep (clearDtc group data).2 later, Raises dtc.code e) ∧
    (selected statusMask cleared.dtc).filter (fun dtc => ¬ Selects group dtc.code) =
      (selected statusMask kept.dtc).filter fun dtc => ¬ Selects group dtc.code

structure AlikeBut (group : UInt32) (first second : Data) : Prop where
  tick : first.tick = second.tick
  dtcs : List.Forall₂ (fun a b : Dtc => a.code = b.code ∧ (¬ Selects group a.code → a = b)) first.dtc second.dtc

section
variable {data first second : Data} {group code : UInt32}

theorem not_active_clear (selects : Selects group code) : ¬ Active code (clearDtc group data).2 := by
  rintro ⟨dtc, member, same, active⟩
  rw [clearDtc_dtc] at member
  obtain ⟨before, -, rfl⟩ := List.mem_map.mp member
  rw [Dtc.clear_code] at same
  rw [Dtc.clear, if_pos (same ▸ selects)] at active
  cases active

theorem active_of_clear (active : Active code (clearDtc group data).2) : Active code data := by
  obtain ⟨dtc, member, same, active⟩ := active
  rw [clearDtc_dtc] at member
  obtain ⟨before, present, rfl⟩ := List.mem_map.mp member
  rw [Dtc.clear_code] at same
  rw [Dtc.clear] at active
  split at active
  · cases active
  · exact ⟨before, present, same, active⟩

theorem active_of_selected {statusMask : UInt8} {dtc : Dtc} (member : dtc ∈ selected statusMask data.dtc) :
    Active dtc.code data := by
  obtain ⟨present, meets⟩ := List.mem_filter.mp member
  exact ⟨dtc, present, rfl, (of_decide_eq_true meets).1⟩

theorem raised_of_active (initially : ¬ Active code data) (later : List FaultAction)
    (active : Active code (final faultStep data later)) : ∃ e ∈ trace faultStep data later, Raises code e := by
  obtain ⟨e, member, before, after⟩ := exists_change faultStep initially active
  refine ⟨e, member, ?_, before, after⟩
  rw [eq_event_of_mem faultStep member] at after
  cases action : e.action with
  | tick => exact .inl rfl
  | reset resetType => exact .inr ⟨resetType, rfl⟩
  | clear group =>
    rw [action] at after
    exact absurd (active_of_clear after) before

theorem alikeBut_clear (group : UInt32) (data : Data) : AlikeBut group (clearDtc group data).2 data where
  tick := rfl
  dtcs := by
    rw [clearDtc_dtc, List.forall₂_map_left_iff, List.forall₂_same]
    exact fun dtc _ => ⟨dtc.clear_code group, fun other => if_neg (dtc.clear_code group ▸ other)⟩

theorem AlikeBut.step (alike : AlikeBut group first second) (action : FaultAction) :
    AlikeBut group (faultStep first action).1 (faultStep second action).1 := by
  cases action with
  | tick =>
    have battery : (Ecu.tick first).batteryMv = (Ecu.tick second).batteryMv := by simp only [Ecu.tick, alike.tick]
    refine ⟨by simp only [faultStep, Ecu.tick, alike.tick], ?_⟩
    simp only [faultStep, tick_dtc, battery]
    refine forall₂_modify _ _ ?_ alike.dtcs 2
    rintro a b ⟨code, same⟩
    rw [raiseUndervoltage_code, raiseUndervoltage_code]
    exact ⟨code, fun other => by rw [same other]⟩
  | clear other =>
    refine ⟨alike.tick, ?_⟩
    simp only [faultStep, clearDtc_dtc, List.forall₂_map_left_iff, List.forall₂_map_right_iff]
    refine alike.dtcs.imp ?_
    rintro a b ⟨code, same⟩
    rw [Dtc.clear_code, Dtc.clear_code]
    exact ⟨code, fun kept => by rw [same kept]⟩
  | reset resetType => exact ⟨rfl, List.forall₂_same.mpr fun _ _ => ⟨rfl, fun _ => rfl⟩⟩

theorem AlikeBut.run (alike : AlikeBut group first second) (later : List FaultAction) :
    AlikeBut group (final faultStep first later) (final faultStep second later) := by
  induction later generalizing first second with
  | nil => exact alike
  | cons action rest ih => exact ih (alike.step action)

theorem AlikeBut.selected (alike : AlikeBut group first second) (statusMask : UInt8) :
    (Ecu.selected statusMask first.dtc).filter (fun dtc => ¬ Selects group dtc.code) =
      (Ecu.selected statusMask second.dtc).filter fun dtc => ¬ Selects group dtc.code := by
  obtain ⟨-, dtcs⟩ := alike
  generalize first.dtc = a at dtcs
  generalize second.dtc = b at dtcs
  simp only [Ecu.selected, List.filter_filter]
  induction dtcs with
  | nil => rfl
  | @cons x y _ _ head _ ih =>
    obtain ⟨code, same⟩ := head
    by_cases inGroup : Selects group x.code
    · rw [List.filter_cons_of_neg (by simp [inGroup]), List.filter_cons_of_neg (by simp [← code, inGroup]), ih]
    · rw [same inGroup, List.filter_cons, List.filter_cons, ih]

theorem clearsExactly (group : UInt32) (data : Data) : ClearsExactly group data := by
  intro later statusMask
  refine ⟨fun dtc member selects => ?_, ((alikeBut_clear group data).run later).selected statusMask⟩
  exact raised_of_active (not_active_clear selects) later (active_of_selected member)

theorem Consistent.clearDtc_ok (consistent : Consistent data) :
    (clearDtc group data).1 = .ok ↔ group = dtcGroupAll ∨ group ∈ tableCodes := by
  rw [Ecu.clearDtc_ok, ← consistent.codes]
  constructor
  · rintro ⟨dtc, member, whole | same⟩
    · exact .inl whole
    · exact .inr (same ▸ List.mem_map_of_mem member)
  · rintro (whole | listed)
    · have nonempty : data.dtc ≠ [] := by
        intro empty
        have codes := consistent.codes
        rw [empty] at codes
        cases codes
      obtain ⟨dtc, member⟩ := List.exists_mem_of_ne_nil _ nonempty
      exact ⟨dtc, member, .inl whole⟩
    · obtain ⟨dtc, member, same⟩ := List.mem_map.mp listed
      exact ⟨dtc, member, .inr same⟩

theorem clearDtc_refused (refused : (clearDtc group data).1 ≠ .ok) : (clearDtc group data).2 = data := by
  have none : ∀ dtc ∈ data.dtc, ¬ Selects group dtc.code := by
    intro dtc member selects
    exact refused (Ecu.clearDtc_ok.mpr ⟨dtc, member, selects⟩)
  have same : (clearDtc group data).2.dtc = data.dtc := by
    rw [clearDtc_dtc]
    exact (List.map_congr_left fun dtc member => if_neg (none dtc member)).trans (List.map_id _)
  calc (clearDtc group data).2 = { data with dtc := (clearDtc group data).2.dtc } := rfl
    _ = data := by rw [same]

end

/-- In every state of a run the report is exact for every mask and capacity, what
it reports is available, and a clear succeeds for the codes of the table and for
all of them, and takes away just those. -/
theorem fault_memory_exact (actions : List FaultAction) :
    let data := final faultStep .init actions
    (∀ (statusMask : UInt8) (out : Bytes) (outLen : Nat),
      if 4 * (selected statusMask data.dtc).length ≤ out.length then
        readDtcInto statusMask out outLen data =
          (.ok, report statusMask data.dtc ++ out.drop (report statusMask data.dtc).length,
            4 * (selected statusMask data.dtc).length)
      else
        (readDtcInto statusMask out outLen data).1 = .errBufferTooSmall ∧
          (readDtcInto statusMask out outLen data).2.2 = outLen) ∧
    (∀ (statusMask : UInt8), ∀ dtc ∈ selected statusMask data.dtc, dtc.Available) ∧
    ∀ group : UInt32, ((clearDtc group data).1 = .ok ↔ group = dtcGroupAll ∨ group ∈ tableCodes) ∧
      ((clearDtc group data).1 = .ok → ClearsExactly group data) ∧
      ((clearDtc group data).1 ≠ .ok → (clearDtc group data).2 = data) := by
  have consistent : Consistent (final faultStep .init actions) :=
    state_invariant faultStep Consistent consistent_init (fun _ action consistent => consistent.step action) actions
  generalize final faultStep .init actions = data at consistent
  dsimp only
  refine ⟨fun statusMask out outLen => ?_, fun statusMask dtc member => ?_, fun group =>
    ⟨consistent.clearDtc_ok, fun _ => clearsExactly group data, clearDtc_refused⟩⟩
  · rw [← report_length]
    have read := readDtcInto_eq statusMask out outLen data
    rwa [← report_length] at read
  · obtain ⟨present, meets⟩ := List.mem_filter.mp member
    exact consistent.available dtc present (of_decide_eq_true meets).1

end DiagnosticGateway.Ecu
