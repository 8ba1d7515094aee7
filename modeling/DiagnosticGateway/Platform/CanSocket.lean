import DiagnosticGateway.Library.TaggedWord
import DiagnosticGateway.Platform.DiagLink

/-! The frames of a raw CAN socket (`can_socket.c`), and what they are addressed with.

The word `can_id` holds the identifier and three flags. `can_socket_recv` drops remote
and error frames and gives out the number of the identifier without its format.
-/

set_option autoImplicit false

namespace DiagnosticGateway.Platform
open BigEndian

abbrev canEffFlag : UInt32 := 0x80000000
abbrev canRtrFlag : UInt32 := 0x40000000
abbrev canErrFlag : UInt32 := 0x20000000
abbrev canSffMask : UInt32 := 0x7FF
abbrev canEffMask : UInt32 := 0x1FFFFFFF
abbrev canMaxDlen : UInt8 := 8

structure CanFrame where
  canId : UInt32
  canDlc : UInt8
  data : Vector UInt8 8
  deriving DecidableEq, Repr

def CanFrame.payload (frame : CanFrame) : Bytes :=
  let len := if frame.canDlc > canMaxDlen then canMaxDlen else frame.canDlc
  frame.data.toList.take len.toNat

inductive Errno where
  | eagain
  | ewouldblock
  | eintr
  | other
  deriving DecidableEq, Repr

/-- What `read` on the socket comes back with; `closed`, when there is no descriptor
to read. -/
inductive ReadResult where
  | closed
  | failed (errno : Errno)
  | short
  | frame (frame : CanFrame)
  deriving DecidableEq, Repr

def canSocketRecv : ReadResult → Received
  | .closed => .error
  | .failed errno => if errno = .eagain ∨ errno = .ewouldblock ∨ errno = .eintr then .silence else .error
  | .short => .silence
  | .frame frame =>
    if frame.canId &&& (canErrFlag ||| canRtrFlag) ≠ 0 then .silence
    else if frame.canId &&& canEffFlag ≠ 0 then .frame (frame.canId &&& canEffMask) frame.payload
    else .frame (frame.canId &&& canSffMask) frame.payload

def canSocketSend (canId : UInt32) (data : Bytes) : Option CanFrame :=
  if data.length > canMaxDlen.toNat then none
  else some ⟨canId, UInt8.ofNat data.length, Vector.ofFn fun index => byteAt data index⟩

/-! ## Identifiers -/

/-- The two formats number apart. -/
inductive Identifier where
  | standard (number : BitVec 11)
  | extended (number : BitVec 29)
  deriving DecidableEq, Repr

def Identifier.number : Identifier → UInt32
  | .standard number => ⟨number.setWidth 32⟩
  | .extended number => ⟨number.setWidth 32⟩

def Identifier.word : Identifier → UInt32
  | .standard number => ⟨number.setWidth 32⟩
  | .extended number => ⟨TaggedWord.tagged 32 31 number⟩

def DataFrame (raw : UInt32) : Prop := raw &&& canErrFlag = 0 ∧ raw &&& canRtrFlag = 0

instance (raw : UInt32) : Decidable (DataFrame raw) := inferInstanceAs (Decidable (_ ∧ _))

def identifier (raw : UInt32) : Option Identifier :=
  if ¬ DataFrame raw then none
  else if raw &&& canEffFlag ≠ 0 then some (.extended (raw.toBitVec.setWidth 29))
  else some (.standard (raw.toBitVec.setWidth 11))

section
variable {raw : UInt32}

theorem flag_clear_iff {flag : UInt32} (bit : Nat) (single : flag.toBitVec = BitVec.twoPow 32 bit) (inside : bit < 32) :
    raw &&& flag = 0 ↔ raw.toBitVec.getLsbD bit = false := by
  rw [← UInt32.toBitVec_inj, UInt32.toBitVec_and, single]
  exact TaggedWord.and_flag_eq_zero_iff raw.toBitVec inside

theorem canEffFlag_clear_iff : raw &&& canEffFlag = 0 ↔ raw.toBitVec.getLsbD 31 = false :=
  flag_clear_iff 31 rfl (by decide)

theorem dataFrame_bits_iff :
    DataFrame raw ↔ raw.toBitVec.getLsbD 29 = false ∧ raw.toBitVec.getLsbD 30 = false :=
  and_congr (flag_clear_iff 29 rfl (by decide)) (flag_clear_iff 30 rfl (by decide))

theorem and_mask {mask : UInt32} (n : Nat) (low : mask.toBitVec = BitVec.ofNat 32 (2 ^ n - 1)) :
    raw &&& mask = ⟨(raw.toBitVec.setWidth n).setWidth 32⟩ := by
  rw [← UInt32.toBitVec_inj, UInt32.toBitVec_and, low]
  exact TaggedWord.and_lowMask raw.toBitVec

theorem and_canSffMask : raw &&& canSffMask = (Identifier.standard (raw.toBitVec.setWidth 11)).number :=
  and_mask 11 rfl

theorem and_canEffMask : raw &&& canEffMask = (Identifier.extended (raw.toBitVec.setWidth 29)).number :=
  and_mask 29 rfl

theorem dataFrame_iff : DataFrame raw ↔ raw &&& (canErrFlag ||| canRtrFlag) = 0 := by
  have parts : raw &&& (canErrFlag ||| canRtrFlag) = raw &&& canErrFlag ||| raw &&& canRtrFlag :=
    UInt32.toBitVec_inj.mp BitVec.and_or_distrib_left
  rw [parts, UInt32.or_eq_zero_iff]
  rfl

/-- `can_socket_recv` tells the number of a data frame, and nothing of its format. -/
theorem canSocketRecv_frame (frame : CanFrame) :
    canSocketRecv (.frame frame) =
      match identifier frame.canId with
      | none => .silence
      | some id => .frame id.number frame.payload := by
  rw [canSocketRecv, identifier, and_canEffMask, and_canSffMask]
  by_cases data : DataFrame frame.canId
  · rw [if_neg (not_not.mpr (dataFrame_iff.mp data)), if_neg (not_not.mpr data)]
    by_cases extended : frame.canId &&& canEffFlag ≠ 0
    · rw [if_pos extended, if_pos extended]
    · rw [if_neg extended, if_neg extended]
  · rw [if_pos fun clear => data (dataFrame_iff.mpr clear), if_pos data]

theorem identifier_eq_some_iff {id : Identifier} :
    identifier raw = some id ↔
      DataFrame raw ∧ (raw &&& canEffFlag = 0 ∧ .standard (raw.toBitVec.setWidth 11) = id ∨
        raw &&& canEffFlag ≠ 0 ∧ .extended (raw.toBitVec.setWidth 29) = id) := by
  rw [identifier]
  by_cases data : DataFrame raw
  · by_cases clear : raw &&& canEffFlag = 0
    · simp [data, clear]
    · simp [data, clear]
  · simp [data]

theorem identifier_standard_iff {number : BitVec 11} :
    identifier raw = some (.standard number) ↔
      DataFrame raw ∧ raw &&& canEffFlag = 0 ∧ raw.toBitVec.setWidth 11 = number := by
  simp [identifier_eq_some_iff]

theorem identifier_extended_iff {number : BitVec 29} :
    identifier raw = some (.extended number) ↔ raw = (Identifier.extended number).word := by
  have parts : identifier raw = some (.extended number) ↔
      DataFrame raw ∧ raw &&& canEffFlag ≠ 0 ∧ raw.toBitVec.setWidth 29 = number := by
    simp [identifier_eq_some_iff]
  rw [parts, dataFrame_bits_iff, Ne, canEffFlag_clear_iff, Bool.not_eq_false]
  constructor
  · rintro ⟨⟨error, remote⟩, extended, rfl⟩
    apply UInt32.toBitVec_inj.mp
    apply TaggedWord.eq_of_number_of_flags (TaggedWord.number_tagged _ (by decide) (by decide)).symm
    intro i above inside
    refine Eq.trans ?_ (TaggedWord.flag_tagged _ above).symm
    obtain rfl | rfl | rfl : i = 29 ∨ i = 30 ∨ i = 31 := by omega
    · exact error
    · exact remote
    · exact extended
  · rintro rfl
    refine ⟨⟨?_, ?_⟩, ?_, TaggedWord.number_tagged _ (by decide) (by decide)⟩
    · exact TaggedWord.flag_tagged number (by decide)
    · exact TaggedWord.flag_tagged number (by decide)
    · exact TaggedWord.flag_tagged number (by decide)

end

theorem identifier_word (id : Identifier) : identifier id.word = some id := by
  cases id with
  | standard number =>
    rw [identifier_standard_iff, dataFrame_bits_iff, canEffFlag_clear_iff]
    simp [Identifier.word]
  | extended number => exact identifier_extended_iff.mpr rfl

/-- A standard identifier shares its number with one extended identifier. -/
theorem number_eq_standard_iff {id : Identifier} {number : BitVec 11} :
    id.number = (Identifier.standard number).number ↔ id = .standard number ∨ id = .extended (number.setWidth 29) := by
  cases id with
  | standard other =>
    rw [← UInt32.toBitVec_inj]
    simpa [Identifier.number] using TaggedWord.setWidth_inj (by decide)
  | extended other =>
    have same : other.setWidth 32 = (number.setWidth 29).setWidth 32 ↔ other = number.setWidth 29 :=
      TaggedWord.setWidth_inj (by decide)
    rw [BitVec.setWidth_setWidth (by decide)] at same
    rw [← UInt32.toBitVec_inj]
    simpa [Identifier.number] using same

theorem exists_standard {canId : UInt32} (eleven : canId ≤ canSffMask) :
    ∃ number : BitVec 11, canId = (Identifier.standard number).number := by
  refine ⟨canId.toBitVec.setWidth 11, UInt32.toBitVec_inj.mp ?_⟩
  exact (BitVec.setWidth_setWidth_eq_self (show canId.toBitVec < BitVec.twoPow 32 11 from UInt32.lt_of_le_of_lt eleven (by decide))).symm

theorem canSocketSend_payload {canId : UInt32} {data : Bytes} {frame : CanFrame}
    (sent : canSocketSend canId data = some frame) : frame.canId = canId ∧ frame.payload = data := by
  rw [canSocketSend] at sent
  by_cases long : data.length > canMaxDlen.toNat
  · rw [if_pos long] at sent
    cases sent
  · rw [if_neg long] at sent
    obtain rfl := (Option.some.inj sent).symm
    refine ⟨rfl, ?_⟩
    have short : data.length ≤ 8 := Nat.not_lt.mp long
    have code : (UInt8.ofNat data.length).toNat = data.length := UInt8.toNat_ofNat_of_lt' (short.trans_lt (by decide))
    have fits : ¬ UInt8.ofNat data.length > canMaxDlen := by
      rw [gt_iff_lt, UInt8.lt_iff_toNat_lt, code]
      exact long
    simp only [CanFrame.payload, if_neg fits, code]
    apply List.ext_getElem
    · simp [short]
    · intro index left right
      simp [byteAt, right]

theorem canSocketRecv_canSocketSend {id : Identifier} {data : Bytes} {frame : CanFrame}
    (sent : canSocketSend id.word data = some frame) : canSocketRecv (.frame frame) = .frame id.number data := by
  obtain ⟨word, payload⟩ := canSocketSend_payload sent
  rw [canSocketRecv_frame, word, identifier_word, payload]

end DiagnosticGateway.Platform
