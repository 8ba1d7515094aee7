import DiagnosticGateway.Client.Diagcli
import DiagnosticGateway.Client.Tester

/-! Where the decoders of the clients read.

The scripted client compares the length before every field. The interactive one
trusts the first byte in three cases, and then reads behind a response that is too
short for it, or counts its data from a negative length.
-/

set_option autoImplicit false

namespace DiagnosticGateway.Client
open Uds Ecu Readout

abbrev Inside {A : Type} (len : Nat) (memory : Nat → UInt8) (decoder : Decoder A) : Prop := Obeys (Within len) memory decoder

section
variable {len : Nat} {memory : Nat → UInt8}

@[simp] theorem inside_print (format : String) (args : List Arg) : Inside len memory (print format args) := by
  simp [print]

@[simp] theorem inside_assign (global : Global) (value : Arg) : Inside len memory (assign global value) := by
  simp [assign]

@[simp] theorem inside_byte (index : Nat) : Inside len memory (byte index) ↔ index < len := by
  simp [byte]

@[simp] theorem inside_halfword (index : Nat) : Inside len memory (halfword index) ↔ index + 1 < len := by
  simp only [halfword, obeys_bind, obeys_pure, obeys_read, within_read, and_true]
  omega

theorem inside_dataLength : Inside len memory (dataLength len) ↔ 3 ≤ len := by
  simp [dataLength]

theorem dataLength_value (long : 3 ≤ len) (bounded : len ≤ 4095) : (dataLength len memory).1 = len - 3 := by
  rw [dataLength, bind_value, difference_value long (by omega), pure_value]
  exact Nat.mod_eq_of_lt (by omega)

theorem inside_recordCount : Inside len memory (recordCount len) ↔ 3 ≤ len := by
  simp [recordCount]

theorem recordCount_value (long : 3 ≤ len) (bounded : len ≤ 4095) : (recordCount len memory).1 = (len - 3) / 4 := by
  rw [recordCount, bind_value, difference_value long (by omega), pure_value]
  exact Nat.mod_eq_of_lt (by omega)

theorem inside_printHex {offset count : Nat} (fits : offset + count ≤ len) : Inside len memory (printHex offset count) :=
  obeys_loop fun index below => by
    have inside : offset + index < len := by omega
    simp [inside]

theorem inside_printText {opening : String} {offset count : Nat} (fits : offset + count ≤ len) :
    Inside len memory (printText opening offset count) := by
  have characters : Inside len memory (loop count fun index => do
      let character ← byte (offset + index)
      print "%c" [character]) :=
    obeys_loop fun index below => by
      have inside : offset + index < len := by omega
      simp [inside]
  simp [printText, characters]

theorem inside_printCodes {format : String} {count : Nat} (fits : 0 < count → 3 + count * 4 ≤ len) :
    Inside len memory (printCodes format count) :=
  obeys_loop fun index below => by
    have whole := fits (Nat.zero_lt_of_lt below)
    simp only [obeys_bind, obeys_read, within_read, inside_byte, inside_print, and_true]
    omega

theorem inside_printQuantity {did : UInt16} {dataLen : Nat} {otherwise : Decoder Unit} (fits : 3 + dataLen ≤ len)
    (rest : Inside len memory otherwise) : Inside len memory (printQuantity did dataLen otherwise) := by
  simp only [printQuantity, Inside, obeys_ite, obeys_bind, inside_halfword, inside_byte, inside_print, and_true]
  refine ⟨?_, fun _ => ⟨?_, fun _ => ⟨?_, fun _ => ⟨?_, fun _ => rest⟩⟩⟩⟩
  all_goals
    rintro ⟨-, size⟩
    omega

/-! ## The interactive client -/

namespace Diagcli

theorem inside_showSession : Inside len memory (showSession len) ↔ 2 ≤ len := by
  simp only [showSession, Inside, obeys_bind, obeys_read, within_read, read_value, obeys_ite, inside_assign, inside_print,
    inside_halfword, obeys_pure, true_and, and_true, implies_true]
  omega

theorem inside_showReset : Inside len memory showReset := by
  simp [showReset]

theorem inside_showCodes (bounded : len ≤ 4095) : Inside len memory (showCodes len) := by
  rw [showCodes]
  by_cases long : len ≥ 3
  · rw [if_pos long]
    refine (obeys_bind _ _).mpr ⟨inside_recordCount.mpr long, (obeys_bind _ _).mpr ⟨inside_print _ _, ?_⟩⟩
    rw [recordCount_value long bounded]
    exact inside_printCodes (by omega)
  · rw [if_neg long]
    refine (obeys_bind _ _).mpr ⟨obeys_pure _, (obeys_bind _ _).mpr ⟨inside_print _ _, ?_⟩⟩
    exact inside_printCodes fun some => absurd some (Nat.lt_irrefl 0)

theorem inside_printable {dlen : Nat} (fits : 3 + dlen ≤ len) : Inside len memory (printable dlen) :=
  obeys_fold (fun index result _ below => by
    have inside : 3 + index < len := by omega
    simp [obeys_ite, inside]) true

theorem inside_showData (bounded : len ≤ 4095) : Inside len memory (showData len) ↔ 3 ≤ len := by
  simp only [showData, Inside, obeys_bind, inside_dataLength, inside_halfword, inside_print, true_and, and_true]
  refine ⟨fun inside => inside.2.1, fun long => ⟨by omega, long, ?_⟩⟩
  have fits : 3 + (len - 3) ≤ len := by omega
  rw [dataLength_value long bounded]
  refine ⟨inside_printHex fits, inside_printable fits, inside_printQuantity fits ?_⟩
  split
  · exact inside_printText fits
  · exact obeys_pure ()

theorem inside_showSecurity : Inside len memory (showSecurity len) ↔ 2 ≤ len := by
  simp only [showSecurity, Inside, obeys_bind, obeys_read, within_read, read_value, obeys_ite, inside_assign, inside_print,
    inside_halfword, and_true, implies_true, and_self]
  omega

theorem inside_isNegative : Inside len memory (isNegative len) := by
  simp only [isNegative, Inside, obeys_andThen, obeys_bind, obeys_read, within_read, obeys_pure, and_true,
    decide_eq_true_eq]
  intro three
  rw [three]
  decide

theorem isNegative_value : (isNegative len memory).1 = true ↔ len = negativeResponseLen ∧ memory 0 = negativeResponseSid := by
  simp only [isNegative, andThen_value, bind_value, read_value, pure_value, Bool.and_eq_true, decide_eq_true_eq]

theorem inside_showRefusal : Inside len memory showRefusal ↔ 3 ≤ len := by
  simp [showRefusal]
  omega

end Diagcli

/-- The responses that are long enough for their first byte. -/
def LongEnough (len : Nat) (first : UInt8) : Prop :=
  (first = 0x50 ∨ first = 0x67 → 2 ≤ len) ∧ (first = 0x62 → 3 ≤ len)

namespace Diagcli

theorem inside_showPositive (nonempty : 1 ≤ len) (bounded : len ≤ 4095) :
    Inside len memory (showPositive len) ↔ LongEnough len (memory 0) := by
  have start : 0 < len := nonempty
  simp only [showPositive, Inside, obeys_bind, obeys_read, within_read, start, true_and, read_value, obeys_ite,
    inside_print, inside_showSession, inside_showReset, inside_showCodes bounded, inside_showData bounded,
    inside_showSecurity, LongEnough, implies_true, and_true]
  grind

theorem inside_showResponse (nonempty : 1 ≤ len) (bounded : len ≤ 4095) :
    Inside len memory (showResponse len) ↔ LongEnough len (memory 0) := by
  have whole : Inside len memory (printHex 0 len) := inside_printHex (by omega)
  have some : len ≠ 0 := by omega
  simp only [showResponse, Inside, obeys_bind, inside_print, whole, true_and, if_neg some, inside_isNegative]
  by_cases negative : len = negativeResponseLen ∧ memory 0 = negativeResponseSid
  · rw [if_pos (isNegative_value.mpr negative)]
    obtain ⟨three, first⟩ := negative
    refine iff_of_true (inside_showRefusal.mpr (Nat.le_of_eq three.symm)) ?_
    rw [LongEnough, three, first]
    decide
  · rw [if_neg fun holds => negative (isNegative_value.mp holds)]
    exact inside_showPositive nonempty bounded

end Diagcli

/-! ## The scripted client -/

namespace Tester

theorem inside_startsWith {length : Bool} {sid : UInt8} (nonempty : 1 ≤ len) : Inside len memory (startsWith length sid) := by
  simp only [startsWith, Inside, obeys_andThen, obeys_bind, obeys_read, within_read, obeys_pure, and_true]
  exact fun _ => nonempty

theorem startsWith_value (length : Bool) (sid : UInt8) :
    (startsWith length sid memory).1 = true ↔ length = true ∧ memory 0 = sid := by
  simp only [startsWith, andThen_value, bind_value, read_value, pure_value, Bool.and_eq_true, decide_eq_true_eq]

theorem inside_printable {count index : Nat} (fits : index + count ≤ len) : Inside len memory (printable count index) := by
  induction count generalizing index with
  | zero => exact obeys_pure true
  | succ count ih =>
    have inside : index < len := by omega
    have later := @ih (index + 1) (by omega)
    simp [printable, obeys_ite, inside, later]

theorem inside_printAsciiIfPrintable {offset count : Nat} (fits : offset + count ≤ len) :
    Inside len memory (printAsciiIfPrintable offset count) := by
  simp [printAsciiIfPrintable, obeys_ite, inside_printable fits, inside_printText fits]

theorem inside_printRefusal (long : 3 ≤ len) : Inside len memory printRefusal := by
  simp [printRefusal]
  omega

theorem inside_printSession (long : 2 ≤ len) : Inside len memory (printSession len) := by
  simp only [printSession, Inside, obeys_bind, obeys_read, within_read, obeys_ite, inside_print, inside_halfword, obeys_pure,
    true_and, and_true, implies_true]
  omega

theorem inside_printData (long : 3 ≤ len) (bounded : len ≤ 4095) : Inside len memory (printData len) := by
  have fits : 3 + (len - 3) ≤ len := by omega
  simp only [printData, Inside, obeys_bind, inside_dataLength, inside_halfword, inside_print, true_and, and_true]
  rw [dataLength_value long bounded]
  refine ⟨by omega, long, inside_printHex fits, inside_printQuantity fits (inside_printAsciiIfPrintable fits)⟩

theorem inside_printTroubleCodes (long : 3 ≤ len) (bounded : len ≤ 4095) : Inside len memory (printTroubleCodes len) := by
  simp only [printTroubleCodes, Inside, obeys_bind, inside_recordCount, inside_print, true_and]
  rw [recordCount_value long bounded]
  exact ⟨long, inside_printCodes (by omega)⟩

theorem inside_printSecurity (long : 2 ≤ len) : Inside len memory (printSecurity len) := by
  simp only [printSecurity, Inside, obeys_bind, obeys_read, within_read, read_value, obeys_ite, inside_print,
    inside_halfword, and_true, implies_true, and_self]
  omega

theorem inside_printReset (long : 2 ≤ len) : Inside len memory printReset := by
  simp [printReset]
  omega

theorem inside_branch {length : Bool} {sid : UInt8} {yes no : Decoder Unit} (nonempty : 1 ≤ len)
    (taken : length = true → Inside len memory yes) (passed : Inside len memory no) :
    Inside len memory (startsWith length sid >>= fun holds => if holds = true then yes else no) := by
  refine (obeys_bind _ _).mpr ⟨inside_startsWith nonempty, (obeys_ite _ _).mpr ⟨fun holds => ?_, fun _ => passed⟩⟩
  exact taken ((startsWith_value length sid).mp holds).1

theorem inside_printUdsResponse (nonempty : 1 ≤ len) (bounded : len ≤ 4095) : Inside len memory (printUdsResponse len) := by
  have some : len ≠ 0 := by omega
  rw [printUdsResponse, if_neg some]
  refine inside_branch nonempty (fun long => ?refusal) (inside_branch nonempty (fun long => ?session)
    (inside_branch nonempty (fun long => ?data) (inside_branch nonempty (fun long => ?codes)
    (inside_branch nonempty (fun long => ?security) (inside_branch nonempty (fun long => inside_print _ _)
    (inside_branch nonempty (fun long => ?reset) (inside_branch nonempty (fun long => inside_print _ _)
    (inside_print _ _))))))))
  case refusal => exact inside_printRefusal (Nat.le_of_eq (of_decide_eq_true long).symm)
  case session => exact inside_printSession (of_decide_eq_true long)
  case data => exact inside_printData (of_decide_eq_true long) bounded
  case codes => exact inside_printTroubleCodes (of_decide_eq_true long) bounded
  case security => exact inside_printSecurity (of_decide_eq_true long)
  case reset => exact inside_printReset (of_decide_eq_true long)

end Tester

end

/-- Both clients stay inside every response exactly when it is long enough for its
first byte, which only the scripted one makes sure of. -/
theorem decoders_inside_iff (memory : Nat → UInt8) (len : Nat) (nonempty : 1 ≤ len) (bounded : len ≤ 4095) :
    Inside len memory (Diagcli.showResponse len) ∧ Inside len memory (Tester.printUdsResponse len) ↔
      LongEnough len (memory 0) := by
  rw [and_iff_left (Tester.inside_printUdsResponse nonempty bounded)]
  exact Diagcli.inside_showResponse nonempty bounded

/-- The answer to a read of the software version. -/
theorem decoders_inside_version :
    Inside 6 (fun index => [0x62, 0xF1, 0x89, 0x01, 0x04, 0x02].getD index 0) (Diagcli.showResponse 6) ∧
      Inside 6 (fun index => [0x62, 0xF1, 0x89, 0x01, 0x04, 0x02].getD index 0) (Tester.printUdsResponse 6) :=
  (decoders_inside_iff _ 6 (by decide) (by decide)).mpr ⟨fun _ => by decide, fun _ => by decide⟩

/-- A response of the one byte `62`. -/
theorem short_data_outside : ¬ ∀ (memory : Nat → UInt8) (len : Nat), 1 ≤ len → len ≤ 4095 →
    Inside len memory (Diagcli.showResponse len) ∧ Inside len memory (Tester.printUdsResponse len) := by
  intro all
  have inside := (Diagcli.inside_showResponse (by decide) (by decide)).mp (all (fun _ => 0x62) 1 (by decide) (by decide)).1
  exact absurd (inside.2 rfl) (by decide)

end DiagnosticGateway.Client
