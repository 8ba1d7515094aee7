import Mathlib.Data.List.Basic

/-! Byte strings and the big-endian code of a 32-bit word.

A read past the end of a byte string gives zero; the callers check lengths
before they read.
-/

set_option autoImplicit false

namespace BigEndian

abbrev Bytes := List UInt8

def byteAt (bytes : Bytes) (index : Nat) : UInt8 := bytes.getD index 0

@[simp] theorem byteAt_zero (first : UInt8) (rest : Bytes) : byteAt (first :: rest) 0 = first := rfl

@[simp] theorem byteAt_succ (first : UInt8) (rest : Bytes) (index : Nat) :
    byteAt (first :: rest) (index + 1) = byteAt rest index := rfl

def writeWord (word : UInt32) : Bytes :=
  [(word >>> 24).toUInt8, (word >>> 16).toUInt8, (word >>> 8).toUInt8, word.toUInt8]

def readWord (bytes : Bytes) (offset : Nat) : UInt32 :=
  ((byteAt bytes offset).toUInt32 <<< 24) ||| ((byteAt bytes (offset + 1)).toUInt32 <<< 16) |||
    ((byteAt bytes (offset + 2)).toUInt32 <<< 8) ||| (byteAt bytes (offset + 3)).toUInt32

@[simp] theorem writeWord_length (word : UInt32) : (writeWord word).length = 4 := rfl

theorem word_of_bytes (word : UInt32) :
    (word >>> 24).toUInt8.toUInt32 <<< 24 ||| (word >>> 16).toUInt8.toUInt32 <<< 16 |||
      (word >>> 8).toUInt8.toUInt32 <<< 8 ||| word.toUInt8.toUInt32 = word := by
  apply UInt32.toBitVec_inj.mp
  apply BitVec.eq_of_getLsbD_eq
  intro i hi
  have shift24 : BitVec.toNat (UInt32.toBitVec 24 % 32) = 24 := rfl
  have shift16 : BitVec.toNat (UInt32.toBitVec 16 % 32) = 16 := rfl
  have shift8 : BitVec.toNat (UInt32.toBitVec 8 % 32) = 8 := rfl
  simp only [UInt32.toBitVec_or, UInt32.toBitVec_shiftLeft, UInt8.toBitVec_toUInt32,
    UInt32.toBitVec_toUInt8, UInt32.toBitVec_shiftRight, BitVec.getLsbD_or, BitVec.shiftLeft_eq',
    BitVec.ushiftRight_eq', shift24, shift16, shift8, BitVec.getLsbD_shiftLeft,
    BitVec.getLsbD_setWidth, BitVec.getLsbD_ushiftRight]
  -- The bit lies in exactly one of the four bytes.
  by_cases low : i < 8
  · simp [low, hi, show i < 24 by omega, show i < 16 by omega]
  · by_cases second : i < 16
    · simp [low, second, hi, show i < 24 by omega, show i - 8 < 32 by omega, show i - 8 < 8 by omega,
        show 8 + (i - 8) = i by omega]
    · by_cases third : i < 24
      · simp [low, second, third, hi, show i - 16 < 32 by omega, show i - 16 < 8 by omega,
          show ¬ i - 8 < 8 by omega, show 16 + (i - 16) = i by omega]
      · simp [low, second, third, hi, show i - 24 < 32 by omega, show i - 24 < 8 by omega,
          show ¬ i - 16 < 8 by omega, show ¬ i - 8 < 8 by omega, show 24 + (i - 24) = i by omega]

/-- Reading a written word back, behind any header. -/
theorem readWord_writeWord (header : Bytes) (word : UInt32) (rest : Bytes) :
    readWord (header ++ writeWord word ++ rest) header.length = word := by
  induction header with
  | nil => exact word_of_bytes word
  | cons first header ih => exact ih

end BigEndian
