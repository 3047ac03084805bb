import Mathlib.Data.List.Basic
import Mathlib.Data.Nat.Basic
import Mathlib.Tactic.Ring

namespace Java

abbrev Byte := BitVec 8

def bigEndian : ℕ → ℕ → List Byte
  | 0, _ => []
  | width + 1, number => BitVec.ofNat 8 (number / 256 ^ width) :: bigEndian width number

def ofBigEndian (bytes : List Byte) : ℕ := bytes.foldl (fun number byte => 256 * number + byte.toNat) 0

@[simp] theorem length_bigEndian (width number : ℕ) : (bigEndian width number).length = width := by
  induction width with
  | zero => rfl
  | succ width ih => rw [bigEndian, List.length_cons, ih]

theorem foldl_bigEndian (width number start : ℕ) :
    (bigEndian width number).foldl (fun number byte => 256 * number + byte.toNat) start =
      256 ^ width * start + number % 256 ^ width := by
  induction width generalizing start with
  | zero => rw [bigEndian, List.foldl_nil, pow_zero, one_mul, Nat.mod_one, add_zero]
  | succ width ih =>
    have digit : number % 256 ^ (width + 1) = 256 ^ width * (number / 256 ^ width % 256) + number % 256 ^ width := by
      rw [pow_succ, Nat.mod_mul, add_comm]
    rw [bigEndian, List.foldl_cons, ih, digit, BitVec.toNat_ofNat]
    ring

theorem ofBigEndian_bigEndian (width number : ℕ) : ofBigEndian (bigEndian width number) = number % 256 ^ width := by
  rw [ofBigEndian, foldl_bigEndian, mul_zero, zero_add]

def writeWord (width : ℕ) (value : BitVec (8 * width)) : List Byte := bigEndian width value.toNat

/-- The value that the first bytes hold and the bytes behind it, with `none` for the EOFException. -/
def readWord (width : ℕ) (bytes : List Byte) : Option (BitVec (8 * width) × List Byte) :=
  if width ≤ bytes.length then
    some (BitVec.ofNat (8 * width) (ofBigEndian (bytes.take width)), bytes.drop width)
  else none

theorem length_writeWord (width : ℕ) (value : BitVec (8 * width)) : (writeWord width value).length = width :=
  length_bigEndian width value.toNat

theorem readWord_writeWord (width : ℕ) (value : BitVec (8 * width)) (rest : List Byte) :
    readWord width (writeWord width value ++ rest) = some (value, rest) := by
  have length := length_writeWord width value
  have enough : width ≤ (writeWord width value ++ rest).length := by
    rw [List.length_append, length]
    exact Nat.le_add_right width _
  have bound : value.toNat < 256 ^ width := by
    have modulus : 2 ^ (8 * width) = 256 ^ width := pow_mul 2 8 width
    exact modulus ▸ value.isLt
  unfold readWord
  rw [if_pos enough, List.take_left' length, List.drop_left' length, writeWord, ofBigEndian_bigEndian,
    Nat.mod_eq_of_lt bound, BitVec.ofNat_toNat, BitVec.setWidth_eq]

def writeInt (value : BitVec 32) : List Byte := writeWord 4 value

def writeLong (value : BitVec 64) : List Byte := writeWord 8 value

def readInt (bytes : List Byte) : Option (BitVec 32 × List Byte) := readWord 4 bytes

def readLong (bytes : List Byte) : Option (BitVec 64 × List Byte) := readWord 8 bytes

theorem readInt_writeInt (value : BitVec 32) (rest : List Byte) :
    readInt (writeInt value ++ rest) = some (value, rest) := readWord_writeWord 4 value rest

theorem readLong_writeLong (value : BitVec 64) (rest : List Byte) :
    readLong (writeLong value ++ rest) = some (value, rest) := readWord_writeWord 8 value rest

end Java
