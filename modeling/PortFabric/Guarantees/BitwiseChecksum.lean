import PortFabric.Checksum
import PortFabric.Library.ShiftRegister

/-!
# Bitwise checksum

The checksum of containers and frames is looked up byte by byte. It is the
reflected CRC-32 all the same: the register that takes every bit of the input in
turn, lowest bit first, starting from all ones and complemented at the end.
-/

set_option autoImplicit false

namespace PortFabric

open ShiftRegister

/-- The polynomial of CRC-32, lowest power at the top. -/
def crcPolynomial : BitVec 32 := 0xedb88320#32

/-- The register takes the input bit by bit. -/
def crc32Bitwise (bytes : Text) : BitVec 32 :=
  ~~~(bytes.flatMap fun byte => bits byte.toBitVec).foldl (feed crcPolynomial) (BitVec.allOnes 32)

section Table

/-- One turn of the loop that fills the table is one turn of the register. -/
theorem toBitVec_crcBit (value : UInt32) :
    (crcBit value).toBitVec = turn crcPolynomial value.toBitVec := by
  have lowest : (value &&& 1).toBitVec =
      BitVec.setWidth 32 (BitVec.ofBool (value.toBitVec.getLsbD 0)) := by
    rw [UInt32.toBitVec_and]
    exact BitVec.and_one_eq_setWidth_ofBool_getLsbD
  unfold crcBit turn fedBack
  cases bit : value.toBitVec.getLsbD 0 with
  | false =>
      have even : value &&& 1 = 0 := by
        apply UInt32.toBitVec_inj.mp
        rw [lowest, bit]
        rfl
      rw [if_neg (not_not_intro even), if_neg Bool.false_ne_true, UInt32.toBitVec_shiftRight]
      exact BitVec.xor_zero.symm
  | true =>
      have odd : value &&& 1 ≠ 0 := by
        intro even
        rw [even, bit] at lowest
        cases lowest
      rw [if_pos odd, if_pos rfl, UInt32.toBitVec_xor, UInt32.toBitVec_shiftRight, BitVec.xor_comm]
      rfl

theorem toBitVec_crcEntry (index : UInt32) :
    (crcEntry index).toBitVec = turns crcPolynomial 8 index.toBitVec := by
  have counted (count : Nat) :
      ((List.range count).foldl (fun (value : UInt32) _ => crcBit value) index).toBitVec =
        turns crcPolynomial count index.toBitVec := by
    induction count with
    | zero => rfl
    | succ count ih =>
        rw [List.range_succ, List.foldl_append, List.foldl_cons, List.foldl_nil, toBitVec_crcBit,
          ih, turns]
  exact counted 8

theorem crcTable_getD {index : Nat} (below : index < 256) :
    crcTable.getD index 0 = crcEntry (UInt32.ofNat index) := by
  have inside : index < crcTable.length := length_crcTable ▸ below
  rw [List.getD_eq_getElem _ _ inside]
  simp only [crcTable, List.getElem_map, List.getElem_range]

end Table

section Steps

/-- A step of the table is eight turns of the register with the byte joined to it. -/
theorem toBitVec_crcStep (crc : UInt32) (byte : UInt8) :
    (crcStep crc byte).toBitVec = (bits byte.toBitVec).foldl (feed crcPolynomial) crc.toBitVec := by
  have joined : (crc ^^^ byte.toUInt32).toBitVec = crc.toBitVec ^^^ byte.toBitVec.setWidth 32 := by
    rw [UInt32.toBitVec_xor, UInt8.toBitVec_toUInt32]
  have entry : (UInt32.ofNat (crcIndex crc byte)).toBitVec =
      low 8 (crc.toBitVec ^^^ byte.toBitVec.setWidth 32) := by
    rw [crcIndex, UInt32.ofNat_toNat, UInt32.toBitVec_and, joined]
    apply BitVec.eq_of_getLsbD_eq
    intro index inside
    rw [getLsbD_low, BitVec.getLsbD_and, Bool.and_comm]
    congr 1
    revert index
    decide
  have moved : byte.toBitVec.setWidth 32 >>> 8 = 0#32 := by
    apply BitVec.eq_of_getLsbD_eq
    intro index _
    rw [BitVec.getLsbD_ushiftRight, BitVec.getLsbD_setWidth,
      BitVec.getLsbD_of_ge byte.toBitVec _ (Nat.le_add_right 8 index), Bool.and_false]
    exact BitVec.getLsbD_zero.symm
  rw [foldl_bits (by decide), turns_eq_lookup, ← entry, ← toBitVec_crcEntry,
    ← crcTable_getD (crcIndex_lt crc byte), BitVec.ushiftRight_xor_distrib, moved, BitVec.xor_zero,
    crcStep, UInt32.toBitVec_xor, UInt32.toBitVec_shiftRight]
  rfl

theorem toBitVec_foldl_crcStep (bytes : Text) (crc : UInt32) :
    (bytes.foldl crcStep crc).toBitVec =
      (bytes.flatMap fun byte => bits byte.toBitVec).foldl (feed crcPolynomial) crc.toBitVec := by
  induction bytes generalizing crc with
  | nil => rfl
  | cons byte bytes ih =>
      rw [List.foldl_cons, ih, toBitVec_crcStep, List.flatMap_cons, List.foldl_append]

end Steps

/-- The table-driven checksum is the bit-by-bit reflected CRC-32 of the bytes. -/
theorem crc32_bitwise (bytes : Text) : (crc32 bytes).toBitVec = crc32Bitwise bytes := by
  rw [crc32, UInt32.toBitVec_xor, toBitVec_foldl_crcStep]
  exact BitVec.xor_allOnes

example : crc32Bitwise (text "123456789") = 0xcbf43926#32 := by decide +kernel

end PortFabric
