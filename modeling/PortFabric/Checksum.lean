import Mathlib.Data.List.GetD
import Mathlib.Data.List.Nodup
import Mathlib.Data.List.Perm.Subperm
import Mathlib.Data.Nat.Bitwise
import PortFabric.CodecProperties
import PortFabric.Library.Sealing

/-!
# Checksum

The table-driven CRC-32 never merges two remainders: the top byte of a table
entry tells its index, so a step can be undone. A single changed byte therefore
always changes the checksum.
-/

set_option autoImplicit false

namespace PortFabric

section Table

/-- The mask with a bit at every place. -/
def maskOf (places : List Nat) : Nat := places.foldl (fun seen place => seen ||| 2 ^ place) 0

theorem testBit_maskOf {places : List Nat} {place : Nat} :
    (maskOf places).testBit place = true ↔ place ∈ places := by
  have joined (start : Nat) :
      (places.foldl (fun seen place => seen ||| 2 ^ place) start).testBit place = true ↔
        start.testBit place = true ∨ place ∈ places := by
    induction places generalizing start with
    | nil => simp
    | cons first rest ih =>
        rw [List.foldl_cons, ih, Nat.testBit_or, Nat.testBit_two_pow, Bool.or_eq_true,
          decide_eq_true_eq, List.mem_cons, or_assoc, eq_comm (a := first)]
  rw [maskOf, joined, Nat.zero_testBit]
  simp only [Bool.false_eq_true, false_or]

/-- As many places as bits of a full mask are distinct. -/
theorem nodup_of_maskOf {places : List Nat} (full : maskOf places = 2 ^ places.length - 1) :
    places.Nodup := by
  have every : List.range places.length ⊆ places := by
    intro place member
    rw [← testBit_maskOf, full, Nat.testBit_two_pow_sub_one]
    exact decide_eq_true (List.mem_range.mp member)
  have same : (List.range places.length).Perm places :=
    (List.Nodup.subperm List.nodup_range every).perm_of_length_le (by rw [List.length_range])
  exact same.nodup_iff.mp List.nodup_range

theorem length_crcTable : crcTable.length = 256 := by
  rw [crcTable, List.length_map, List.length_range]

set_option maxRecDepth 100000 in
theorem crcTable_tops_nodup :
    (crcTable.map fun (entry : UInt32) => entry.toNat >>> 24).Nodup := by
  apply nodup_of_maskOf
  rw [List.length_map, length_crcTable]
  decide +kernel

/-- The top byte of an entry tells its index. -/
theorem crcTable_top_inj {first second : Nat} (left : first < 256) (right : second < 256)
    (same : (crcTable.getD first 0).toNat >>> 24 = (crcTable.getD second 0).toNat >>> 24) :
    first = second := by
  rw [← length_crcTable] at left right
  rw [List.getD_eq_getElem _ _ left, List.getD_eq_getElem _ _ right] at same
  have front : first < (crcTable.map fun (entry : UInt32) => entry.toNat >>> 24).length := by
    rwa [List.length_map]
  have back : second < (crcTable.map fun (entry : UInt32) => entry.toNat >>> 24).length := by
    rwa [List.length_map]
  have tops : (crcTable.map fun (entry : UInt32) => entry.toNat >>> 24)[first] =
      (crcTable.map fun (entry : UInt32) => entry.toNat >>> 24)[second] := by
    rw [List.getElem_map, List.getElem_map]
    exact same
  exact crcTable_tops_nodup.getElem_inj_iff.mp tops

end Table

section Step

/-- The index of the table entry a step uses. -/
def crcIndex (crc : UInt32) (byte : UInt8) : Nat := ((crc ^^^ byte.toUInt32) &&& 0xff).toNat

theorem crcIndex_eq (crc : UInt32) (byte : UInt8) :
    crcIndex crc byte = (crc.toNat % 2 ^ 8) ^^^ byte.toNat := by
  have low : byte.toNat % 2 ^ 8 = byte.toNat := Nat.mod_eq_of_lt byte.toNat_lt
  rw [crcIndex, UInt32.toNat_and, UInt32.toNat_xor, UInt8.toNat_toUInt32,
    show (0xff : UInt32).toNat = 2 ^ 8 - 1 from rfl, Nat.and_two_pow_sub_one_eq_mod,
    Nat.xor_mod_two_pow, low]

theorem crcIndex_lt (crc : UInt32) (byte : UInt8) : crcIndex crc byte < 256 := by
  rw [crcIndex_eq]
  exact Nat.xor_lt_two_pow (n := 8) (Nat.mod_lt _ (by decide)) byte.toNat_lt

theorem toNat_crcStep (crc : UInt32) (byte : UInt8) :
    (crcStep crc byte).toNat =
      (crcTable.getD (crcIndex crc byte) 0).toNat ^^^ (crc.toNat >>> 8) := by
  rw [crcStep, UInt32.toNat_xor, UInt32.toNat_shiftRight]
  rfl

/-- The top byte of a step is the top byte of its table entry. -/
theorem crcStep_top (crc : UInt32) (byte : UInt8) :
    (crcStep crc byte).toNat >>> 24 =
      (crcTable.getD (crcIndex crc byte) 0).toNat >>> 24 := by
  have none : crc.toNat >>> 8 >>> 24 = 0 := by
    rw [← Nat.shiftRight_add, Nat.shiftRight_eq_div_pow]
    exact Nat.div_eq_of_lt crc.toNat_lt
  rw [toNat_crcStep, Nat.shiftRight_xor_distrib, none, Nat.xor_zero]

theorem crcStep_eq {left right : UInt32} {first second : UInt8}
    (same : crcStep left first = crcStep right second) :
    crcIndex left first = crcIndex right second ∧ left.toNat >>> 8 = right.toNat >>> 8 := by
  have index : crcIndex left first = crcIndex right second := by
    apply crcTable_top_inj (crcIndex_lt _ _) (crcIndex_lt _ _)
    rw [← crcStep_top, ← crcStep_top, same]
  have words := congrArg UInt32.toNat same
  rw [toNat_crcStep, toNat_crcStep, index] at words
  exact ⟨index, Nat.xor_right_injective words⟩

theorem crcStep_state (byte : UInt8) (left right : UInt32)
    (same : crcStep left byte = crcStep right byte) : left = right := by
  obtain ⟨index, high⟩ := crcStep_eq same
  rw [crcIndex_eq, crcIndex_eq] at index
  have low : left.toNat % 2 ^ 8 = right.toNat % 2 ^ 8 := Nat.xor_left_injective index
  rw [Nat.shiftRight_eq_div_pow, Nat.shiftRight_eq_div_pow] at high
  apply UInt32.toNat_inj.mp
  omega

theorem crcStep_symbol (crc : UInt32) (left right : UInt8)
    (same : crcStep crc left = crcStep crc right) : left = right := by
  obtain ⟨index, _⟩ := crcStep_eq same
  rw [crcIndex_eq, crcIndex_eq] at index
  exact UInt8.toNat_inj.mp (Nat.xor_right_injective index)

end Step

/-- The four bytes of the checksum, as every header carries them. -/
def checksum (bytes : Text) : Text := littleEndian 4 (crc32 bytes).toNat

/-- One changed byte always changes the checksum. -/
theorem detects_checksum : Sealing.Detects checksum 4 where
  length bytes := length_littleEndian ..
  notices first second differs same := by
    have words : (crc32 first).toNat = (crc32 second).toNat :=
      littleEndian_inj (UInt32.toNat_lt _) (UInt32.toNat_lt _) same
    have remainders := (UInt32.xor_left_inj _).mp (UInt32.toNat_inj.mp words)
    exact Sealing.foldl_ne crcStep_state crcStep_symbol differs _ remainders

end PortFabric
