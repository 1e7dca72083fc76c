import PortFabric.Library.SecureHash
import PortFabric.Sha256

/-!
# Properties of the hash

The compression of a block is the one of the standard on the bits of the block,
with the constants that the standard derives from the primes.
-/

set_option autoImplicit false

namespace PortFabric

open BitStrings BlockHashing

namespace Sha256State

/-- The words of the state. -/
def working (s : Sha256State) : SecureHash.Working :=
  ⟨s.a.toBitVec, s.b.toBitVec, s.c.toBitVec, s.d.toBitVec, s.e.toBitVec, s.f.toBitVec,
    s.g.toBitVec, s.h.toBitVec⟩

end Sha256State

namespace Sha256

section Functions

theorem toBitVec_bigSigma0 (value : UInt32) :
    (bigSigma0 value).toBitVec = SecureHash.upperSigma0 value.toBitVec := by
  simp [bigSigma0, rotr, SecureHash.upperSigma0, BitVec.rotateRight, BitVec.rotateRightAux]

theorem toBitVec_bigSigma1 (value : UInt32) :
    (bigSigma1 value).toBitVec = SecureHash.upperSigma1 value.toBitVec := by
  simp [bigSigma1, rotr, SecureHash.upperSigma1, BitVec.rotateRight, BitVec.rotateRightAux]

theorem toBitVec_smallSigma0 (value : UInt32) :
    (smallSigma0 value).toBitVec = SecureHash.lowerSigma0 value.toBitVec := by
  simp [smallSigma0, rotr, SecureHash.lowerSigma0, BitVec.rotateRight, BitVec.rotateRightAux]

theorem toBitVec_smallSigma1 (value : UInt32) :
    (smallSigma1 value).toBitVec = SecureHash.lowerSigma1 value.toBitVec := by
  simp [smallSigma1, rotr, SecureHash.lowerSigma1, BitVec.rotateRight, BitVec.rotateRightAux]

theorem working_round (s : Sha256State) (constant word : UInt32) :
    (round s constant word).working =
      SecureHash.round s.working constant.toBitVec word.toBitVec := by
  rw [round, SecureHash.round]
  simp only [Sha256State.working, UInt32.toBitVec_add, toBitVec_bigSigma0, toBitVec_bigSigma1]
  rfl

theorem working_rounds (constants words : List UInt32) (s : Sha256State) :
    (rounds constants words s).working =
      ((constants.map UInt32.toBitVec).zip (words.map UInt32.toBitVec)).foldl
        (fun v pair => SecureHash.round v pair.1 pair.2) s.working := by
  induction constants generalizing words s with
  | nil => rfl
  | cons constant constants ih =>
      cases words with
      | nil => rfl
      | cons word words =>
          rw [rounds, ih, working_round]
          rfl

end Functions

section Constants

def primes : List Nat :=
  [ 2, 3, 5, 7, 11, 13, 17, 19, 23, 29, 31, 37, 41, 43, 47, 53, 59, 61, 67, 71, 73, 79, 83, 89, 97,
    101, 103, 107, 109, 113, 127, 131, 137, 139, 149, 151, 157, 163, 167, 173, 179, 181, 191, 193,
    197, 199, 211, 223, 227, 229, 233, 239, 241, 251, 257, 263, 269, 271, 277, 281, 283, 293, 307,
    311 ]

set_option maxRecDepth 100000 in
theorem filter_prime :
    ((List.range 312).filter fun value => decide (Nat.Prime value)) = primes := by
  have trial : ((List.range 312).filter fun value => decide (Nat.Prime value)) =
      (List.range 312).filter fun value => decide
        (2 ≤ value ∧ ∀ divisor < 18, 2 ≤ divisor → divisor < value → ¬divisor ∣ value) := by
    apply List.filter_congr
    intro value member
    have below : value < 18 * 18 := Nat.lt_of_lt_of_le (List.mem_range.mp member) (by decide)
    rw [decide_eq_decide]
    exact SecureHash.prime_iff_of_lt below
  rw [trial]
  decide +kernel

set_option maxRecDepth 100000 in
/-- The table holds the fractional parts of the cube roots of the first 64 primes. -/
theorem map_roundConstant :
    (List.range 64).map SecureHash.roundConstant = roundConstants.map UInt32.toBitVec :=
  (@SecureHash.map_fractionBits_prime 3 312 primes (by decide) filter_prime).trans
    (by decide +kernel)

set_option maxRecDepth 100000 in
theorem map_initialWord :
    (List.range 64).map SecureHash.initialWord =
      primes.map fun prime => BitVec.ofNat 32 (Nat.nthRoot 2 (prime * 2 ^ 64)) :=
  @SecureHash.map_fractionBits_prime 2 312 primes (by decide) filter_prime

/-- The first state holds the fractional parts of the square roots of the first 8 primes. -/
theorem working_initial : initial.state.working = SecureHash.initial := by
  have words := congrArg (List.take 8) map_initialWord
  rw [← List.map_take, ← List.map_take, List.take_range] at words
  have computed : ((primes.take 8).map fun prime =>
      BitVec.ofNat 32 (Nat.nthRoot 2 (prime * 2 ^ 64))) =
        [0x6a09e667, 0xbb67ae85, 0x3c6ef372, 0xa54ff53a, 0x510e527f, 0x9b05688c, 0x1f83d9ab,
          0x5be0cd19] := by decide +kernel
  rw [computed, show List.range (min 8 64) = [0, 1, 2, 3, 4, 5, 6, 7] from rfl] at words
  simp only [List.map_cons, List.map_nil, List.cons.injEq, and_true] at words
  obtain ⟨a, b, c, d, e, f, g, h⟩ := words
  rw [SecureHash.initial, a, b, c, d, e, f, g, h]
  rfl

end Constants

section Blocks

theorem shiftLeft_or_byte (value place : Nat) {byte : Nat} (single : byte < 2 ^ 8) :
    value <<< (place + 8) ||| byte <<< place = (value * 2 ^ 8 + byte) <<< place := by
  have below : byte <<< place < 2 ^ (place + 8) := by
    rw [Nat.shiftLeft_eq, Nat.pow_add, Nat.mul_comm]
    exact Nat.mul_lt_mul_of_pos_left single (Nat.pow_pos (by decide))
  rw [← Nat.shiftLeft_add_eq_or_of_lt below, Nat.shiftLeft_eq, Nat.shiftLeft_eq, Nat.shiftLeft_eq]
  ring

/-- Four bytes are shifted together to the number that they spell. -/
theorem toBitVec_word (b₀ b₁ b₂ b₃ : UInt8) :
    ((b₀.toUInt32 <<< 24) ||| (b₁.toUInt32 <<< 16) ||| (b₂.toUInt32 <<< 8) |||
        b₃.toUInt32).toBitVec =
      BitVec.ofNat 32
        (((b₀.toNat * 2 ^ 8 + b₁.toNat) * 2 ^ 8 + b₂.toNat) * 2 ^ 8 + b₃.toNat) := by
  apply BitVec.eq_of_toNat_eq
  have l₀ := b₀.toNat_lt
  have l₁ := b₁.toNat_lt
  have l₂ := b₂.toNat_lt
  have l₃ := b₃.toNat_lt
  have shifted : ((b₀.toUInt32 <<< 24) ||| (b₁.toUInt32 <<< 16) ||| (b₂.toUInt32 <<< 8) |||
      b₃.toUInt32).toNat =
        b₀.toNat <<< 24 ||| b₁.toNat <<< 16 ||| b₂.toNat <<< 8 ||| b₃.toNat <<< 0 := by
    have kept (byte : UInt8) {place : Nat} (within : place ≤ 24) :
        byte.toNat <<< place % 2 ^ 32 = byte.toNat <<< place := by
      apply Nat.mod_eq_of_lt
      have single := byte.toNat_lt
      calc byte.toNat <<< place = byte.toNat * 2 ^ place := Nat.shiftLeft_eq ..
        _ < 2 ^ 8 * 2 ^ place := Nat.mul_lt_mul_of_pos_right single (Nat.pow_pos (by decide))
        _ ≤ 2 ^ 8 * 2 ^ 24 := Nat.mul_le_mul_left _ (Nat.pow_le_pow_right (by decide) within)
        _ = 2 ^ 32 := by decide
    simp only [UInt32.toNat_or, UInt32.toNat_shiftLeft, UInt8.toNat_toUInt32, UInt32.reduceToNat,
      Nat.reduceMod, kept _ (Nat.le_refl 24), kept _ (show 16 ≤ 24 by decide),
      kept _ (show 8 ≤ 24 by decide), Nat.shiftLeft_zero]
  rw [UInt32.toNat_toBitVec, shifted, shiftLeft_or_byte _ 16 l₁, shiftLeft_or_byte _ 8 l₂,
    shiftLeft_or_byte _ 0 l₃, Nat.shiftLeft_zero, BitVec.toNat_ofNat, Nat.mod_eq_of_lt]
  omega

theorem map_blockWords {block : List UInt8} {count : Nat} (length : block.length = 4 * count) :
    (blockWords block).map UInt32.toBitVec =
      (List.range count).map (SecureHash.messageWord (ofBytes block)) := by
  induction count generalizing block with
  | zero =>
      rw [List.length_eq_zero_iff.mp length]
      rfl
  | succ count ih =>
      obtain _ | ⟨b₀, _ | ⟨b₁, _ | ⟨b₂, _ | ⟨b₃, rest⟩⟩⟩⟩ := block
      case cons.cons.cons.cons =>
        have shorter : rest.length = 4 * count := by
          simp only [List.length_cons] at length
          omega
        have later : (List.range count).map
              (SecureHash.messageWord (ofBytes (b₀ :: b₁ :: b₂ :: b₃ :: rest)) ∘ Nat.succ) =
            (List.range count).map (SecureHash.messageWord (ofBytes rest)) :=
          List.map_congr_left fun t _ => SecureHash.messageWord_succ ..
        rw [blockWords, List.map_cons, ih shorter, List.range_succ_eq_map, List.map_cons,
          List.map_map, later, toBitVec_word, SecureHash.messageWord_zero]
      all_goals
        simp only [List.length_cons, List.length_nil] at length
        omega

/-- The newest words come first. -/
theorem toBitVec_getD {scheduled : Nat → SecureHash.Word} {length index : Nat}
    {words : List UInt32}
    (grown : words.map UInt32.toBitVec = ((List.range length).map scheduled).reverse)
    (within : index < length) :
    (words.getD index 0).toBitVec = scheduled (length - 1 - index) := by
  have inside : index < ((List.range length).map scheduled).reverse.length := by
    rw [List.length_reverse, List.length_map, List.length_range]
    exact within
  calc (words.getD index 0).toBitVec = (words.map UInt32.toBitVec).getD index 0 :=
        (List.getD_map words 0 UInt32.toBitVec).symm
    _ = ((List.range length).map scheduled).reverse[index] := by
        rw [grown, List.getD_eq_getElem _ _ inside]
    _ = scheduled (length - 1 - index) := by
        rw [List.getElem_reverse, List.getElem_map, List.getElem_range, List.length_map,
          List.length_range]

/-- The schedule grows by the words that the standard puts there. -/
theorem map_extendSchedule {block : List Bool} {count length : Nat} {words : List UInt32}
    (started : 16 ≤ length)
    (grown : words.map UInt32.toBitVec =
      ((List.range length).map (SecureHash.scheduled block)).reverse) :
    (extendSchedule count words).map UInt32.toBitVec =
      ((List.range (length + count)).map (SecureHash.scheduled block)).reverse := by
  induction count generalizing length words with
  | zero => exact grown
  | succ count ih =>
      have word : (smallSigma1 (words.getD 1 0) + words.getD 6 0 + smallSigma0 (words.getD 14 0) +
          words.getD 15 0).toBitVec = SecureHash.scheduled block length := by
        rw [UInt32.toBitVec_add, UInt32.toBitVec_add, UInt32.toBitVec_add, toBitVec_smallSigma0,
          toBitVec_smallSigma1, toBitVec_getD grown (by omega), toBitVec_getD grown (by omega),
          toBitVec_getD grown (by omega), toBitVec_getD grown (by omega),
          SecureHash.scheduled_of_le started]
        simp only [Nat.sub_sub]
      rw [extendSchedule, ih (Nat.le_succ_of_le started), Nat.succ_add_eq_add_succ]
      rw [List.map_cons, word, grown, List.range_succ, List.map_append, List.reverse_append]
      rfl

theorem map_schedule {block : List UInt8} (length : block.length = 64) :
    (schedule block).map UInt32.toBitVec =
      (List.range 64).map (SecureHash.scheduled (ofBytes block)) := by
  have first : (blockWords block).reverse.map UInt32.toBitVec =
      ((List.range 16).map (SecureHash.scheduled (ofBytes block))).reverse := by
    rw [List.map_reverse, @map_blockWords block 16 length]
    congr 1
    apply List.map_congr_left
    intro t member
    exact (SecureHash.scheduled_lt (List.mem_range.mp member)).symm
  rw [schedule, List.map_reverse, map_extendSchedule (Nat.le_refl 16) first, List.reverse_reverse]

/-- A block is compressed as the standard hashes its bits. -/
theorem working_compress {block : List UInt8} (length : block.length = 64) (s : Sha256State) :
    (compress s block).working = SecureHash.hashBlock s.working (ofBytes block) := by
  have sums : (compress s block).working =
      s.working.add (rounds roundConstants (schedule block) s).working := rfl
  rw [sums, SecureHash.hashBlock, SecureHash.working_eq_foldl, map_roundConstant,
    ← map_schedule length, working_rounds]

end Blocks

end Sha256

end PortFabric
