import Mathlib.Data.List.Basic

/-!
# Shift registers

A feedback register takes a message bit by bit: the bit that leaves, joined with
the message bit, decides whether the taps are fed back. The register is linear,
so the bits of a whole symbol can be joined at once, and a table of the turned
symbols replaces the turns.
-/

set_option autoImplicit false

namespace ShiftRegister

variable {w k : Nat} {taps : BitVec w}

/-- The taps come back when the bit is set. -/
def fedBack (taps : BitVec w) (bit : Bool) : BitVec w := if bit then taps else 0

/-- One turn without input: the lowest bit leaves. -/
def turn (taps register : BitVec w) : BitVec w :=
  (register >>> 1) ^^^ fedBack taps (register.getLsbD 0)

def turns (taps : BitVec w) : Nat → BitVec w → BitVec w
  | 0, register => register
  | count + 1, register => turn taps (turns taps count register)

/-- One turn that takes a message bit. -/
def feed (taps register : BitVec w) (bit : Bool) : BitVec w :=
  (register >>> 1) ^^^ fedBack taps (register.getLsbD 0 ^^ bit)

/-- The bits of a symbol, lowest first. -/
def bits (symbol : BitVec k) : List Bool := (List.range k).map symbol.getLsbD

section Linearity

theorem fedBack_xor (left right : Bool) :
    fedBack taps (left ^^ right) = fedBack taps left ^^^ fedBack taps right := by
  cases left <;> cases right <;> simp [fedBack]

/-- The turns of a sum are the sum of the turns. -/
theorem turn_xor (left right : BitVec w) :
    turn taps (left ^^^ right) = turn taps left ^^^ turn taps right := by
  unfold turn
  rw [BitVec.ushiftRight_xor_distrib, BitVec.getLsbD_xor, fedBack_xor]
  ac_rfl

theorem turns_xor (count : Nat) (left right : BitVec w) :
    turns taps count (left ^^^ right) = turns taps count left ^^^ turns taps count right := by
  induction count with
  | zero => rfl
  | succ count ih => rw [turns, ih, turn_xor, turns, turns]

theorem feed_eq_turn (register : BitVec w) (bit : Bool) :
    feed taps register bit = turn taps register ^^^ fedBack taps bit := by
  rw [feed, fedBack_xor, ← BitVec.xor_assoc]
  rfl

end Linearity

section Symbols

/-- After some bits, what is still to come of the symbol stands beside the register. -/
theorem turns_join {symbol : BitVec k} (narrow : k ≤ w) (register : BitVec w) {count : Nat}
    (within : count ≤ k) :
    turns taps count (register ^^^ symbol.setWidth w) =
      ((List.range count).map symbol.getLsbD).foldl (feed taps) register ^^^
        (symbol.setWidth w >>> count) := by
  induction count with
  | zero => simp [turns]
  | succ count ih =>
      have next : (symbol.setWidth w >>> count).getLsbD 0 = symbol.getLsbD count := by
        rw [BitVec.getLsbD_ushiftRight, BitVec.getLsbD_setWidth, Nat.add_zero,
          decide_eq_true (Nat.lt_of_lt_of_le within narrow), Bool.true_and]
      have shifted : turn taps (symbol.setWidth w >>> count) =
          (symbol.setWidth w >>> (count + 1)) ^^^ fedBack taps (symbol.getLsbD count) := by
        rw [turn, next, BitVec.shiftRight_add]
      rw [turns, ih (Nat.le_of_succ_le within), turn_xor, shifted, List.range_succ, List.map_append,
        List.foldl_append]
      change _ = feed taps _ (symbol.getLsbD count) ^^^ _
      rw [feed_eq_turn]
      ac_rfl

/-- Feeding the bits of a symbol is joining the symbol and turning the register. -/
theorem foldl_bits {symbol : BitVec k} (narrow : k ≤ w) (register : BitVec w) :
    (bits symbol).foldl (feed taps) register =
      turns taps k (register ^^^ symbol.setWidth w) := by
  have gone : symbol.setWidth w >>> k = 0 := by
    apply BitVec.eq_of_getLsbD_eq
    intro index _
    rw [BitVec.getLsbD_ushiftRight, BitVec.getLsbD_setWidth,
      BitVec.getLsbD_of_ge symbol _ (Nat.le_add_right k index), Bool.and_false]
    exact BitVec.getLsbD_zero.symm
  rw [turns_join narrow register (Nat.le_refl k), gone]
  exact BitVec.xor_zero.symm

end Symbols

section Table

/-- A register whose low bits are clear only moves down. -/
theorem turns_of_clear {register : BitVec w} {count : Nat}
    (clear : ∀ index < count, register.getLsbD index = false) :
    turns taps count register = register >>> count := by
  induction count with
  | zero => exact (BitVec.ushiftRight_zero register).symm
  | succ count ih =>
      have before : ∀ index < count, register.getLsbD index = false := by
        intro index below
        exact clear index (Nat.lt_succ_of_lt below)
      have leaves : (register >>> count).getLsbD 0 = false := by
        rw [BitVec.getLsbD_ushiftRight]
        exact clear count (Nat.lt_succ_self count)
      rw [turns, ih before, turn, leaves, BitVec.shiftRight_add]
      exact BitVec.xor_zero

/-- The low bits of a register, as a register. -/
def low (k : Nat) (register : BitVec w) : BitVec w := (register.setWidth k).setWidth w

theorem getLsbD_low (register : BitVec w) (index : Nat) :
    (low k register).getLsbD index = (decide (index < k) && register.getLsbD index) := by
  rw [low, BitVec.getLsbD_setWidth, BitVec.getLsbD_setWidth]
  by_cases inside : index < w
  · rw [decide_eq_true inside, Bool.true_and]
  · rw [decide_eq_false inside, Bool.false_and, BitVec.getLsbD_of_ge register index (by omega),
      Bool.and_false]

/-- The turned low bits, looked up, and the rest moved down are the turned register. -/
theorem turns_eq_lookup (register : BitVec w) :
    turns taps k register = turns taps k (low k register) ^^^ (register >>> k) := by
  have parts : register = low k register ^^^ (register ^^^ low k register) := by
    rw [BitVec.xor_comm register, ← BitVec.xor_assoc, BitVec.xor_self, BitVec.zero_xor]
  have clear : ∀ index < k, (register ^^^ low k register).getLsbD index = false := by
    intro index below
    rw [BitVec.getLsbD_xor, getLsbD_low, decide_eq_true below, Bool.true_and, Bool.xor_self]
  have moved : (register ^^^ low k register) >>> k = register >>> k := by
    apply BitVec.eq_of_getLsbD_eq
    intro index _
    rw [BitVec.getLsbD_ushiftRight, BitVec.getLsbD_ushiftRight, BitVec.getLsbD_xor, getLsbD_low,
      decide_eq_false (Nat.not_lt.mpr (Nat.le_add_right k index)), Bool.false_and, Bool.xor_false]
  calc turns taps k register
      = turns taps k (low k register ^^^ (register ^^^ low k register)) := by rw [← parts]
    _ = turns taps k (low k register) ^^^ (register >>> k) := by
        rw [turns_xor, turns_of_clear clear, moved]

end Table

end ShiftRegister
