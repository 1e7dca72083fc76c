import Mathlib.Data.List.Basic
import Mathlib.Tactic.Ring

/-!
# Bit strings

The binary digits of a number, the highest first, and of the bytes of a text.
-/

set_option autoImplicit false

namespace BitStrings

/-- The number that binary digits stand for. -/
def number (bits : List Bool) : Nat := bits.foldl (fun value bit => 2 * value + bit.toNat) 0

/-- The lowest binary digits of a number. -/
def digits (width value : Nat) : List Bool :=
  (List.range width).map fun index => value.testBit (width - 1 - index)

/-- The bits of bytes. -/
def ofBytes (bytes : List UInt8) : List Bool := bytes.flatMap fun byte => digits 8 byte.toNat

section Digits

variable {width value : Nat}

@[simp] theorem length_digits : (digits width value).length = width := by simp [digits]

theorem digits_succ :
    digits (width + 1) value = value.testBit width :: digits width value := by
  unfold digits
  rw [List.range_succ_eq_map, List.map_cons, List.map_map]
  congr 1
  apply List.map_congr_left
  intro index _
  exact congrArg value.testBit (by omega)

theorem foldl_number (bits : List Bool) (start : Nat) :
    bits.foldl (fun value bit => 2 * value + bit.toNat) start =
      start * 2 ^ bits.length + number bits := by
  induction bits generalizing start with
  | nil => simp [number]
  | cons bit bits ih =>
      rw [number, List.foldl_cons, List.foldl_cons, ih, ih, List.length_cons]
      ring

@[simp] theorem number_nil : number [] = 0 := rfl

theorem number_cons (bit : Bool) (bits : List Bool) :
    number (bit :: bits) = bit.toNat * 2 ^ bits.length + number bits := by
  rw [number, List.foldl_cons, foldl_number, Nat.mul_zero, Nat.zero_add]

theorem number_append (first second : List Bool) :
    number (first ++ second) = number first * 2 ^ second.length + number second := by
  rw [number, List.foldl_append, foldl_number]
  rfl

theorem number_digits : number (digits width value) = value % 2 ^ width := by
  induction width with
  | zero => rw [Nat.pow_zero, Nat.mod_one]; rfl
  | succ width ih =>
      rw [digits_succ, number_cons, ih, length_digits, Nat.toNat_testBit, Nat.mod_pow_succ]
      ring

/-- The digits of a number are those above a place and those below it. -/
theorem digits_add {above below : Nat} :
    digits (above + below) value = digits above (value / 2 ^ below) ++ digits below value := by
  induction above with
  | zero =>
      rw [Nat.zero_add]
      rfl
  | succ above ih =>
      rw [Nat.add_right_comm, digits_succ, ih, digits_succ, Nat.testBit_div_two_pow,
        List.cons_append]

/-- Higher digits play no part. -/
theorem digits_mod {within : Nat} (narrow : width ≤ within) :
    digits width (value % 2 ^ within) = digits width value := by
  unfold digits
  apply List.map_congr_left
  intro index member
  have inside := List.mem_range.mp member
  rw [Nat.testBit_mod_two_pow, decide_eq_true (by omega), Bool.true_and]

@[simp] theorem digits_zero : digits width 0 = List.replicate width false := by
  rw [digits]
  simp only [Nat.zero_testBit, List.map_const', List.length_range]

end Digits

section Bytes

@[simp] theorem ofBytes_nil : ofBytes [] = [] := rfl

theorem ofBytes_cons (byte : UInt8) (bytes : List UInt8) :
    ofBytes (byte :: bytes) = digits 8 byte.toNat ++ ofBytes bytes := List.flatMap_cons

theorem ofBytes_append (first second : List UInt8) :
    ofBytes (first ++ second) = ofBytes first ++ ofBytes second := List.flatMap_append

@[simp] theorem length_ofBytes (bytes : List UInt8) :
    (ofBytes bytes).length = 8 * bytes.length := by
  induction bytes with
  | nil => rfl
  | cons byte bytes ih =>
      rw [ofBytes_cons, List.length_append, length_digits, ih, List.length_cons]
      ring

theorem number_ofBytes_cons (byte : UInt8) (bytes : List UInt8) :
    number (ofBytes (byte :: bytes)) =
      byte.toNat * 2 ^ (8 * bytes.length) + number (ofBytes bytes) := by
  rw [ofBytes_cons, number_append, number_digits, Nat.mod_eq_of_lt byte.toNat_lt, length_ofBytes]

theorem ofBytes_replicate (count : Nat) :
    ofBytes (List.replicate count 0) = List.replicate (8 * count) false := by
  induction count with
  | zero => rfl
  | succ count ih =>
      rw [List.replicate_succ, ofBytes_cons, ih, UInt8.toNat_zero, digits_zero,
        List.replicate_append_replicate]
      congr 1
      ring

theorem drop_ofBytes (count : Nat) (bytes : List UInt8) :
    (ofBytes bytes).drop (8 * count) = ofBytes (bytes.drop count) := by
  induction count generalizing bytes with
  | zero => rfl
  | succ count ih =>
      cases bytes with
      | nil => rw [List.drop_nil, ofBytes_nil, List.drop_nil]
      | cons byte bytes =>
          have whole : 8 * (count + 1) = (digits 8 byte.toNat).length + 8 * count := by
            rw [length_digits]
            ring
          rw [ofBytes_cons, whole, ← List.drop_drop, List.drop_left, ih, List.drop_succ_cons]

theorem take_ofBytes (count : Nat) (bytes : List UInt8) :
    (ofBytes bytes).take (8 * count) = ofBytes (bytes.take count) := by
  induction count generalizing bytes with
  | zero => rfl
  | succ count ih =>
      cases bytes with
      | nil => rw [List.take_nil, ofBytes_nil, List.take_nil]
      | cons byte bytes =>
          have whole : 8 * (count + 1) = (digits 8 byte.toNat).length + 8 * count := by
            rw [length_digits]
            ring
          rw [ofBytes_cons, whole, List.take_length_add_append, ih, List.take_succ_cons,
            ofBytes_cons]

/-- Bytes are told apart by their bits. -/
theorem ofBytes_injective : Function.Injective ofBytes := by
  intro first second same
  induction first generalizing second with
  | nil =>
      cases second with
      | nil => rfl
      | cons byte bytes =>
          have lengths := congrArg List.length same
          rw [length_ofBytes, length_ofBytes, List.length_cons] at lengths
          simp at lengths
  | cons byte first ih =>
      cases second with
      | nil =>
          have lengths := congrArg List.length same
          rw [length_ofBytes, length_ofBytes, List.length_cons] at lengths
          simp at lengths
      | cons other second =>
          rw [ofBytes_cons, ofBytes_cons] at same
          obtain ⟨heads, tails⟩ := List.append_inj same (by simp)
          have values := congrArg number heads
          rw [number_digits, number_digits, Nat.mod_eq_of_lt byte.toNat_lt,
            Nat.mod_eq_of_lt other.toNat_lt] at values
          rw [UInt8.toNat_inj.mp values, ih tails]

end Bytes

end BitStrings
