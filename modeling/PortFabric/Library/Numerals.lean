import Mathlib.Data.Rat.Cast.Defs
import Mathlib.Tactic.FieldSimp
import Mathlib.Tactic.Ring

/-!
# Decimal numerals

A numeral is a sequence of decimal digits, perhaps with a point. It stands for
the rational number that its digits denote by their places, and its spelling
determines it.
-/

set_option autoImplicit false

namespace Numerals

variable {σ : Type}

/-- The number that digits stand for, the highest digit first. -/
def number (digits : List (Fin 10)) : Nat :=
  digits.foldl (fun value (digit : Fin 10) => value * 10 + digit.val) 0

theorem foldl_number (digits : List (Fin 10)) (start : Nat) :
    digits.foldl (fun value (digit : Fin 10) => value * 10 + digit.val) start =
      start * 10 ^ digits.length + number digits := by
  induction digits generalizing start with
  | nil => simp [number]
  | cons digit digits ih =>
      rw [number, List.foldl_cons, List.foldl_cons, ih, ih, List.length_cons]
      ring

@[simp] theorem number_cons (digit : Fin 10) (digits : List (Fin 10)) :
    number (digit :: digits) = digit.val * 10 ^ digits.length + number digits := by
  rw [number, List.foldl_cons, foldl_number, Nat.zero_mul, Nat.zero_add]

theorem number_lt (digits : List (Fin 10)) : number digits < 10 ^ digits.length := by
  induction digits with
  | nil => decide
  | cons digit digits ih =>
      have step : digit.val * 10 ^ digits.length ≤ 9 * 10 ^ digits.length :=
        Nat.mul_le_mul_right _ (Nat.le_of_lt_succ digit.isLt)
      rw [number_cons, List.length_cons, Nat.pow_succ]
      omega

/-- The rational number that digits behind the point stand for. -/
def fraction : List (Fin 10) → ℚ
  | [] => 0
  | digit :: rest => (digit.val + fraction rest) / 10

theorem fraction_mul_pow (digits : List (Fin 10)) :
    fraction digits * 10 ^ digits.length = number digits := by
  induction digits with
  | nil => simp [fraction, number]
  | cons digit digits ih =>
      rw [fraction, number_cons, List.length_cons, pow_succ]
      push_cast
      rw [← ih]
      ring

structure Numeral where
  whole : List (Fin 10)
  /-- The digits behind the point, when there is a point. -/
  decimals : Option (List (Fin 10))

namespace Numeral

variable {numeral other : Numeral} {digit : Fin 10 → σ} {point : σ}

/-- The digits behind the point, if any. -/
def behind (numeral : Numeral) : List (Fin 10) := numeral.decimals.getD []

/-- The rational number that the numeral denotes. -/
def value (numeral : Numeral) : ℚ :=
  number numeral.whole + fraction numeral.behind

def spelled (digit : Fin 10 → σ) (point : σ) (numeral : Numeral) : List σ :=
  numeral.whole.map digit ++ numeral.decimals.elim [] fun decimals => point :: decimals.map digit

/-- A numeral is determined by its spelling. -/
theorem spelled_inj (injective : Function.Injective digit) (apart : ∀ figure, digit figure ≠ point)
    (same : numeral.spelled digit point = other.spelled digit point) : numeral = other := by
  obtain ⟨whole, decimals⟩ := numeral
  obtain ⟨figures, behind⟩ := other
  unfold spelled at same
  dsimp only at same
  induction whole generalizing figures with
  | nil =>
      cases figures with
      | nil =>
          cases decimals with
          | none =>
              cases behind with
              | none => rfl
              | some _ => cases same
          | some decimals =>
              cases behind with
              | none => cases same
              | some others =>
                  have tails := (List.cons.inj same).2
                  rw [List.map_injective_iff.mpr injective tails]
      | cons figure figures =>
          cases decimals with
          | none => cases same
          | some decimals => exact absurd (List.cons.inj same).1.symm (apart figure)
  | cons figure whole ih =>
      cases figures with
      | nil =>
          cases behind with
          | none => cases same
          | some others => exact absurd (List.cons.inj same).1 (apart figure)
      | cons other figures =>
          obtain ⟨heads, tails⟩ := List.cons.inj same
          cases injective heads
          cases ih figures tails
          rfl

end Numeral

end Numerals
