import Mathlib.Data.List.Basic

/-!
# Prefix codes

A code splits when what it writes can be told from whatever follows it. Fixed
widths split, a length in front makes any string split, and a sequence of codes
that split is determined by the symbols it writes.
-/

set_option autoImplicit false

namespace PrefixCodes

variable {α β σ : Type}

/-- The code of a legal value can be split off whatever follows it. -/
def Splits (legal : α → Prop) (code : α → List σ) : Prop :=
  ∀ (first second : α) (rest other : List σ), legal first → legal second →
    code first ++ rest = code second ++ other → first = second ∧ rest = other

variable {legal : α → Prop} {code : α → List σ}

/-- A code of one width splits when it is injective. -/
theorem Splits.fixed {width : Nat} (length : ∀ value, (code value).length = width)
    (injective : ∀ {first second}, legal first → legal second → code first = code second →
      first = second) : Splits legal code := by
  intro first second rest other left right same
  have aligned : (code first).length = (code second).length := by rw [length, length]
  obtain ⟨front, back⟩ := List.append_inj same aligned
  exact ⟨injective left right front, back⟩

theorem Splits.pair {suits : β → Prop} {back : β → List σ} (splits : Splits legal code)
    (others : Splits suits back) :
    Splits (fun value : α × β => legal value.1 ∧ suits value.2)
      fun value => code value.1 ++ back value.2 := by
  intro first second rest other left right same
  rw [List.append_assoc, List.append_assoc] at same
  obtain ⟨front, same⟩ := splits _ _ _ _ left.1 right.1 same
  obtain ⟨behind, same⟩ := others _ _ _ _ left.2 right.2 same
  exact ⟨Prod.ext front behind, same⟩

/-- A string behind its length splits. -/
theorem Splits.counted {fits : Nat → Prop} {count : Nat → List σ} (splits : Splits fits count) :
    Splits (fun string : List σ => fits string.length)
      fun string => count string.length ++ string := by
  intro first second rest other left right same
  rw [List.append_assoc, List.append_assoc] at same
  obtain ⟨length, same⟩ := splits _ _ _ _ left right same
  exact List.append_inj same length

/-- A sequence of values is determined by its codes, one behind the other. -/
theorem Splits.flatMap_inj (splits : Splits legal code) (written : ∀ value, code value ≠ [])
    {first second : List α} (left : ∀ value ∈ first, legal value)
    (right : ∀ value ∈ second, legal value) :
    first.flatMap code = second.flatMap code ↔ first = second := by
  constructor
  · intro same
    induction first generalizing second with
    | nil =>
        cases second with
        | nil => rfl
        | cons value others =>
            rw [List.flatMap_nil, List.flatMap_cons] at same
            exact absurd (List.append_eq_nil_iff.mp same.symm).1 (written value)
    | cons value others ih =>
        cases second with
        | nil =>
            rw [List.flatMap_nil, List.flatMap_cons] at same
            exact absurd (List.append_eq_nil_iff.mp same).1 (written value)
        | cons other rest =>
            obtain ⟨legalValue, legalOthers⟩ := List.forall_mem_cons.mp left
            obtain ⟨legalOther, legalRest⟩ := List.forall_mem_cons.mp right
            rw [List.flatMap_cons, List.flatMap_cons] at same
            obtain ⟨head, tail⟩ := splits _ _ _ _ legalValue legalOther same
            rw [head, ih legalOthers legalRest tail]
  · intro same
    rw [same]

end PrefixCodes
