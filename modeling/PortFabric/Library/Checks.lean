import Mathlib.Data.List.Basic

/-!
# Check chains

A validator is a chain of checks, each refusing with its own error. These rules
turn acceptance of a chain into the conjunction of its checks.
-/

set_option autoImplicit false

namespace Checks

variable {ε α β : Type}

/-- Goes on with `rest` when the condition holds, and refuses with `error` otherwise. -/
def require (condition : Bool) (error : ε) (rest : Except ε α) : Except ε α :=
  if condition then rest else .error error

/-- Refuses with `error` when the condition holds. -/
def refuseIf (condition : Bool) (error : ε) (rest : Except ε α) : Except ε α :=
  require (!condition) error rest

/-- Runs a nested validator and reports its error through `report`. -/
def within (check : Except ε Unit) (report : ε → ε) (rest : Except ε α) : Except ε α :=
  match check with
  | .ok () => rest
  | .error error => .error (report error)

@[simp] theorem require_eq_ok {condition : Bool} {error : ε} {rest : Except ε α} {value : α} :
    require condition error rest = .ok value ↔ condition = true ∧ rest = .ok value := by
  cases condition <;> simp [require]

@[simp] theorem refuseIf_eq_ok {condition : Bool} {error : ε} {rest : Except ε α} {value : α} :
    refuseIf condition error rest = .ok value ↔ condition = false ∧ rest = .ok value := by
  cases condition <;> simp [refuseIf, require]

@[simp] theorem within_eq_ok {check : Except ε Unit} {report : ε → ε} {rest : Except ε α}
    {value : α} :
    within check report rest = .ok value ↔ check = .ok () ∧ rest = .ok value := by
  cases check <;> simp [within]

@[simp] theorem ok_bind {value : α} {rest : α → Except ε β} :
    (Except.ok value >>= rest) = rest value := rfl

@[simp] theorem error_bind {error : ε} {rest : α → Except ε β} :
    ((Except.error error : Except ε α) >>= rest) = .error error := rfl

theorem bind_eq_ok {first : Except ε α} {rest : α → Except ε β} {value : β} :
    (first >>= rest) = .ok value ↔ ∃ middle, first = .ok middle ∧ rest middle = .ok value := by
  cases first <;> simp [bind, Except.bind]

theorem bind_eq_error {first : Except ε α} {rest : α → Except ε β} {error : ε} :
    (first >>= rest) = .error error ↔
      first = .error error ∨ ∃ found, first = .ok found ∧ rest found = .error error := by
  cases first <;> simp [bind, Except.bind]

theorem mapError_eq_ok {first : Except ε α} {report : ε → β} {value : α} :
    first.mapError report = .ok value ↔ first = .ok value := by
  cases first <;> simp [Except.mapError]

theorem isOk_iff {check : Except ε Unit} : check.isOk = true ↔ check = .ok () := by
  cases check with
  | error error => exact iff_of_false Bool.false_ne_true nofun
  | ok found => exact iff_of_true rfl rfl

theorem pure_eq_ok {given value : α} :
    (pure given : Except ε α) = .ok value ↔ given = value := by
  simp [pure, Except.pure]

/-- The computation does not end with this failure. -/
def Avoids (failure : ε) (computation : Except ε α) : Prop := computation ≠ .error failure

section Avoiding

variable {failure : ε}

theorem Avoids.ok (value : α) : Avoids failure (.ok value) := by
  intro same
  cases same

theorem Avoids.error {other : ε} (different : other ≠ failure) :
    Avoids failure (.error other : Except ε α) := by
  intro same
  exact different (Except.error.inj same)

theorem Avoids.bind {first : Except ε α} {rest : α → Except ε β} (before : Avoids failure first)
    (after : ∀ value, first = .ok value → Avoids failure (rest value)) :
    Avoids failure (first >>= rest) := by
  intro failed
  obtain same | ⟨value, found, later⟩ := bind_eq_error.mp failed
  · exact before same
  · exact after value found later

theorem Avoids.ite {condition : Prop} [Decidable condition] {yes no : Except ε α}
    (holds : condition → Avoids failure yes) (fails : ¬condition → Avoids failure no) :
    Avoids failure (if condition then yes else no) := by
  split
  · next true => exact holds true
  · next false => exact fails false

end Avoiding

end Checks
