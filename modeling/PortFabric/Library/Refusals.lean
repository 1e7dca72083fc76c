import PortFabric.Library.Checks

/-!
# Refusals

What every failure of a chain of checks has in common, proved along the chain.
-/

set_option autoImplicit false

namespace Checks

variable {ε α β : Type} {common : ε → Prop}

/-- Every failure of the computation is of this kind. -/
def Refuses (common : ε → Prop) (computation : Except ε α) : Prop :=
  ∀ error, computation = .error error → common error

theorem Refuses.ok (value : α) : Refuses common (.ok value : Except ε α) := by
  intro error failed
  cases failed

theorem Refuses.error {error : ε} (given : common error) :
    Refuses common (.error error : Except ε α) := by
  intro other failed
  cases failed
  exact given

theorem Refuses.bind {first : Except ε α} {rest : α → Except ε β} (before : Refuses common first)
    (after : ∀ value, Refuses common (rest value)) : Refuses common (first >>= rest) := by
  intro error failed
  rcases bind_eq_error.mp failed with early | ⟨value, _, later⟩
  · exact before error early
  · exact after value error later

theorem Refuses.ite {condition : Prop} [Decidable condition] {yes no : Except ε α}
    (holds : Refuses common yes) (fails : Refuses common no) :
    Refuses common (if condition then yes else no) := by
  split
  · exact holds
  · exact fails

theorem Refuses.require {condition : Bool} {error : ε} {rest : Except ε α} (given : common error)
    (after : Refuses common rest) : Refuses common (require condition error rest) :=
  .ite after (.error given)

theorem Refuses.refuseIf {condition : Bool} {error : ε} {rest : Except ε α} (given : common error)
    (after : Refuses common rest) : Refuses common (refuseIf condition error rest) :=
  .require given after

end Checks
