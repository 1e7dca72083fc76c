import Mathlib.Logic.Function.Basic

/-!
# Secondary indexes

An index relates keys to the values under which entries are stored. It
describes a store when it relates exactly the keys of the stored entries; the
rules say which changes of the index go with a change of the store.
-/

set_option autoImplicit false

namespace SecondaryIndex

variable {κ ν α : Type*}

/-- The entry stored under the value has the key. -/
def Keyed (has : α → κ → Prop) (lookup : ν → Option α) (key : κ) (value : ν) : Prop :=
  ∃ entry, lookup value = some entry ∧ has entry key

/-- The index relates exactly the keys of the stored entries to their values. -/
def Describes (has : α → κ → Prop) (lookup : ν → Option α) (holds : κ → ν → Prop) : Prop :=
  ∀ key value, holds key value ↔ Keyed has lookup key value

variable {has : α → κ → Prop} {lookup other : ν → Option α} {holds after : κ → ν → Prop}
  {here : ν} {entry : α}

theorem keyed_of_lookup {key : κ} (found : lookup here = some entry) :
    Keyed has lookup key here ↔ has entry key := by
  constructor
  · intro given
    rcases given with ⟨stored, again, keyed⟩
    cases found.symm.trans again
    exact keyed
  · exact fun keyed => ⟨entry, found, keyed⟩

theorem not_keyed_of_absent {key : κ} (absent : lookup here = none) :
    ¬Keyed has lookup key here := by
  intro given
  rcases given with ⟨_, found, _⟩
  rw [absent] at found
  cases found

/-- A change at one value keeps the description when the index changes at that value alone. -/
theorem Describes.change (here : ν) (describes : Describes has lookup holds)
    (elsewhere : ∀ value, value ≠ here → other value = lookup value)
    (kept : ∀ key value, value ≠ here → (after key value ↔ holds key value))
    (changed : ∀ key, after key here ↔ Keyed has other key here) :
    Describes has other after := by
  intro key value
  by_cases same : value = here
  · subst same
    exact changed key
  · rw [kept key value same, describes key value, Keyed, Keyed, elsewhere value same]

end SecondaryIndex
