import Mathlib.Order.Basic

/-!
# Compare and commit

A value that many writers replace, each after comparing a version instead of the
whole value. An era names the last publication of the value, and a counter grows
with every amendment in between.
-/

set_option autoImplicit false

namespace CompareAndCommit

variable {ρ ε κ : Type*} [Preorder κ]

/-- What a writer compares. -/
structure Versioning (ρ ε κ : Type*) where
  era : ρ → ε
  count : ρ → κ

namespace Versioning

variable (versioning : Versioning ρ ε κ)

/-- The later value is an amendment of the earlier one. -/
def Amends (earlier later : ρ) : Prop :=
  versioning.era later = versioning.era earlier ∧
    versioning.count earlier < versioning.count later

/-- The current value is the snapshot, or tells itself apart from it for good. -/
def Tracks (snapshot current : ρ) : Prop :=
  current = snapshot ∨ versioning.Amends snapshot current ∨
    versioning.era current ≠ versioning.era snapshot

/-- One step of the writers; a publication takes an era that can be claimed once. -/
inductive Revised (claimable left : ε → Prop) : Option ρ → Option ρ → Prop where
  | same {value : Option ρ} : Revised claimable left value value
  | amended {earlier later : ρ} (amends : versioning.Amends earlier later) :
      Revised claimable left (some earlier) (some later)
  | published {value : Option ρ} {later : ρ} (claimed : claimable (versioning.era later))
      (spent : ¬left (versioning.era later)) : Revised claimable left value (some later)

variable {versioning} {claimable left : ε → Prop} {snapshot earlier later : ρ}

theorem Tracks.refl (value : ρ) : versioning.Tracks value value := .inl rfl

theorem Amends.trans (first : versioning.Amends snapshot earlier)
    (second : versioning.Amends earlier later) : versioning.Amends snapshot later :=
  ⟨second.1.trans first.1, lt_trans first.2 second.2⟩

theorem Tracks.amended (tracks : versioning.Tracks snapshot earlier)
    (amends : versioning.Amends earlier later) : versioning.Tracks snapshot later := by
  rcases tracks with rfl | amended | replaced
  · exact .inr (.inl amends)
  · exact .inr (.inl (amended.trans amends))
  · exact .inr (.inr fun same => replaced (amends.1.symm.trans same))

/-- A step keeps track of every snapshot whose era nobody can claim. -/
theorem Tracks.revised {before after : Option ρ}
    (tracks : ∃ value, before = some value ∧ versioning.Tracks snapshot value)
    (revised : versioning.Revised claimable left before after)
    (unclaimable : ¬claimable (versioning.era snapshot)) :
    ∃ value, after = some value ∧ versioning.Tracks snapshot value := by
  obtain ⟨value, rfl, tracks⟩ := tracks
  cases revised with
  | same => exact ⟨value, rfl, tracks⟩
  | amended amends => exact ⟨_, rfl, tracks.amended amends⟩
  | published claimed spent =>
      refine ⟨_, rfl, .inr (.inr fun same => ?_)⟩
      rw [same] at claimed
      exact unclaimable claimed

theorem Revised.unclaimable {before : Option ρ}
    (revised : versioning.Revised claimable left before (some later))
    (fewer : ∀ era, left era → claimable era)
    (initially : ∀ value, before = some value → ¬claimable (versioning.era value)) :
    ¬left (versioning.era later) := by
  generalize eq : some later = after at revised
  cases revised with
  | same => exact fun claimed => initially later eq.symm (fewer _ claimed)
  | amended amends =>
      cases eq
      rw [amends.1]
      exact fun claimed => initially _ rfl (fewer _ claimed)
  | published claimed spent =>
      cases eq
      exact spent

/-- A comparison of versions is as good as a comparison of values. -/
theorem Tracks.eq_of_version (tracks : versioning.Tracks snapshot later)
    (era : versioning.era later = versioning.era snapshot)
    (count : versioning.count later = versioning.count snapshot) : later = snapshot := by
  rcases tracks with same | amended | replaced
  · exact same
  · exact absurd count.symm amended.2.ne
  · exact absurd era replaced

end Versioning

end CompareAndCommit
