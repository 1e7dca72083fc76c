import Mathlib.Data.List.Sort

/-!
# Differences

Two states are compared by measurements, each filed under a key. The differences
are the measurements that disagree, sorted by key. They are strictly ascending
exactly when no key is filed twice among them, and they turn around with the
comparison.
-/

set_option autoImplicit false

namespace Differences

variable {κ σ τ : Type}

/-- A measurement that disagrees, under its key. -/
structure Entry (κ τ : Type) where
  field : κ
  before : τ
  after : τ
  deriving DecidableEq

def Entry.swap (entry : Entry κ τ) : Entry κ τ := ⟨entry.field, entry.after, entry.before⟩

section Sorting

/-- Entries are sorted by the rank of their keys. -/
def sorted (rank : κ → Nat) (entries : List (Entry κ τ)) : List (Entry κ τ) :=
  entries.insertionSort fun first second => rank first.field ≤ rank second.field

variable {rank : κ → Nat}

theorem sorted_perm (entries : List (Entry κ τ)) : (sorted rank entries).Perm entries :=
  List.perm_insertionSort _ _

/-- Sorting looks at the keys only. -/
theorem sorted_map_swap (entries : List (Entry κ τ)) :
    sorted rank (entries.map Entry.swap) = (sorted rank entries).map Entry.swap :=
  (List.map_insertionSort _ _ Entry.swap entries fun _ _ _ _ => Iff.rfl).symm

theorem sorted_of_ordered {entries : List (Entry κ τ)}
    (ordered : (entries.map Entry.field).Pairwise fun first second => rank first ≤ rank second) :
    sorted rank entries = entries :=
  (List.pairwise_map.mp ordered).insertionSort_eq

/-- Sorted entries ascend strictly exactly when no key occurs twice. -/
theorem sorted_ascending_iff (injective : Function.Injective rank) (entries : List (Entry κ τ)) :
    ((sorted rank entries).map (rank ∘ Entry.field)).Pairwise (· < ·) ↔
      (entries.map Entry.field).Nodup := by
  have ordered : (sorted rank entries).Pairwise fun first second =>
      rank first.field ≤ rank second.field := by
    have total : Std.Total fun first second : Entry κ τ =>
        rank first.field ≤ rank second.field := ⟨fun _ _ => Nat.le_total _ _⟩
    have trans : IsTrans (Entry κ τ) fun first second =>
        rank first.field ≤ rank second.field := ⟨fun _ _ _ => Nat.le_trans⟩
    exact List.pairwise_insertionSort _ entries
  have same : (entries.map Entry.field).Nodup ↔
      ((sorted rank entries).map Entry.field).Nodup :=
    ((sorted_perm entries).map Entry.field).nodup_iff.symm
  rw [same, List.Nodup, List.pairwise_map, List.pairwise_map]
  constructor
  · intro ascending
    refine ascending.imp ?_
    intro first second less equal
    exact Nat.lt_irrefl _ (Nat.lt_of_lt_of_eq less (congrArg rank equal.symm))
  · intro apart
    refine (ordered.and apart).imp ?_
    intro first second both
    exact Nat.lt_of_le_of_ne both.1 fun equal => both.2 (injective equal)

end Sorting

variable [DecidableEq τ]

/-- The measurements that disagree, in the order in which they are made. -/
def differences (measurements : List (κ × (σ → τ))) (before after : σ) : List (Entry κ τ) :=
  measurements.flatMap fun measurement =>
    if measurement.2 before = measurement.2 after then []
    else [⟨measurement.1, measurement.2 before, measurement.2 after⟩]

variable {measurements : List (κ × (σ → τ))} {before after : σ}

theorem differences_singleton (key : κ) (measure : σ → τ) (before after : σ) :
    differences [(key, measure)] before after =
      if measure before = measure after then [] else [⟨key, measure before, measure after⟩] :=
  List.append_nil _

theorem differences_append (front back : List (κ × (σ → τ))) (before after : σ) :
    differences (front ++ back) before after =
      differences front before after ++ differences back before after :=
  List.flatMap_append

theorem differences_swap (measurements : List (κ × (σ → τ))) (before after : σ) :
    differences measurements after before =
      (differences measurements before after).map Entry.swap := by
  rw [differences, differences, List.map_flatMap]
  apply List.flatMap_congr
  intro measurement _
  by_cases same : measurement.2 before = measurement.2 after
  · rw [if_pos same, if_pos same.symm]
    rfl
  · rw [if_neg same, if_neg (Ne.symm same)]
    rfl

/-- The keys of the differences are the keys of the measurements that disagree. -/
theorem fields_differences (measurements : List (κ × (σ → τ))) (before after : σ) :
    (differences measurements before after).map Entry.field =
      (measurements.filter fun measurement =>
        measurement.2 before ≠ measurement.2 after).map Prod.fst := by
  induction measurements with
  | nil => rfl
  | cons measurement measurements ih =>
      rw [differences, List.flatMap_cons, List.map_append, ← differences, ih, List.filter_cons]
      by_cases same : measurement.2 before = measurement.2 after
      · simp [same]
      · simp [same]

theorem fields_sublist (measurements : List (κ × (σ → τ))) (before after : σ) :
    ((differences measurements before after).map Entry.field).Sublist
      (measurements.map Prod.fst) := by
  rw [fields_differences]
  exact List.filter_sublist.map _

/-- A key is listed exactly when a measurement under it disagrees. -/
theorem mem_fields_iff {key : κ} :
    key ∈ (differences measurements before after).map Entry.field ↔
      ∃ measure, (key, measure) ∈ measurements ∧ measure before ≠ measure after := by
  rw [fields_differences, List.mem_map]
  constructor
  · intro given
    rcases given with ⟨measurement, member, same⟩
    subst same
    obtain ⟨listed, disagrees⟩ := List.mem_filter.mp member
    exact ⟨measurement.2, listed, of_decide_eq_true disagrees⟩
  · intro given
    rcases given with ⟨measure, listed, disagrees⟩
    exact ⟨(key, measure), List.mem_filter.mpr ⟨listed, decide_eq_true disagrees⟩, rfl⟩

end Differences
