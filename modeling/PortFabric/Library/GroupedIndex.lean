import PortFabric.Library.OrderedMap
import Std.Data.ExtTreeSet

/-!
# Grouped indexes

Values grouped under keys. A group that loses its last value is dropped, so an
index is determined by the pairs it holds.
-/

set_option autoImplicit false

namespace GroupedIndex

variable {κ ν : Type} [Ord κ] [Std.TransOrd κ] [Ord ν] [Std.TransOrd ν]

abbrev Index (κ ν : Type) [Ord κ] [Ord ν] := Std.ExtTreeMap κ (Std.ExtTreeSet ν)

def add (index : Index κ ν) (key : κ) (value : ν) : Index κ ν :=
  Std.ExtTreeMap.insert index key ((index[key]?.getD ∅).insert value)

def remove (index : Index κ ν) (key : κ) (value : ν) : Index κ ν :=
  match index[key]? with
  | none => index
  | some group =>
      if (group.erase value).isEmpty then Std.ExtTreeMap.erase index key
      else Std.ExtTreeMap.insert index key (group.erase value)

/-- The value is in the group of the key. -/
def Holds (index : Index κ ν) (key : κ) (value : ν) : Prop :=
  value ∈ index[key]?.getD ∅

/-- No group is empty. -/
def Pruned (index : Index κ ν) : Prop :=
  ∀ (key : κ) (group : Std.ExtTreeSet ν), index[key]? = some group → group ≠ ∅

instance (index : Index κ ν) (key : κ) (value : ν) : Decidable (Holds index key value) :=
  inferInstanceAs (Decidable (value ∈ index[key]?.getD ∅))

@[simp] theorem not_holds_empty (key : κ) (value : ν) : ¬Holds (∅ : Index κ ν) key value := by
  simp [Holds]

omit [Std.TransOrd ν] in
theorem Pruned.empty : Pruned (∅ : Index κ ν) := by
  intro key group found
  simp at found

variable [Std.LawfulEqOrd κ] [Std.LawfulEqOrd ν] [DecidableEq κ] {index : Index κ ν} {key other : κ}
  {value another : ν}

theorem holds_add :
    Holds (add index key value) other another ↔
      (key = other ∧ value = another) ∨ Holds index other another := by
  unfold Holds add
  rw [OrderedMap.lookup_insert]
  split
  · next same =>
      subst same
      simp
  · next different => simp [different]

theorem Pruned.add (pruned : Pruned index) : Pruned (add index key value) := by
  intro other group found
  unfold GroupedIndex.add at found
  rw [OrderedMap.lookup_insert] at found
  split at found
  · cases found
    intro empty
    have member : value ∈ (index[key]?.getD ∅).insert value := by simp
    rw [empty] at member
    simp at member
  · exact pruned other group found

theorem holds_remove :
    Holds (remove index key value) other another ↔
      ¬(key = other ∧ value = another) ∧ Holds index other another := by
  unfold Holds remove
  split
  · next absent =>
      constructor
      · intro held
        refine ⟨?_, held⟩
        intro given
        rcases given with ⟨rfl, rfl⟩
        simp [absent] at held
      · exact fun held => held.2
  · next group found =>
      by_cases same : key = other
      · subst same
        split
        · next emptied =>
            have empty : group.erase value = ∅ := Std.ExtTreeSet.isEmpty_iff.mp emptied
            have none_left : another ∉ group.erase value := by rw [empty]; simp
            rw [OrderedMap.lookup_erase]
            simpa [found] using none_left
        · simp [found]
      · split
        · rw [OrderedMap.lookup_erase]
          simp [same]
        · rw [OrderedMap.lookup_insert]
          simp [same]

omit [Std.LawfulEqOrd ν] in
theorem Pruned.remove (pruned : Pruned index) : Pruned (remove index key value) := by
  unfold GroupedIndex.remove
  split
  · exact pruned
  · split
    · intro other group found
      rw [OrderedMap.lookup_erase] at found
      split at found
      · cases found
      · exact pruned other group found
    · next left =>
        intro other group found
        rw [OrderedMap.lookup_insert] at found
        split at found
        · cases found
          intro empty
          exact left (Std.ExtTreeSet.isEmpty_iff.mpr empty)
        · exact pruned other group found

omit [DecidableEq κ] in
/-- Two indexes without empty groups that hold the same pairs are equal. -/
theorem Pruned.ext {first second : Index κ ν} (pruned : Pruned first) (tidy : Pruned second)
    (same : ∀ key value, Holds first key value ↔ Holds second key value) : first = second := by
  apply Std.ExtTreeMap.ext_getElem?
  intro key
  have members := same key
  unfold Holds at members
  cases left : first[key]? with
  | none =>
      cases right : second[key]? with
      | none => rfl
      | some group =>
          rw [left, right] at members
          refine absurd ?_ (tidy key group right)
          apply Std.ExtTreeSet.ext_mem
          intro value
          exact (members value).symm
  | some group =>
      cases right : second[key]? with
      | none =>
          rw [left, right] at members
          exact absurd (Std.ExtTreeSet.ext_mem fun value => members value) (pruned key group left)
      | some other =>
          rw [left, right] at members
          exact congrArg some (Std.ExtTreeSet.ext_mem fun value => members value)

/-- Adding and removing a pair restores the index exactly when it did not hold the pair. -/
theorem remove_add_iff (pruned : Pruned index) :
    remove (add index key value) key value = index ↔ ¬Holds index key value := by
  constructor
  · intro restored held
    rw [← restored, holds_remove] at held
    exact held.1 ⟨rfl, rfl⟩
  · intro free
    apply Pruned.ext pruned.add.remove pruned
    intro other another
    rw [holds_remove, holds_add]
    constructor
    · intro given
      rcases given with ⟨different, same | held⟩
      · exact absurd same different
      · exact held
    · intro held
      refine ⟨?_, .inr held⟩
      intro given
      rcases given with ⟨rfl, rfl⟩
      exact free held

end GroupedIndex
