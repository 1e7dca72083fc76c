import PortFabric.Library.OrderedMap

/-!
# Growing tables

Tables from which nothing is taken, in which values only move up, and which keep
to a bound: the relation between a table and what has become of it.
-/

set_option autoImplicit false

namespace OrderedMap

variable {κ β : Type*} [Ord κ] [Std.TransOrd κ]

/-- Every entry is still there and moved up at most, and the bound was kept. -/
structure Growth (bound : Nat) (rises : β → β → Prop) (before after : Std.ExtTreeMap κ β) :
    Prop where
  kept : ∀ (key : κ) (value : β), before[key]? = some value →
    ∃ later : β, after[key]? = some later ∧ rises value later
  bounded : after.size ≤ max before.size bound

namespace Growth

variable {bound : Nat} {rises : β → β → Prop} {first second third : Std.ExtTreeMap κ β}

theorem refl (still : ∀ value, rises value value) : Growth bound rises first first :=
  ⟨fun _ value found => ⟨value, found, still value⟩, Nat.le_max_left ..⟩

theorem trans (rising : ∀ low middle high, rises low middle → rises middle high → rises low high)
    (lower : Growth bound rises first second) (upper : Growth bound rises second third) :
    Growth bound rises first third := by
  constructor
  · intro key value found
    obtain ⟨middle, held, low⟩ := lower.kept key value found
    obtain ⟨later, present, high⟩ := upper.kept key middle held
    exact ⟨later, present, rising _ _ _ low high⟩
  · have below := lower.bounded
    have above := upper.bounded
    omega

variable [Std.LawfulEqOrd κ] [DecidableEq κ]

/-- An entry is put where there was none, as long as the table has room. -/
theorem insert_fresh {key : κ} (still : ∀ value, rises value value)
    (absent : first[key]? = none) (room : first.size < bound) (value : β) :
    Growth bound rises first (first.insert key value) := by
  constructor
  · intro other held found
    have different : key ≠ other := by
      rintro rfl
      rw [absent] at found
      cases found
    exact ⟨held, by rw [lookup_insert_of_ne different, found], still held⟩
  · have grown := Std.ExtTreeMap.size_insert_le (t := first) (k := key) (v := value)
    omega

/-- An entry is replaced by one above it. -/
theorem insert_held {key : κ} {held value : β}
    (still : ∀ value, rises value value) (found : first[key]? = some held)
    (above : rises held value) : Growth bound rises first (first.insert key value) := by
  constructor
  · intro other stored present
    rw [lookup_insert]
    split
    · next same =>
        cases same
        cases found.symm.trans present
        exact ⟨value, rfl, above⟩
    · exact ⟨stored, present, still stored⟩
  · have member : key ∈ first := by
      rw [Std.ExtTreeMap.mem_iff_isSome_getElem?, found]
      rfl
    rw [Std.ExtTreeMap.size_insert, if_pos (Std.ExtTreeMap.contains_iff_mem.mpr member)]
    exact Nat.le_max_left ..

end Growth

end OrderedMap
