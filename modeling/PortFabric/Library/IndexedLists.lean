import PortFabric.Library.OrderedMap

/-!
# Indexed lists

A list of entries that is only appended to or overwritten in place, beside an
ordered map from the key of every entry to its position.
-/

set_option autoImplicit false

namespace IndexedList

variable {κ α : Type*} [Ord κ] [Std.TransOrd κ]

/-- The index names the position of every entry under the key of the entry, and no other. -/
def Indexes (own : α → κ) (index : Std.ExtTreeMap κ Nat) (entries : List α) : Prop :=
  ∀ key place, index[key]? = some place ↔ ∃ entry, entries[place]? = some entry ∧ own entry = key

/-- The entry that is found through the index. -/
def lookup (index : Std.ExtTreeMap κ Nat) (entries : List α) (key : κ) : Option α :=
  index[key]?.bind fun place => entries[place]?

/-- Overwrites the entry of the same key, or appends a new one. -/
def store (own : α → κ) (index : Std.ExtTreeMap κ Nat) (entries : List α) (entry : α) :
    Std.ExtTreeMap κ Nat × List α :=
  match index[own entry]? with
  | some place => (index, entries.set place entry)
  | none => (index.insert (own entry) entries.length, entries ++ [entry])

theorem Indexes.empty {own : α → κ} : Indexes own ∅ ([] : List α) := by
  intro key place
  simp

variable {own : α → κ} {index : Std.ExtTreeMap κ Nat} {entries : List α} {entry : α} {key : κ}
  {place : Nat}

theorem mem_of_mem_store {other : α} (member : other ∈ (store own index entries entry).2) :
    other = entry ∨ other ∈ entries := by
  unfold store at member
  split at member
  · exact (List.mem_or_eq_of_mem_set member).symm
  · rcases List.mem_append.mp member with former | new
    · exact .inr former
    · exact .inl (List.mem_singleton.mp new)

namespace Indexes

variable (indexes : Indexes own index entries)

include indexes

/-- A position that the index names can be read. -/
theorem within (found : index[key]? = some place) : place < entries.length := by
  obtain ⟨_, present, _⟩ := (indexes key place).mp found
  exact (List.getElem?_eq_some_iff.mp present).1

theorem lookup_eq_some_iff :
    lookup index entries key = some entry ↔ entry ∈ entries ∧ own entry = key := by
  simp only [lookup, Option.bind_eq_some_iff]
  constructor
  · rintro ⟨place, found, present⟩
    obtain ⟨other, same, keyed⟩ := (indexes key place).mp found
    rw [present] at same
    cases same
    exact ⟨List.mem_of_getElem? present, keyed⟩
  · rintro ⟨member, keyed⟩
    obtain ⟨place, present⟩ := List.mem_iff_getElem?.mp member
    exact ⟨place, (indexes key place).mpr ⟨entry, present, keyed⟩, present⟩

theorem nodup : (entries.map own).Nodup := by
  rw [List.Nodup, List.pairwise_map, List.pairwise_iff_getElem]
  intro first second inside within before same
  have left : index[own entries[second]]? = some first :=
    (indexes _ first).mpr ⟨entries[first], List.getElem?_eq_getElem inside, same⟩
  have right : index[own entries[second]]? = some second :=
    (indexes _ second).mpr ⟨entries[second], List.getElem?_eq_getElem within, rfl⟩
  rw [left] at right
  exact absurd (Option.some.inj right) (Nat.ne_of_lt before)

/-- The lookup agrees with a scan of the list. -/
theorem lookup_eq_find? [DecidableEq κ] (key : κ) :
    lookup index entries key = entries.find? fun entry => own entry = key := by
  cases scanned : entries.find? fun entry => own entry = key with
  | none =>
      rw [Option.eq_none_iff_forall_ne_some]
      intro entry found
      obtain ⟨member, keyed⟩ := indexes.lookup_eq_some_iff.mp found
      have excluded := List.find?_eq_none.mp scanned entry member
      exact excluded (decide_eq_true keyed)
  | some entry =>
      have keyed : own entry = key := by simpa using List.find?_some scanned
      exact indexes.lookup_eq_some_iff.mpr ⟨List.mem_of_find?_eq_some scanned, keyed⟩

theorem absent_iff : index[key]? = none ↔ ∀ entry ∈ entries, own entry ≠ key := by
  rw [Option.eq_none_iff_forall_ne_some]
  constructor
  · intro absent entry member keyed
    obtain ⟨place, present⟩ := List.mem_iff_getElem?.mp member
    exact absent place ((indexes key place).mpr ⟨entry, present, keyed⟩)
  · intro free place found
    obtain ⟨entry, present, keyed⟩ := (indexes key place).mp found
    exact free entry (List.mem_of_getElem? present) keyed

theorem replace (found : index[own entry]? = some place) :
    Indexes own index (entries.set place entry) := by
  intro key other
  have within := indexes.within found
  obtain ⟨former, present, keyed⟩ := (indexes _ place).mp found
  rw [indexes key other, List.getElem?_set]
  by_cases same : place = other
  · subst same
    rw [if_pos rfl, if_pos within, present]
    constructor
    · rintro ⟨_, ⟨⟩, rfl⟩
      exact ⟨entry, rfl, keyed.symm⟩
    · rintro ⟨_, ⟨⟩, rfl⟩
      exact ⟨former, rfl, keyed⟩
  · rw [if_neg same]

/-- The keys that are listed stay where they are. -/
theorem store_keys (entry : α) :
    entries.map own <+: (IndexedList.store own index entries entry).2.map own := by
  unfold IndexedList.store
  split
  · next place found =>
      obtain ⟨former, present, keyed⟩ := (indexes _ place).mp found
      obtain ⟨within, here⟩ := List.getElem?_eq_some_iff.mp present
      have same : (entries.map own).set place (own entry) = entries.map own := by
        rw [← keyed, ← here, ← List.map_set, List.set_getElem_self]
      rewrite [List.map_set, same]
      exact List.prefix_rfl
  · rw [List.map_append]
    exact List.prefix_append ..

variable [Std.LawfulEqOrd κ] [DecidableEq κ]

theorem append (absent : index[own entry]? = none) :
    Indexes own (index.insert (own entry) entries.length) (entries ++ [entry]) := by
  intro key place
  rw [OrderedMap.lookup_insert]
  rcases Nat.lt_trichotomy place entries.length with before | rfl | behind
  · rw [List.getElem?_append_left before]
    split
    · next same =>
        subst same
        constructor
        · intro last
          cases last
          exact absurd before (Nat.lt_irrefl _)
        · rintro ⟨other, present, keyed⟩
          have free := indexes.absent_iff.mp absent other (List.mem_of_getElem? present)
          exact absurd keyed free
    · exact indexes key place
  · rw [List.getElem?_concat_length]
    split
    · next same => exact iff_of_true rfl ⟨entry, rfl, same⟩
    · next different =>
        constructor
        · intro found
          exact absurd (indexes.within found) (Nat.lt_irrefl _)
        · rintro ⟨_, ⟨⟩, keyed⟩
          exact absurd keyed different
  · have outside : (entries ++ [entry])[place]? = none :=
      List.getElem?_eq_none (by rw [List.length_append, List.length_singleton]; omega)
    rw [outside]
    constructor
    · intro found
      split at found
      · cases found
        exact absurd behind (Nat.lt_irrefl _)
      · exact absurd (indexes.within found) (Nat.not_lt_of_gt behind)
    · rintro ⟨_, impossible, _⟩
      cases impossible

theorem store (entry : α) :
    Indexes own (store own index entries entry).1 (store own index entries entry).2 := by
  unfold IndexedList.store
  split
  · next found => exact indexes.replace found
  · next absent => exact indexes.append absent

/-- The stored entry is found under its key, and nothing else changes. -/
theorem lookup_store (entry : α) (key : κ) :
    lookup (IndexedList.store own index entries entry).1
        (IndexedList.store own index entries entry).2 key =
      if own entry = key then some entry else lookup index entries key := by
  unfold IndexedList.store lookup
  split
  · next place found =>
      have within := indexes.within found
      by_cases same : own entry = key
      · subst same
        simp [found, within]
      · rw [if_neg same]
        cases sought : index[key]? with
        | none => rfl
        | some other =>
            have apart : place ≠ other := by
              rintro rfl
              obtain ⟨_, present, mine⟩ := (indexes _ _).mp found
              obtain ⟨_, again, theirs⟩ := (indexes _ _).mp sought
              rw [present] at again
              cases again
              exact same (mine.symm.trans theirs)
            simp [List.getElem?_set, apart]
  · next absent =>
      rw [OrderedMap.lookup_insert]
      by_cases same : own entry = key
      · simp [same]
      · rw [if_neg same, if_neg same]
        cases sought : index[key]? with
        | none => rfl
        | some other => exact List.getElem?_append_left (indexes.within sought)

end Indexes

end IndexedList
