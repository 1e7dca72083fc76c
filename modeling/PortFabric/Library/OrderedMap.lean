import Mathlib.Data.List.Basic

/-!
# Ordered maps

Lookup rules of ordered maps whose key comparison decides equality, stated with
equality of keys.
-/

set_option autoImplicit false

namespace OrderedMap

variable {κ β γ : Type*} [Ord κ] [Std.TransOrd κ]

@[simp] theorem lookup_empty (key : κ) : (∅ : Std.ExtTreeMap κ β)[key]? = none := by
  simp

/-- A property of every stored value. -/
def Every (holds : κ → β → Prop) (map : Std.ExtTreeMap κ β) : Prop :=
  ∀ key value, map[key]? = some value → holds key value

theorem Every.empty {holds : κ → β → Prop} : Every holds (∅ : Std.ExtTreeMap κ β) := by
  intro key value found
  simp at found

theorem Every.imp {weak strong : κ → β → Prop} {map : Std.ExtTreeMap κ β}
    (weaken : ∀ key value, strong key value → weak key value) (every : Every strong map) :
    Every weak map :=
  fun key value found => weaken key value (every key value found)

theorem size_insert_of_present {map : Std.ExtTreeMap κ β} {key : κ} {former value : β}
    (found : map[key]? = some former) : (map.insert key value).size = map.size := by
  have present : map.contains key = true := by
    rw [← Std.ExtTreeMap.isSome_getElem?_eq_contains, found]
    rfl
  rw [Std.ExtTreeMap.size_insert]
  exact if_pos present

variable [Std.LawfulEqOrd κ]

@[simp] theorem lookup_insert_self (map : Std.ExtTreeMap κ β) (key : κ) (value : β) :
    (map.insert key value)[key]? = some value := by
  simp

theorem lookup_map (map : Std.ExtTreeMap κ β) (update : κ → β → γ) (key : κ) :
    (map.map update)[key]? = map[key]?.map (update key) :=
  Std.ExtTreeMap.getElem?_map

theorem mem_toList {map : Std.ExtTreeMap κ β} {key : κ} {value : β} :
    (key, value) ∈ map.toList ↔ map[key]? = some value :=
  Std.ExtTreeMap.mem_toList_iff_getElem?_eq_some

theorem every_iff_values {holds : β → Prop} {map : Std.ExtTreeMap κ β} :
    Every (fun _ value => holds value) map ↔ ∀ value ∈ map.toList.map Prod.snd, holds value := by
  simp only [Every, List.forall_mem_map, Prod.forall, mem_toList]

theorem Every.map {holds : κ → β → Prop} {kept : κ → γ → Prop} {map : Std.ExtTreeMap κ β}
    {update : κ → β → γ} (every : Every holds map)
    (preserved : ∀ key value, holds key value → kept key (update key value)) :
    Every kept (map.map update) := by
  intro key stored found
  rw [lookup_map] at found
  obtain ⟨value, present, rfl⟩ := Option.map_eq_some_iff.mp found
  exact preserved key value (every key value present)

variable [DecidableEq κ]

theorem lookup_insert (map : Std.ExtTreeMap κ β) (key other : κ) (value : β) :
    (map.insert key value)[other]? = if key = other then some value else map[other]? := by
  rw [Std.ExtTreeMap.getElem?_insert]
  simp only [Std.LawfulEqCmp.compare_eq_iff_eq]

theorem lookup_insert_of_ne {map : Std.ExtTreeMap κ β} {key other : κ} {value : β}
    (different : key ≠ other) : (map.insert key value)[other]? = map[other]? := by
  simp [lookup_insert, different]

theorem isSome_insert {map : Std.ExtTreeMap κ β} {key other : κ} {value : β}
    (found : (map[other]?).isSome = true) : ((map.insert key value)[other]?).isSome = true := by
  rw [lookup_insert]
  split
  · rfl
  · exact found

theorem lookup_erase (map : Std.ExtTreeMap κ β) (key other : κ) :
    (map.erase key)[other]? = if key = other then none else map[other]? := by
  rw [Std.ExtTreeMap.getElem?_erase]
  simp only [Std.LawfulEqCmp.compare_eq_iff_eq]

theorem lookup_insertIfNew (map : Std.ExtTreeMap κ β) (key other : κ) (value : β) :
    (map.insertIfNew key value)[other]? =
      if key = other ∧ map[key]? = none then some value else map[other]? := by
  rw [Std.ExtTreeMap.getElem?_insertIfNew]
  simp only [Std.LawfulEqCmp.compare_eq_iff_eq, getElem?_eq_none_iff]

/-- A map that is emptied again by erasing the only new key is the map before. -/
theorem erase_insert_of_absent {map : Std.ExtTreeMap κ β} {key : κ} {value : β}
    (absent : map[key]? = none) : (map.insert key value).erase key = map := by
  apply Std.ExtTreeMap.ext_getElem?
  intro other
  rw [lookup_erase, lookup_insert]
  by_cases same : key = other
  · subst same
    simp [absent]
  · simp [same]

theorem Every.insert {holds : κ → β → Prop} {map : Std.ExtTreeMap κ β} {key : κ} {value : β}
    (every : Every holds map) (here : holds key value) : Every holds (map.insert key value) := by
  intro other stored found
  rw [lookup_insert] at found
  split at found
  · next same =>
      subst same
      cases found
      exact here
  · exact every other stored found

/-- Values stored under a key of their own are found by that key in the list of values. -/
theorem find?_values {own : β → κ} {map : Std.ExtTreeMap κ β}
    (keyed : Every (fun key value => own value = key) map) (key : κ) :
    ((map.toList.map Prod.snd).find? fun value => own value = key) = map[key]? := by
  have stored {value : β} (member : value ∈ map.toList.map Prod.snd) (same : own value = key) :
      map[key]? = some value := by
    obtain ⟨⟨other, _⟩, listed, rfl⟩ := List.mem_map.mp member
    have found := mem_toList.mp listed
    rwa [← keyed _ _ found, same] at found
  cases present : map[key]? with
  | none =>
      rw [List.find?_eq_none]
      intro value member
      rw [decide_eq_true_eq]
      intro same
      rw [stored member same] at present
      cases present
  | some value =>
      have listed : value ∈ map.toList.map Prod.snd :=
        List.mem_map.mpr ⟨(key, value), mem_toList.mpr present, rfl⟩
      have found : ((map.toList.map Prod.snd).find? fun value => own value = key).isSome := by
        rw [List.find?_isSome]
        exact ⟨value, listed, by simp [keyed _ _ present]⟩
      obtain ⟨first, found⟩ := Option.isSome_iff_exists.mp found
      have same : own first = key := by simpa using List.find?_some found
      rw [found, ← present, stored (List.mem_of_find?_eq_some found) same]

end OrderedMap
