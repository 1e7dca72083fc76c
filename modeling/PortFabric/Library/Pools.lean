import Mathlib.Data.List.Perm.Subperm
import Mathlib.Algebra.BigOperators.Group.List.Basic

/-!
# Pools

A list of numbered members of which one changes at a time: what the change does
to a selection of the members and to a sum over them.
-/

set_option autoImplicit false

namespace Pool

variable {α β : Type*} {pool : List α} {id : Nat} {member other : α}

/-- A member, with everyone before and behind it. -/
theorem split (found : pool[id]? = some member) :
    ∃ front back, pool = front ++ member :: back ∧
      ∀ other, pool.set id other = front ++ other :: back := by
  obtain ⟨bound, rfl⟩ := List.getElem?_eq_some_iff.mp found
  refine ⟨pool.take id, pool.drop (id + 1), ?_, ?_⟩
  · rw [List.getElem_cons_drop, List.take_append_drop]
  · intro other
    rw [List.set_eq_take_append_cons_drop, if_pos bound]

/-- Who is at a place after the change. -/
theorem getElem?_set_iff {place : Nat} (found : pool[id]? = some member) :
    (pool.set id other)[place]? = if place = id then some other else pool[place]? := by
  obtain ⟨bound, _⟩ := List.getElem?_eq_some_iff.mp found
  rw [List.getElem?_set]
  by_cases same : id = place
  · rw [if_pos same, if_pos bound, if_pos same.symm]
  · rw [if_neg same, if_neg fun again => same again.symm]

/-- The values of the members that are kept. -/
def chosen (keep : α → Bool) (value : α → β) (pool : List α) : List β :=
  (pool.filter keep).map value

section Choosing

variable {keep : α → Bool} {value : α → β}

theorem mem_chosen {found : β} :
    found ∈ chosen keep value pool ↔
      ∃ member ∈ pool, keep member = true ∧ value member = found := by
  simp [chosen, and_assoc]

theorem chosen_concat (pool : List α) (member : α) :
    chosen keep value (pool ++ [member]) =
      chosen keep value pool ++ if keep member then [value member] else [] := by
  simp only [chosen, List.filter_append, List.map_append]
  congr 1
  cases kept : keep member <;> simp [kept]

private theorem chosen_around (front back : List α) (member : α) :
    chosen keep value (front ++ member :: back) =
      chosen keep value front ++ (if keep member then [value member] else []) ++
        chosen keep value back := by
  rw [List.append_cons, chosen, List.filter_append, List.map_append, ← chosen, ← chosen,
    chosen_concat]

theorem chosen_set_same (found : pool[id]? = some member) (kept : keep other = keep member)
    (same : keep member = true → value other = value member) :
    chosen keep value (pool.set id other) = chosen keep value pool := by
  obtain ⟨front, back, rfl, changed⟩ := split found
  rw [changed, chosen_around, chosen_around, kept]
  cases keeps : keep member with
  | false => rfl
  | true => rw [if_pos rfl, if_pos rfl, same keeps]

theorem chosen_set_enter (keep : α → Bool) (value : α → β) (other : α)
    (found : pool[id]? = some member) (before : keep member = false) (after : keep other = true) :
    (chosen keep value (pool.set id other)).Perm (value other :: chosen keep value pool) := by
  obtain ⟨front, back, rfl, changed⟩ := split found
  rw [changed, chosen_around, chosen_around, before, after]
  simp

theorem chosen_set_leave (keep : α → Bool) (value : α → β) (other : α)
    (found : pool[id]? = some member) (before : keep member = true) (after : keep other = false) :
    (value member :: chosen keep value (pool.set id other)).Perm (chosen keep value pool) := by
  obtain ⟨front, back, rfl, changed⟩ := split found
  rw [changed, chosen_around, chosen_around, before, after]
  simpa using List.perm_middle.symm

/-- No more members are kept than a list has that names all of them. -/
theorem chosen_length_le (value : α → β) {listed : List Nat}
    (all : ∀ id member, pool[id]? = some member → keep member = true → id ∈ listed) :
    (chosen keep value pool).length ≤ listed.length := by
  let ids := (pool.zipIdx.filter fun entry => keep entry.1).map Prod.snd
  have once : ids.Nodup := by
    have numbered : (pool.zipIdx.map Prod.snd).Nodup := by
      rw [List.zipIdx_map_snd]
      exact List.nodup_range'
    exact numbered.sublist (List.filter_sublist.map Prod.snd)
  have within : ids ⊆ listed := by
    intro id member
    obtain ⟨entry, kept, rfl⟩ := List.mem_map.mp member
    obtain ⟨present, keeps⟩ := List.mem_filter.mp kept
    exact all entry.2 entry.1 (List.mem_zipIdx_iff_getElem?.mp present) keeps
  have size : (chosen keep value pool).length = ids.length := by
    have firsts : pool = pool.zipIdx.map Prod.fst := (List.zipIdx_map_fst 0 pool).symm
    conv_lhs => rw [firsts]
    simp only [chosen, ids, List.length_map, List.filter_map]
    rfl
  rw [size]
  exact (List.Nodup.subperm once within).length_le

end Choosing

/-- The weights of the members, added up. -/
def total (weight : α → Nat) : List α → Nat
  | [] => 0
  | member :: rest => weight member + total weight rest

section Totals

variable (weight : α → Nat)

theorem total_append (front back : List α) :
    total weight (front ++ back) = total weight front + total weight back := by
  induction front with
  | nil => exact (Nat.zero_add _).symm
  | cons member rest ih => rw [List.cons_append, total, total, ih, Nat.add_assoc]

/-- The total of the pool, with the member that changes set apart. -/
theorem total_set (found : pool[id]? = some member) :
    total weight (pool.set id other) + weight member = total weight pool + weight other := by
  obtain ⟨front, back, rfl, changed⟩ := split found
  rw [changed, total_append, total_append, total, total]
  omega

end Totals

end Pool
