import Mathlib.Data.List.Basic

/-!
# Delimited sequences

Segments written one after the other, each led by a delimiter, and how much of
them a reader gets back when a segment may contain the delimiter itself.
-/

set_option autoImplicit false

namespace Delimited

variable {α : Type*} {mark : α}

/-- The segments, each led by the delimiter. -/
def joined (mark : α) (segments : List (List α)) : List α :=
  segments.flatMap (mark :: ·)

@[simp] theorem joined_nil : joined mark [] = [] := rfl

@[simp] theorem joined_cons (segment : List α) (rest : List (List α)) :
    joined mark (segment :: rest) = mark :: (segment ++ joined mark rest) := rfl

@[simp] theorem joined_append (front back : List (List α)) :
    joined mark (front ++ back) = joined mark front ++ joined mark back :=
  List.flatMap_append ..

/-- Segments that each end in the delimiter are segments led by it, shifted by one. -/
theorem cons_terminated (segments : List (List α)) :
    mark :: segments.flatMap (· ++ [mark]) = joined mark segments ++ [mark] := by
  induction segments with
  | nil => rfl
  | cons segment rest ih =>
      rw [List.flatMap_cons, List.append_assoc, List.singleton_append, ih, joined_cons,
        List.cons_append, List.append_assoc]

theorem first_split {left right back rest : List α} (leftFree : mark ∉ left)
    (rightFree : mark ∉ right) (same : left ++ mark :: back = right ++ mark :: rest) :
    left = right ∧ back = rest := by
  induction left generalizing right with
  | nil =>
      cases right with
      | nil => exact ⟨rfl, (List.cons.inj same).2⟩
      | cons head tail =>
          have led : mark = head := (List.cons.inj same).1
          exact absurd (led ▸ List.mem_cons_self) rightFree
  | cons head tail ih =>
      cases right with
      | nil =>
          have led : head = mark := (List.cons.inj same).1
          exact absurd (led ▸ List.mem_cons_self) leftFree
      | cons other others =>
          obtain ⟨rfl, shorter⟩ := List.cons.inj same
          obtain ⟨rfl, after⟩ := ih (fun member => leftFree (List.mem_cons_of_mem _ member))
            (fun member => rightFree (List.mem_cons_of_mem _ member)) shorter
          exact ⟨rfl, after⟩

theorem last_split {left right back rest : List α} (backFree : mark ∉ back)
    (restFree : mark ∉ rest) (same : left ++ mark :: back = right ++ mark :: rest) :
    left = right ∧ back = rest := by
  have reversed := congrArg List.reverse same
  simp only [List.reverse_append, List.reverse_cons, List.append_assoc, List.singleton_append]
    at reversed
  obtain ⟨first, second⟩ := first_split (by simpa using backFree) (by simpa using restFree) reversed
  exact ⟨List.reverse_injective second, List.reverse_injective first⟩

theorem exists_cons_joined (mark : α) (segments : List (List α)) (back : List α) :
    ∃ after, joined mark segments ++ mark :: back = mark :: after := by
  cases segments with
  | nil => exact ⟨_, rfl⟩
  | cons _ _ => exact ⟨_, rfl⟩

/-- As many free segments before a delimiter are read back one by one. -/
theorem joined_inj {front other : List (List α)} {back rest : List α}
    (aligned : front.length = other.length) (frontFree : ∀ segment ∈ front, mark ∉ segment)
    (otherFree : ∀ segment ∈ other, mark ∉ segment)
    (same : joined mark front ++ mark :: back = joined mark other ++ mark :: rest) :
    front = other ∧ back = rest := by
  induction front generalizing other with
  | nil =>
      cases other with
      | nil => exact ⟨rfl, (List.cons.inj same).2⟩
      | cons segment others => cases aligned
  | cons segment others ih =>
      cases other with
      | nil => cases aligned
      | cons another more =>
          simp only [joined_cons, List.cons_append, List.append_assoc, List.cons.injEq,
            true_and] at same
          obtain ⟨first, firstLed⟩ := exists_cons_joined mark others back
          obtain ⟨second, secondLed⟩ := exists_cons_joined mark more rest
          have cut := same
          rw [firstLed, secondLed] at cut
          obtain ⟨rfl, _⟩ := first_split (frontFree _ List.mem_cons_self)
            (otherFree _ List.mem_cons_self) cut
          obtain ⟨rfl, after⟩ := ih (Nat.succ.inj aligned)
            (fun _ member => frontFree _ (List.mem_cons_of_mem _ member))
            (fun _ member => otherFree _ (List.mem_cons_of_mem _ member))
            (List.append_cancel_left same)
          exact ⟨rfl, after⟩

/-- Free segments are read back one by one. -/
theorem joined_injective {front other : List (List α)}
    (frontFree : ∀ segment ∈ front, mark ∉ segment)
    (otherFree : ∀ segment ∈ other, mark ∉ segment)
    (same : joined mark front = joined mark other) : front = other := by
  induction front generalizing other with
  | nil =>
      cases other with
      | nil => rfl
      | cons segment others => cases same
  | cons segment others ih =>
      cases other with
      | nil => cases same
      | cons another more =>
          have cut := congrArg (· ++ [mark]) same
          obtain ⟨first, firstLed⟩ := exists_cons_joined mark others []
          obtain ⟨second, secondLed⟩ := exists_cons_joined mark more []
          simp only [joined_cons, List.cons_append, List.append_assoc, firstLed, secondLed,
            List.cons.injEq, true_and] at cut
          obtain ⟨rfl, _⟩ := first_split (frontFree _ List.mem_cons_self)
            (otherFree _ List.mem_cons_self) cut
          have rest : joined mark others = joined mark more :=
            List.append_cancel_left (List.cons.inj same).2
          rw [ih (fun _ member => frontFree _ (List.mem_cons_of_mem _ member))
            (fun _ member => otherFree _ (List.mem_cons_of_mem _ member)) rest]

/-- A delimiter inside free segments starts one of them. -/
theorem joined_eq_append {segments : List (List α)} {front back : List α}
    (free : ∀ segment ∈ segments, mark ∉ segment)
    (same : joined mark segments = front ++ mark :: back) :
    ∃ before segment after, segments = before ++ segment :: after ∧ front = joined mark before ∧
      back = segment ++ joined mark after := by
  induction segments generalizing front with
  | nil => cases front <;> cases same
  | cons segment rest ih =>
      rw [joined_cons] at same
      cases front with
      | nil => exact ⟨[], segment, rest, rfl, rfl, (List.cons.inj same).2.symm⟩
      | cons head tail =>
          obtain ⟨rfl, inside⟩ := List.cons.inj same
          have restFree : ∀ segment ∈ rest, mark ∉ segment :=
            fun _ member => free _ (List.mem_cons_of_mem _ member)
          -- The delimiter stands after the first segment, which is free of it.
          have beyond : ∃ middle, tail = segment ++ middle ∧
              joined mark rest = middle ++ mark :: back := by
            obtain ⟨middle, longer, cut⟩ | ⟨middle, shorter, cut⟩ :=
              List.append_eq_append_iff.mp inside
            · exact ⟨middle, longer, cut⟩
            · cases middle with
              | nil =>
                  rw [List.append_nil] at shorter
                  exact ⟨[], by rw [List.append_nil, shorter], cut.symm⟩
              | cons first others =>
                  obtain ⟨rfl, _⟩ := List.cons.inj cut
                  exact absurd (by rw [shorter]; simp) (free _ List.mem_cons_self)
          obtain ⟨middle, rfl, cut⟩ := beyond
          obtain ⟨before, found, after, rfl, rfl, rfl⟩ := ih restFree cut
          exact ⟨segment :: before, found, after, rfl, rfl, rfl⟩

end Delimited
