import Mathlib.Data.List.Basic
import Mathlib.Data.List.Infix

/-!
# Sealed documents

A sealed document carries the checksum of its payload and the checksum of its
head in front of the payload. When the checksum notices every single change, two
sealed documents never differ in exactly one symbol; when the head fixes the
length of the payload, none is a proper prefix of another.
-/

set_option autoImplicit false

namespace Sealing

variable {σ τ : Type}

/-- The second list is the first one with exactly one symbol changed. -/
def DiffersAtOne (first second : List σ) : Prop :=
  ∃ front symbol other back, symbol ≠ other ∧
    first = front ++ symbol :: back ∧ second = front ++ other :: back

namespace DiffersAtOne

variable {first second : List σ}

theorem ne (differs : DiffersAtOne first second) : first ≠ second := by
  obtain ⟨front, symbol, other, back, different, rfl, rfl⟩ := differs
  intro same
  exact different (List.cons.inj (List.append_cancel_left same)).1

/-- The change is in the front or in the back. -/
theorem of_append {front back changed rest : List σ} (aligned : front.length = changed.length)
    (differs : DiffersAtOne (front ++ back) (changed ++ rest)) :
    (DiffersAtOne front changed ∧ back = rest) ∨ (front = changed ∧ DiffersAtOne back rest) := by
  obtain ⟨before, symbol, other, after, different, left, right⟩ := differs
  induction before generalizing front changed with
  | nil =>
      cases front with
      | nil =>
          obtain rfl := List.length_eq_zero_iff.mp aligned.symm
          exact .inr ⟨rfl, [], symbol, other, after, different, left, right⟩
      | cons head front =>
          cases changed with
          | nil => cases aligned
          | cons new changed =>
              obtain ⟨rfl, rfl⟩ := List.cons.inj left
              obtain ⟨rfl, same⟩ := List.cons.inj right
              obtain ⟨rfl, rfl⟩ := List.append_inj same (Nat.succ_inj.mp aligned).symm
              exact .inl ⟨⟨[], head, new, changed, different, rfl, rfl⟩, rfl⟩
  | cons lead before ih =>
      cases front with
      | nil =>
          obtain rfl := List.length_eq_zero_iff.mp aligned.symm
          exact .inr ⟨rfl, lead :: before, symbol, other, after, different, left, right⟩
      | cons head front =>
          cases changed with
          | nil => cases aligned
          | cons new changed =>
              obtain ⟨rfl, following⟩ := List.cons.inj left
              obtain ⟨rfl, changes⟩ := List.cons.inj right
              obtain ⟨⟨prior, old, fresh, later, apart, rfl, rfl⟩, same⟩ | ⟨rfl, same⟩ :=
                ih (Nat.succ_inj.mp aligned) following changes
              · exact .inl ⟨⟨new :: prior, old, fresh, later, apart, rfl, rfl⟩, same⟩
              · exact .inr ⟨rfl, same⟩

end DiffersAtOne

/-- One symbol changed, a tail lost or a tail added. -/
inductive Damage (original damaged : List σ) : Prop where
  | changed (differs : DiffersAtOne original damaged)
  | shortened (suffix : List σ) (removed : suffix ≠ []) (whole : damaged ++ suffix = original)
  | extended (suffix : List σ) (added : suffix ≠ []) (whole : original ++ suffix = damaged)

/-- A fold that never merges two states, nor two symbols from one state, notices one change. -/
theorem foldl_ne {step : τ → σ → τ} (state : ∀ symbol left right,
      step left symbol = step right symbol → left = right)
    (symbol : ∀ start left right, step start left = step start right → left = right)
    {first second : List σ} (differs : DiffersAtOne first second) (start : τ) :
    first.foldl step start ≠ second.foldl step start := by
  obtain ⟨front, old, fresh, back, different, rfl, rfl⟩ := differs
  have keeps : ∀ (rest : List σ) (left right : τ),
      rest.foldl step left = rest.foldl step right → left = right := by
    intro rest
    induction rest with
    | nil => exact fun _ _ same => same
    | cons next rest ih => exact fun left right same => state next _ _ (ih _ _ same)
  intro same
  rw [List.foldl_append, List.foldl_append, List.foldl_cons, List.foldl_cons] at same
  exact different (symbol _ _ _ (keeps back _ _ same))

/-- A checksum of a fixed length that notices every single change. -/
structure Detects (check : List σ → List σ) (width : Nat) : Prop where
  length : ∀ document, (check document).length = width
  notices : ∀ first second, DiffersAtOne first second → check first ≠ check second

/-- The head of a document: what stands in front, and the checksum of the payload. -/
def head (check : List σ → List σ) (front payload : List σ) : List σ :=
  front ++ check payload

/-- The head, its checksum and the payload. -/
def document (check : List σ → List σ) (front payload : List σ) : List σ :=
  head check front payload ++ check (head check front payload) ++ payload

section Sealed

variable {check : List σ → List σ} {width : Nat} {front other payload content : List σ}

theorem length_document (detects : Detects check width) :
    (document check front payload).length = front.length + width + width + payload.length := by
  simp only [document, head, List.length_append, detects.length]

theorem document_inj (detects : Detects check width) {back rest : List σ}
    (aligned : front.length = other.length)
    (same : document check front payload ++ back = document check other content ++ rest) :
    front = other ∧ payload ++ back = content ++ rest := by
  simp only [document, head, List.append_assoc] at same
  obtain ⟨rfl, same⟩ := List.append_inj same aligned
  obtain ⟨_, same⟩ := List.append_inj same (by rw [detects.length, detects.length])
  obtain ⟨_, same⟩ := List.append_inj same (by rw [detects.length, detects.length])
  exact ⟨rfl, same⟩

/-- Two sealed documents with heads of one length never differ in exactly one symbol. -/
theorem not_differsAtOne (detects : Detects check width) (aligned : front.length = other.length) :
    ¬DiffersAtOne (document check front payload) (document check other content) := by
  intro differs
  have heads : (head check front payload).length = (head check other content).length := by
    simp only [head, List.length_append, detects.length, aligned]
  have sealed : (head check front payload ++ check (head check front payload)).length =
      (head check other content ++ check (head check other content)).length := by
    simp only [List.length_append, detects.length, heads]
  obtain ⟨front_differs, rfl⟩ | ⟨same, payload_differs⟩ := differs.of_append sealed
  · obtain ⟨head_differs, same⟩ | ⟨same, check_differs⟩ := front_differs.of_append heads
    · exact detects.notices _ _ head_differs same
    · rw [same] at check_differs
      exact check_differs.ne rfl
  · obtain ⟨same, _⟩ := List.append_inj same heads
    obtain ⟨_, same⟩ := List.append_inj same aligned
    exact detects.notices _ _ payload_differs same

/-- When the front tells the length of the payload, no sealed document extends another one. -/
theorem eq_of_prefix (detects : Detects check width) (aligned : front.length = other.length)
    (told : front = other → payload.length = content.length)
    (extended : document check front payload <+: document check other content) :
    document check front payload = document check other content := by
  obtain ⟨suffix, same⟩ := extended
  have whole : document check front payload ++ suffix = document check other content ++ [] := by
    rw [same, List.append_nil]
  obtain ⟨rfl, rest⟩ := document_inj detects aligned whole
  rw [List.append_nil] at rest
  have none : suffix = [] := by
    have lengths := congrArg List.length rest
    rw [List.length_append, told rfl] at lengths
    exact List.length_eq_zero_iff.mp (by omega)
  rw [← same, none, List.append_nil]

/-- No sealed document is a damaged form of another one. -/
theorem not_damage (detects : Detects check width) (aligned : front.length = other.length)
    (told : front = other → payload.length = content.length) :
    ¬Damage (document check front payload) (document check other content) := by
  intro damage
  obtain ⟨differs⟩ | ⟨suffix, removed, whole⟩ | ⟨suffix, added, whole⟩ := damage
  · exact not_differsAtOne detects aligned differs
  · have same := eq_of_prefix detects aligned.symm (fun same => (told same.symm).symm)
      ⟨suffix, whole⟩
    rw [← whole] at same
    exact removed (List.append_right_eq_self.mp same.symm)
  · have same := eq_of_prefix detects aligned told ⟨suffix, whole⟩
    rw [← whole] at same
    exact added (List.append_right_eq_self.mp same.symm)

end Sealed

end Sealing
