import PortFabric.Text

/-!
# Generations

A generation is a 64-bit counter in one semantic domain. Zero is the null
generation, and the last representable value is its own successor.
-/

set_option autoImplicit false

namespace PortFabric

inductive GenerationDomain where
  | configuration | administrative | ownership | capability | topology | device | evidence
  | engine | lifecycle | profile | coordinatorEpoch | membership
  deriving DecidableEq, Repr

structure Generation (domain : GenerationDomain) where
  value : Nat
  bounded : value ≤ maxU64
  deriving DecidableEq

namespace Generation

variable {domain : GenerationDomain}

def null : Generation domain := ⟨0, by decide⟩

def first : Generation domain := ⟨1, by decide⟩

def last : Generation domain := ⟨maxU64, Nat.le_refl _⟩

instance : Inhabited (Generation domain) := ⟨null⟩

instance : LT (Generation domain) := ⟨fun lhs rhs => lhs.value < rhs.value⟩

instance : LE (Generation domain) := ⟨fun lhs rhs => lhs.value ≤ rhs.value⟩

instance (lhs rhs : Generation domain) : Decidable (lhs < rhs) :=
  inferInstanceAs (Decidable (lhs.value < rhs.value))

instance (lhs rhs : Generation domain) : Decidable (lhs ≤ rhs) :=
  inferInstanceAs (Decidable (lhs.value ≤ rhs.value))

/-- The generation of a literal below the counter bound. -/
def ofNat (value : Nat) (bounded : value ≤ maxU64 := by decide) : Generation domain :=
  ⟨value, bounded⟩

def valid (generation : Generation domain) : Bool :=
  generation.value ≠ 0

def exhaustible (generation : Generation domain) : Bool :=
  generation.value = maxU64

def next (generation : Generation domain) : Generation domain :=
  if room : generation.value = maxU64 then
    generation
  else
    ⟨generation.value + 1, by have := generation.bounded; omega⟩

/-- `valid() ? next() : from_value(1)`, the advance every counter of the runtime uses. -/
def advance (generation : Generation domain) : Generation domain :=
  if generation.valid then generation.next else first

def format (generation : Generation domain) : Text :=
  formatU64 generation.value

/-- Rendering that names the null generation. -/
def formatOrNone (generation : Generation domain) : Text :=
  if generation.valid then generation.format else "none"

/-- Rendering that leaves the null generation empty. -/
def formatOrEmpty (generation : Generation domain) : Text :=
  if generation.valid then generation.format else []

@[ext] theorem ext {lhs rhs : Generation domain} (same : lhs.value = rhs.value) : lhs = rhs := by
  cases lhs
  cases rhs
  cases same
  rfl

theorem lt_iff {lhs rhs : Generation domain} : lhs < rhs ↔ lhs.value < rhs.value := Iff.rfl

theorem le_iff {lhs rhs : Generation domain} : lhs ≤ rhs ↔ lhs.value ≤ rhs.value := Iff.rfl

theorem not_lt {lhs rhs : Generation domain} : ¬lhs < rhs ↔ rhs ≤ lhs := Nat.not_lt

theorem le_refl (generation : Generation domain) : generation ≤ generation := Nat.le_refl _

theorem le_trans {first second third : Generation domain} (lower : first ≤ second)
    (upper : second ≤ third) : first ≤ third :=
  Nat.le_trans lower upper

theorem le_of_lt {lhs rhs : Generation domain} (less : lhs < rhs) : lhs ≤ rhs :=
  Nat.le_of_lt less

theorem lt_of_lt_of_le {first second third : Generation domain} (lower : first < second)
    (upper : second ≤ third) : first < third :=
  Nat.lt_of_lt_of_le lower upper

theorem lt_of_le_of_lt {first second third : Generation domain} (lower : first ≤ second)
    (upper : second < third) : first < third :=
  Nat.lt_of_le_of_lt lower upper

theorem ne_of_lt {lhs rhs : Generation domain} (less : lhs < rhs) : lhs ≠ rhs := by
  intro same
  subst same
  exact Nat.lt_irrefl _ less

theorem lt_of_le_of_ne {lhs rhs : Generation domain} (atMost : lhs ≤ rhs) (different : lhs ≠ rhs) :
    lhs < rhs :=
  Nat.lt_of_le_of_ne atMost (fun same => different (ext same))

theorem valid_iff {generation : Generation domain} :
    generation.valid = true ↔ generation.value ≠ 0 := by
  simp [valid]

theorem eq_null_of_not_valid {generation : Generation domain} (invalid : generation.valid = false) :
    generation = null := by
  rw [← Bool.not_eq_true, valid_iff, not_not] at invalid
  exact ext invalid

@[simp] theorem valid_first : (first : Generation domain).valid = true := rfl

@[simp] theorem valid_null : (null : Generation domain).valid = false := rfl

theorem le_next (generation : Generation domain) : generation ≤ generation.next := by
  unfold next
  split
  · exact le_refl _
  · exact Nat.le_succ _

theorem lt_next {generation : Generation domain} (room : generation.exhaustible = false) :
    generation < generation.next := by
  have below : generation.value ≠ maxU64 := by simpa [exhaustible] using room
  simp [next, below, lt_iff]

/-- A counter that moves on moves on by one. -/
theorem next_value {generation : Generation domain} (later : generation < generation.next) :
    generation.next.value = generation.value + 1 := by
  unfold next at later ⊢
  split
  · next exhausted =>
      simp only [exhausted, dif_pos, lt_iff] at later
      exact absurd later (Nat.lt_irrefl _)
  · rfl

theorem lt_next_iff {former generation : Generation domain}
    (room : generation < generation.next) : former < generation.next ↔ former ≤ generation := by
  simp only [lt_iff, le_iff, next] at room ⊢
  split at room
  · exact absurd room (Nat.lt_irrefl _)
  · next below =>
      simp only [below, dif_neg, not_false_eq_true]
      exact Nat.lt_succ_iff

/-- The null generation has `from_value(1)` as its successor, so `advance` is `next`. -/
theorem advance_eq_next (generation : Generation domain) :
    generation.advance = generation.next := by
  unfold advance
  split
  · rfl
  · next invalid =>
      have zero : generation.value = 0 := by simpa [valid] using invalid
      apply ext
      simp [first, next, zero, maxU64]

theorem le_advance (generation : Generation domain) : generation ≤ generation.advance := by
  rw [advance_eq_next]
  exact le_next generation

theorem advance_value_le (generation : Generation domain) :
    generation.advance.value ≤ generation.value + 1 := by
  rw [advance_eq_next]
  unfold next
  split
  · exact Nat.le_succ _
  · exact Nat.le_refl _

theorem lt_advance {generation : Generation domain} (room : generation.exhaustible = false) :
    generation < generation.advance := by
  rw [advance_eq_next]
  exact lt_next room

theorem valid_advance (generation : Generation domain) : generation.advance.valid = true := by
  rw [advance_eq_next, valid_iff]
  unfold next
  split
  · next full => simp [full, maxU64]
  · exact Nat.succ_ne_zero _

theorem advance_eq_self_iff {generation : Generation domain} :
    generation.advance = generation ↔ generation.exhaustible = true := by
  constructor
  · intro same
    by_contra room
    exact ne_of_lt (lt_advance (by simpa using room)) same.symm
  · intro full
    have top : generation.value = maxU64 := by simpa [exhaustible] using full
    rw [advance_eq_next]
    simp [next, top]

end Generation

abbrev PortConfigurationGeneration := Generation .configuration
abbrev AdministrativeGeneration := Generation .administrative
abbrev PortOwnershipGeneration := Generation .ownership
abbrev CapabilityBindingGeneration := Generation .capability
abbrev TopologyGeneration := Generation .topology
abbrev DeviceGeneration := Generation .device
abbrev EvidenceGeneration := Generation .evidence
abbrev EngineGeneration := Generation .engine
abbrev LifecycleGeneration := Generation .lifecycle
abbrev PortProfileGeneration := Generation .profile
abbrev CoordinatorEpoch := Generation .coordinatorEpoch
abbrev MembershipGeneration := Generation .membership

end PortFabric
