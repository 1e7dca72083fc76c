import PortFabric.Text

/-!
# Strong identifiers

An identifier is either null or carries an encoding that satisfies the
identifier grammar, in one domain.
-/

set_option autoImplicit false

namespace PortFabric

inductive IdValidation where
  | ok
  | empty
  | tooLong
  | invalidCharacter
  | leadingSeparator
  | trailingSeparator
  | dotDot
  deriving DecidableEq, Repr

def isAlphanumeric (byte : UInt8) : Bool :=
  (byte ≥ 0x30 && byte ≤ 0x39) || (byte ≥ 0x41 && byte ≤ 0x5a) || (byte ≥ 0x61 && byte ≤ 0x7a)

/-- Alphanumeric bytes and `-`, `_`, `.`, `:` and `/`. -/
def isInterior (byte : UInt8) : Bool :=
  isAlphanumeric byte || byte = 0x2d || byte = 0x5f || byte = 0x2e || byte = 0x3a || byte = 0x2f

/-- The traversal sequence `..` occurs in the text. -/
def hasDotDot : Text → Bool
  | first :: second :: rest => (first = 0x2e && second = 0x2e) || hasDotDot (second :: rest)
  | _ => false

def validateIdentifier (value : Text) : IdValidation :=
  match value.head?, value.getLast? with
  | some front, some back =>
      if value.length > maxIdentifierLength then .tooLong
      else if hasDotDot value then .dotDot
      else if !isAlphanumeric front then .leadingSeparator
      else if !isAlphanumeric back then .trailingSeparator
      else if value.all isInterior then .ok
      else .invalidCharacter
  | _, _ => .empty

/-- The domain tags of the identifiers the runtime uses. -/
inductive IdDomain where
  | fabric | site | device | port | logicalPort | portConfiguration | portProfile
  | portOwnership | owner | mutationAttempt | publisher | workerBoot | evidence | aggregate
  deriving DecidableEq, Repr

structure StrongId (domain : IdDomain) where
  value : Text
  wellFormed : value = [] ∨ validateIdentifier value = .ok
  deriving DecidableEq

namespace StrongId

variable {domain : IdDomain}

def null : StrongId domain := ⟨[], .inl rfl⟩

instance : Inhabited (StrongId domain) := ⟨null⟩

/-- Malformed input yields the null identifier. -/
def fromValidated (value : Text) : StrongId domain :=
  if accepted : validateIdentifier value = .ok then ⟨value, .inr accepted⟩ else null

def valid (id : StrongId domain) : Bool :=
  !id.value.isEmpty

instance : Coe String (StrongId domain) := ⟨fun literal => fromValidated (text literal)⟩

@[ext] theorem ext {first second : StrongId domain} (same : first.value = second.value) :
    first = second := by
  cases first
  cases second
  cases same
  rfl

@[simp] theorem valid_null : (null : StrongId domain).valid = false := rfl

theorem valid_iff {id : StrongId domain} : id.valid = true ↔ id.value ≠ [] := by
  cases id with
  | mk value _ => cases value <;> simp [valid]

theorem eq_null_of_not_valid {id : StrongId domain} (invalid : id.valid = false) : id = null := by
  apply ext
  cases id with
  | mk value _ => cases value <;> simp_all [valid, null]

/-- Identifiers are ordered by their encodings. -/
instance : Ord (StrongId domain) := ⟨compareOn StrongId.value⟩

instance : Std.TransOrd (StrongId domain) :=
  inferInstanceAs (Std.TransCmp (compareOn StrongId.value))

instance : Std.LawfulEqOrd (StrongId domain) where
  compare_self := @Std.ReflCmp.compare_self _ (compareOn StrongId.value) _
  eq_of_compare := by
    intro first second same
    exact ext (@Std.LawfulEqCmp.eq_of_compare _ compare _ _ _ same)

end StrongId

abbrev FabricId := StrongId .fabric
abbrev SiteId := StrongId .site
abbrev DeviceId := StrongId .device
abbrev PortId := StrongId .port
abbrev LogicalPortId := StrongId .logicalPort
abbrev PortConfigurationId := StrongId .portConfiguration
abbrev PortProfileId := StrongId .portProfile
abbrev PortOwnershipId := StrongId .portOwnership
abbrev OwnerId := StrongId .owner
abbrev MutationAttemptId := StrongId .mutationAttempt
abbrev PublisherId := StrongId .publisher
abbrev WorkerBootId := StrongId .workerBoot
abbrev EvidenceId := StrongId .evidence
abbrev AggregateId := StrongId .aggregate

/-- Structural class of the canonical port entity. `illegal` is a byte outside the enumeration. -/
inductive PortEntityClass where
  | unknown | switchPort | routerPort | nicPort | smartNicPort | dpuPort | logicalPort
  | syntheticPort
  | illegal (raw : Fin 248)
  deriving DecidableEq, Repr

def PortEntityClass.isValid : PortEntityClass → Bool
  | .illegal _ => false
  | _ => true

/--
Composes an identifier from a prefix, an identity and a generation. A
composition over the grammar bound folds the identity into a hash.
-/
def composeIdentifier (lead identity : Text) (generation : Nat) : Text :=
  let generationText := formatU64 generation
  let candidate := lead ++ text "-" ++ identity ++ text "-" ++ generationText
  if candidate.length ≤ maxIdentifierLength then
    candidate
  else
    let suffix := text "-" ++ formatU64 (fnv1a identity).toNat ++ text "-" ++ generationText
    let budget := maxIdentifierLength - lead.length - 1 - suffix.length
    truncate (lead ++ text "-" ++ identity.take budget ++ suffix) maxIdentifierLength

end PortFabric
