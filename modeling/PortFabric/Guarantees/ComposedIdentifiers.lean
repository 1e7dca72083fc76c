import PortFabric.IdentifierProperties
import PortFabric.Library.Delimited

/-!
# Composed identifiers

Records, ownerships and snapshots are named by a prefix, an identity and a
generation. A name over the grammar bound folds the identity into a hash. Either
way the name is a legal identifier that ends in the generation, so two
generations of one identity never share a name.
-/

set_option autoImplicit false

namespace PortFabric

/-- The prefixes the engine composes identifiers from. -/
def composedPrefixes : List Text := [text "cfg", text "own", text "snap"]

/-- What stands behind the identity, once it is folded. -/
def foldedSuffix (identity : Text) (generation : Nat) : Text :=
  text "-" ++ formatU64 (fnv1a identity).toNat ++ text "-" ++ formatU64 generation

theorem short_of_composed {lead : Text} (composed : lead ∈ composedPrefixes) :
    Grammatical lead ∧ lead.length ≤ 4 := by
  have each : ∀ lead ∈ composedPrefixes,
      validateIdentifier lead = .ok ∧ lead.length ≤ 4 := by decide
  obtain ⟨accepted, short⟩ := each lead composed
  exact ⟨validateIdentifier_eq_ok.mp accepted, short⟩

/-- The budget for the identity does not underflow. -/
theorem foldedSuffix_fits {lead : Text} {generation : Nat} (composed : lead ∈ composedPrefixes)
    (identity : Text) (bounded : generation ≤ maxU64) :
    lead.length + 1 + (foldedSuffix identity generation).length ≤ maxIdentifierLength := by
  have dash : (text "-").length = 1 := by decide
  have digits := length_formatU64_le bounded
  have hash : (formatU64 (fnv1a identity).toNat).length ≤ 20 :=
    length_formatU64_le (Nat.le_of_lt_succ (fnv1a identity).toNat_lt)
  have short := (short_of_composed composed).2
  simp only [foldedSuffix, List.length_append, dash, maxIdentifierLength]
  omega

/-- Whole or folded, a composed identifier ends in the generation it names. -/
theorem composeIdentifier_ends {lead : Text} {generation : Nat}
    (composed : lead ∈ composedPrefixes) (identity : Text) (bounded : generation ≤ maxU64) :
    ∃ front, composeIdentifier lead identity generation =
      front ++ 0x2d :: formatU64 generation := by
  have dash : text "-" = [0x2d] := by decide
  unfold composeIdentifier
  dsimp only
  split
  · refine ⟨lead ++ text "-" ++ identity, ?_⟩
    simp only [dash, List.append_assoc, List.singleton_append]
  · have room := foldedSuffix_fits composed identity bounded
    have kept : ¬(lead ++ text "-" ++ identity.take (maxIdentifierLength - lead.length - 1 -
        (foldedSuffix identity generation).length) ++
          foldedSuffix identity generation).length > maxIdentifierLength := by
      have cut := List.length_take_le (maxIdentifierLength - lead.length - 1 -
        (foldedSuffix identity generation).length) identity
      simp only [List.length_append, dash, List.length_singleton]
      omega
    refine ⟨lead ++ text "-" ++ identity.take (maxIdentifierLength - lead.length - 1 -
      (foldedSuffix identity generation).length) ++ text "-" ++
        formatU64 (fnv1a identity).toNat, ?_⟩
    change truncate (_ ++ foldedSuffix identity generation) _ = _
    rw [truncate]
    refine (if_neg kept).trans ?_
    simp only [foldedSuffix, dash, List.append_assoc, List.singleton_append]

theorem composeIdentifier_inj {lead identity : Text} {first second : Nat}
    (composed : lead ∈ composedPrefixes) (left : first ≤ maxU64) (right : second ≤ maxU64)
    (same : composeIdentifier lead identity first = composeIdentifier lead identity second) :
    first = second := by
  have undashed (value : Nat) : 0x2d ∉ formatU64 value := by
    intro member
    exact absurd (isDecimal_of_mem member) (by decide)
  obtain ⟨front, ends⟩ := composeIdentifier_ends composed identity left
  obtain ⟨other, closes⟩ := composeIdentifier_ends composed identity right
  rw [ends, closes] at same
  exact formatU64_inj.mp (Delimited.last_split (undashed first) (undashed second) same).2

/-- Composed identifiers are legal, and two generations never share one. -/
theorem composed_identifiers {lead : Text} (composed : lead ∈ composedPrefixes)
    {domain : IdDomain} {identity : StrongId domain} (valid : identity.valid = true)
    (generation : UInt64) :
    lead.length + 1 + (foldedSuffix identity.value generation.toNat).length ≤
        maxIdentifierLength ∧
      validateIdentifier (composeIdentifier lead identity.value generation.toNat) = .ok ∧
      ∀ other : UInt64, composeIdentifier lead identity.value generation.toNat =
        composeIdentifier lead identity.value other.toNat → generation = other := by
  obtain ⟨leads, short⟩ := short_of_composed composed
  have bounded (value : UInt64) : value.toNat ≤ maxU64 := Nat.le_of_lt_succ value.toNat_lt
  refine ⟨foldedSuffix_fits composed _ (bounded generation), ?_, ?_⟩
  · exact validateIdentifier_eq_ok.mpr (grammatical_composeIdentifier leads (by omega)
      (StrongId.grammatical valid) (bounded generation))
  · intro other same
    exact UInt64.toNat_inj.mp
      (composeIdentifier_inj composed (bounded generation) (bounded other) same)

namespace Composed

/-- An identity that leaves room for one digit but not for two. -/
def longest : PortId := .fromValidated (List.replicate 122 0x61)

set_option maxRecDepth 100000 in
/-- The identifier of generation nine is whole, that of generation ten is folded. -/
theorem nine_and_ten :
    (composeIdentifier (text "cfg") longest.value 9).length = 128 ∧
      composeIdentifier (text "cfg") longest.value 9 ≠
        composeIdentifier (text "cfg") longest.value 10 := by
  refine ⟨by decide +kernel, ?_⟩
  intro same
  have composed : text "cfg" ∈ composedPrefixes := by decide
  have valid : longest.valid = true := by decide +kernel
  have equal := (composed_identifiers composed valid 9).2.2 10 same
  revert equal
  decide

end Composed

end PortFabric
