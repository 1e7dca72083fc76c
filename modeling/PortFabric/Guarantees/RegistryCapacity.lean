import Mathlib.Data.List.Dedup
import PortFabric.Engine.Fixture
import PortFabric.IdentifierProperties
import PortFabric.PersistenceProperties
import PortFabric.ProfileProperties

/-!
# Registry capacity

The registry bounds its identifiers and the generations of each of them, and
the container bounds the profile generations of the whole registry by the
number that the registry allows for identifiers alone.
-/

set_option autoImplicit false

namespace PortFabric

open ProfileRegistry

namespace ProfileRegistry

variable {registry : ProfileRegistry} {profile : PortProfile} {calls : List PortProfile}
  {reference : PortProfileId × PortProfileGeneration}

/-- The registry accepts the definition, as a new one or as one it has already. -/
def Accepts (registry : ProfileRegistry) (profile : PortProfile) : Prop :=
  (registry.define profile).2.accepted = true

instance : Decidable (registry.Accepts profile) :=
  inferInstanceAs (Decidable (_ = _))

/-- An accepted definition adds its own reference and no other. -/
theorem Accepts.defines_next (accepts : registry.Accepts profile) :
    (registry.next profile).Defines reference ↔
      registry.Defines reference ∨ reference = profile.key := by
  constructor
  · intro defined
    obtain ⟨same, _⟩ | ⟨_, _, added⟩ := registry.define_eq profile
    · rw [next, same] at defined
      exact .inl defined
    · rw [next, added, defines_iff] at defined
      obtain ⟨generations, found, stored, member, generation⟩ := defined
      by_cases here : profile.id = reference.1
      · rw [← here, OrderedMap.lookup_insert_self] at found
        cases found
        obtain earlier | new := List.mem_append.mp member
        · refine .inl (defines_iff.mpr ?_)
          rw [← here]
          cases present : registry[profile.id]? with
          | none => simp [present] at earlier
          | some generations =>
              exact ⟨generations, rfl, stored, by simpa [present] using earlier, generation⟩
        · rw [List.mem_singleton.mp new] at generation
          exact .inr (Prod.ext here.symm generation.symm)
      · rw [OrderedMap.lookup_insert_of_ne here] at found
        exact .inl (defines_iff.mpr ⟨generations, found, stored, member, generation⟩)
  · intro given
    rcases given with defined | rfl
    · exact defined.define profile
    · exact define_defines accepts

theorem defines_run (accepted : Runs.Along next Accepts registry calls) :
    (Runs.run next registry calls).Defines reference ↔
      registry.Defines reference ∨ reference ∈ calls.map PortProfile.key := by
  induction calls generalizing registry with
  | nil => simp
  | cons profile rest ih =>
      rw [Runs.run_cons, ih accepted.2, accepted.1.defines_next, List.map_cons, List.mem_cons,
        or_assoc]

/-- A registry that accepted every definition stores each defined reference once. -/
theorem list_after_perm (accepted : Runs.Along next Accepts ∅ calls) :
    ((after calls).list.map PortProfile.key).Perm (calls.map PortProfile.key).dedup := by
  have ordered := ordered_after calls
  refine (List.perm_ext_iff_of_nodup ordered.references_nodup (List.nodup_dedup _)).mpr
    fun reference => ?_
  have empty : ¬(∅ : ProfileRegistry).Defines reference := by simp [defines_iff]
  have defined : (after calls).Defines reference ↔ reference ∈ calls.map PortProfile.key := by
    rw [after, defines_run accepted, or_iff_right empty]
  rw [List.mem_dedup, ← defined]
  constructor
  · intro member
    obtain ⟨profile, listed, rfl⟩ := List.mem_map.mp member
    obtain ⟨generations, found, stored⟩ := ordered.keyed.mem_list_iff.mp listed
    exact defines_iff.mpr ⟨generations, found, profile, stored, rfl⟩
  · intro defined
    obtain ⟨profile, listed, same⟩ := ordered.keyed.listed defined
    exact List.mem_map.mpr ⟨profile, listed, same⟩

end ProfileRegistry

/--
A registry that grew by accepted definitions fits into a container exactly when
they are of at most as many generations, of all profiles together, as there may
be profiles.
-/
theorem gathered_profiles_bounded_iff {calls : List PortProfile} {impl : EngineImpl}
    (config : EngineConfig) (accepted : Runs.Along next Accepts ∅ calls)
    (grown : impl.profiles = after calls) :
    (impl.gatherState config).profiles.length ≤ maxProfiles ↔
      (calls.map PortProfile.key).dedup.length ≤ maxProfiles := by
  have stored := (list_after_perm accepted).length_eq
  rw [List.length_map] at stored
  rw [EngineImpl.gatherState, grown, stored]

section Growth

variable {registry : ProfileRegistry} {profile : PortProfile} {calls : List PortProfile}

theorem ProfileRegistry.lookup_next_of_ne {id : PortProfileId} (other : profile.id ≠ id) :
    (registry.next profile)[id]? = registry[id]? := by
  obtain ⟨same, _⟩ | ⟨_, _, added⟩ := registry.define_eq profile
  · rw [next, same]
  · rw [next, added, OrderedMap.lookup_insert_of_ne other]

theorem ProfileRegistry.size_next_le : (registry.next profile).size ≤ registry.size + 1 := by
  obtain ⟨same, _⟩ | ⟨_, _, added⟩ := registry.define_eq profile
  · rw [next, same]
    exact Nat.le_succ _
  · rw [next, added]
    exact Std.ExtTreeMap.size_insert_le

/-- While there is room, first generations of distinct new identifiers are accepted. -/
theorem ProfileRegistry.accepts_new (valid : ∀ profile ∈ calls, profile.validate = .ok ())
    (first : ∀ profile ∈ calls, profile.generation.value = 1)
    (distinct : (calls.map PortProfile.id).Nodup)
    (absent : ∀ profile ∈ calls, registry[profile.id]? = none)
    (room : registry.size + calls.length ≤ maxProfiles) :
    Runs.Along next Accepts registry calls := by
  induction calls generalizing registry with
  | nil => trivial
  | cons profile rest ih =>
      rw [List.forall_mem_cons] at valid first absent
      rw [List.map_cons, List.nodup_cons] at distinct
      rw [List.length_cons] at room
      have space : ¬registry.size ≥ maxProfiles := by omega
      refine ⟨?_, ih valid.2 first.2 distinct.2 ?_ ?_⟩
      · simp [Accepts, define, valid.1, absent.1, space, first.1, Outcome.success,
          Outcome.accepted, OutcomeCode.isAccepted]
      · intro other member
        have different : profile.id ≠ other.id := fun same =>
          distinct.1 (List.mem_map.mpr ⟨other, member, same.symm⟩)
        rw [lookup_next_of_ne different]
        exact absent.2 other member
      · have grows : (registry.next profile).size ≤ registry.size + 1 := size_next_le
        omega

theorem EngineImpl.profiles_defineProfile (runtime : Runtime) (calls : List PortProfile) :
    (EngineImpl.after runtime (calls.map .defineProfile)).profiles =
      ProfileRegistry.after calls := by
  have grown (impl : EngineImpl) :
      (Runs.run (perform runtime) impl (calls.map .defineProfile)).profiles =
        Runs.run next impl.profiles calls := by
    induction calls generalizing impl with
    | nil => rfl
    | cons profile rest ih => exact ih _
  exact grown _

end Growth

namespace CrowdedRegistry

def profile (number : Nat) (generation : PortProfileGeneration) : PortProfile where
  id := .fromValidated (formatU64 number)
  generation
  name := "profile"
  provenance := { kind := .switchAgent, epoch := .first }

def others (count : Nat) : List PortProfile :=
  (List.range count).map fun number => profile (number + 1) .first

/-- Two generations of one profile, and the first generation of others. -/
def calls (count : Nat) : List PortProfile :=
  [profile 0 .first, profile 0 (.next .first)] ++ others count

/-- The engine that took the definitions. -/
def engine (count : Nat) : EngineImpl :=
  .after Fixture.runtime ((calls count).map .defineProfile)

theorem grammatical_number {number : Nat} (bounded : number ≤ maxU64) :
    Grammatical (formatU64 number) where
  bounded := Nat.le_trans (length_formatU64_le bounded) (by decide)
  undotted := hasDotDot_formatU64 number
  front := by
    have decimal := isDecimal_of_mem (List.head_mem (formatU64_ne_nil number))
    simp only [isDecimal] at decimal
    refine ⟨_, List.head?_eq_some_head (formatU64_ne_nil number), ?_⟩
    simp only [isAlphanumeric, decimal, Bool.true_or]
  back := formatU64_ends number
  plain := plain_formatU64 number

theorem profile_id {number : Nat} (bounded : number ≤ maxU64)
    (generation : PortProfileGeneration) : (profile number generation).id.value =
      formatU64 number := by
  have accepted := validateIdentifier_eq_ok.mpr (grammatical_number bounded)
  simp only [profile, StrongId.fromValidated, accepted, dif_pos]

theorem profile_valid {number : Nat} (bounded : number ≤ maxU64) :
    (profile number .first).validate = .ok () := by
  have identified : (profile number .first).id.valid = true :=
    StrongId.valid_fromValidated (grammatical_number bounded)
  have numbered : (profile number .first).generation.valid = true := rfl
  simp only [PortProfile.validate, identified, numbered]
  simp only [profile]
  decide

theorem profile_id_inj {first second : Nat} (bounded : first ≤ maxU64) (bounded' : second ≤ maxU64)
    {generation other : PortProfileGeneration}
    (same : (profile first generation).id = (profile second other).id) : first = second := by
  have rendered := congrArg StrongId.value same
  rw [profile_id bounded, profile_id bounded'] at rendered
  exact formatU64_injective rendered

section Sequences

variable {count number : Nat} (room : count < maxProfiles)

include room

theorem number_bounded (listed : number ∈ List.range count) : number + 1 ≤ maxU64 := by
  have below := List.mem_range.mp listed
  simp only [maxProfiles, maxU64] at room below ⊢
  omega

theorem first_apart (listed : number ∈ List.range count)
    (generation other : PortProfileGeneration) :
    (profile 0 generation).id ≠ (profile (number + 1) other).id := fun same =>
  Nat.succ_ne_zero number (profile_id_inj (Nat.zero_le _) (number_bounded room listed) same).symm

theorem others_nodup : ((others count).map PortProfile.id).Nodup := by
  rw [others, List.map_map]
  refine List.nodup_range.map_on fun first listed second listed' same => ?_
  exact Nat.succ_injective
    (profile_id_inj (number_bounded room listed) (number_bounded room listed') same)

theorem accepted : Runs.Along next Accepts ∅ (calls count) := by
  have front : Runs.Along next Accepts ∅ [profile 0 .first, profile 0 (.next .first)] := by
    decide +kernel
  have size : (after [profile 0 .first, profile 0 (.next .first)]).size = 1 := by
    decide +kernel
  refine Runs.along_append.mpr ⟨front, accepts_new ?_ ?_ (others_nodup room) ?_ ?_⟩
  · intro other member
    obtain ⟨number, listed, rfl⟩ := List.mem_map.mp member
    exact profile_valid (number_bounded room listed)
  · intro other member
    obtain ⟨number, listed, rfl⟩ := List.mem_map.mp member
    rfl
  · intro other member
    obtain ⟨number, listed, rfl⟩ := List.mem_map.mp member
    change (((∅ : ProfileRegistry).next (profile 0 .first)).next
      (profile 0 (.next .first)))[(profile (number + 1) .first).id]? = none
    rw [lookup_next_of_ne (first_apart room listed _ _),
      lookup_next_of_ne (first_apart room listed _ _), OrderedMap.lookup_empty]
  · change (after [profile 0 .first, profile 0 (.next .first)]).size + _ ≤ _
    rw [size, others, List.length_map, List.length_range, Nat.add_comm]
    exact room

theorem keys_nodup : ((calls count).map PortProfile.key).Nodup := by
  rw [calls, List.map_append]
  refine List.nodup_append'.mpr ⟨by decide +kernel, ?_, ?_⟩
  · refine List.Nodup.of_map Prod.fst ?_
    rw [List.map_map]
    exact others_nodup room
  · intro reference front back
    obtain ⟨other, later, rfl⟩ := List.mem_map.mp back
    obtain ⟨number, listed, rfl⟩ := List.mem_map.mp later
    obtain same | second := List.mem_cons.mp front
    · exact first_apart room listed .first .first (congrArg Prod.fst same).symm
    · exact first_apart room listed (.next .first) .first
        (congrArg Prod.fst (List.mem_singleton.mp second)).symm

/-- The container gathers one profile more than the registry has identifiers. -/
theorem gathered_length :
    ((engine count).gatherState Fixture.runtime.config).profiles.length = count + 2 := by
  have grown : (engine count).profiles = after (calls count) :=
    EngineImpl.profiles_defineProfile Fixture.runtime (calls count)
  have stored := (list_after_perm (accepted room)).length_eq
  rw [(keys_nodup room).dedup, List.length_map, List.length_map] at stored
  rw [EngineImpl.gatherState, grown, stored, calls, List.length_append, others, List.length_map,
    List.length_range, Nat.add_comm]
  rfl

end Sequences

/-- Each definition is accepted, and no container takes the state afterwards. -/
theorem grown_beyond_container :
    Runs.Along next Accepts ∅ (calls (maxProfiles - 1)) ∧
      maxProfiles <
        ((engine (maxProfiles - 1)).gatherState Fixture.runtime.config).profiles.length ∧
      ∀ bytes, encodePersistedState
        ((engine (maxProfiles - 1)).gatherState Fixture.runtime.config) ≠ .ok bytes := by
  have room : maxProfiles - 1 < maxProfiles := by decide
  have exceeds : maxProfiles <
      ((engine (maxProfiles - 1)).gatherState Fixture.runtime.config).profiles.length := by
    rw [gathered_length room]
    decide
  refine ⟨accepted room, exceeds, fun bytes encoded => ?_⟩
  exact Nat.not_le.mpr exceeds (encodePersistedState_eq_ok.mp encoded).1.profiles

/-- Two generations of one profile fit, the second defined twice; the crowded registry does not. -/
theorem repeated_definition_bounded :
    ((EngineImpl.after Fixture.runtime [.defineProfile (profile 0 .first),
        .defineProfile (profile 0 (.next .first)),
        .defineProfile (profile 0 (.next .first))]).gatherState
      Fixture.runtime.config).profiles.length ≤ maxProfiles ∧
    ¬((engine (maxProfiles - 1)).gatherState Fixture.runtime.config).profiles.length ≤
      maxProfiles := by
  constructor
  · have repeats : Runs.Along next Accepts ∅
        [profile 0 .first, profile 0 (.next .first), profile 0 (.next .first)] := by
      decide +kernel
    exact (gathered_profiles_bounded_iff Fixture.runtime.config repeats
      (EngineImpl.profiles_defineProfile Fixture.runtime _)).mpr (by decide +kernel)
  · have room : maxProfiles - 1 < maxProfiles := by decide
    refine (not_congr (gathered_profiles_bounded_iff Fixture.runtime.config (accepted room)
      (EngineImpl.profiles_defineProfile Fixture.runtime _))).mpr ?_
    rw [(keys_nodup room).dedup, List.length_map, calls, List.length_append, others,
      List.length_map, List.length_range]
    decide

end CrowdedRegistry

end PortFabric
