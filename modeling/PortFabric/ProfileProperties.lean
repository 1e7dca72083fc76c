import Mathlib.Data.List.Nodup
import PortFabric.Library.OrderedMap
import PortFabric.Library.Runs
import PortFabric.Profile

/-!
# Properties of the profile registry

What one definition does to the registry, the numbering of the generations it
stores, and the registry after a sequence of definitions.
-/

set_option autoImplicit false

namespace PortFabric

open Checks

namespace ProfileRegistry

def Defines (registry : ProfileRegistry) (reference : PortProfileId × PortProfileGeneration) :
    Prop :=
  (registry.get reference.1 reference.2).isSome = true

/-- Every profile is stored under its own identifier. -/
def Keyed (registry : ProfileRegistry) : Prop :=
  OrderedMap.Every (fun id generations => ∀ profile ∈ generations, profile.id = id) registry

variable {registry : ProfileRegistry} {reference : PortProfileId × PortProfileGeneration}

theorem defines_iff :
    registry.Defines reference ↔
      ∃ generations, registry[reference.1]? = some generations ∧
        ∃ profile ∈ generations, profile.generation = reference.2 := by
  simp [Defines, get, Option.isSome_bind, List.find?_isSome, Option.any_eq_true]

theorem mem_list {profile : PortProfile} :
    profile ∈ registry.list ↔
      ∃ (id : PortProfileId) (generations : List PortProfile),
        registry[id]? = some generations ∧ profile ∈ generations := by
  simp only [list, List.mem_flatMap, Prod.exists, OrderedMap.mem_toList]

theorem Keyed.listed (keyed : registry.Keyed) (defined : registry.Defines reference) :
    ∃ profile ∈ registry.list, (profile.id, profile.generation) = reference := by
  obtain ⟨generations, found, profile, member, generation⟩ := defines_iff.mp defined
  refine ⟨profile, mem_list.mpr ⟨_, _, found, member⟩, ?_⟩
  rw [keyed _ _ found profile member, generation]

theorem Keyed.mem_list_iff (keyed : registry.Keyed) {profile : PortProfile} :
    profile ∈ registry.list ↔
      ∃ generations, registry[profile.id]? = some generations ∧ profile ∈ generations := by
  rw [mem_list]
  constructor
  · intro given
    rcases given with ⟨id, generations, found, member⟩
    obtain rfl := keyed _ _ found profile member
    exact ⟨generations, found, member⟩
  · intro given
    rcases given with ⟨generations, found, member⟩
    exact ⟨_, generations, found, member⟩

/-- The profile is the first generation of its identifier or later than the latest one. -/
structure Extends (registry : ProfileRegistry) (profile : PortProfile) : Prop where
  first : registry[profile.id]? = none → profile.generation.value = 1
  later : ∀ generations latest, registry[profile.id]? = some generations →
    generations.getLast? = some latest → latest.generation < profile.generation

/-- A definition leaves the registry alone, or adds the profile after its earlier generations. -/
theorem define_eq (registry : ProfileRegistry) (profile : PortProfile) :
    ((registry.define profile).1 = registry ∧ (registry.define profile).2.isOk = false ∧
        ((registry.define profile).2.accepted = true →
          registry.Defines (profile.id, profile.generation))) ∨
      (registry.Extends profile ∧ (registry.define profile).2.isOk = true ∧
        (registry.define profile).1 =
          registry.insert profile.id ((registry[profile.id]?).getD [] ++ [profile])) := by
  unfold define
  split
  · exact .inl ⟨rfl, rfl, nofun⟩
  · split
    · next absent =>
        split
        · exact .inl ⟨rfl, rfl, nofun⟩
        · split
          · exact .inl ⟨rfl, rfl, nofun⟩
          · next first =>
              refine .inr ⟨⟨fun _ => not_not.mp first, ?_⟩, rfl, by rw [absent]; rfl⟩
              intro _ _ found
              rw [absent] at found
              cases found
    · next generations found =>
        split
        · exact .inl ⟨rfl, rfl, nofun⟩
        · next latest last =>
            split
            · next same =>
                split
                · refine .inl ⟨rfl, rfl, fun _ =>
                    defines_iff.mpr ⟨generations, found, latest, ?_, ?_⟩⟩
                  · exact List.mem_of_getLast? last
                  · exact same.symm
                · exact .inl ⟨rfl, rfl, nofun⟩
            · next different =>
                split
                · exact .inl ⟨rfl, rfl, nofun⟩
                · next notOlder =>
                    split
                    · exact .inl ⟨rfl, rfl, nofun⟩
                    · refine .inr ⟨⟨?_, ?_⟩, rfl, by rw [found]; rfl⟩
                      · intro absent
                        rw [absent] at found
                        cases found
                      · intro stored newest present ends
                        rw [found] at present
                        cases present
                        rw [last] at ends
                        cases ends
                        exact Generation.lt_of_le_of_ne (Generation.not_lt.mp notOlder)
                          (Ne.symm different)

theorem Defines.define (defined : registry.Defines reference) (profile : PortProfile) :
    (registry.define profile).1.Defines reference := by
  obtain ⟨same, _⟩ | ⟨_, _, added⟩ := registry.define_eq profile
  · rw [same]
    exact defined
  · rw [added, defines_iff]
    obtain ⟨generations, found, member, listed, generation⟩ := defines_iff.mp defined
    by_cases here : profile.id = reference.1
    · rw [← here] at found ⊢
      refine ⟨_, OrderedMap.lookup_insert_self .., member, ?_, generation⟩
      rw [found]
      exact List.mem_append_left _ listed
    · rw [OrderedMap.lookup_insert_of_ne here]
      exact ⟨generations, found, member, listed, generation⟩

/-- An accepted definition is defined afterwards, also when it was defined before. -/
theorem define_defines {profile : PortProfile}
    (accepted : (registry.define profile).2.accepted = true) :
    (registry.define profile).1.Defines (profile.id, profile.generation) := by
  obtain ⟨same, _, current⟩ | ⟨_, _, added⟩ := registry.define_eq profile
  · rw [same]
    exact current accepted
  · rw [added, defines_iff]
    exact ⟨_, OrderedMap.lookup_insert_self .., profile,
      List.mem_append_right _ List.mem_cons_self, rfl⟩

theorem Keyed.define (keyed : registry.Keyed) (profile : PortProfile) :
    (registry.define profile).1.Keyed := by
  obtain ⟨same, _⟩ | ⟨_, _, added⟩ := registry.define_eq profile
  · rw [same]
    exact keyed
  · rw [added]
    refine OrderedMap.Every.insert keyed fun member listed => ?_
    obtain earlier | new := List.mem_append.mp listed
    · cases found : registry[profile.id]? with
      | none => simp [found] at earlier
      | some generations => exact keyed _ _ found member (by simpa [found] using earlier)
    · rw [List.mem_singleton.mp new]

theorem Keyed.empty : (∅ : ProfileRegistry).Keyed := OrderedMap.Every.empty

end ProfileRegistry

section Numbering

/-- Generations of one profile: they start at 1 and strictly increase. -/
structure Numbered (generations : List PortProfile) : Prop where
  starts : generations.head?.map (fun profile => profile.generation.value) = some 1
  increasing : generations.Pairwise fun earlier later => earlier.generation < later.generation

variable {generations : List PortProfile} {profile latest : PortProfile}

theorem Numbered.singleton (first : profile.generation.value = 1) : Numbered [profile] :=
  ⟨congrArg some first, List.pairwise_singleton _ _⟩

theorem Numbered.le_latest (numbered : Numbered generations)
    (last : generations.getLast? = some latest) (member : profile ∈ generations) :
    profile.generation ≤ latest.generation := by
  obtain ⟨front, rfl⟩ := List.getLast?_eq_some_iff.mp last
  obtain earlier | same := List.mem_append.mp member
  · have below := (List.pairwise_append.mp numbered.increasing).2.2 profile earlier latest
    exact Generation.le_of_lt (below List.mem_cons_self)
  · rw [List.mem_singleton.mp same]
    exact Generation.le_refl _

theorem Numbered.exists_latest (numbered : Numbered generations) :
    ∃ latest, generations.getLast? = some latest := by
  obtain ⟨_, starts, _⟩ := Option.map_eq_some_iff.mp numbered.starts
  cases generations with
  | nil => cases starts
  | cons first rest => exact ⟨_, List.getLast?_eq_some_getLast (List.cons_ne_nil first rest)⟩

theorem Numbered.concat (numbered : Numbered generations)
    (last : generations.getLast? = some latest) (later : latest.generation < profile.generation) :
    Numbered (generations ++ [profile]) where
  starts := by
    obtain ⟨first, leads, one⟩ := Option.map_eq_some_iff.mp numbered.starts
    rw [List.head?_append, leads]
    exact congrArg some one
  increasing := by
    refine List.pairwise_append.mpr
      ⟨numbered.increasing, List.pairwise_singleton _ _, fun earlier member new listed => ?_⟩
    rw [List.mem_singleton.mp listed]
    exact Generation.lt_of_le_of_lt (numbered.le_latest last member) later

/-- A generation number names one profile. -/
theorem Numbered.generations_nodup (numbered : Numbered generations) :
    (generations.map PortProfile.generation).Nodup :=
  List.pairwise_map.mpr (numbered.increasing.imp Generation.ne_of_lt)

end Numbering

namespace ProfileRegistry

/-- Profiles are stored under their identifiers, with their generations in order. -/
structure Ordered (registry : ProfileRegistry) : Prop where
  keyed : registry.Keyed
  numbered : OrderedMap.Every (fun _ generations => Numbered generations) registry

variable {registry : ProfileRegistry}

theorem Ordered.empty : (∅ : ProfileRegistry).Ordered := ⟨Keyed.empty, OrderedMap.Every.empty⟩

theorem Ordered.define (ordered : registry.Ordered) (profile : PortProfile) :
    (registry.define profile).1.Ordered := by
  refine ⟨ordered.keyed.define profile, ?_⟩
  obtain ⟨same, _⟩ | ⟨extending, _, added⟩ := registry.define_eq profile
  · rw [same]
    exact ordered.numbered
  · rw [added]
    refine OrderedMap.Every.insert ordered.numbered ?_
    cases found : registry[profile.id]? with
    | none => exact Numbered.singleton (extending.first found)
    | some generations =>
        have numbered := ordered.numbered _ _ found
        obtain ⟨latest, last⟩ := numbered.exists_latest
        exact numbered.concat last (extending.later _ _ found last)

/-- A profile that extends the registry is not stored yet. -/
theorem Ordered.fresh (ordered : registry.Ordered) {profile : PortProfile}
    (extending : registry.Extends profile) :
    ¬registry.Defines (profile.id, profile.generation) := by
  rw [defines_iff]
  intro given
  rcases given with ⟨generations, found, stored, member, same⟩
  have numbered := ordered.numbered _ _ found
  obtain ⟨latest, last⟩ := numbered.exists_latest
  have later : latest.generation < stored.generation :=
    same ▸ extending.later _ _ found last
  exact Generation.not_lt.mpr (numbered.le_latest last member) later

/-- The references of the stored profiles tell them apart. -/
theorem Ordered.references_nodup (ordered : registry.Ordered) :
    (registry.list.map fun profile => (profile.id, profile.generation)).Nodup := by
  have distinct : registry.list.Nodup := by
    refine List.nodup_flatMap.mpr ⟨?_, ?_⟩
    · intro given listed
      rcases given with ⟨id, generations⟩
      exact (ordered.numbered _ _ (OrderedMap.mem_toList.mp listed)).generations_nodup.of_map _
    · refine Std.ExtTreeMap.distinct_keys_toList.imp_of_mem ?_
      intro given further listed stored apart profile member elsewhere
      rcases given with ⟨id, generations⟩
      rcases further with ⟨other, others⟩
      apply apart
      rw [Std.LawfulEqCmp.compare_eq_iff_eq,
        ← ordered.keyed _ _ (OrderedMap.mem_toList.mp listed) profile member,
        ← ordered.keyed _ _ (OrderedMap.mem_toList.mp stored) profile elsewhere]
  refine distinct.map_on fun profile member other listed same => ?_
  obtain ⟨generations, found, stored⟩ := ordered.keyed.mem_list_iff.mp member
  obtain ⟨others, present, kept⟩ := ordered.keyed.mem_list_iff.mp listed
  obtain ⟨identified, numbered⟩ := Prod.mk.inj same
  rw [← identified, found] at present
  cases present
  exact List.inj_on_of_nodup_map (ordered.numbered _ _ found).generations_nodup stored kept numbered

/-- A definition appends the profile to the stored ones exactly when it succeeds. -/
theorem Ordered.list_define (ordered : registry.Ordered) (profile : PortProfile) :
    (registry.define profile).1.list.Perm
      (registry.list ++ if (registry.define profile).2.isOk then [profile] else []) := by
  have after := ordered.define profile
  obtain ⟨same, refused, _⟩ | ⟨extending, succeeded, added⟩ := registry.define_eq profile
  · rw [same, refused]
    simp
  · rw [succeeded, if_pos rfl]
    have absent : profile ∉ registry.list := by
      intro member
      obtain ⟨generations, found, stored⟩ := ordered.keyed.mem_list_iff.mp member
      exact ordered.fresh extending (defines_iff.mpr ⟨_, found, profile, stored, rfl⟩)
    have apart : (registry.list ++ [profile]).Nodup :=
      List.nodup_append'.mpr ⟨ordered.references_nodup.of_map _, List.nodup_singleton _,
        List.disjoint_singleton.mpr absent⟩
    refine (List.perm_ext_iff_of_nodup (after.references_nodup.of_map _) apart).mpr fun other => ?_
    rw [after.keyed.mem_list_iff, List.mem_append, List.mem_singleton, ordered.keyed.mem_list_iff,
      added]
    by_cases here : profile.id = other.id
    · rw [← here, OrderedMap.lookup_insert_self]
      cases found : registry[profile.id]? with
      | none => simp
      | some generations => simp
    · rw [OrderedMap.lookup_insert_of_ne here]
      have different : other ≠ profile := by
        intro same
        subst same
        exact here rfl
      simp [different]

theorem get_define {id : PortProfileId} {generation : PortProfileGeneration}
    {profile : PortProfile} (found : registry.get id generation = some profile)
    (other : PortProfile) : (registry.define other).1.get id generation = some profile := by
  obtain ⟨same, _⟩ | ⟨_, _, added⟩ := registry.define_eq other
  · rw [same]
    exact found
  · rw [added]
    obtain ⟨generations, stored, first⟩ := Option.bind_eq_some_iff.mp found
    refine Option.bind_eq_some_iff.mpr ?_
    by_cases here : other.id = id
    · subst here
      refine ⟨_, OrderedMap.lookup_insert_self .., ?_⟩
      rw [stored, Option.getD_some, List.find?_append, first]
      rfl
    · exact ⟨generations, by rw [OrderedMap.lookup_insert_of_ne here, stored], first⟩

/-- One definition of a sequence. -/
def next (registry : ProfileRegistry) (profile : PortProfile) : ProfileRegistry :=
  (registry.define profile).1

/-- The registry after a sequence of definitions. -/
abbrev after (calls : List PortProfile) : ProfileRegistry :=
  Runs.run next ∅ calls

/-- The profiles that a sequence of definitions adds, in order. -/
def newDefinitions : ProfileRegistry → List PortProfile → List PortProfile
  | _, [] => []
  | registry, profile :: rest =>
      (if (registry.define profile).2.isOk then [profile] else []) ++
        newDefinitions (registry.next profile) rest

theorem Ordered.run (ordered : registry.Ordered) (calls : List PortProfile) :
    (Runs.run next registry calls).Ordered := by
  have kept (registry : ProfileRegistry) (profile : PortProfile) (ordered : registry.Ordered) :
      (registry.next profile).Ordered := ordered.define profile
  exact Runs.invariant kept ordered calls

theorem ordered_after (calls : List PortProfile) : (after calls).Ordered :=
  Ordered.empty.run calls

/-- The registry stores what it stored before and the new definitions. -/
theorem Ordered.list_run (ordered : registry.Ordered) (calls : List PortProfile) :
    (Runs.run next registry calls).list.Perm
      (registry.list ++ newDefinitions registry calls) := by
  induction calls generalizing registry with
  | nil => simp [newDefinitions]
  | cons profile rest ih =>
      have first := ordered.list_define profile
      have later := ih (ordered.define profile)
      rw [newDefinitions, ← List.append_assoc]
      exact later.trans (first.append_right _)

end ProfileRegistry

end PortFabric
