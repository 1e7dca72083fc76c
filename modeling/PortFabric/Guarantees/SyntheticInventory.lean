import PortFabric.Library.Runs
import PortFabric.SyntheticProperties

/-!
# Synthetic inventory

In every run of changes the index of a synthetic fabric names each port of the
inventory at its own place, and evidence is handed out for these ports only.
-/

set_option autoImplicit false

namespace PortFabric

namespace SyntheticFabric

/-- What every run of changes keeps beside the index. -/
structure Sound (fabric : SyntheticFabric) : Prop extends fabric.Indexed where
  observed : ∀ port, (fabric.observedConfigurationFor port).isSome = true →
    (fabric.find port).isSome = true
  generation : fabric.capabilityGeneration.valid = true

variable {fabric : SyntheticFabric}

theorem Sound.empty (name : Text) : Sound { name } where
  toIndexed := .empty name
  observed := fun port present => by simp [observedConfigurationFor] at present
  generation := rfl

theorem Indexed.listed (indexed : fabric.Indexed) (port : PortId) :
    (fabric.ports.any fun definition => definition.port = port) = (fabric.find port).isSome := by
  rw [Bool.eq_iff_iff, indexed.find_isSome, portIds, List.any_eq_true, List.mem_map]
  simp

theorem Sound.extend {after : SyntheticFabric} (sound : fabric.Sound)
    (extended : fabric.Extends after) : after.Sound where
  toIndexed := extended.indexed
  observed := by
    intro port present
    rw [observedConfigurationFor, extended.observed] at present
    have listed := (sound.find_isSome port).mp (sound.observed port present)
    exact (extended.indexed.find_isSome port).mpr (extended.portIds.subset listed)
  generation := by
    rw [extended.generation]
    exact sound.generation

/-- A change that leaves the inventory alone. -/
theorem Sound.keep {after : SyntheticFabric} (sound : fabric.Sound)
    (index : after.index = fabric.index) (ports : after.ports = fabric.ports)
    (observed : ∀ port, (after.observedConfigurationFor port).isSome = true →
      (fabric.observedConfigurationFor port).isSome = true ∨ (fabric.find port).isSome = true)
    (generation : after.capabilityGeneration.valid = true) : after.Sound where
  toIndexed := sound.toIndexed.congr index ports
  observed := by
    intro port present
    rw [find_congr index ports]
    rcases observed port present with before | found
    · exact sound.observed port before
    · exact found
  generation := generation

theorem Sound.grows (sound : fabric.Sound) (change : SyntheticChange) :
    (fabric.change change).Sound ∧ fabric.portIds <+: (fabric.change change).portIds := by
  have extended {after : SyntheticFabric} (extended : fabric.Extends after) :
      after.Sound ∧ fabric.portIds <+: after.portIds :=
    ⟨sound.extend extended, extended.portIds⟩
  cases change with
  | addDevice deviceLabel portClass portCount entityClass =>
      exact extended (sound.extends_addDevice deviceLabel portClass portCount entityClass)
  | addPort definition => exact extended (sound.extends_addPort definition)
  | addBreakoutChildren parent children =>
      exact extended (sound.extends_addBreakoutChildren parent children)
  | setFault | setGlobalFault | clearFaults =>
      exact ⟨sound.keep rfl rfl (fun _ => .inl) sound.generation, List.prefix_rfl⟩
  | setObservedConfiguration port configuration =>
      simp only [SyntheticFabric.change, setObservedConfiguration]
      split
      · next listed =>
          refine ⟨sound.keep rfl rfl ?_ sound.generation, List.prefix_rfl⟩
          intro other present
          simp only [observedConfigurationFor, OrderedMap.lookup_insert] at present
          split at present
          · next same =>
              subst same
              rw [sound.listed] at listed
              exact .inr listed
          · exact .inl present
      · exact ⟨sound, List.prefix_rfl⟩
  | clearObservedConfiguration port =>
      refine ⟨sound.keep rfl rfl ?_ sound.generation, List.prefix_rfl⟩
      intro other present
      simp only [SyntheticFabric.change, observedConfigurationFor, clearObservedConfiguration,
        OrderedMap.lookup_erase] at present
      split at present
      · cases present
      · exact .inl present
  | advanceCapabilityGeneration =>
      refine ⟨sound.keep rfl rfl (fun _ => .inl) ?_, List.prefix_rfl⟩
      have advanced := Generation.valid_advance fabric.capabilityGeneration
      rwa [Generation.advance, if_pos sound.generation] at advanced

theorem Sound.run (sound : fabric.Sound) (changes : List SyntheticChange) :
    (Runs.run change fabric changes).Sound ∧
      fabric.portIds <+: (Runs.run change fabric changes).portIds := by
  induction changes generalizing fabric with
  | nil => exact ⟨sound, List.prefix_rfl⟩
  | cons change rest ih =>
      obtain ⟨changed, grown⟩ := sound.grows change
      obtain ⟨finished, further⟩ := ih changed
      exact ⟨finished, grown.trans further⟩

theorem Sound.bindingFor_valid (sound : fabric.Sound) {port : PortId}
    {binding : CapabilityBinding} (bound : fabric.bindingFor port = some binding) :
    (fabric.find port).isSome = true ∧ port.valid = true ∧ binding.present = true ∧
      binding.valid = true := by
  obtain ⟨definition, found, rfl⟩ := Option.map_eq_some_iff.mp bound
  have listed : (fabric.find port).isSome = true := Option.isSome_iff_exists.mpr ⟨_, found⟩
  obtain ⟨member, rfl⟩ := sound.indexes.lookup_eq_some_iff.mp found
  have generation := sound.generation
  exact ⟨listed, sound.named definition member, rfl,
    by simp_all [CapabilityBinding.valid, Generation.valid]⟩

end SyntheticFabric

open SyntheticFabric in
/--
After every run of changes the index leads to a place inside the inventory and
finds what a scan would find. No port is listed twice, evidence is valid and is
handed out for listed ports only, and later changes leave each port at its place.
-/
theorem inventory_indexed (name : Text) (changes later : List SyntheticChange) :
    let fabric : SyntheticFabric := Runs.run change { name } changes
    (∀ (port : PortId) (place : Nat), fabric.index[port]? = some place →
        place < fabric.ports.length) ∧
      fabric.portIds.Nodup ∧
      (∀ port, fabric.find port = fabric.ports.find? fun definition => definition.port = port) ∧
      (∀ port configuration, (fabric.setObservedConfiguration port configuration).2 =
        (fabric.find port).isSome) ∧
      (∀ port, (fabric.observedConfigurationFor port).isSome = true →
        (fabric.find port).isSome = true) ∧
      (∀ port binding, fabric.bindingFor port = some binding →
        (fabric.find port).isSome = true ∧ port.valid = true ∧ binding.present = true ∧
          binding.valid = true) ∧
      fabric.portIds <+: (Runs.run change fabric later).portIds := by
  intro fabric
  have sound : fabric.Sound := ((Sound.empty name).run changes).1
  refine ⟨fun port place => sound.indexes.within, sound.indexes.nodup,
    sound.indexes.lookup_eq_find?, ?_, sound.observed, fun port binding => sound.bindingFor_valid,
    (sound.run later).2⟩
  intro port configuration
  rw [← sound.listed, setObservedConfiguration]
  split
  · next listed => exact listed.symm
  · next unlisted => exact (Bool.eq_false_iff.mpr unlisted).symm

end PortFabric
