import PortFabric.IdentifierProperties
import PortFabric.Synthetic

/-!
# Properties of the synthetic fabric

The inventory and its index stay in step, and what each change does to the ports
that are found.
-/

set_option autoImplicit false

namespace PortFabric

open IndexedList

namespace SyntheticFabric

/-- The index finds every port of the inventory, which holds no malformed port. -/
structure Indexed (fabric : SyntheticFabric) : Prop where
  indexes : Indexes SyntheticPortDefinition.port fabric.index fabric.ports
  named : ∀ definition ∈ fabric.ports, definition.port.valid = true

/-- The identities of the inventory, in the order in which they were added. -/
def portIds (fabric : SyntheticFabric) : List PortId :=
  fabric.ports.map SyntheticPortDefinition.port

variable {fabric : SyntheticFabric} {definition : SyntheticPortDefinition} {port : PortId}

theorem Indexed.empty (name : Text) : Indexed { name } where
  indexes := .empty
  named := fun _ member => by cases member

theorem Indexed.congr {other : SyntheticFabric} (indexed : fabric.Indexed)
    (index : other.index = fabric.index) (ports : other.ports = fabric.ports) : other.Indexed where
  indexes := by
    rw [index, ports]
    exact indexed.indexes
  named := by
    rw [ports]
    exact indexed.named

theorem find_congr {other : SyntheticFabric} (index : other.index = fabric.index)
    (ports : other.ports = fabric.ports) (port : PortId) : other.find port = fabric.find port := by
  rw [find, find, index, ports]

section AddPort

theorem addPort_malformed (malformed : definition.port.valid = false) :
    fabric.addPort definition = fabric := by
  simp [addPort, malformed]

/-- The inventory is a store of definitions under their ports. -/
theorem addPort_eq (fabric : SyntheticFabric) (valid : definition.port.valid = true) :
    ∃ devices, fabric.addPort definition =
      { fabric with
        index := (store SyntheticPortDefinition.port fabric.index fabric.ports definition).1
        ports := (store SyntheticPortDefinition.port fabric.index fabric.ports definition).2
        devices } := by
  unfold addPort store
  rw [valid]
  cases fabric.index[definition.port]? with
  | none => exact ⟨_, rfl⟩
  | some place => exact ⟨_, rfl⟩

theorem Indexed.addPort (indexed : fabric.Indexed) (definition : SyntheticPortDefinition) :
    (fabric.addPort definition).Indexed := by
  cases valid : definition.port.valid with
  | false =>
      rw [addPort_malformed valid]
      exact indexed
  | true =>
      obtain ⟨_, same⟩ := fabric.addPort_eq valid
      rw [same]
      refine ⟨indexed.indexes.store definition, ?_⟩
      intro other member
      dsimp only at member
      rcases mem_of_mem_store member with rfl | former
      · exact valid
      · exact indexed.named other former

theorem find_addPort (indexed : fabric.Indexed) (definition : SyntheticPortDefinition)
    (port : PortId) :
    (fabric.addPort definition).find port =
      if definition.port.valid = true ∧ definition.port = port then some definition
      else fabric.find port := by
  cases valid : definition.port.valid with
  | false => rw [addPort_malformed valid, if_neg fun both => Bool.noConfusion both.1]
  | true =>
      obtain ⟨_, same⟩ := fabric.addPort_eq valid
      rw [same]
      have stored := indexed.indexes.lookup_store definition port
      simpa [find] using stored

theorem portIds_addPort (indexed : fabric.Indexed) (definition : SyntheticPortDefinition) :
    fabric.portIds <+: (fabric.addPort definition).portIds := by
  cases valid : definition.port.valid with
  | false =>
      rewrite [addPort_malformed valid]
      exact List.prefix_rfl
  | true =>
      obtain ⟨_, same⟩ := fabric.addPort_eq valid
      rw [same]
      exact indexed.indexes.store_keys definition

end AddPort

section Loops

variable {device : DeviceId} {portClass : SyntheticPortClass} {entityClass : PortEntityClass}

/-- The identity that `add_device` gives to a port of the device. -/
def generatedPort (device : DeviceId) (index : Nat) : PortId :=
  .fromValidated (composeSyntheticIdentity device.value index)

/-- The definition that `add_device` gives to a port. -/
def generated (device : DeviceId) (portClass : SyntheticPortClass) (entityClass : PortEntityClass)
    (port : PortId) : SyntheticPortDefinition :=
  { port, device, entityClass, capabilities := capabilitiesFor portClass }

theorem addGenerated_eq (fabric : SyntheticFabric) (index : Nat) :
    addGenerated device portClass entityClass fabric index =
      fabric.addPort (generated device portClass entityClass (generatedPort device index)) := by
  unfold addGenerated
  dsimp only
  split
  · next malformed =>
      have null : (generatedPort device index).valid = false := by
        simpa [generatedPort] using malformed
      exact (addPort_malformed null).symm
  · rfl

/-- The loop adds the well-formed ones of its identities, and changes nothing else. -/
theorem find_addGenerated (indexed : fabric.Indexed) (indices : List Nat) (port : PortId) :
    (indices.foldl (SyntheticFabric.addGenerated device portClass entityClass) fabric).find port =
      if port.valid = true ∧ ∃ index ∈ indices, generatedPort device index = port then
        some (generated device portClass entityClass port)
      else fabric.find port := by
  induction indices generalizing fabric with
  | nil => simp
  | cons index rest ih =>
      rw [List.foldl_cons, ih (addGenerated_eq fabric index ▸ indexed.addPort _), addGenerated_eq,
        find_addPort indexed]
      by_cases later : port.valid = true ∧ ∃ index ∈ rest, generatedPort device index = port
      · obtain ⟨valid, other, member, same⟩ := later
        rw [if_pos ⟨valid, other, member, same⟩,
          if_pos ⟨valid, other, List.mem_cons_of_mem _ member, same⟩]
      · rw [if_neg later]
        by_cases here : generatedPort device index = port
        · subst here
          cases valid : (generatedPort device index).valid with
          | false => simp [generated, valid]
          | true =>
              rw [if_pos ⟨valid, rfl⟩, if_pos ⟨rfl, index, List.mem_cons_self, rfl⟩]
        · rw [if_neg fun both => here both.2, if_neg]
          rintro ⟨valid, other, member, same⟩
          rcases List.mem_cons.mp member with rfl | member
          · exact here same
          · exact later ⟨valid, other, member, same⟩

theorem addChild_fabric (parent : SyntheticPortDefinition) (origin : PortId)
    (state : SyntheticFabric × List PortId) (index : Nat) :
    (addChild parent origin state index).1 =
      state.1.addPort
        { parent with port := childPort origin index, entityClass := .logicalPort } := by
  unfold addChild
  dsimp only
  split
  · next malformed => rw [addPort_malformed (by simpa using malformed)]
  · rfl

end Loops

section Changes

theorem Indexed.find_isSome (indexed : fabric.Indexed) (port : PortId) :
    (fabric.find port).isSome = true ↔ port ∈ fabric.portIds := by
  rw [Option.isSome_iff_exists, portIds, List.mem_map]
  exact exists_congr fun definition => indexed.indexes.lookup_eq_some_iff

/-- What every change keeps of an inventory: each port stays at its place. -/
structure Grows (before after : SyntheticFabric) : Prop where
  indexed : after.Indexed
  portIds : before.portIds <+: after.portIds

/-- Ports are added or redefined, and nothing else is touched. -/
structure Extends (before after : SyntheticFabric) : Prop extends Grows before after where
  observed : after.observedConfigurations = before.observedConfigurations
  generation : after.capabilityGeneration = before.capabilityGeneration

theorem Extends.refl (indexed : fabric.Indexed) : fabric.Extends fabric :=
  ⟨⟨indexed, List.prefix_rfl⟩, rfl, rfl⟩

theorem Extends.trans {middle after : SyntheticFabric} (lower : fabric.Extends middle)
    (upper : middle.Extends after) : fabric.Extends after where
  indexed := upper.indexed
  portIds := lower.portIds.trans upper.portIds
  observed := upper.observed.trans lower.observed
  generation := upper.generation.trans lower.generation

theorem Indexed.extends_addPort (indexed : fabric.Indexed)
    (definition : SyntheticPortDefinition) : fabric.Extends (fabric.addPort definition) where
  indexed := indexed.addPort definition
  portIds := portIds_addPort indexed definition
  observed := by
    unfold SyntheticFabric.addPort
    split
    · rfl
    · split <;> rfl
  generation := by
    unfold SyntheticFabric.addPort
    split
    · rfl
    · split <;> rfl

/-- A loop whose turns each add a port. -/
theorem Indexed.extends_foldl {σ : Type} {turn : σ → Nat → σ} (view : σ → SyntheticFabric)
    (adds : ∀ state index, ∃ definition, view (turn state index) = (view state).addPort definition)
    (state : σ) (indexed : (view state).Indexed) (indices : List Nat) :
    (view state).Extends (view (indices.foldl turn state)) := by
  induction indices generalizing state with
  | nil => exact .refl indexed
  | cons index rest ih =>
      obtain ⟨definition, same⟩ := adds state index
      have turned := indexed.extends_addPort definition
      rw [← same] at turned
      exact turned.trans (ih _ turned.indexed)

theorem Indexed.extends_addDevice (indexed : fabric.Indexed) (deviceLabel : Text)
    (portClass : SyntheticPortClass) (portCount : UInt32) (entityClass : PortEntityClass) :
    fabric.Extends (fabric.addDevice deviceLabel portClass portCount entityClass).1 := by
  simp only [SyntheticFabric.addDevice]
  split
  · exact .refl indexed
  · have added (counted : SyntheticFabric) (known : counted.Indexed) (indices : List Nat) :
        counted.Extends (indices.foldl
          (addGenerated (deviceFor deviceLabel) portClass entityClass) counted) :=
      Indexed.extends_foldl id (fun fabric index => ⟨_, addGenerated_eq fabric index⟩) counted
        known indices
    refine Extends.trans ?_ (added _ ?_ _)
    · exact ⟨⟨indexed.congr rfl rfl, List.prefix_rfl⟩, rfl, rfl⟩
    · exact indexed.congr rfl rfl

theorem Indexed.extends_addBreakoutChildren (indexed : fabric.Indexed) (parent : PortId)
    (children : UInt32) : fabric.Extends (fabric.addBreakoutChildren parent children).1 := by
  simp only [SyntheticFabric.addBreakoutChildren]
  split
  · exact .refl indexed
  · next definition _ =>
      split
      · exact .refl indexed
      · exact Indexed.extends_foldl Prod.fst
          (fun state index => ⟨_, addChild_fabric definition parent state index⟩) (fabric, [])
          indexed _

end Changes

end SyntheticFabric

end PortFabric
