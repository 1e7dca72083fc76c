import PortFabric.Engine.Fixture
import PortFabric.Guarantees.Setbacks

/-!
# Repairs

What brings a port on: operations on the registries, which prepare what a request
looks up, and the requests of a caller that may act on the port. The evidence may
be bound first, and a live port may be released from a profile that is lost.
-/

set_option autoImplicit false

namespace PortFabric

open Checks PortFabricEngine

theorem EngineImpl.Leads.wellFormed {runtime : Runtime} {impl after : EngineImpl}
    (leads : impl.Leads runtime after) (wellFormed : impl.WellFormed) : after.WellFormed :=
  Runs.Reaches.keeps (fun _ operation _ formed => EngineImpl.WellFormed.perform formed operation)
    leads wellFormed

/-- A generation of the profile without any specification. -/
def blankProfile (id : PortProfileId) (generation : PortProfileGeneration) : PortProfile where
  id
  generation
  name := "blank"
  provenance := { kind := .operator, epoch := .first }

theorem blankProfile_validate {id : PortProfileId} {generation : PortProfileGeneration}
    (named : id.valid = true) (valid : generation.valid = true) :
    (blankProfile id generation).validate = .ok () := by
  have name : validateText (text "blank") maxNameLength = .ok () := by decide
  have description : validateText [] maxDescriptionLength = .ok () := by decide
  have configuration : ({} : ProfileConfiguration).validate = .ok () := by decide
  have filled : (text "blank").isEmpty = false := rfl
  simp [PortProfile.validate, blankProfile, named, valid, name, description, configuration, filled,
    require, within, refuseIf, ProvenanceKind.isValid]

section Definitions

variable {registry : ProfileRegistry} {id : PortProfileId} {generation : PortProfileGeneration}

theorem ProfileRegistry.get_define_first (named : id.valid = true)
    (absent : registry[id]? = none) (room : registry.size < maxProfiles) :
    (registry.define (blankProfile id .first)).1[id]? = some [blankProfile id .first] := by
  have valid : (blankProfile id .first).validate = .ok () :=
    blankProfile_validate named Generation.valid_first
  have first : (blankProfile id .first).generation.value = 1 := rfl
  have same : (blankProfile id .first).id = id := rfl
  simp only [define, valid, same, absent, Nat.not_le.mpr room, first, if_false, ne_eq,
    not_true_eq_false]
  exact OrderedMap.lookup_insert_self ..

theorem ProfileRegistry.get_define_next {generations : List PortProfile} {latest : PortProfile}
    (named : id.valid = true) (valid : generation.valid = true)
    (found : registry[id]? = some generations) (last : generations.getLast? = some latest)
    (newer : latest.generation < generation) (room : generations.length < maxProfileGenerations) :
    (registry.define (blankProfile id generation)).1[id]? =
      some (generations ++ [blankProfile id generation]) := by
  have validated := blankProfile_validate named valid
  have same : (blankProfile id generation).id = id := rfl
  have stamped : (blankProfile id generation).generation = generation := rfl
  have differs : generation ≠ latest.generation := (Generation.ne_of_lt newer).symm
  have notOlder : ¬generation < latest.generation :=
    Generation.not_lt.mpr (Generation.le_of_lt newer)
  simp only [define, validated, same, stamped, found, last, differs, notOlder,
    Nat.not_le.mpr room, if_false]
  exact OrderedMap.lookup_insert_self ..

theorem ProfileBinding.defined_of_lookup {binding : ProfileBinding} {generations : List PortProfile}
    (found : registry[binding.id]? = some generations)
    (member : blankProfile binding.id binding.generation ∈ generations) :
    binding.defined registry = true := by
  have stored : (registry.get binding.id binding.generation).isSome = true := by
    simp only [ProfileRegistry.get, found, Option.bind_some, List.find?_isSome, decide_eq_true_eq]
    exact ⟨_, member, rfl⟩
  simp [ProfileBinding.defined, stored]

end Definitions

/-- A run of operations on the registries, which costs this many generations. -/
structure EngineImpl.Prepares (runtime : Runtime) (impl after : EngineImpl) (spent : Nat) :
    Prop where
  leads : impl.Leads runtime after
  records : ∀ (port : PortId) (record : PortRecord), impl.records[port]? = some record →
    after.records[port]? = some record
  publishers : after.publishers = impl.publishers
  epoch : after.epoch = impl.epoch
  shuttingDown : after.shuttingDown = impl.shuttingDown
  generation : after.generation.value ≤ impl.generation.value + spent
  size : impl.devices.size ≤ runtime.config.deviceBound →
    after.devices.size ≤ runtime.config.deviceBound

section Preparation

variable {runtime : Runtime} {impl middle after : EngineImpl} {caller : Incarnation}
  {record : PortRecord} {bindings spent more count : Nat}

namespace EngineImpl.Prepares

theorem refl (runtime : Runtime) (impl : EngineImpl) : impl.Prepares runtime impl 0 :=
  ⟨.refl _, fun _ _ => id, rfl, rfl, rfl, Nat.le_refl _, id⟩

theorem trans (first : impl.Prepares runtime middle spent)
    (second : middle.Prepares runtime after more) :
    impl.Prepares runtime after (spent + more) where
  leads := first.leads.trans second.leads
  records := fun port record found => second.records port record (first.records port record found)
  publishers := second.publishers.trans first.publishers
  epoch := second.epoch.trans first.epoch
  shuttingDown := second.shuttingDown.trans first.shuttingDown
  generation := by
    have earlier := first.generation
    have later := second.generation
    omega
  size := fun bounded => second.size (first.size bounded)

theorem mono (prepares : impl.Prepares runtime after spent) (atMost : spent ≤ more) :
    impl.Prepares runtime after more :=
  { prepares with
    generation := Nat.le_trans prepares.generation (Nat.add_le_add_left atMost _) }

theorem hasRoom (prepares : impl.Prepares runtime after spent)
    (room : impl.HasRoom (spent + count)) : after.HasRoom count := by
  have later := prepares.generation
  unfold HasRoom at room ⊢
  omega

theorem manages (prepares : impl.Prepares runtime after spent)
    (manages : impl.Manages runtime caller record) : after.Manages runtime caller record where
  wellFormed := prepares.leads.wellFormed manages.wellFormed
  running := prepares.shuttingDown.trans manages.running
  found := prepares.records _ _ manages.found
  standing := manages.standing
  alive := manages.alive.congr prepares.publishers
  entitled := by
    rw [prepares.epoch]
    exact manages.entitled

end EngineImpl.Prepares

/-- The topology can be set to any later generation. -/
theorem EngineImpl.exists_oriented (runtime : Runtime) (impl : EngineImpl)
    {topology : TopologyGeneration} (valid : topology.valid = true)
    (later : impl.topology ≤ topology) :
    impl.Prepares runtime { impl with topology } 0 := by
  by_cases same : impl.topology = topology
  · subst same
    exact .refl runtime impl
  · have advanced : impl.perform runtime (.setTopologyGeneration topology) =
        { impl with topology } := by
      have notOlder : ¬topology < impl.topology := Generation.not_lt.mpr later
      simp [EngineImpl.perform, setTopologyGeneration, valid, notOlder, Ne.symm same]
    have leads : impl.Leads runtime (impl.perform runtime (.setTopologyGeneration topology)) :=
      .single trivial
    rw [advanced] at leads
    exact ⟨leads, fun _ _ => id, rfl, rfl, rfl, Nat.le_refl _, id⟩

theorem EngineImpl.Prepares.define (runtime : Runtime) (impl : EngineImpl)
    (profile : PortProfile) :
    impl.Prepares runtime { impl with profiles := (impl.profiles.define profile).1 } 0 := by
  have leads : impl.Leads runtime (impl.perform runtime (.defineProfile profile)) :=
    .single trivial
  exact ⟨leads, fun _ _ => id, rfl, rfl, rfl, Nat.le_refl _, id⟩

/-- An obtainable profile can be defined, after its first generation if need be. -/
theorem EngineImpl.exists_profiled (runtime : Runtime) (impl : EngineImpl)
    {binding : ProfileBinding} (obtainable : binding.Obtainable impl.profiles) :
    ∃ profiles, impl.Prepares runtime { impl with profiles } 0 ∧
      binding.defined profiles = true := by
  have continues {registry : ProfileRegistry} {generations : List PortProfile}
      {latest : PortProfile} (reached : impl.Prepares runtime { impl with profiles := registry } 0)
      (named : binding.id.valid = true) (valid : binding.generation.valid = true)
      (found : registry[binding.id]? = some generations)
      (last : generations.getLast? = some latest) (newer : latest.generation < binding.generation)
      (room : generations.length < maxProfileGenerations) :
      ∃ profiles, impl.Prepares runtime { impl with profiles } 0 ∧
        binding.defined profiles = true :=
    ⟨_, reached.trans (.define runtime { impl with profiles := registry }
        (blankProfile binding.id binding.generation)),
      ProfileBinding.defined_of_lookup
        (ProfileRegistry.get_define_next named valid found last newer room) (by simp)⟩
  obtain defined | ⟨named, valid, room⟩ := obtainable
  · exact ⟨impl.profiles, .refl runtime impl, defined⟩
  · cases found : impl.profiles[binding.id]? with
    | some generations =>
        rw [found] at room
        obtain ⟨shorter, latest, last, newer⟩ := room
        exact continues (.refl runtime impl) named valid found last newer shorter
    | none =>
        rw [found] at room
        have begun : impl.Prepares runtime
            { impl with profiles := (impl.profiles.define (blankProfile binding.id .first)).1 } 0 :=
          .define runtime impl (blankProfile binding.id .first)
        have stored := ProfileRegistry.get_define_first named found room
        by_cases first : binding.generation = .first
        · refine ⟨_, begun, ProfileBinding.defined_of_lookup stored ?_⟩
          rw [first]
          exact List.mem_singleton_self _
        · have room : 1 < maxProfileGenerations := by decide
          refine continues begun named valid stored rfl ?_ room
          have numbered := Generation.valid_iff.mp valid
          have differs : binding.generation.value ≠ 1 := fun same => first (Generation.ext same)
          have later : 1 < binding.generation.value := by omega
          exact later

end Preparation

/-- The device is registered under this generation. -/
def EngineImpl.RegisteredAs (impl : EngineImpl) (device : DeviceId)
    (generation : DeviceGeneration) : Prop :=
  ∃ binding, impl.devices[device]? = some binding ∧ binding.generation = generation

/-- The run registers the device under the generation, and keeps the other registries. -/
structure EngineImpl.Raises (runtime : Runtime) (impl after : EngineImpl) (device : DeviceId)
    (raised : DeviceGeneration) (spent : Nat) : Prop
    extends impl.Prepares runtime after spent where
  registered : after.RegisteredAs device raised
  topology : after.topology = impl.topology
  profiles : after.profiles = impl.profiles

section Raising

variable {runtime : Runtime} {impl : EngineImpl} {record : PortRecord} {device : DeviceId}
  {generation : DeviceGeneration} {bindings : Nat}

theorem EngineImpl.Raises.of_insert (binding : DeviceBinding)
    (same : impl.perform runtime (.registerDevice device binding.generation "registry") =
      { impl with devices := impl.devices.insert device binding })
    (size : impl.devices.size ≤ runtime.config.deviceBound →
      (impl.devices.insert device binding).size ≤ runtime.config.deviceBound) :
    impl.Raises runtime { impl with devices := impl.devices.insert device binding } device
      binding.generation 0 := by
  have leads : impl.Leads runtime
      (impl.perform runtime (.registerDevice device binding.generation "registry")) :=
    .single trivial
  rw [same] at leads
  exact ⟨⟨leads, fun _ _ => id, rfl, rfl, rfl, Nat.le_refl _, size⟩,
    ⟨binding, OrderedMap.lookup_insert_self .., rfl⟩, rfl, rfl⟩

theorem EngineImpl.exists_added (named : device.valid = true) (valid : generation.valid = true)
    (absent : impl.devices[device]? = none)
    (room : impl.devices.size < runtime.config.deviceBound) :
    ∃ after, impl.Raises runtime after device generation 0 := by
  let binding : DeviceBinding := { device, generation, source := "registry" }
  have source : validateText (text "registry") maxNameLength = .ok () := by decide
  refine ⟨_, .of_insert binding ?_ fun _ => ?_⟩
  · simp [EngineImpl.perform, registerDevice, named, valid, source, absent, Nat.not_le.mpr room,
      binding]
  · exact Nat.le_trans Std.ExtTreeMap.size_insert_le room

theorem EngineImpl.exists_replaced {former : DeviceBinding} (named : device.valid = true)
    (found : impl.devices[device]? = some former) (newer : former.generation < generation)
    (bounded : impl.devices.size ≤ runtime.config.deviceBound) :
    ∃ after, impl.Raises runtime after device generation 0 := by
  let binding : DeviceBinding := { former with generation, source := "registry" }
  have source : validateText (text "registry") maxNameLength = .ok () := by decide
  have valid : generation.valid = true := by
    have positive : former.generation.value < generation.value := newer
    exact Generation.valid_iff.mpr (by omega)
  have notOlder : ¬generation < former.generation :=
    Generation.not_lt.mpr (Generation.le_of_lt newer)
  have differs : generation ≠ former.generation := (Generation.ne_of_lt newer).symm
  refine ⟨_, .of_insert binding ?_ fun _ => ?_⟩
  · simp [EngineImpl.perform, registerDevice, named, valid, source, found, notOlder, differs,
      Nat.not_lt.mpr bounded, binding]
  · rw [OrderedMap.size_insert_of_present found]
    exact bounded

/-- A binding that brings no evidence. -/
def plainBinding (port : PortId) (device : DeviceId) (generation : DeviceGeneration)
    (epoch : CoordinatorEpoch) : PortBindingRequest where
  port
  parentDevice := device
  deviceGeneration := generation
  epoch
  attempt := "attempt-a"

theorem plainBinding_validate {port : PortId} {device : DeviceId} {generation : DeviceGeneration}
    {epoch : CoordinatorEpoch} (named : port.valid = true) (parent : device.valid = true) :
    (boundRecord (plainBinding port device generation epoch) none).validate = .ok () := by
  have reason : validateText (text "BOUND") maxNameLength = .ok () := by decide
  have detail : validateText [] maxDescriptionLength = .ok () := by decide
  have formed : (boundRecord (plainBinding port device generation epoch) none).Formed :=
    { port := named
      device := parent
      drift := rfl
      outcome := rfl
      capability := rfl
      ownership := rfl
      configuration := nofun
      live := nofun
      reason }
  exact formed.validate_iff.mpr ⟨.inr (.inl rfl), detail⟩

/-- Past the bound of the device table, the binding of another port replaces a device. -/
theorem EngineImpl.exists_rebound {former : DeviceBinding} (running : impl.shuttingDown = false)
    (named : device.valid = true) (found : impl.devices[device]? = some former)
    (newer : former.generation < generation) (binds : impl.BindsMore runtime) :
    ∃ after, impl.Raises runtime after device generation 1 := by
  obtain ⟨room, port, identified, absent⟩ := binds
  let request := plainBinding port device generation impl.epoch
  let record := boundRecord request none
  let inserted : EngineImpl :=
    { impl with
      records := impl.records.insert port record
      indexes := impl.indexes.indexAdd record
      generation := impl.generation.advance }
  have valid : generation.valid = true := by
    have positive : former.generation.value < generation.value := newer
    exact Generation.valid_iff.mpr (by omega)
  have attempted : ("attempt-a" : MutationAttemptId).valid = true := rfl
  have admitted : admitBinding impl request = .ok () := by
    simp [admitBinding, running, request, plainBinding, identified, named, valid, attempted]
  have unanswered : probeCapabilities runtime impl request {} = none := by
    unfold probeCapabilities resolveCapabilities
    cases runtime.capabilityProvider <;> simp [request, plainBinding, absent]
  have stored : insertBinding runtime impl request none = .ok inserted := by
    have validated : (boundRecord request none).validate = .ok () :=
      plainBinding_validate identified named
    have same : request.port = port := rfl
    simp only [insertBinding, same, absent, ge_iff_le, Nat.not_le.mpr room, if_false, validated]
    rfl
  let binding : DeviceBinding := { former with generation, source := [] }
  have bound : bindDevice runtime inserted request record =
      ({ inserted with devices := impl.devices.insert device binding }, none) := by
    have same : request.parentDevice = device := rfl
    have raised : request.deviceGeneration = generation := rfl
    simp only [bindDevice, same, raised, inserted, found, newer, if_true]
    rfl
  have leads : impl.Leads runtime (impl.perform runtime (.bindPort request (.successful {}))) := by
    have cooperates : (Operation.bindPort request (.successful {})).Cooperates := ⟨{}, rfl⟩
    exact .single cooperates
  obtain ⟨durabilityDirty, same⟩ := persistLockedState_eq runtime {}
    { inserted with devices := impl.devices.insert device binding }
  have performed : impl.perform runtime (.bindPort request (.successful {})) =
      { inserted with devices := impl.devices.insert device binding, durabilityDirty } := by
    rw [EngineImpl.perform, bindPort, admitted]
    simp only [MutationAnswers.successful, unanswered, stored, record] at bound same ⊢
    rw [bound]
    exact same
  rw [performed] at leads
  refine ⟨_, ⟨leads, fun other kept lookup => ?_, rfl, rfl, rfl, ?_, fun bounded => ?_⟩,
    ⟨binding, OrderedMap.lookup_insert_self .., rfl⟩, rfl, rfl⟩
  · have differs : port ≠ other := by
      intro here
      rw [here, lookup] at absent
      cases absent
    exact (OrderedMap.lookup_insert_of_ne differs).trans lookup
  · exact Generation.advance_value_le impl.generation
  · dsimp only
    rw [OrderedMap.size_insert_of_present found]
    exact bounded

/-- A device that is offered under the generation can be registered under it. -/
theorem EngineImpl.exists_registered (running : impl.shuttingDown = false)
    (named : record.parentDevice.valid = true)
    (offered : impl.OffersDevice runtime record bindings generation) :
    ∃ after, impl.Raises runtime after record.parentDevice generation bindings := by
  obtain ⟨valid, offered⟩ := offered
  have within {after : EngineImpl} {spent : Nat}
      (raises : impl.Raises runtime after record.parentDevice generation spent)
      (atMost : spent ≤ bindings) :
      ∃ after, impl.Raises runtime after record.parentDevice generation bindings :=
    ⟨after, raises.mono atMost, raises.registered, raises.topology, raises.profiles⟩
  cases found : impl.devices[record.parentDevice]? with
  | none =>
      rw [found] at offered
      obtain ⟨_, raises⟩ := exists_added named valid found offered
      exact within raises (Nat.zero_le _)
  | some former =>
      rw [found] at offered
      rcases offered with same | ⟨newer, bounded | ⟨positive, binds⟩⟩
      · have raises : impl.Raises runtime impl record.parentDevice generation 0 :=
          ⟨.refl runtime impl, ⟨former, found, same⟩, rfl, rfl⟩
        exact within raises (Nat.zero_le _)
      · obtain ⟨_, raises⟩ := exists_replaced named found newer bounded
        exact within raises (Nat.zero_le _)
      · obtain ⟨_, raises⟩ := exists_rebound running named found newer binds
        exact within raises positive

/-- The registries hold what a configuration of the port looks up. -/
structure EngineImpl.Equips (runtime : Runtime) (impl after : EngineImpl) (record : PortRecord)
    (raised : DeviceGeneration) (topology : TopologyGeneration) (profile : ProfileBinding)
    (spent : Nat) : Prop
    extends impl.Prepares runtime after spent where
  registered : after.RegisteredAs record.parentDevice raised
  oriented : after.topology = topology
  profiled : profile.defined after.profiles = true

theorem EngineImpl.exists_equipped {topology : TopologyGeneration} {profile : ProfileBinding}
    (running : impl.shuttingDown = false) (named : record.parentDevice.valid = true)
    (offered : impl.OffersDevice runtime record bindings generation)
    (oriented : topology.valid = true) (later : impl.topology ≤ topology)
    (obtainable : profile.Obtainable impl.profiles) :
    ∃ after, impl.Equips runtime after record generation topology profile bindings := by
  obtain ⟨raised, raises⟩ := exists_registered running named offered
  rw [← raises.topology] at later
  have turned := raised.exists_oriented runtime oriented later
  rw [← raises.profiles] at obtainable
  obtain ⟨profiles, defines, defined⟩ :=
    ({ raised with topology } : EngineImpl).exists_profiled runtime obtainable
  have prepares := (raises.toPrepares.trans turned).trans defines
  exact ⟨_, prepares, raises.registered, rfl, defined⟩

/-- The device that is registered under a generation is offered under it, and under the next one
while the table of devices is not past its bound. -/
theorem EngineImpl.RegisteredAs.offers {generation : DeviceGeneration}
    (registered : impl.RegisteredAs record.parentDevice generation)
    (valid : generation.valid = true) : impl.OffersDevice runtime record 0 generation := by
  obtain ⟨binding, found, same⟩ := registered
  refine ⟨valid, ?_⟩
  rw [found]
  exact .inl same

theorem EngineImpl.RegisteredAs.kept
    (registered : impl.RegisteredAs record.parentDevice record.generations.device)
    (valid : record.generations.device.valid = true) : impl.DeviceKept record := by
  obtain ⟨binding, found, same⟩ := registered
  exact ⟨binding, found, same, same ▸ valid⟩

theorem EngineImpl.RegisteredAs.offers_next {generation : DeviceGeneration}
    (registered : impl.RegisteredAs record.parentDevice generation)
    (advances : generation.exhaustible = false)
    (bounded : impl.devices.size ≤ runtime.config.deviceBound) :
    impl.OffersDevice runtime record 0 generation.next := by
  obtain ⟨binding, found, same⟩ := registered
  have later := Generation.lt_next advances
  have positive : generation.value < generation.next.value := later
  refine ⟨Generation.valid_iff.mpr (by omega), ?_⟩
  rw [found]
  exact .inr ⟨same ▸ later, .inl bounded⟩

end Raising

section Tables

variable {runtime : Runtime} {impl middle after : EngineImpl} {record final : PortRecord}

/-- The tables that the repair of a port looks up, and the ports that are bound, stay. -/
structure EngineImpl.KeepsTables (impl after : EngineImpl) : Prop where
  devices : after.devices = impl.devices
  profiles : after.profiles = impl.profiles
  topology : after.topology = impl.topology
  grown : RecordsGrow impl.records after.records
  shrunk : RecordsGrow after.records impl.records

namespace EngineImpl.KeepsTables

theorem refl (impl : EngineImpl) : impl.KeepsTables impl :=
  ⟨rfl, rfl, rfl, .refl _, .refl _⟩

theorem symm (keeps : impl.KeepsTables after) : after.KeepsTables impl :=
  ⟨keeps.devices.symm, keeps.profiles.symm, keeps.topology.symm, keeps.shrunk, keeps.grown⟩

theorem trans (first : impl.KeepsTables middle) (second : middle.KeepsTables after) :
    impl.KeepsTables after :=
  ⟨second.devices.trans first.devices, second.profiles.trans first.profiles,
    second.topology.trans first.topology, first.grown.trans second.grown,
    second.shrunk.trans first.shrunk⟩

theorem narrows (keeps : impl.KeepsTables after) : impl.Narrows runtime after 0 := by
  refine ⟨keeps.topology ▸ Generation.le_refl _, fun binding obtainable => ?_, ?_, keeps.grown⟩
  · rw [← keeps.profiles]
    exact obtainable
  · rw [keeps.devices]
    exact .kept

end EngineImpl.KeepsTables

theorem EngineImpl.Replaces.keepsTables (replaces : impl.Replaces record.port final after)
    (found : impl.records[record.port]? = some record) : impl.KeepsTables after := by
  refine ⟨replaces.devices, replaces.profiles, replaces.topology, ?_, ?_⟩
  · rw [replaces.records]
    exact .insert ..
  · rw [replaces.records]
    refine ⟨Nat.le_of_eq (OrderedMap.size_insert_of_present found), fun port absent => ?_⟩
    have differs : record.port ≠ port := by
      intro here
      rw [here, absent] at found
      cases found
    rwa [OrderedMap.lookup_insert_of_ne differs]

end Tables

section Evidence

variable {runtime : Runtime} {record : PortRecord} {target : PortConfiguration}
  {evidence other : CapabilityBinding}

theorem validateAgainstCapabilities_legal
    (supported : validateAgainstCapabilities target evidence = .ok ()) :
    evidence.capabilities.validate = .ok () := by
  obtain ⟨present, generation⟩ := validateAgainstCapabilities_present supported
  unfold validateAgainstCapabilities at supported
  simp only [present, generation] at supported
  cases legal : evidence.capabilities.validate with
  | ok => rfl
  | error error => simp [legal] at supported

/-- The generation of the evidence does not matter to what it supports. -/
theorem validateAgainstCapabilities_renumbered
    (supported : validateAgainstCapabilities target evidence = .ok ())
    (same : other.capabilities = evidence.capabilities) (bound : other.present = true)
    (valid : other.generation.valid = true) :
    validateAgainstCapabilities target other = .ok () := by
  obtain ⟨present, generation⟩ := validateAgainstCapabilities_present supported
  unfold validateAgainstCapabilities at supported ⊢
  simp only [present, generation, valid, same, bound] at supported ⊢
  exact supported

/-- The evidence under the next generation of the port's. -/
def PortRecord.renewed (record : PortRecord) (evidence : CapabilityBinding) : CapabilityBinding :=
  { evidence with
    generation :=
      if record.capability.present then record.capability.generation.next else .first
    evidenceGeneration := .first
    present := true }

theorem PortRecord.Renewable.newer (renewable : record.Renewable) (evidence : CapabilityBinding) :
    (record.capability.present = true →
        record.capability.generation < (record.renewed evidence).generation) ∧
      (record.renewed evidence).generation.valid = true := by
  cases bound : record.capability.present with
  | false =>
      refine ⟨nofun, ?_⟩
      simp [PortRecord.renewed, bound]
  | true =>
      have later := Generation.lt_next (renewable bound)
      have positive : record.capability.generation.value <
        record.capability.generation.next.value := later
      simp only [PortRecord.renewed, bound, if_true]
      exact ⟨fun _ => later, Generation.valid_iff.mpr (by omega)⟩

/-- Another generation of the evidence a provider is asked for. -/
theorem PortRecord.Evidenced.renumbered (evident : record.Evidenced runtime evidence)
    (unbound : record.capability.present = false)
    (supported : validateAgainstCapabilities target evidence = .ok ()) :
    ∃ other, record.Evidenced runtime other ∧
      validateAgainstCapabilities target other = .ok () ∧
      other.generation ≠ evidence.generation := by
  obtain ⟨provider, resolved⟩ := evident
  obtain ⟨generation, valid, differs⟩ : ∃ generation : CapabilityBindingGeneration,
      generation.valid = true ∧ generation ≠ evidence.generation := by
    by_cases first : evidence.generation = .first
    · refine ⟨.next .first, rfl, ?_⟩
      rw [first]
      decide
    · exact ⟨.first, rfl, Ne.symm first⟩
  obtain ⟨present, _⟩ := validateAgainstCapabilities_present supported
  have supplied : runtime.capabilityProvider = true := by
    cases known : runtime.capabilityProvider with
    | true => rfl
    | false => simp [resolveCapabilities, unbound, known] at resolved
  let other : CapabilityBinding := { evidence with generation }
  refine ⟨other, ⟨{ binding := some other }, ?_⟩,
    validateAgainstCapabilities_renumbered supported rfl present valid, differs⟩
  simp [resolveCapabilities, unbound, supplied, other, present,
    validateAgainstCapabilities_legal supported]

end Evidence

/-- A configuration any port can be given under `Fixture.evidence`. -/
def plainTarget : PortConfiguration :=
  { Fixture.makeConfiguration "port-a" with
    record := "cfg-a"
    deviceGeneration := .first
    topologyGeneration := .first
    generation := .first
    provenance := { kind := .operator, epoch := .first, attempt := "attempt-a" } }

theorem plainTarget_plain : plainTarget.Plain where
  valid := by decide +kernel
  administrative := rfl
  unbound := rfl

theorem plainTarget_supported :
    validateAgainstCapabilities plainTarget Fixture.evidence = .ok () := by decide +kernel

section Repairs

variable {runtime : Runtime} {impl : EngineImpl} {caller : Incarnation} {record : PortRecord}
  {committed : PortConfiguration} {bindings steps : Nat}

theorem EngineImpl.Manages.restores_reconciled {capability : CapabilityBinding}
    {device : DeviceGeneration} {topology : TopologyGeneration}
    (manages : impl.Manages runtime caller record)
    (configured : record.configuration = some committed)
    (profile : committed.profile.Obtainable impl.profiles)
    (evident : record.Evidenced runtime capability)
    (supported : validateAgainstCapabilities committed capability = .ok ())
    (offered : impl.OffersDevice runtime record bindings device)
    (oriented : topology.valid = true) (later : impl.topology ≤ topology)
    (moves : record.Moves committed device topology capability.generation ∨ 2 ≤ steps)
    (room : impl.HasRoom (bindings + steps)) (enough : 1 ≤ steps) :
    impl.ReachesConfigured runtime record.port := by
  have formed := manages.wellFormed.formed _ _ manages.found
  obtain ⟨provider, resolved⟩ := evident
  obtain ⟨ready, equips⟩ :=
    exists_equipped manages.running formed.device offered oriented later profile
  have managed := equips.toPrepares.manages manages
  have left := equips.toPrepares.hasRoom room
  refine equips.leads.reachesConfigured ?_
  have context {final : PortRecord} (same : final.parentDevice = record.parentDevice) :
      (readContext ready final).deviceGeneration = some device := by
    obtain ⟨binding, registered, generation⟩ := equips.registered
    simp [readContext, same, registered, generation]
  have rebinds (moves : record.Moves committed device topology capability.generation) :
      ready.Rebinds runtime record committed provider capability device :=
    { configured
      registered := context rfl
      generation := offered.1
      topology := equips.oriented ▸ oriented
      profile := equips.profiled
      resolved
      supported
      moves := equips.oriented ▸ moves }
  by_cases moving : record.Moves committed device topology capability.generation
  · exact managed.reconciles (rebinds moving) (left.mono enough).advances
  · have twice := moves.resolve_left moving
    have standing : record.lifecycle ≠ .superseded := by
      intro superseded
      refine moving (.inl ?_)
      rw [superseded]
      rfl
    obtain ⟨after, final, proceeds, keeps, kept, fenced⟩ :=
      managed.supersedes standing (left.mono enough).advances
    have again : after.Rebinds runtime final committed provider capability device :=
      { configured := keeps.configuration.trans configured
        registered := by
          have same := context keeps.parentDevice
          simp only [readContext] at same ⊢
          rw [proceeds.replaces.devices]
          exact same
        generation := offered.1
        topology := by
          rw [proceeds.replaces.topology, equips.oriented]
          exact oriented
        profile := proceeds.replaces.profiles ▸ equips.profiled
        resolved := by
          simp only [resolveCapabilities, kept] at resolved ⊢
          exact resolved
        supported
        moves := .inl (by rw [fenced]; rfl) }
    have reaches := proceeds.manages.reconciles again
      (proceeds.replaces.hasRoom (left.mono twice)).advances
    rw [keeps.port] at reaches
    exact proceeds.leads.reachesConfigured reaches

/-- A fenced port is reconciled once the evidence bound to it supports its configuration. -/
theorem EngineImpl.Manages.restores_rebound {device : DeviceGeneration}
    (manages : impl.Manages runtime caller record) (backed : record.Backed runtime)
    (fenced : record.lifecycle.isLive = false)
    (configured : record.configuration = some committed)
    (profile : committed.profile.Obtainable impl.profiles)
    (unreplaced : impl.DeviceUnreplaced record)
    (offered : impl.OffersDevice runtime record bindings device) (renewable : record.Renewable)
    (supportable : ∃ evidence, validateAgainstCapabilities committed evidence = .ok ())
    (room : impl.HasRoom (bindings + 2)) : impl.ReachesConfigured runtime record.port := by
  obtain ⟨evidence, supported⟩ := supportable
  obtain ⟨newer, valid⟩ := renewable.newer evidence
  have renewed : validateAgainstCapabilities committed (record.renewed evidence) = .ok () :=
    validateAgainstCapabilities_renumbered supported rfl rfl valid
  obtain ⟨after, final, proceeds, keeps, bound, standing⟩ :=
    manages.binds unreplaced (.inl (by rw [configured]; rfl)) rfl valid rfl
      (validateAgainstCapabilities_legal renewed) newer
      (fun other found => by rw [configured] at found; cases found; exact renewed)
      (room.mono (Nat.le_add_left _ _)).advances
  have narrows : after.Narrows runtime impl 0 :=
    (proceeds.replaces.keepsTables manages.found).symm.narrows
  obtain ⟨topology, oriented, later, _⟩ := after.exists_later_topology
  have requires := backed.requiresReconciliation configured fenced manages.standing
  have evident : final.Evidenced runtime (record.renewed evidence) :=
    PortRecord.evidenced_of_bound bound rfl
  have reaches := proceeds.manages.restores_reconciled (keeps.configuration.trans configured)
    (narrows.profiles _ profile) evident renewed
    ((narrows.offers offered).congr keeps.parentDevice.symm) oriented later
    (.inl (.inl (standing ▸ requires))) (proceeds.replaces.hasRoom room) (Nat.le_refl 1)
  rw [keeps.port] at reaches
  exact proceeds.leads.reachesConfigured reaches

/-- A port that was never configured takes a plain configuration its evidence supports. -/
theorem EngineImpl.Manages.restores_first (manages : impl.Manages runtime caller record)
    (unconfigured : record.lifecycle = .unconfigured) (unbound : record.configuration = none)
    (unnumbered : record.generations.configuration = .null) (kept : impl.DeviceKept record)
    (topology : impl.topology.valid = true)
    (evident :
      (∃ (target : PortConfiguration) (capability : CapabilityBinding), target.Plain ∧
        record.Evidenced runtime capability ∧
        validateAgainstCapabilities target capability = .ok ()) ∨
      (2 ≤ steps ∧ record.Renewable))
    (room : impl.HasRoom steps) (enough : 1 ≤ steps) :
    impl.ReachesConfigured runtime record.port := by
  obtain ⟨target, capability, plain, ⟨provider, resolved⟩, supported⟩ | ⟨twice, renewable⟩ :=
    evident
  · exact manages.configures plain resolved supported unconfigured unnumbered kept topology
      (room.mono enough).advances
  · obtain ⟨newer, valid⟩ := renewable.newer Fixture.evidence
    have renewed : validateAgainstCapabilities plainTarget (record.renewed Fixture.evidence) =
        .ok () :=
      validateAgainstCapabilities_renumbered plainTarget_supported rfl rfl valid
    obtain ⟨after, final, proceeds, keeps, bound, standing⟩ :=
      manages.binds kept.unreplaced (.inr (.inl unconfigured)) rfl valid rfl
        (validateAgainstCapabilities_legal renewed) newer
        (fun other found => by rw [unbound] at found; cases found) (room.mono enough).advances
    have stays : after.DeviceKept final := by
      unfold DeviceKept
      rw [proceeds.replaces.devices, keeps.parentDevice, keeps.device]
      exact kept
    have evident : resolveCapabilities runtime final {} =
        .ok (record.renewed Fixture.evidence) := by
      simp [resolveCapabilities, bound, PortRecord.renewed]
    have reaches := proceeds.manages.configures plainTarget_plain evident renewed
      (standing.trans unconfigured) (keeps.numbered.trans unnumbered) stays
      (proceeds.replaces.topology ▸ topology)
      (proceeds.replaces.hasRoom (room.mono twice)).advances
    rw [keeps.port] at reaches
    exact proceeds.leads.reachesConfigured reaches

/-- A live port whose profile is lost is released from it, and moves on. -/
theorem EngineImpl.Manages.restores_unprofiled (manages : impl.Manages runtime caller record)
    (backed : record.Backed runtime) (live : record.lifecycle.isLive = true)
    (configured : record.configuration = some committed)
    (offered : impl.OffersDevice runtime record bindings record.generations.device)
    (moves : impl.MovesOn runtime record ∨ 3 ≤ steps) (room : impl.HasRoom (bindings + steps))
    (enough : 2 ≤ steps) : impl.ReachesConfigured runtime record.port := by
  have formed := manages.wellFormed.formed _ _ manages.found
  obtain ⟨capability, evident, supported⟩ := backed.supported live committed configured
  obtain ⟨topology, oriented, later, turns⟩ := impl.exists_later_topology
  by_cases obtainable : committed.profile.Obtainable impl.profiles
  · exact manages.restores_reconciled configured obtainable evident supported offered oriented
      later (.inr enough) room (by omega)
  · have bound : committed.profile.bound = true := by
      by_contra unbound
      exact obtainable (.inl (by simp [ProfileBinding.defined, unbound]))
    have free (registry : ProfileRegistry) : ProfileBinding.Obtainable {} registry := .inl rfl
    obtain ⟨ready, equips⟩ :=
      exists_equipped manages.running formed.device offered oriented later (free impl.profiles)
    have left := equips.toPrepares.hasRoom room
    obtain ⟨provider, resolved⟩ := evident
    have kept : ready.DeviceKept record := equips.registered.kept offered.1
    obtain ⟨after, final, configuration, proceeds, unprofiled⟩ :=
      (equips.toPrepares.manages manages).unprofiles live configured bound (backed.numbered live)
        resolved supported kept (equips.oriented ▸ oriented) (left.mono (by omega)).advances
    have left : after.HasRoom (0 + (steps - 1)) := by
      refine proceeds.replaces.hasRoom (left.mono ?_)
      omega
    have registered : after.RegisteredAs final.parentDevice record.generations.device := by
      unfold RegisteredAs
      rw [proceeds.replaces.devices, unprofiled.parentDevice]
      exact equips.registered
    have again {other : CapabilityBinding} {device : DeviceGeneration}
        {onward : TopologyGeneration} (evident : record.Evidenced runtime other)
        (supported : validateAgainstCapabilities committed other = .ok ())
        (offered : after.OffersDevice runtime final 0 device) (oriented : onward.valid = true)
        (later : topology ≤ onward)
        (moves : final.Moves configuration device onward other.generation ∨ 2 ≤ steps - 1) :
        impl.ReachesConfigured runtime record.port := by
      have reaches := proceeds.manages.restores_reconciled unprofiled.configured
        (unprofiled.profile ▸ free after.profiles) (evident.congr unprofiled.evidence)
        ((unprofiled.supported other).trans supported) offered oriented
        (by rw [proceeds.replaces.topology, equips.oriented]; exact later) moves left (by omega)
      rw [unprofiled.port] at reaches
      exact equips.leads.reachesConfigured (proceeds.leads.reachesConfigured reaches)
    have stays : after.OffersDevice runtime final 0 record.generations.device :=
      registered.offers offered.1
    rcases moves with (⟨unverified, drifts⟩ | advances | ⟨advances, bounded⟩ | unbound) | thrice
    · refine again ⟨provider, resolved⟩ supported stays oriented (Generation.le_refl _) (.inl ?_)
      have drift : final.drift = record.drift := by simp [unprofiled.drift, unverified]
      rw [PortRecord.Moves, drift]
      exact .inr (drifts.imp_right .inl)
    · have onward := Generation.lt_next (turns advances)
      have positive : topology.value < topology.next.value := onward
      refine again ⟨provider, resolved⟩ supported stays (Generation.valid_iff.mpr (by omega))
        (Generation.le_of_lt onward) (.inl ?_)
      refine .inr (.inr (.inr (.inr (.inl ?_))))
      rw [unprofiled.topology, equips.oriented]
      exact (Generation.ne_of_lt onward).symm
    · have bounded : after.devices.size ≤ runtime.config.deviceBound := by
        rw [proceeds.replaces.devices]
        exact equips.size bounded
      refine again ⟨provider, resolved⟩ supported (registered.offers_next advances bounded) oriented
        (Generation.le_refl _) (.inl ?_)
      refine .inr (.inr (.inr (.inl ?_)))
      rw [unprofiled.device]
      exact (Generation.ne_of_lt (Generation.lt_next advances)).symm
    · have evident : record.Evidenced runtime capability := ⟨provider, resolved⟩
      obtain ⟨other, supplied, supports, differs⟩ := evident.renumbered unbound supported
      refine again supplied supports stays oriented (Generation.le_refl _) (.inl ?_)
      refine .inr (.inr (.inr (.inr (.inr ?_))))
      rw [unprofiled.capability]
      exact differs
    · exact again ⟨provider, resolved⟩ supported stays oriented (Generation.le_refl _)
        (.inr (by omega))

/-- A caller with authority over the record configures the port. -/
theorem EngineImpl.Manages.restores (manages : impl.Manages runtime caller record)
    (backed : record.Backed runtime) (restores : impl.Restores runtime record bindings steps)
    (unreplaced : impl.PassesDevice runtime record bindings → impl.DeviceUnreplaced record)
    (room : impl.HasRoom (bindings + steps)) : impl.ReachesConfigured runtime record.port := by
  have formed := manages.wellFormed.formed _ _ manages.found
  cases restores with
  | first enough unconfigured unbound unnumbered offered evident =>
      obtain ⟨topology, oriented, later, _⟩ := impl.exists_later_topology
      have free : ProfileBinding.Obtainable {} impl.profiles := .inl rfl
      obtain ⟨ready, equips⟩ :=
        exists_equipped manages.running formed.device offered oriented later free
      have kept : ready.DeviceKept record := equips.registered.kept offered.1
      exact equips.leads.reachesConfigured
        ((equips.toPrepares.manages manages).restores_first unconfigured unbound unnumbered kept
          (equips.oriented ▸ oriented) evident (equips.toPrepares.hasRoom room) enough)
  | reconciled enough configured profile evident supported offered oriented later moves =>
      exact manages.restores_reconciled configured profile evident supported offered oriented later
        moves room enough
  | rebound enough fenced configured profile passes offered renewable supportable =>
      exact manages.restores_rebound backed fenced configured profile (unreplaced passes) offered
        renewable supportable (room.mono (Nat.add_le_add_left enough _))
  | unprofiled enough live configured offered moves =>
      exact manages.restores_unprofiled backed live configured offered moves room enough

end Repairs

end PortFabric
