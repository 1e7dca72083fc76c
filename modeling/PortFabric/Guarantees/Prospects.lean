import PortFabric.Engine.GenerationProperties
import PortFabric.Engine.Progress
import PortFabric.ProfileProperties

/-!
# Prospects

What a port needs to be configured, and how many engine generations that takes:
authority over its record, evidence, the generations of its device and of the
topology, and its profile. What an operation leaves available was available
before it.
-/

set_option autoImplicit false

namespace PortFabric

open Checks PortFabricEngine

/-- The registry takes this generation of the profile, after a first one where there is none. -/
def ProfileRegistry.Admits (registry : ProfileRegistry) (id : PortProfileId)
    (generation : PortProfileGeneration) : Prop :=
  id.valid = true ∧ generation.valid = true ∧
    match registry[id]? with
    | none => registry.size < maxProfiles
    | some generations =>
        generations.length < maxProfileGenerations ∧
          ∃ latest, generations.getLast? = some latest ∧ latest.generation < generation

/-- The bound profile is defined, or can be. -/
def ProfileBinding.Obtainable (binding : ProfileBinding) (registry : ProfileRegistry) : Prop :=
  binding.defined registry = true ∨ registry.Admits binding.id binding.generation

/-- Newer evidence can be bound to the port. -/
def PortRecord.Renewable (record : PortRecord) : Prop :=
  record.capability.present = true → record.capability.generation.exhaustible = false

/-- A request on the port can find this evidence. -/
def PortRecord.Evidenced (runtime : Runtime) (record : PortRecord)
    (capability : CapabilityBinding) : Prop :=
  ∃ provider, resolveCapabilities runtime record provider = .ok capability

namespace EngineImpl

/-- An incarnation of the publisher is registered, or can be. -/
def Seats (impl : EngineImpl) (publisher : PublisherId) : Prop :=
  (impl.publishers[publisher]?).isSome = true ∨ impl.publishers.size < maxPublishers

/-- Another port can be bound. -/
def BindsMore (runtime : Runtime) (impl : EngineImpl) : Prop :=
  impl.records.size < runtime.config.portBound ∧
    ∃ port : PortId, port.valid = true ∧ impl.records[port]? = none

/--
The device of the port is registered under the generation, or can be. Past the
bound of the device table, only the binding of another port replaces a device.
-/
def OffersDevice (runtime : Runtime) (impl : EngineImpl) (record : PortRecord) (bindings : Nat)
    (generation : DeviceGeneration) : Prop :=
  generation.valid = true ∧
    match impl.devices[record.parentDevice]? with
    | none => impl.devices.size < runtime.config.deviceBound
    | some binding =>
        binding.generation = generation ∨
          binding.generation < generation ∧
            (impl.devices.size ≤ runtime.config.deviceBound ∨
              0 < bindings ∧ impl.BindsMore runtime)

/-- The device gate lets requests on the port through, or can be made to. -/
def PassesDevice (runtime : Runtime) (impl : EngineImpl) (record : PortRecord) (bindings : Nat) :
    Prop :=
  impl.DeviceUnreplaced record ∨
    impl.OffersDevice runtime record bindings record.generations.device

/-- A configuration bound to the current generations can be reconciled to others. -/
def MovesOn (runtime : Runtime) (impl : EngineImpl) (record : PortRecord) : Prop :=
  (runtime.verifies = false ∧
      (record.drift = .drifted ∨ record.drift = .revalidationRequired)) ∨
    impl.topology.exhaustible = false ∨
    (record.generations.device.exhaustible = false ∧
      impl.devices.size ≤ runtime.config.deviceBound) ∨
    record.capability.present = false

/-- Some caller has mutation authority over the record after this many steps. -/
inductive Delegates (runtime : Runtime) (impl : EngineImpl) (record : PortRecord)
    (bindings steps : Nat) : Prop where
  | unchecked (free : runtime.config.requireOwnership = false)
  | unowned (free : record.ownership = none) (unbound : record.configuration = none)
  | held {ownership : PortOwnership} (owned : record.ownership = some ownership)
      (seats : impl.Seats ownership.publisher)
  /-- A claim displaces no exclusive owner. -/
  | claimed (enough : 1 ≤ steps) (shared : record.ownership.any PortOwnership.exclusive = false)
      (passes : impl.PassesDevice runtime record bindings)
  /-- The next epoch outlives the owner. -/
  | released (enough : 1 ≤ steps) (advances : impl.epoch.exhaustible = false)
      (unbound : record.configuration = none)
  | reclaimed (enough : 2 ≤ steps) (advances : impl.epoch.exhaustible = false)
      (passes : impl.PassesDevice runtime record bindings)

/-- A caller with authority over the record configures the port in this many steps. -/
inductive Restores (runtime : Runtime) (impl : EngineImpl) (record : PortRecord)
    (bindings steps : Nat) : Prop where
  | first (enough : 1 ≤ steps) (unconfigured : record.lifecycle = .unconfigured)
      (unbound : record.configuration = none)
      (unnumbered : record.generations.configuration = .null)
      (device : impl.OffersDevice runtime record bindings record.generations.device)
      (evident :
        (∃ (target : PortConfiguration) (capability : CapabilityBinding), target.Plain ∧
          record.Evidenced runtime capability ∧
          validateAgainstCapabilities target capability = .ok ()) ∨
        (2 ≤ steps ∧ record.Renewable))
  | reconciled {committed : PortConfiguration} {capability : CapabilityBinding}
      {device : DeviceGeneration} {topology : TopologyGeneration} (enough : 1 ≤ steps)
      (configured : record.configuration = some committed)
      (profile : committed.profile.Obtainable impl.profiles)
      (evident : record.Evidenced runtime capability)
      (supported : validateAgainstCapabilities committed capability = .ok ())
      (offered : impl.OffersDevice runtime record bindings device)
      (oriented : topology.valid = true) (later : impl.topology ≤ topology)
      (moves : record.Moves committed device topology capability.generation ∨ 2 ≤ steps)
  /-- Evidence that supports the configuration is bound before it is reconciled. -/
  | rebound {committed : PortConfiguration} {device : DeviceGeneration} (enough : 2 ≤ steps)
      (fenced : record.lifecycle.isLive = false)
      (configured : record.configuration = some committed)
      (profile : committed.profile.Obtainable impl.profiles)
      (passes : impl.PassesDevice runtime record bindings)
      (offered : impl.OffersDevice runtime record bindings device)
      (renewable : record.Renewable)
      (supportable : ∃ evidence, validateAgainstCapabilities committed evidence = .ok ())
  /-- The configuration is released from its profile before it is reconciled. -/
  | unprofiled {committed : PortConfiguration} (enough : 2 ≤ steps)
      (live : record.lifecycle.isLive = true)
      (configured : record.configuration = some committed)
      (device : impl.OffersDevice runtime record bindings record.generations.device)
      (moves : impl.MovesOn runtime record ∨ 3 ≤ steps)

/--
The port can be configured: the engine runs under an established epoch, and its
generation can advance as often as the authority over the record and the work on
it take.
-/
structure Recoverable (runtime : Runtime) (impl : EngineImpl) (record : PortRecord) : Prop where
  running : impl.shuttingDown = false
  established : impl.epoch.valid = true
  repairs : ∃ bindings authority work, impl.Delegates runtime record bindings authority ∧
    impl.Restores runtime record bindings work ∧ impl.HasRoom (bindings + authority + work)

end EngineImpl

section Profiles

variable {registry : ProfileRegistry} {profile : PortProfile} {binding : ProfileBinding}

/-- A definition changes nothing, or adds a generation that the registry admits. -/
theorem ProfileRegistry.define_admitted (registry : ProfileRegistry) (profile : PortProfile) :
    (registry.define profile).1 = registry ∨
      (registry.Admits profile.id profile.generation ∧
        (registry.define profile).1 =
          registry.insert profile.id ((registry[profile.id]?).getD [] ++ [profile])) := by
  unfold define Admits
  cases validated : profile.validate with
  | error error => exact .inl rfl
  | ok =>
      simp only [PortProfile.validate, require_eq_ok, Bool.and_eq_true] at validated
      obtain ⟨⟨identified, generation⟩, _⟩ := validated
      cases found : registry[profile.id]? with
      | none =>
          dsimp only
          split
          · exact .inl rfl
          · next room =>
              split
              · exact .inl rfl
              · exact .inr ⟨⟨identified, generation, Nat.not_le.mp room⟩, rfl⟩
      | some generations =>
          dsimp only
          cases last : generations.getLast? with
          | none => exact .inl rfl
          | some latest =>
              dsimp only
              split
              · split
                · exact .inl rfl
                · exact .inl rfl
              · next different =>
                  split
                  · exact .inl rfl
                  · next notOlder =>
                      split
                      · exact .inl rfl
                      · next room =>
                          have newer : latest.generation < profile.generation :=
                            Generation.lt_of_le_of_ne (Generation.not_lt.mp notOlder)
                              (Ne.symm different)
                          exact .inr ⟨⟨identified, generation, Nat.not_le.mp room, latest, rfl,
                            newer⟩, rfl⟩

/-- What a generation of a profile leaves admissible was admissible before. -/
theorem ProfileRegistry.Admits.of_insert {id : PortProfileId} {generation : PortProfileGeneration}
    (former : registry.Admits profile.id profile.generation)
    (admits : ProfileRegistry.Admits
      (registry.insert profile.id ((registry[profile.id]?).getD [] ++ [profile])) id generation) :
    registry.Admits id generation := by
  obtain ⟨identified, valid, room⟩ := admits
  refine ⟨identified, valid, ?_⟩
  by_cases here : profile.id = id
  · subst here
    obtain ⟨_, _, admitted⟩ := former
    rw [OrderedMap.lookup_insert_self] at room
    obtain ⟨shorter, latest, last, newer⟩ := room
    rw [List.getLast?_append_of_ne_nil _ (List.cons_ne_nil _ _)] at last
    obtain rfl : profile = latest := by simpa using last
    cases found : registry[profile.id]? with
    | none =>
        rw [found] at admitted
        exact admitted
    | some generations =>
        simp only [found, Option.getD_some, List.length_append, List.length_singleton]
          at admitted shorter
        obtain ⟨_, former, ends, older⟩ := admitted
        exact ⟨Nat.lt_of_succ_lt shorter, former, ends,
          Generation.lt_of_lt_of_le older (Generation.le_of_lt newer)⟩
  · rw [OrderedMap.lookup_insert_of_ne here] at room
    have grown := Std.ExtTreeMap.size_le_size_insert (t := registry) (k := profile.id)
      (v := (registry[profile.id]?).getD [] ++ [profile])
    cases found : registry[id]? with
    | none =>
        rw [found] at room
        exact Nat.lt_of_le_of_lt grown room
    | some generations =>
        rw [found] at room
        exact room

theorem ProfileBinding.Obtainable.of_define
    (obtainable : binding.Obtainable (registry.define profile).1) :
    binding.Obtainable registry := by
  obtain same | ⟨admits, added⟩ := registry.define_admitted profile
  · rw [same] at obtainable
    exact obtainable
  · rw [added] at obtainable
    rcases obtainable with defined | admitted
    · by_cases here : profile.id = binding.id
      · cases unbound : binding.bound with
        | false => exact .inl (by simp [ProfileBinding.defined, unbound])
        | true =>
            simp only [ProfileBinding.defined, unbound, Bool.not_true, Bool.false_or,
              ProfileRegistry.get, ← here, OrderedMap.lookup_insert_self, Option.bind_some,
              List.find?_isSome, List.mem_append, List.mem_singleton, decide_eq_true_eq]
              at defined
            obtain ⟨found, earlier | rfl, generation⟩ := defined
            · left
              cases stored : registry[profile.id]? with
              | none => simp [stored] at earlier
              | some generations =>
                  rw [stored, Option.getD_some] at earlier
                  simp only [ProfileBinding.defined, unbound, Bool.not_true, Bool.false_or,
                    ProfileRegistry.get, ← here, stored, Option.bind_some, List.find?_isSome,
                    decide_eq_true_eq]
                  exact ⟨found, earlier, generation⟩
            · right
              rw [← here, ← generation]
              exact admits
      · left
        simpa only [ProfileBinding.defined, ProfileRegistry.get,
          OrderedMap.lookup_insert_of_ne here] using defined
    · exact .inr (admits.of_insert admitted)

end Profiles

section Rooms

variable {impl after : EngineImpl} {count : Nat}

theorem EngineImpl.HasRoom.before_advance (advanced : after.generation = impl.generation.advance)
    (room : after.HasRoom (count + 1)) : impl.HasRoom (count + 1 + 1) := by
  unfold HasRoom at room ⊢
  rw [advanced, Generation.advance_eq_next] at room
  unfold Generation.next at room
  split at room
  · next full => omega
  · dsimp only at room
    omega

theorem EngineImpl.Stamps.hasRoom (stamps : impl.Stamps after) (room : after.HasRoom (count + 1)) :
    impl.HasRoom (count + 1) := by
  rcases stamps with ⟨_, same⟩ | advanced
  · unfold HasRoom at room ⊢
    rwa [same] at room
  · exact Nat.le_trans (Nat.add_le_add_left (Nat.le_succ _) _) (room.before_advance advanced)

end Rooms

section Tables

variable {runtime : Runtime} {impl after : EngineImpl} {record : PortRecord}
  {bindings more spent : Nat}

theorem EngineImpl.OffersDevice.mono {generation : DeviceGeneration}
    (offers : impl.OffersDevice runtime record bindings generation) (atMost : bindings ≤ more) :
    impl.OffersDevice runtime record more generation := by
  obtain ⟨valid, offered⟩ := offers
  refine ⟨valid, ?_⟩
  cases registered : impl.devices[record.parentDevice]? with
  | none =>
      rw [registered] at offered
      exact offered
  | some binding =>
      rw [registered] at offered
      exact offered.imp_right fun newer => newer.imp_right fun room => room.imp_right
        fun bound => bound.imp_left fun positive => Nat.lt_of_lt_of_le positive atMost

theorem EngineImpl.PassesDevice.mono (passes : impl.PassesDevice runtime record bindings)
    (atMost : bindings ≤ more) : impl.PassesDevice runtime record more :=
  passes.imp_right fun offers => offers.mono atMost

theorem EngineImpl.Seats.of_insert {publisher other : PublisherId}
    {entry : PublisherRecord} (seated : impl.Seats publisher)
    (seats : ({ impl with publishers := impl.publishers.insert publisher entry }
      : EngineImpl).Seats other) : impl.Seats other := by
  by_cases here : publisher = other
  · exact here ▸ seated
  · rcases seats with present | room
    · left
      simpa only [OrderedMap.lookup_insert_of_ne here] using present
    · exact .inr (Nat.lt_of_le_of_lt Std.ExtTreeMap.size_le_size_insert room)

/-- How a device table comes about from the one before. -/
inductive EngineImpl.DevicesStep (runtime : Runtime) (impl : EngineImpl) (spent : Nat) :
    Std.ExtTreeMap DeviceId DeviceBinding → Prop where
  | kept : DevicesStep runtime impl spent impl.devices
  | added {device : DeviceId} {binding : DeviceBinding} (absent : impl.devices[device]? = none)
      (room : impl.devices.size < runtime.config.deviceBound) :
      DevicesStep runtime impl spent (impl.devices.insert device binding)
  | raised {device : DeviceId} {former binding : DeviceBinding}
      (found : impl.devices[device]? = some former)
      (newer : former.generation < binding.generation)
      (allowed : impl.devices.size ≤ runtime.config.deviceBound ∨
        0 < spent ∧ impl.BindsMore runtime) :
      DevicesStep runtime impl spent (impl.devices.insert device binding)

theorem EngineImpl.DevicesStep.size_le {devices : Std.ExtTreeMap DeviceId DeviceBinding}
    (step : impl.DevicesStep runtime spent devices) : impl.devices.size ≤ devices.size := by
  cases step with
  | kept => exact Nat.le_refl _
  | added _ _ => exact Std.ExtTreeMap.size_le_size_insert
  | raised _ _ _ => exact Std.ExtTreeMap.size_le_size_insert

/-- The later records leave no more room for another port. -/
structure RecordsGrow (before after : RecordMap) : Prop where
  size : before.size ≤ after.size
  stays : ∀ port : PortId, after[port]? = none → before[port]? = none

theorem RecordsGrow.refl (records : RecordMap) : RecordsGrow records records :=
  ⟨Nat.le_refl _, fun _ => id⟩

theorem RecordsGrow.insert (records : RecordMap) (port : PortId) (record : PortRecord) :
    RecordsGrow records (records.insert port record) := by
  refine ⟨Std.ExtTreeMap.size_le_size_insert, fun other absent => ?_⟩
  by_cases here : port = other
  · subst here
    rw [OrderedMap.lookup_insert_self] at absent
    cases absent
  · rwa [OrderedMap.lookup_insert_of_ne here] at absent

theorem RecordsGrow.map (records : RecordMap) (update : PortId → PortRecord → PortRecord) :
    RecordsGrow records (records.map update) := by
  refine ⟨Nat.le_of_eq Std.ExtTreeMap.size_map.symm, fun other absent => ?_⟩
  rwa [OrderedMap.lookup_map, Option.map_eq_none_iff] at absent

theorem RecordsGrow.trans {before middle after : RecordMap} (first : RecordsGrow before middle)
    (second : RecordsGrow middle after) : RecordsGrow before after :=
  ⟨Nat.le_trans first.size second.size, fun port absent =>
    first.stays port (second.stays port absent)⟩

theorem EngineImpl.BindsMore.of_grow (binds : after.BindsMore runtime)
    (grow : RecordsGrow impl.records after.records) : impl.BindsMore runtime := by
  obtain ⟨room, port, valid, absent⟩ := binds
  exact ⟨Nat.lt_of_le_of_lt grow.size room, port, valid, grow.stays port absent⟩

/-- The tables have no more room, and nothing in them went back. -/
structure EngineImpl.Narrows (runtime : Runtime) (impl after : EngineImpl) (spent : Nat) :
    Prop where
  topology : impl.topology ≤ after.topology
  profiles : ∀ binding : ProfileBinding, binding.Obtainable after.profiles →
    binding.Obtainable impl.profiles
  devices : impl.DevicesStep runtime spent after.devices
  records : RecordsGrow impl.records after.records

/-- An operation leaves no more available than it found. -/
structure EngineImpl.Precedes (runtime : Runtime) (impl after : EngineImpl) (spent : Nat) : Prop
    extends impl.Narrows runtime after spent where
  running : after.shuttingDown = false → impl.shuttingDown = false
  established : after.epoch.valid = true → impl.epoch.valid = true
  advances : after.epoch.exhaustible = false → impl.epoch.exhaustible = false
  seats : ∀ publisher, after.Seats publisher → impl.Seats publisher

namespace EngineImpl.Narrows

theorem refl (runtime : Runtime) (impl : EngineImpl) (spent : Nat) :
    impl.Narrows runtime impl spent where
  topology := Generation.le_refl _
  profiles := fun _ => id
  devices := .kept
  records := .refl _

private theorem offers_of_lookup {generation : DeviceGeneration}
    (same : after.devices[record.parentDevice]? = impl.devices[record.parentDevice]?)
    (devices : impl.devices.size ≤ after.devices.size)
    (records : RecordsGrow impl.records after.records)
    (offers : after.OffersDevice runtime record bindings generation) :
    impl.OffersDevice runtime record (bindings + spent) generation := by
  obtain ⟨valid, offered⟩ := offers
  refine ⟨valid, ?_⟩
  rw [same] at offered
  cases registered : impl.devices[record.parentDevice]? with
  | none =>
      rw [registered] at offered
      exact Nat.lt_of_le_of_lt devices offered
  | some binding =>
      rw [registered] at offered
      dsimp only at offered ⊢
      refine offered.imp_right fun newer => newer.imp_right fun room => ?_
      refine room.imp (Nat.le_trans devices) fun bound => ⟨?_, bound.2.of_grow records⟩
      exact Nat.lt_of_lt_of_le bound.1 (Nat.le_add_right _ _)

theorem offers {generation : DeviceGeneration} (narrows : impl.Narrows runtime after spent)
    (offers : after.OffersDevice runtime record bindings generation) :
    impl.OffersDevice runtime record (bindings + spent) generation := by
  have records := narrows.records
  have step := narrows.devices
  have size := step.size_le
  by_cases same : after.devices[record.parentDevice]? = impl.devices[record.parentDevice]?
  · exact offers_of_lookup same size records offers
  · obtain ⟨valid, offered⟩ := offers
    refine ⟨valid, ?_⟩
    generalize after.devices = devices at step same offered
    cases step with
    | kept => exact absurd rfl same
    | @added device binding absent room =>
        by_cases here : device = record.parentDevice
        · subst here
          rw [absent]
          exact room
        · exact absurd (OrderedMap.lookup_insert_of_ne here) same
    | @raised device former binding found newer allowed =>
        by_cases here : device = record.parentDevice
        · subst here
          rw [OrderedMap.lookup_insert_self] at offered
          rw [found]
          have later : former.generation < generation := by
            rcases offered with same | ⟨less, _⟩
            · exact same ▸ newer
            · exact Generation.lt_of_lt_of_le newer (Generation.le_of_lt less)
          refine .inr ⟨later, allowed.imp_right fun bound => ⟨?_, bound.2⟩⟩
          exact Nat.lt_of_lt_of_le bound.1 (Nat.le_add_left _ _)
        · exact absurd (OrderedMap.lookup_insert_of_ne here) same

/-- A device that was not replaced was not replaced before, or could be. -/
theorem unreplaced (narrows : impl.Narrows runtime after spent)
    (unreplaced : after.DeviceUnreplaced record) : impl.PassesDevice runtime record spent := by
  cases registered : impl.devices[record.parentDevice]? with
  | none =>
      left
      intro binding found
      rw [registered] at found
      cases found
  | some former =>
      by_cases same : former.generation = record.generations.device
      · left
        intro binding found
        rw [registered] at found
        cases found
        exact same
      · have step := narrows.devices
        unfold DeviceUnreplaced at unreplaced
        generalize after.devices = devices at step unreplaced
        cases step with
        | kept => exact absurd (unreplaced former registered) same
        | @added device binding absent room =>
            have here : device ≠ record.parentDevice := by
              intro here
              rw [here, registered] at absent
              cases absent
            rw [OrderedMap.lookup_insert_of_ne here] at unreplaced
            exact absurd (unreplaced former registered) same
        | @raised device earlier binding found newer allowed =>
            by_cases here : device = record.parentDevice
            · subst here
              rw [registered] at found
              cases found
              have generation := unreplaced binding (OrderedMap.lookup_insert_self ..)
              rw [generation] at newer
              refine .inr ⟨?_, ?_⟩
              · rw [Generation.valid_iff]
                have positive : former.generation.value < record.generations.device.value := newer
                omega
              · rw [registered]
                exact .inr ⟨newer, allowed⟩
            · rw [OrderedMap.lookup_insert_of_ne here] at unreplaced
              exact absurd (unreplaced former registered) same

theorem passes (narrows : impl.Narrows runtime after spent)
    (passes : after.PassesDevice runtime record bindings) :
    impl.PassesDevice runtime record (bindings + spent) := by
  rcases passes with unreplaced | offers
  · exact (narrows.unreplaced unreplaced).mono (Nat.le_add_left _ _)
  · exact .inr (narrows.offers offers)

end EngineImpl.Narrows

namespace EngineImpl.Precedes

theorem refl (runtime : Runtime) (impl : EngineImpl) (spent : Nat) :
    impl.Precedes runtime impl spent where
  toNarrows := .refl runtime impl spent
  running := id
  established := id
  advances := id
  seats := fun _ => id

/-- The records and what is kept beside them change, and no record is lost. -/
theorem of_records {middle : EngineImpl} {records : RecordMap} {indexes : PortIndexes}
    {generation : EngineGeneration} {durabilityDirty : Bool}
    (precedes : impl.Precedes runtime middle spent)
    (grown : RecordsGrow middle.records records) :
    impl.Precedes runtime { middle with records, indexes, generation, durabilityDirty } spent :=
  { precedes with records := precedes.records.trans grown }

theorem of_publisher {publisher : PublisherId} {entry : PublisherRecord}
    (seated : impl.Seats publisher) :
    impl.Precedes runtime
      { impl with publishers := impl.publishers.insert publisher entry } spent :=
  { refl runtime impl spent with seats := fun _ seats => seated.of_insert seats }

end EngineImpl.Precedes

end Tables

section Operations

variable {runtime : Runtime} {impl : EngineImpl} {answers : MutationAnswers}

namespace EngineImpl

theorem authorised_precedes (runtime : Runtime) (impl : EngineImpl) (mutation : Mutation) :
    impl.Precedes runtime (impl.authorised runtime mutation) 0 := by
  rcases checkAuthority_eq runtime impl mutation.authority with same | accepted
  · rw [authorised, same]
    exact .refl ..
  · obtain ⟨_, _, ⟨_, _, _, _, same⟩ | ⟨_, _, room, registered⟩⟩ := checkAuthority_ok accepted
    · rw [authorised, same]
      exact .refl ..
    · rw [authorised, registered]
      exact .of_publisher (.inr room)

theorem executeMutation_precedes (mutation : Mutation) :
    impl.Precedes runtime (executeMutation runtime mutation answers impl).1 0 := by
  have effect := executeMutation_effect runtime mutation answers impl
  generalize (executeMutation runtime mutation answers impl).1 = after at effect ⊢
  have authorised := impl.authorised_precedes runtime mutation
  cases effect with
  | unrecorded _ _ frame =>
      rcases frame with rfl | rfl
      · exact .refl ..
      · exact authorised
  | committed _ | doubted _ =>
      rw [(persistLockedState_eq ..).choose_spec]
      exact authorised.of_records (.insert ..)

theorem bindDevice_step {inserted : EngineImpl} {request : PortBindingRequest} {record : PortRecord}
    (same : inserted.devices = impl.devices) (room : impl.BindsMore runtime) :
    impl.DevicesStep runtime 1 (bindDevice runtime inserted request record).1.devices := by
  unfold bindDevice
  dsimp only
  rw [same]
  split
  · next absent =>
      split
      · rw [same]
        exact .kept
      · next bound => exact .added absent (Nat.not_le.mp bound)
  · next found =>
      split
      · next newer => exact .raised found newer (.inr ⟨Nat.zero_lt_one, room⟩)
      · split
        · exact .kept
        · rw [same]
          exact .kept

theorem admitBinding_port {request : PortBindingRequest}
    (admitted : admitBinding impl request = .ok ()) : request.port.valid = true := by
  unfold admitBinding at admitted
  split at admitted
  · cases admitted
  · split at admitted
    · cases admitted
    · next complete =>
        simp only [Bool.or_eq_true, not_or, Bool.not_eq_true', Bool.not_eq_false] at complete
        exact complete.1.1.1

/-- A binding that was inserted is counted, whatever becomes of it. -/
theorem bindPort_precedes (runtime : Runtime) (impl : EngineImpl) (request : PortBindingRequest)
    (answers : MutationAnswers) :
    (∀ (port : PortId) (record : PortRecord), impl.records[port]? = some record →
        (bindPort runtime impl request answers).1.records[port]? = some record) ∧
      ∃ spent, impl.Precedes runtime (bindPort runtime impl request answers).1 spent ∧
        (spent = 0 ∨
          spent = 1 ∧
            (bindPort runtime impl request answers).1.generation = impl.generation.advance) := by
  unfold bindPort
  split
  · exact ⟨fun _ _ => id, 0, .refl .., .inl rfl⟩
  · next admitted =>
      dsimp only
      split
      · exact ⟨fun _ _ => id, 0, .refl .., .inl rfl⟩
      · next inserted stored =>
          obtain ⟨absent, _, same⟩ := insertBinding_ok stored
          have room : impl.BindsMore runtime := by
            refine ⟨?_, request.port, ?_, absent⟩
            · unfold insertBinding at stored
              split at stored
              · cases stored
              · split at stored
                · cases stored
                · next room => exact Nat.not_le.mp room
            · exact admitBinding_port admitted
          obtain ⟨devices, records, indexes, settled, kept⟩ := bindDevice_frame runtime inserted
            request (boundRecord request (probeCapabilities runtime impl request answers.provider))
          have step : impl.DevicesStep runtime 1 (bindDevice runtime inserted request
              (boundRecord request (probeCapabilities runtime impl request
                answers.provider))).1.devices :=
            bindDevice_step (by rw [same]) room
          rw [settled] at step
          have grown : RecordsGrow impl.records records := by
            rcases kept with rfl | rfl
            · rw [same]
              exact .insert ..
            · rw [same, OrderedMap.erase_insert_of_absent absent]
              exact .refl _
          have retained (port : PortId) (record : PortRecord)
              (found : impl.records[port]? = some record) : records[port]? = some record := by
            rcases kept with rfl | rfl
            · have other : request.port ≠ port := by
                intro here
                rw [here, found] at absent
                cases absent
              rw [same]
              exact (OrderedMap.lookup_insert_of_ne other).trans found
            · rw [same, OrderedMap.erase_insert_of_absent absent]
              exact found
          have precedes : impl.Precedes runtime { inserted with devices, records, indexes } 1 := by
            subst same
            exact { Precedes.refl runtime impl 1 with devices := step, records := grown }
          split
          · next after _ answered =>
              obtain rfl : after = _ := (congrArg Prod.fst answered).symm.trans settled
              exact ⟨retained, 1, precedes, .inr ⟨rfl, by rw [same]⟩⟩
          · next after answered =>
              obtain rfl : after = _ := (congrArg Prod.fst answered).symm.trans settled
              obtain ⟨_, persisted⟩ := persistLockedState_eq runtime answers.store
                { inserted with devices, records, indexes }
              rw [persisted]
              exact ⟨retained, 1, precedes.of_records (.refl _), .inr ⟨rfl, by rw [same]⟩⟩

theorem registerPublisher_precedes (consistent : impl.PublishersConsistent)
    (publisher : PublisherId) (boot : WorkerBootId) (epoch : CoordinatorEpoch) :
    impl.Precedes runtime (registerPublisher impl publisher boot epoch).1 0 := by
  obtain ⟨same, _⟩ | ⟨entry, after, _, registrable, _⟩ :=
    registerPublisher_effect consistent publisher boot epoch
  · rw [same]
    exact .refl ..
  · rw [after]
    refine .of_publisher ?_
    cases present : impl.publishers[publisher]? with
    | none => exact .inr (registrable.room present)
    | some existing => exact .inl (by rw [present]; rfl)

theorem fencePublisher_precedes (publisher : PublisherId) (boot : WorkerBootId) :
    impl.Precedes runtime (fencePublisher impl publisher boot).1 0 := by
  obtain ⟨same, _⟩ | ⟨existing, present, _, _, _, after⟩ :=
    fencePublisher_effect_cases impl publisher boot
  · rw [same]
    exact .refl ..
  · have fenced : impl.Precedes runtime
        { impl with
          publishers := impl.publishers.insert publisher { existing with fenced := true } } 0 :=
      .of_publisher (.inl (by rw [present]; rfl))
    rw [after]
    exact fenced.of_records (.map ..)

theorem beginEpoch_precedes : impl.Precedes runtime (beginEpoch impl).1 0 := by
  obtain ⟨same, _⟩ | ⟨established, later, _, after⟩ := beginEpoch_effect_cases impl
  · rw [same]
    exact .refl ..
  · have advances : impl.epoch.exhaustible = false := by
      by_contra full
      have last : impl.epoch.value = maxU64 := by
        simpa [Generation.exhaustible] using full
      have more : impl.epoch.value < impl.epoch.next.value := later
      have bounded := impl.epoch.next.bounded
      omega
    have begun : impl.Precedes runtime
        { impl with
          epoch := impl.epoch.next
          publishers := impl.publishers.map fun _ publisher =>
            fencedBefore impl.epoch.next publisher } 0 :=
      { Precedes.refl runtime impl 0 with
        established := fun _ => established
        advances := fun _ => advances
        seats := fun publisher seats => by
          simpa only [Seats, OrderedMap.lookup_map, Option.isSome_map, Std.ExtTreeMap.size_map]
            using seats }
    rw [after]
    exact begun.of_records (.map ..)

theorem registerDevice_precedes (device : DeviceId) (generation : DeviceGeneration)
    (source : Text) :
    impl.Precedes runtime (registerDevice runtime impl device generation source).1 0 := by
  unfold registerDevice
  dsimp only
  split
  · exact .refl ..
  · split
    · exact .refl ..
    · split
      · next existing found =>
          split
          · exact .refl ..
          · next notOlder =>
              split
              · exact .refl ..
              · next different =>
                  split
                  · exact .refl ..
                  · next bound =>
                      have newer : existing.generation < generation :=
                        Generation.lt_of_le_of_ne (Generation.not_lt.mp notOlder)
                          (Ne.symm different)
                      exact { Precedes.refl runtime impl 0 with
                        devices := .raised found newer (.inl (Nat.not_lt.mp bound)) }
      · next absent =>
          split
          · exact .refl ..
          · next room =>
              exact { Precedes.refl runtime impl 0 with
                devices := .added absent (Nat.not_le.mp room) }

theorem setTopologyGeneration_precedes (generation : TopologyGeneration) :
    impl.Precedes runtime (setTopologyGeneration impl generation).1 0 := by
  unfold setTopologyGeneration
  split
  · exact .refl ..
  · split
    · exact .refl ..
    · next notOlder =>
        split
        · exact .refl ..
        · exact { Precedes.refl runtime impl 0 with topology := Generation.not_lt.mp notOlder }

variable (runtime) in
/-- Nothing becomes available to a port but by what the generation counts. -/
theorem perform_precedes (wellFormed : impl.WellFormed) {operation : Operation}
    (unloaded : operation.isLoad = false) :
    ∃ spent, impl.Precedes runtime (impl.perform runtime operation) spent ∧
      ∀ count, (impl.perform runtime operation).HasRoom (count + 1) →
        impl.HasRoom (count + 1 + spent) := by
  have stamps : impl.Stamps (impl.perform runtime operation) := perform_stamps unloaded
  have uncounted (precedes : impl.Precedes runtime (impl.perform runtime operation) 0) :
      ∃ spent, impl.Precedes runtime (impl.perform runtime operation) spent ∧
        ∀ count, (impl.perform runtime operation).HasRoom (count + 1) →
          impl.HasRoom (count + 1 + spent) :=
    ⟨0, precedes, fun _ room => stamps.hasRoom room⟩
  cases operation with
  | bindPort request answers =>
      obtain ⟨_, spent, precedes, rfl | ⟨rfl, advanced⟩⟩ :=
        bindPort_precedes runtime impl request answers
      · exact uncounted precedes
      · exact ⟨1, precedes, fun _ room => room.before_advance advanced⟩
  | mutate mutation answers => exact uncounted (executeMutation_precedes mutation)
  | defineProfile profile =>
      exact uncounted { Precedes.refl runtime impl 0 with
        profiles := fun _ obtainable => obtainable.of_define }
  | beginEpoch => exact uncounted beginEpoch_precedes
  | registerPublisher publisher boot epoch =>
      exact uncounted (registerPublisher_precedes wellFormed.consistent publisher boot epoch)
  | fencePublisher publisher boot => exact uncounted (fencePublisher_precedes publisher boot)
  | registerDevice device generation source =>
      exact uncounted (registerDevice_precedes device generation source)
  | setTopologyGeneration generation => exact uncounted (setTopologyGeneration_precedes generation)
  | save store =>
      obtain ⟨_, same⟩ := save_frame runtime impl store
      have saved : impl.Precedes runtime (impl.perform runtime (.save store)) 0 := by
        rw [perform, same]
        exact (Precedes.refl runtime impl 0).of_records (.refl _)
      exact uncounted saved
  | load container => cases unloaded
  | shutdown =>
      exact uncounted { Precedes.refl runtime impl 0 with
        running := fun running => by cases running }

end EngineImpl

end Operations

end PortFabric
