import PortFabric.PersistenceProperties

/-!
# Container round trip

Every container stands for one state and every state for one container. A state
the encoder accepts comes back from its container unless its evidence does not
validate or a profile carries a value in a dimension it does not specify: the
reader checks both, the writer neither.
-/

set_option autoImplicit false

namespace PortFabric

/-- A state as its parts promise it to be: unique, consistent, defined and identified. -/
structure PersistedState.Lawful (state : PersistedState) : Prop where
  ports : (state.records.map PortRecord.port).Nodup
  definitions : (state.profiles.map PortProfile.key).Nodup
  bindings : (state.devices.map DeviceBinding.device).Nodup
  incarnations : (state.publishers.map PublisherRecord.key).Nodup
  consistent : ∀ record ∈ state.records, record.validate = .ok () ∧ record.LegalValues
  defined : ∀ profile ∈ state.profiles,
    ∃ registry : ProfileRegistry, (registry.define profile).2.accepted = true
  devices : ∀ device ∈ state.devices, (device.device.valid && device.generation.valid) = true
  publishers : ∀ publisher ∈ state.publishers,
    (publisher.publisher.valid && publisher.boot.valid && publisher.epoch.valid) = true

/-- The empty registry defines the first generation of every valid profile. -/
theorem ProfileRegistry.defines_first {profile : PortProfile} (valid : profile.validate = .ok ())
    (first : profile.generation.value = 1) :
    (ProfileRegistry.define ∅ profile).2.accepted = true := by
  have room : ¬0 ≥ maxProfiles := by decide
  simp [ProfileRegistry.define, valid, first, room, Outcome.success, Outcome.accepted,
    OutcomeCode.isAccepted]

section RoundTrip

variable {state : PersistedState} {bytes : Text}

/-- A lawful and writable state is readable when its evidence and its profiles are. -/
theorem PersistedState.Lawful.readable_iff (lawful : state.Lawful) (writable : state.Writable) :
    state.Readable ↔
      (∀ record ∈ state.records, record.capability.capabilities.validate = .ok ()) ∧
        ∀ profile ∈ state.profiles, profile.configuration.Canonical := by
  constructor
  · intro readable
    refine ⟨fun record member => (readable.records.legal record member).capabilities, ?_⟩
    intro profile member
    exact (PortProfile.readable_iff.mp (readable.profiles.legal profile member)).2
  · intro given
    rcases given with ⟨capabilities, canonical⟩
    refine ⟨⟨writable.records, ?_, lawful.ports⟩, ⟨writable.profiles, ?_, lawful.definitions⟩,
      ⟨writable.devices, lawful.devices, lawful.bindings⟩,
      ⟨writable.publishers, ?_, lawful.incarnations⟩⟩
    · intro record member
      obtain ⟨consistent, legal⟩ := lawful.consistent record member
      exact ⟨consistent, capabilities record member, legal.provenance⟩
    · intro profile member
      exact PortProfile.readable_iff.mpr ⟨writable.legal profile member, canonical profile member⟩
    · intro publisher member
      have identified := lawful.publishers publisher member
      rw [Bool.and_eq_true] at identified
      exact identified.1

theorem decode_encoded_iff_readable (encoded : encodePersistedState state = .ok bytes) :
    decodePersistedState bytes = .ok state ↔ state.Readable := by
  obtain ⟨_, payload, written, bounded, rfl⟩ := encodePersistedState_eq_ok.mp encoded
  have below : payload.length ≤ maxPersistenceBytes :=
    Nat.le_trans bounded (by decide)
  constructor
  · intro decoded
    exact (decodePersistedState_eq_ok.mp decoded).1
  · intro readable
    exact decodePersistedState_eq_ok.mpr ⟨readable, payload, written, below, rfl⟩

/-- What comes back from the container of a lawful state. -/
theorem decode_encoded_iff (lawful : state.Lawful)
    (encoded : encodePersistedState state = .ok bytes) :
    decodePersistedState bytes = .ok state ↔
      (∀ record ∈ state.records, record.capability.capabilities.validate = .ok ()) ∧
        ∀ profile ∈ state.profiles, profile.configuration.Canonical := by
  rw [decode_encoded_iff_readable encoded]
  exact lawful.readable_iff (encodePersistedState_eq_ok.mp encoded).1

theorem encodePersistedState_decoded (decoded : decodePersistedState bytes = .ok state)
    (bounded : (bytes.drop headerSize).length ≤ payloadLimit) :
    encodePersistedState state = .ok bytes := by
  obtain ⟨readable, payload, written, _, rfl⟩ := decodePersistedState_eq_ok.mp decoded
  have length : ((container payload).drop headerSize).length = payload.length := by
    rw [List.length_drop, length_container, Nat.add_sub_cancel_left]
  rw [length] at bounded
  refine encodePersistedState_eq_ok.mpr ⟨⟨readable.records.bounded, ?_,
    readable.profiles.bounded, ?_, readable.devices.bounded, readable.publishers.bounded⟩,
    payload, written, bounded, rfl⟩
  · exact fun record member => (readable.records.legal record member).consistent
  · exact fun profile member => (readable.profiles.legal profile member).2

/-- An accepted container is what the encoder makes of its state, and the only one of it. -/
theorem container_canonical (decoded : decodePersistedState bytes = .ok state) :
    ((bytes.drop headerSize).length ≤ payloadLimit → encodePersistedState state = .ok bytes) ∧
      ∀ other, decodePersistedState other = .ok state → other = bytes := by
  refine ⟨encodePersistedState_decoded decoded, ?_⟩
  obtain ⟨_, payload, written, _, rfl⟩ := decodePersistedState_eq_ok.mp decoded
  intro other accepted
  obtain ⟨_, same, rewritten, _, rfl⟩ := decodePersistedState_eq_ok.mp accepted
  obtain rfl : payload = same := Option.some.inj (written.symm.trans rewritten)
  rfl

end RoundTrip

namespace StoredProfile

/-- A profile that specifies nothing: the MTU it carries is never applied. -/
def profile (mtu : Mtu) : PortProfile where
  id := "edge"
  generation := .first
  name := "edge"
  configuration := { mtu }
  provenance := { kind := .operator, epoch := .first }

def state (mtu : Mtu) : PersistedState where
  profiles := [profile mtu]

def ethernet : Mtu := ⟨1500, by decide⟩

theorem lawful (mtu : Mtu) : (state mtu).Lawful := by
  refine ⟨List.nodup_nil, List.nodup_singleton _, List.nodup_nil, List.nodup_nil,
    List.forall_mem_nil _, ?_, List.forall_mem_nil _, List.forall_mem_nil _⟩
  intro other member
  obtain rfl := List.mem_singleton.mp member
  exact ⟨∅, ProfileRegistry.defines_first rfl rfl⟩

/-- The encoder takes the state when its payload is small enough. -/
theorem encoded {mtu : Mtu}
    (fits : ((ByteLayout.state (state mtu)).document.any fun payload =>
      payload.length ≤ payloadLimit) = true) :
    ∃ bytes, encodePersistedState (state mtu) = .ok bytes := by
  obtain ⟨payload, written, bounded⟩ := (Option.any_eq_true ..).mp fits
  refine ⟨container payload, encodePersistedState_eq_ok.mpr ⟨⟨Nat.zero_le _, List.forall_mem_nil _,
    ?_, ?_, Nat.zero_le _, Nat.zero_le _⟩, payload, written, of_decide_eq_true bounded, rfl⟩⟩
  · exact (by decide : 1 ≤ maxProfiles)
  · intro other member
    obtain rfl := List.mem_singleton.mp member
    rfl

set_option maxRecDepth 100000 in
theorem plain_encoded : ∃ bytes, encodePersistedState (state .unspecified) = .ok bytes :=
  encoded (by decide +kernel)

set_option maxRecDepth 100000 in
theorem ethernet_encoded : ∃ bytes, encodePersistedState (state ethernet) = .ok bytes :=
  encoded (by decide +kernel)

theorem plain_canonical : (profile .unspecified).configuration.Canonical := by
  constructor <;> intro _ <;> rfl

/-- A profile without stray values comes back. -/
theorem plain_returns : ∃ bytes, encodePersistedState (state .unspecified) = .ok bytes ∧
    decodePersistedState bytes = .ok (state .unspecified) := by
  obtain ⟨bytes, encoded⟩ := plain_encoded
  refine ⟨bytes, encoded, (decode_encoded_iff (lawful _) encoded).mpr ⟨List.forall_mem_nil _, ?_⟩⟩
  exact List.forall_mem_singleton.mpr plain_canonical

/-- The container of a profile that carries an MTU without specifying it is not read back. -/
theorem ethernet_lost :
    ¬∀ (state : PersistedState) (bytes : Text), state.Lawful →
      encodePersistedState state = .ok bytes → decodePersistedState bytes = .ok state := by
  intro returns
  obtain ⟨bytes, encoded⟩ := ethernet_encoded
  have readable := (decode_encoded_iff_readable encoded).mp
    (returns (state ethernet) bytes (lawful _) encoded)
  have told := (readable.profiles.legal _ (List.mem_singleton_self _)).1.mtu
  cases told

end StoredProfile

namespace StoredFabric

/-- A port with evidence, owned by the agent that claimed it. -/
def record : PortRecord where
  port := "sw1-p1"
  parentDevice := "sw1"
  ownership := some
    { id := "claim-1"
      kind := .switchAgent
      owner := "owner-a"
      generation := .first
      publisher := "agent-a"
      boot := "boot-a"
      epoch := .first
      exclusive := true }
  capability :=
    { capabilities := { certainty := .known, supportedSpeeds := [], capabilityMtuMax := 9216 }
      generation := .first
      evidenceGeneration := .first
      source := "lab"
      present := true }
  generations := { device := .first, ownership := .first, capability := .first }

/-- One of everything that a container can hold. -/
def state : PersistedState where
  fabric := "fabric-a"
  site := "site-a"
  epoch := .first
  engineGeneration := .first
  topology := .first
  records := [record]
  profiles := [StoredProfile.profile .unspecified]
  devices := [{ device := "sw1", generation := .first, source := "lab" }]
  publishers := [{ publisher := "agent-a", boot := "boot-a", epoch := .first }]

theorem readable : state.Readable := by
  refine ⟨⟨by decide, ?_, List.nodup_singleton _⟩, ⟨by decide, ?_, List.nodup_singleton _⟩,
    ⟨by decide, ?_, List.nodup_singleton _⟩, ⟨by decide, ?_, List.nodup_singleton _⟩⟩
  · exact List.forall_mem_singleton.mpr ⟨by decide +kernel, by decide +kernel, rfl⟩
  · exact List.forall_mem_singleton.mpr
      (PortProfile.readable_iff.mpr ⟨rfl, StoredProfile.plain_canonical⟩)
  · exact List.forall_mem_singleton.mpr rfl
  · exact List.forall_mem_singleton.mpr rfl

set_option maxRecDepth 100000 in
theorem decoded : ∃ bytes, decodePersistedState bytes = .ok state ∧ 300 < bytes.length ∧
    (bytes.drop headerSize).length ≤ payloadLimit := by
  have fits : ((ByteLayout.state state).document.any fun payload =>
      300 < payload.length && payload.length ≤ payloadLimit) = true := by
    decide +kernel
  obtain ⟨payload, written, sized⟩ := (Option.any_eq_true ..).mp fits
  rw [Bool.and_eq_true, decide_eq_true_eq, decide_eq_true_eq] at sized
  refine ⟨container payload, decodePersistedState_eq_ok.mpr
    ⟨readable, payload, written, Nat.le_trans sized.2 (by decide), rfl⟩, ?_, ?_⟩
  · rw [length_container]
    exact Nat.lt_add_left headerSize sized.1
  · rw [List.length_drop, length_container, Nat.add_sub_cancel_left]
    exact sized.2

/-- The container that one of everything comes from is written again as it was, and only so. -/
theorem stored_fabric_container : ∃ bytes, decodePersistedState bytes = .ok state ∧
    encodePersistedState state = .ok bytes ∧
      ∀ other, decodePersistedState other = .ok state → other = bytes := by
  obtain ⟨bytes, decoded, _, bounded⟩ := decoded
  obtain ⟨rewritten, only⟩ := container_canonical decoded
  exact ⟨bytes, decoded, rewritten bounded, only⟩

end StoredFabric

end PortFabric
