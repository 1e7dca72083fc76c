import PortFabric.Engine.Fixture
import PortFabric.Engine.RecordInvariants
import PortFabric.Guarantees.ContainerCodec
import PortFabric.Protocol.EngineService
import PortFabric.Protocol.MessageProperties

/-!
# Message round trip

What comes back of an encoded mutation message and of an encoded query
response. Both decoders check more than their encoders: the evidence of a
binding that is absent, and the records and profiles a response lists.
-/

set_option autoImplicit false

namespace PortFabric

open Checks Formats PortFabricEngine EngineService

section Mutations

/-- The configuration a mutation submits. -/
def Mutation.submitted : Mutation → Option PortConfiguration
  | .configure request => some request.configuration
  | .reconfigure request => some request.configuration
  | _ => none

/-- Some engine commits a mutation that submits the configuration. -/
def PortConfiguration.Committable (configuration : PortConfiguration) : Prop :=
  ∃ runtime impl mutation answers snapshot plan final,
    mutation.submitted = some configuration ∧
      Commits runtime mutation answers impl snapshot plan final

/-- A commit takes the MTU and the lanes over as they are submitted. -/
theorem PortConfiguration.Committable.specified {configuration : PortConfiguration}
    (committable : configuration.Committable) :
    configuration.mtu.valid = true ∧ configuration.lanes.valid = true := by
  obtain ⟨runtime, impl, mutation, answers, snapshot, plan, final, submitted, commits⟩ :=
    committable
  obtain ⟨capability, proposal, _, _, _, built, validated, _⟩ := commits.spec
  cases mutation with
  | configure request =>
      cases submitted
      simp only [Mutation.build, buildConfigure, bind_eq_ok, pure_eq_ok] at built
      obtain ⟨_, _, _, _, _, _, _, _, _, _, _, _, _, _, _, _, _, _, rfl⟩ := built
      have readable := PortRecord.readable_configuration validated rfl
      exact ⟨readable.mtu, readable.lanes⟩
  | reconfigure request =>
      cases submitted
      simp only [Mutation.build, buildReconfigure, bind_eq_ok, pure_eq_ok] at built
      obtain ⟨_, _, _, _, _, _, _, _, _, _, _, _, _, _, _, _, _, _, rfl⟩ := built
      have readable := PortRecord.readable_configuration validated rfl
      exact ⟨readable.mtu, readable.lanes⟩
  | administrative | assignProfile | bindCapabilities | reconcile | supersede | retire
  | claimOwnership | transferOwnership | releaseOwnership | recordAppliedEvidence
  | observeExternalState => cases submitted

/-- Declared values, a configuration that can be committed, a binding that is absent or valid. -/
structure PortMutationMessage.Lawful (message : PortMutationMessage) : Prop where
  configuration : ∀ configuration, message.configuration = some configuration →
    configuration.LegalValues ∧ configuration.Committable
  capabilities : message.capability.capabilities.LegalValues
  binding : message.capability.present = false ∨ message.capability.valid = true
  outcome : message.evidence.outcome.isValid = true

variable {message : PortMutationMessage} {bytes : Text}

theorem PortMutationMessage.Lawful.readable_iff (lawful : message.Lawful) :
    message.Readable ↔ message.capability.capabilities.validate = .ok () := by
  refine ⟨PortMutationMessage.Readable.capabilities, fun evident => ?_⟩
  refine ⟨fun configuration carried => ?_, evident, ?_, lawful.outcome⟩
  · obtain ⟨legal, committable⟩ := lawful.configuration configuration carried
    obtain ⟨mtu, lanes⟩ := committable.specified
    exact ⟨legal.administrative, legal.mode, legal.protocol, legal.selection, legal.duplex, mtu,
      lanes, legal.breakout, legal.autoneg, legal.fec, legal.pause, legal.provenance⟩
  · rcases lawful.binding with absent | valid
    · simp [CapabilityBinding.valid, absent]
    · exact valid

theorem decodeMutation_encoded (lawful : message.Lawful)
    (encoded : encodeMutation message = .ok bytes) :
    decodeMutation bytes = .ok message ↔
      message.capability.capabilities.validate = .ok () := by
  rw [decodeMutation_eq_ok, lawful.readable_iff]
  exact and_iff_left (encodeMutation_eq_ok.mp encoded).1

/-- The encoder takes a message whose layout is small enough. -/
theorem encodeMutation_fits
    (fits : ((ByteLayout.mutation message).document.any fun payload =>
      payload.length ≤ maxFrameBytes) = true) :
    ∃ bytes, encodeMutation message = .ok bytes := by
  obtain ⟨bytes, written, bounded⟩ := (Option.any_eq_true ..).mp fits
  exact ⟨bytes, encodeMutation_eq_ok.mpr ⟨written, of_decide_eq_true bounded⟩⟩

end Mutations

section Queries

variable (runtime : Runtime) (impl : EngineImpl) (query : QueryMessage)

/-- The outcomes of queries. -/
def queryOutcomes : List Outcome :=
  [ {},
    .failure .unknownPort "the port identity is not bound to this runtime",
    .failure .unknownPort "no committed configuration exists for this port",
    .failure .unknownPort "the port is not bound to this runtime",
    .failure .unknownPort "the port carries no administrative state",
    .failure .unknownOwnership "the port is not owned" ]

theorem onQuery_outcome : (onQuery runtime impl query).outcome ∈ queryOutcomes := by
  unfold onQuery answerText queryOutcomes
  dsimp only
  repeat' split
  all_goals simp

theorem onQuery_digest : (onQuery runtime impl query).digest = stateDigest impl := by
  unfold onQuery answerText
  dsimp only
  repeat' split
  all_goals rfl

/-- An outcome without details and with a bounded line for its message is read as it is. -/
theorem normalised_plain {outcome : Outcome} (bare : outcome.details = [])
    (line : truncate (singleLine outcome.message) maxDescriptionLength = outcome.message) :
    outcome.received.normalised = outcome.received := by
  obtain ⟨code, message, details⟩ := outcome
  cases bare
  simp only [ReceivedOutcome.normalised, Outcome.received, List.foldl_nil,
    ReceivedOutcome.withMessage, ReceivedOutcome.mk.injEq, true_and, and_true]
  exact line

theorem onQuery_plain : (onQuery runtime impl query).outcome.details = [] ∧
    (onQuery runtime impl query).read = (onQuery runtime impl query).received := by
  have plain : ∀ outcome ∈ queryOutcomes, outcome.details = [] ∧
      truncate (singleLine outcome.message) maxDescriptionLength = outcome.message := by
    decide +kernel
  obtain ⟨bare, line⟩ := plain _ (onQuery_outcome runtime impl query)
  refine ⟨bare, ?_⟩
  rw [QueryResponse.read, normalised_plain bare line]
  rfl

/-- What the engine lists for the query is valid, with evident records and canonical profiles. -/
def Answerable (impl : EngineImpl) (query : QueryMessage) : Prop :=
  match query.kind with
  | .port => ∀ record, impl.records[query.port]? = some record → record.Readable
  | .snapshot => OrderedMap.Every (fun _ record => record.Readable) impl.records
  | .profiles => ∀ profile ∈ impl.profiles.list,
      profile.validate = .ok () ∧ profile.configuration.Canonical
  | .devices => OrderedMap.Every
      (fun _ device => (device.device.valid && device.generation.valid) = true) impl.devices
  | _ => True

theorem answerable_iff : Answerable impl query ↔
    (∀ record ∈ (onQuery runtime impl query).records, record.Readable) ∧
      (∀ profile ∈ (onQuery runtime impl query).profiles,
        profile.validate = .ok () ∧ profile.configuration.Canonical) ∧
      ∀ device ∈ (onQuery runtime impl query).devices,
        (device.device.valid && device.generation.valid) = true := by
  obtain ⟨kind, port, device, owner, profile, lifecycle, administrative⟩ := query
  cases kind with
  | port =>
      simp only [Answerable, onQuery, record]
      cases impl.records[port]? with
      | none => simp
      | some record => simp
  | snapshot => simp [Answerable, onQuery, snapshot, OrderedMap.every_iff_values]
  | profiles => simp [Answerable, onQuery, profiles]
  | devices => simp [Answerable, onQuery, devices, OrderedMap.every_iff_values]
  | configuration | lifecycle | administrativeState | ownership | capabilityBinding
  | appliedEvidence =>
      simp only [Answerable, onQuery, answerText]
      split <;> simp
  | portsOfDevice | portsWithLifecycle | portsRequiringRevalidation | portsOfOwner
  | portsByProfile | derivedPorts | staleProfileBindings | explain | engineInfo =>
      simp [Answerable, onQuery]

variable {runtime impl query}

theorem decodeQueryResponse_onQuery {bytes : Text}
    (encoded : encodeQueryResponse (onQuery runtime impl query) = .ok bytes) :
    decodeQueryResponse bytes = .ok (onQuery runtime impl query).received ↔
      Answerable impl query := by
  obtain ⟨bare, same⟩ := onQuery_plain runtime impl query
  have few : (onQuery runtime impl query).outcome.details.length ≤ maxOutcomeDetails := by
    rw [bare]
    exact Nat.zero_le _
  have digest : (onQuery runtime impl query).digest.length = 32 := by
    rw [onQuery_digest]
    exact Sha256.length_finish _
  rw [← same, decodeQueryResponse_encoded few encoded, readable_iff_of_encoded digest encoded,
    answerable_iff runtime]

end Queries

/--
An encoded message comes back when the evidence it carries validates, and the
encoded answer to a query when what the engine lists for it is readable.
-/
theorem messages_return_iff (message : PortMutationMessage) (runtime : Runtime)
    (impl : EngineImpl) (query : QueryMessage) {bytes payload : Text} (lawful : message.Lawful)
    (encoded : encodeMutation message = .ok bytes)
    (answered : encodeQueryResponse (onQuery runtime impl query) = .ok payload) :
    (decodeMutation bytes = .ok message ↔
        message.capability.capabilities.validate = .ok ()) ∧
      (decodeQueryResponse payload = .ok (onQuery runtime impl query).received ↔
        Answerable impl query) :=
  ⟨decodeMutation_encoded lawful encoded, decodeQueryResponse_onQuery answered⟩

namespace LostMessages

def port : PortId := "syn-sw1-p01"

def envelope : MutationEnvelope :=
  Fixture.envelope port "agent-a" "boot-a" "configure-1" .first

/-- A request to configure the port; its capability binding is absent. -/
def message (capabilities : PortCapabilities) : PortMutationMessage where
  kind := 1
  authority := envelope.authority
  port
  configuration := some (Fixture.makeConfiguration port)
  capability := { capabilities }

def bound : EngineImpl := EngineImpl.after Fixture.runtime [Fixture.bind port "bind-1"]

set_option maxRecDepth 100000 in
/-- The adapter applies and verifies the configuration, and the engine commits it. -/
theorem committable : (Fixture.makeConfiguration port).Committable := by
  have before : (bound.records[port]?).map (fun record => record.lifecycle.isLive) =
      some false := by
    decide +kernel
  have live : ((executeMutation Fixture.runtime (Fixture.configuration envelope)
      Fixture.verified bound).1.records[port]?).map (fun record => record.lifecycle.isLive) =
        some true := by
    decide +kernel
  have effect := executeMutation_records Fixture.runtime (Fixture.configuration envelope)
    Fixture.verified bound
  generalize (executeMutation Fixture.runtime (Fixture.configuration envelope) Fixture.verified
    bound).1.records = after at live effect
  cases effect with
  | unrecorded =>
      rw [before] at live
      cases live
  | committed commits => exact ⟨_, _, _, _, _, _, _, rfl, commits⟩
  | doubted doubts =>
      have stored : ∀ (records : RecordMap) (record : PortRecord),
          (records.insert (Fixture.configuration envelope).port record)[port]? = some record :=
        fun records record => OrderedMap.lookup_insert_self records port record
      rw [stored, Option.map_some, PortRecord.uncertain_not_live] at live
      cases live

theorem lawful {capabilities : PortCapabilities} (legal : capabilities.LegalValues) :
    (message capabilities).Lawful := by
  refine ⟨?_, legal, .inl rfl, rfl⟩
  intro configuration given
  cases given
  exact ⟨by constructor <;> rfl, committable⟩

/-- Evidence whose MTU bounds are inverted. -/
def inverted : PortCapabilities where
  capabilityMtuMin := 9216
  capabilityMtuMax := 64

theorem inverted_legal : inverted.LegalValues := by
  constructor <;> first | rfl | exact List.forall_mem_nil _

theorem plain_legal : ({} : PortCapabilities).LegalValues := by
  constructor <;> first | rfl | exact List.forall_mem_nil _

set_option maxRecDepth 100000 in
theorem inverted_encoded : ∃ bytes, encodeMutation (message inverted) = .ok bytes :=
  encodeMutation_fits (by decide +kernel)

set_option maxRecDepth 100000 in
theorem plain_encoded : ∃ bytes, encodeMutation (message {}) = .ok bytes :=
  encodeMutation_fits (by decide +kernel)

/-- An engine with one profile, which carries the MTU without specifying it. -/
def defined (mtu : Mtu) : EngineImpl :=
  EngineImpl.after Fixture.runtime [.defineProfile (StoredProfile.profile mtu)]

def query : QueryMessage where
  kind := .profiles

theorem encoded_of_fits {mtu : Mtu}
    (fits : ((ByteLayout.queryResponse
      (onQuery Fixture.runtime (defined mtu) query).received).document.any fun payload =>
        payload.length ≤ maxFrameBytes) = true) :
    ∃ bytes, encodeQueryResponse (onQuery Fixture.runtime (defined mtu) query) = .ok bytes := by
  obtain ⟨bytes, written, bounded⟩ := (Option.any_eq_true ..).mp fits
  exact ⟨bytes, encodeQueryResponse_eq_ok.mpr
    ⟨Nat.zero_le _, written, of_decide_eq_true bounded⟩⟩

set_option maxRecDepth 100000 in
theorem ethernet_encoded : ∃ bytes, encodeQueryResponse
    (onQuery Fixture.runtime (defined StoredProfile.ethernet) query) = .ok bytes :=
  encoded_of_fits (by decide +kernel)

set_option maxRecDepth 100000 in
theorem canonical_encoded : ∃ bytes, encodeQueryResponse
    (onQuery Fixture.runtime (defined .unspecified) query) = .ok bytes :=
  encoded_of_fits (by decide +kernel)

set_option maxRecDepth 100000 in
theorem listed (mtu : Mtu) : (defined mtu).profiles.list = [StoredProfile.profile mtu] := rfl

/-- The message and the answer are read back as they were when nothing in them is stray. -/
theorem messages_returned :
    ∃ bytes payload, encodeMutation (message {}) = .ok bytes ∧
      encodeQueryResponse (onQuery Fixture.runtime (defined .unspecified) query) = .ok payload ∧
      decodeMutation bytes = .ok (message {}) ∧
      decodeQueryResponse payload =
        .ok (onQuery Fixture.runtime (defined .unspecified) query).received := by
  obtain ⟨bytes, encoded⟩ := plain_encoded
  obtain ⟨payload, answered⟩ := canonical_encoded
  obtain ⟨returns, tells⟩ := messages_return_iff (message {}) Fixture.runtime
    (defined .unspecified) query (lawful plain_legal) encoded answered
  refine ⟨bytes, payload, encoded, answered, returns.mpr rfl, tells.mpr ?_⟩
  intro profile member
  rw [listed] at member
  obtain rfl := List.mem_singleton.mp member
  exact ⟨rfl, StoredProfile.plain_canonical⟩

/--
Evidence with inverted MTU bounds is lost although no binding is present, and so
is the answer that lists a profile with an MTU it does not specify.
-/
theorem messages_lost :
    (¬∀ (message : PortMutationMessage) (bytes : Text), message.Lawful →
      encodeMutation message = .ok bytes → decodeMutation bytes = .ok message) ∧
    ¬∀ (runtime : Runtime) (operations : List Operation) (query : QueryMessage) (bytes : Text),
      encodeQueryResponse (onQuery runtime (EngineImpl.after runtime operations) query) =
          .ok bytes →
        decodeQueryResponse bytes =
          .ok (onQuery runtime (EngineImpl.after runtime operations) query).received := by
  constructor
  · intro returns
    obtain ⟨bytes, encoded⟩ := inverted_encoded
    have valid := (decodeMutation_encoded (lawful inverted_legal) encoded).mp
      (returns _ _ (lawful inverted_legal) encoded)
    exact absurd valid (by decide)
  · intro returns
    obtain ⟨bytes, encoded⟩ := ethernet_encoded
    have answerable := (decodeQueryResponse_onQuery encoded).mp (returns _ _ query _ encoded)
    have member : StoredProfile.profile StoredProfile.ethernet ∈
        (defined StoredProfile.ethernet).profiles.list := by
      rw [listed]
      exact List.mem_singleton_self _
    have told := (answerable _ member).2.mtu rfl
    cases told

end LostMessages

end PortFabric
