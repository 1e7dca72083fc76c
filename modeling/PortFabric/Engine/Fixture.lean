import PortFabric.Engine.Interleaving

/-!
# Fixture

Requests of the kind the test fixture builds, for one device and its ports.
-/

set_option autoImplicit false

namespace PortFabric.Fixture

def engineConfig (coordinator : PublisherId) (path : Text) (epoch : CoordinatorEpoch) :
    EngineConfig where
  fabric := "fabric-a"
  site := "site-a"
  coordinator
  epoch
  persistencePath := path
  persistence := if path.isEmpty then .manual else .automatic
  adapterPolicy := .applyAndVerify

/-- The fixture always supplies a synthetic adapter and capability provider. -/
def runtime : Runtime where
  config := engineConfig "coordinator" [] .first
  capabilityProvider := true
  adapter := some "test-synthetic"

def device : DeviceId := "sw1"

def rate : PortSpeed := ⟨400000000000, by decide⟩

def oneLane : LaneConfiguration := ⟨1, rate, by decide⟩

def mtu : Mtu := ⟨4096, by decide⟩

/-- The evidence the provider reports for every port of the device. -/
def evidence : CapabilityBinding where
  capabilities :=
    { certainty := .known
      supportedSpeeds := [rate]
      laneModes := [1]
      maxLanes := 8
      fecModes := [.none]
      autonegModes := [.forced]
      pauseModes := [.disabled]
      protocolFamilies := [.synthetic]
      capabilityMtuMin := 64
      capabilityMtuMax := 9216
      duplex := .full }
  generation := .first
  evidenceGeneration := .first
  source := "test-synthetic"
  present := true

def provider : ProviderAnswer where
  binding := some evidence

def makeConfiguration (port : PortId) : PortConfiguration where
  port
  parentDevice := device
  administrative := .enabled
  mode := .physical
  protocol := .synthetic
  speed := { selection := .forced, rate }
  duplex := .full
  mtu
  lanes := oneLane
  breakout := .none
  autoneg := .forced
  fec := .none
  pause := .disabled
  capabilityGeneration := evidence.generation

def envelope (port : PortId) (publisher : PublisherId) (boot : WorkerBootId)
    (attempt : MutationAttemptId) (epoch : CoordinatorEpoch) : MutationEnvelope where
  authority := { epoch, publisher, boot, attempt }
  port
  provenanceKind := .switchAgent
  provenanceSource := publisher.value

def expecting (request : MutationEnvelope) (configuration : PortConfigurationGeneration) :
    MutationEnvelope :=
  { request with
    authority := { request.authority with expectedConfiguration := configuration } }

def bind (port : PortId) (attempt : MutationAttemptId) : Operation :=
  .bindPort
    { port, parentDevice := device, deviceGeneration := .first, epoch := .first, attempt }
    { provider }

def claimRequest (envelope : MutationEnvelope) (owner : OwnerId) : OwnershipRequest where
  envelope
  ownerKind := .switchAgent
  owner

def claim (envelope : MutationEnvelope) (owner : OwnerId) : Mutation :=
  .claimOwnership (claimRequest envelope owner)

def configuration (envelope : MutationEnvelope) : Mutation :=
  .configure { envelope, configuration := makeConfiguration envelope.port }

def administer (envelope : MutationEnvelope) (op : AdministrativeOp) : Mutation :=
  .administrative { envelope, op }

/-- The adapter applies and the readback agrees. -/
def verified : MutationAnswers where
  provider
  apply := { status := .applied }
  readback := { status := .verified }

/-- The adapter gives no certain answer. -/
def uncertain : MutationAnswers where
  provider
  apply := { status := .outcomeUnknown }

/-- A mutation of one thread up to its conclusion, with one answer for every section. -/
def prepare (thread : Nat) (mutation : Mutation) (answers : MutationAnswers) : List Action :=
  .start thread mutation :: List.replicate 6 (.advance thread answers)

def complete (thread : Nat) (mutation : Mutation) (answers : MutationAnswers) : List Action :=
  prepare thread mutation answers ++ List.replicate 2 (.advance thread answers)

def systemAfter (actions : List Action) : System :=
  Runs.run (System.step runtime) { engine := .initial runtime.config } actions

end PortFabric.Fixture
