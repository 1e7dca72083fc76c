import PortFabric.Administrative
import PortFabric.Capability

/-!
# Port configuration

The committed configuration of one port, its validation, its canonical
rendering and its check against capability evidence.
-/

set_option autoImplicit false

namespace PortFabric

inductive ProvenanceKind where
  | unknown | operator | networkController | switchAgent | hostAgent | delegatedSubsystem
  | syntheticBackend | hostAdapter | recovery | reconciliation
  | illegal (raw : Fin 246)
  deriving DecidableEq, Repr

namespace ProvenanceKind

def isValid : ProvenanceKind → Bool
  | illegal _ => false
  | _ => true

def toText : ProvenanceKind → Text
  | unknown => "UNKNOWN"
  | operator => "OPERATOR"
  | networkController => "NETWORK_CONTROLLER"
  | switchAgent => "SWITCH_AGENT"
  | hostAgent => "HOST_AGENT"
  | delegatedSubsystem => "DELEGATED_SUBSYSTEM"
  | syntheticBackend => "SYNTHETIC_BACKEND"
  | hostAdapter => "HOST_ADAPTER"
  | recovery => "RECOVERY"
  | reconciliation => "RECONCILIATION"
  | illegal _ => "UNKNOWN"

end ProvenanceKind

structure Provenance where
  kind : ProvenanceKind := .unknown
  source : Text := []
  publisher : PublisherId := .null
  boot : WorkerBootId := .null
  epoch : CoordinatorEpoch := .null
  attempt : MutationAttemptId := .null
  deriving DecidableEq

def Provenance.valid (provenance : Provenance) : Bool :=
  provenance.kind.isValid && provenance.epoch.valid && provenance.attempt.valid

structure ProfileBinding where
  bound : Bool := false
  id : PortProfileId := .null
  generation : PortProfileGeneration := .null
  deriving DecidableEq

namespace ProfileBinding

def valid (binding : ProfileBinding) : Bool :=
  if binding.bound then binding.id.valid && binding.generation.valid
  else !binding.id.valid && !binding.generation.valid

def toText (binding : ProfileBinding) : Text :=
  if binding.bound then binding.id.value ++ text "@" ++ binding.generation.format else "none"

end ProfileBinding

structure PortConfiguration where
  record : PortConfigurationId := .null
  port : PortId := .null
  parentDevice : DeviceId := .null
  deviceGeneration : DeviceGeneration := .null
  topologyGeneration : TopologyGeneration := .null
  generation : PortConfigurationGeneration := .null
  administrative : AdministrativeState := .unknown
  mode : PortMode := .physical
  protocol : ProtocolFamily := .unknown
  speed : SpeedSetting := {}
  duplex : DuplexMode := .unknown
  mtu : Mtu := .unspecified
  lanes : LaneConfiguration := .unspecified
  breakout : BreakoutMode := .none
  autoneg : AutonegPolicy := .unknown
  fec : FecMode := .unknown
  pause : PauseMode := .unknown
  aggregation : AggregationMembership := {}
  profile : ProfileBinding := {}
  role : Text := []
  logicalIdentity : LogicalPortId := .null
  derivedFrom : PortId := .null
  /-- One-based child index inside a breakout; zero for a non-child port. -/
  childIndex : UInt32 := 0
  provenance : Provenance := {}
  capabilityGeneration : CapabilityBindingGeneration := .null
  evidenceGeneration : EvidenceGeneration := .null
  deriving DecidableEq

namespace PortConfiguration

open Checks

/-- The lane total disagrees with the forced rate. -/
def forcedRateDisagrees (configuration : PortConfiguration) : Bool :=
  match configuration.lanes.total with
  | some laneTotal =>
      configuration.speed.selection = .forced && configuration.speed.rate ≠ laneTotal
  | none => false

/-- An automatic selection carries a rate. -/
def automaticRateCarried (configuration : PortConfiguration) : Bool :=
  configuration.lanes.total.isSome && configuration.speed.selection = .auto &&
    configuration.speed.rate.valid

def derivationMissing (configuration : PortConfiguration) : Bool :=
  !configuration.logicalIdentity.valid || !configuration.derivedFrom.valid

def derivationCarried (configuration : PortConfiguration) : Bool :=
  configuration.logicalIdentity.valid || configuration.derivedFrom.valid ||
    configuration.childIndex ≠ 0

def validate (configuration : PortConfiguration) : Except Text Unit :=
  require (configuration.record.valid && configuration.port.valid)
    (text "configuration record or port identity is missing") <|
  require configuration.parentDevice.valid
    (text "parent device identity is missing") <|
  require configuration.deviceGeneration.valid
    (text "device generation is missing") <|
  require configuration.topologyGeneration.valid
    (text "topology generation is missing") <|
  require configuration.generation.valid
    (text "configuration generation is missing") <|
  require configuration.administrative.isValid
    (text "administrative state is not a legal value") <|
  require configuration.mode.isValid
    (text "port mode is not a legal value") <|
  require configuration.protocol.isValid
    (text "protocol family is not a legal value") <|
  require configuration.speed.valid
    (text "speed setting is inconsistent (selection and rate disagree)") <|
  require configuration.duplex.isValid
    (text "duplex mode is not a legal value") <|
  require configuration.mtu.valid
    (text "MTU is missing or outside the legal range") <|
  require configuration.lanes.valid
    (text "lane configuration is missing or inconsistent") <|
  require configuration.breakout.isValid
    (text "breakout mode is not a legal value") <|
  require configuration.autoneg.isValid
    (text "autonegotiation policy is not a legal value") <|
  require configuration.fec.isValid
    (text "FEC mode is not a legal value") <|
  require configuration.pause.isValid
    (text "pause mode is not a legal value") <|
  require configuration.aggregation.valid
    (text "aggregation membership is inconsistent") <|
  require configuration.profile.valid
    (text "profile binding is inconsistent") <|
  require configuration.provenance.valid
    (text "configuration provenance is incomplete") <|
  within (validateText configuration.role maxNameLength) (text "role: " ++ ·) <|
  refuseIf configuration.forcedRateDisagrees
    (text "the forced rate and the lane configuration disagree") <|
  refuseIf configuration.automaticRateCarried
    (text "an automatic speed selection must not carry a rate") <|
  refuseIf (configuration.breakout ≠ .none &&
      !breakoutLanesAreDivisible configuration.lanes.lanes configuration.breakout)
    (text "the lane count is not divisible by the breakout fan-out") <|
  refuseIf (configuration.mode = .physical && configuration.derivationCarried)
    (text "a physical port must not carry a logical derivation") <|
  refuseIf (configuration.mode ≠ .physical && configuration.derivationMissing)
    (text "a logical port must carry a logical identity and its derivation") <|
  refuseIf (configuration.mode ≠ .physical &&
      configuration.childIndex.toNat > PortFabric.maxBreakoutChildren)
    (text "the breakout child index is outside the legal position range") <|
  .ok ()

/-- Ordered canonical field list used by digesting, diffing and replay payloads. -/
def canonicalFields (configuration : PortConfiguration) : List (Text × Text) :=
  [ (text "record", configuration.record.value),
    (text "port", configuration.port.value),
    (text "parent_device", configuration.parentDevice.value),
    (text "device_generation", configuration.deviceGeneration.formatOrEmpty),
    (text "topology_generation", configuration.topologyGeneration.formatOrEmpty),
    (text "generation", configuration.generation.formatOrEmpty),
    (text "administrative", configuration.administrative.toText),
    (text "mode", configuration.mode.toText),
    (text "protocol", configuration.protocol.toText),
    (text "speed_selection", configuration.speed.selection.toText),
    (text "speed_rate",
      if configuration.speed.rate.valid then configuration.speed.rate.toText else []),
    (text "duplex", configuration.duplex.toText),
    (text "mtu", if configuration.mtu.valid then configuration.mtu.toText else []),
    (text "lanes", configuration.lanes.toText),
    (text "breakout", configuration.breakout.toText),
    (text "autoneg", configuration.autoneg.toText),
    (text "fec", configuration.fec.toText),
    (text "pause", configuration.pause.toText),
    (text "aggregation", configuration.aggregation.toText),
    (text "profile", configuration.profile.toText),
    (text "role", configuration.role),
    (text "logical_identity", configuration.logicalIdentity.value),
    (text "derived_from", configuration.derivedFrom.value),
    (text "child_index", formatU64 configuration.childIndex.toNat),
    (text "capability_generation", configuration.capabilityGeneration.formatOrEmpty),
    (text "evidence_generation", configuration.evidenceGeneration.formatOrEmpty),
    (text "provenance_kind", configuration.provenance.kind.toText),
    (text "provenance_source", configuration.provenance.source),
    (text "provenance_publisher", configuration.provenance.publisher.value),
    (text "provenance_epoch", configuration.provenance.epoch.formatOrEmpty),
    (text "provenance_attempt", configuration.provenance.attempt.value) ]

end PortConfiguration

/-- The enumeration value names a dimension the evidence has to support. -/
private def demands {α : Type} [DecidableEq α] (value unknown unsupported : α) : Bool :=
  value ≠ unknown && value ≠ unsupported

open Checks in
/-- Fail-closed check of a configuration against the bound capability evidence. -/
def validateAgainstCapabilities (configuration : PortConfiguration)
    (binding : CapabilityBinding) : Except CapabilityRejection Unit :=
  let capabilities := binding.capabilities
  if !binding.present || !binding.generation.valid then
    .error ⟨.capabilityUnavailable, "CAPABILITY_UNBOUND",
      "no capability evidence is bound to this port"⟩
  else
  match capabilities.validate with
  | .error error => .error ⟨.capabilityUnavailable, "CAPABILITY_EVIDENCE_INVALID", error⟩
  | .ok () =>
  if capabilities.certainty = .unknown then
    .error ⟨.capabilityUnknown, "CAPABILITY_UNKNOWN",
      "capability evidence for this port is UNKNOWN"⟩
  else
  match configuration.lanes.total with
  | none =>
      .error ⟨.invalidLaneConfiguration, "LANE_TOTAL_OVERFLOW",
        "the lane configuration does not yield a representable rate"⟩
  | some portTotal =>
  refuseIf
    (configuration.speed.selection = .auto && !capabilities.supportedSpeeds.contains portTotal)
    ⟨.unsupportedConfiguration, "SPEED_AUTO_UNSUPPORTED",
      text "no advertised rate matches the derived lane rate " ++ portTotal.toText⟩ <|
  refuseIf (configuration.speed.selection ≠ .auto &&
      !capabilities.supportsSpeed configuration.speed.rate)
    ⟨.unsupportedConfiguration, "SPEED_UNSUPPORTED",
      text "the port does not advertise " ++ configuration.speed.rate.toText⟩ <|
  refuseIf (configuration.speed.selection ≠ .auto && configuration.speed.rate ≠ portTotal)
    ⟨.invalidLaneConfiguration, "LANE_RATE_MISMATCH",
      "the lane configuration does not realise the forced rate"⟩ <|
  require (capabilities.supportsLanes configuration.lanes.lanes)
    ⟨.unsupportedConfiguration, "LANE_COUNT_UNSUPPORTED",
      text "the port does not support " ++ formatU64 configuration.lanes.lanes ++ text " lanes"⟩ <|
  refuseIf (configuration.breakout ≠ .none && !capabilities.breakoutSupported)
    ⟨.unsupportedConfiguration, "BREAKOUT_UNSUPPORTED",
      "the port does not advertise breakout support"⟩ <|
  refuseIf (configuration.breakout ≠ .none &&
      configuration.breakout.children > capabilities.maxBreakoutChildren.toNat)
    ⟨.unsupportedConfiguration, "BREAKOUT_FANOUT_UNSUPPORTED",
      text "the port supports at most " ++ formatU64 capabilities.maxBreakoutChildren.toNat ++
        text " breakout children"⟩ <|
  refuseIf (configuration.protocol ≠ .unknown &&
      !capabilities.supportsProtocol configuration.protocol)
    ⟨.unsupportedConfiguration, "PROTOCOL_UNSUPPORTED",
      text "the port does not advertise protocol family " ++ configuration.protocol.toText⟩ <|
  refuseIf (configuration.protocol = .unknown)
    ⟨.capabilityUnknown, "PROTOCOL_UNKNOWN",
      "the configuration does not name a protocol family"⟩ <|
  refuseIf (demands configuration.fec .unknown .unsupported &&
      !capabilities.supportsFec configuration.fec)
    ⟨.unsupportedConfiguration, "FEC_UNSUPPORTED",
      text "the port does not advertise FEC mode " ++ configuration.fec.toText⟩ <|
  refuseIf (configuration.fec = .unknown)
    ⟨.capabilityUnknown, "FEC_UNKNOWN", "the configuration does not name a FEC mode"⟩ <|
  refuseIf (demands configuration.autoneg .unknown .unsupported &&
      !capabilities.supportsAutoneg configuration.autoneg)
    ⟨.unsupportedConfiguration, "AUTONEG_UNSUPPORTED",
      text "the port does not advertise autonegotiation policy " ++ configuration.autoneg.toText⟩ <|
  refuseIf (configuration.autoneg = .unknown)
    ⟨.capabilityUnknown, "AUTONEG_UNKNOWN",
      "the configuration does not name an autonegotiation policy"⟩ <|
  refuseIf (demands configuration.pause .unknown .unsupported &&
      !capabilities.supportsPause configuration.pause)
    ⟨.unsupportedConfiguration, "PAUSE_UNSUPPORTED",
      text "the port does not advertise pause mode " ++ configuration.pause.toText⟩ <|
  refuseIf (configuration.pause = .unknown)
    ⟨.capabilityUnknown, "PAUSE_UNKNOWN", "the configuration does not name a pause mode"⟩ <|
  refuseIf (demands configuration.duplex .unknown .unsupported &&
      capabilities.duplex ≠ .unknown && capabilities.duplex ≠ configuration.duplex)
    ⟨.unsupportedConfiguration, "DUPLEX_UNSUPPORTED",
      text "the port does not advertise duplex mode " ++ configuration.duplex.toText⟩ <|
  refuseIf (configuration.duplex = .unknown)
    ⟨.capabilityUnknown, "DUPLEX_UNKNOWN", "the configuration does not name a duplex mode"⟩ <|
  refuseIf (capabilities.capabilityMtuMax ≠ 0 &&
      (configuration.mtu.value < capabilities.capabilityMtuMin.toNat ||
        configuration.mtu.value > capabilities.capabilityMtuMax.toNat))
    ⟨.unsupportedConfiguration, "MTU_OUT_OF_RANGE",
      text "the port supports MTU " ++ formatU64 capabilities.capabilityMtuMin.toNat ++ text ".." ++
        formatU64 capabilities.capabilityMtuMax.toNat⟩ <|
  refuseIf (capabilities.capabilityMtuMax = 0)
    ⟨.capabilityUnknown, "MTU_UNKNOWN", "the port does not advertise MTU bounds"⟩ <|
  refuseIf (configuration.mode = .logical && !capabilities.logicalInterfaceSupported)
    ⟨.unsupportedConfiguration, "LOGICAL_INTERFACE_UNSUPPORTED",
      "the port does not advertise logical interface support"⟩ <|
  refuseIf (capabilities.transceiverRequired && capabilities.transceiverClass.isEmpty)
    ⟨.transceiverUnknown, "TRANSCEIVER_UNKNOWN",
      "the port requires a transceiver of unknown class"⟩ <|
  .ok ()

end PortFabric
