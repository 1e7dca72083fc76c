import PortFabric.Characteristics
import PortFabric.Library.Checks
import PortFabric.Outcome

/-!
# Capability evidence

The evidence a configuration may be bound against, its bounds, and the binding
of evidence to a port.
-/

set_option autoImplicit false

namespace PortFabric

inductive CapabilityCertainty where
  | unknown | known | partially
  | illegal (raw : Fin 253)
  deriving DecidableEq, Repr

namespace CapabilityCertainty

def isValid : CapabilityCertainty → Bool
  | illegal _ => false
  | _ => true

def toText : CapabilityCertainty → Text
  | unknown => "UNKNOWN"
  | known => "KNOWN"
  | partially => "PARTIAL"
  | illegal _ => "UNKNOWN"

end CapabilityCertainty

structure PortCapabilities where
  certainty : CapabilityCertainty := .unknown
  supportedSpeeds : List PortSpeed := []
  laneModes : List UInt32 := []
  maxLanes : UInt32 := 0
  breakoutSupported : Bool := false
  maxBreakoutChildren : UInt32 := 1
  fecModes : List FecMode := []
  autonegModes : List AutonegPolicy := []
  pauseModes : List PauseMode := []
  protocolFamilies : List ProtocolFamily := []
  capabilityMtuMin : UInt32 := 0
  capabilityMtuMax : UInt32 := 0
  duplex : DuplexMode := .unknown
  logicalInterfaceSupported : Bool := false
  maxQueueCount : UInt32 := 0
  transceiverRequired : Bool := false
  transceiverClass : Text := []
  deriving DecidableEq

/-- Comma separated renderings, or `none` for an empty list. -/
def renderList {α : Type} (render : α → Text) (values : List α) : Text :=
  if values.isEmpty then "none" else (text ",").intercalate (values.map render)

namespace PortCapabilities

open Checks

def validate (capabilities : PortCapabilities) : Except Text Unit :=
  require capabilities.certainty.isValid
    (text "capability certainty is not a legal value") <|
  refuseIf (capabilities.supportedSpeeds.length > maxCapabilityEntries)
    (text "supported speed list exceeds the configured bound") <|
  refuseIf (capabilities.laneModes.length > maxModeEntries)
    (text "lane mode list exceeds the configured bound") <|
  refuseIf (capabilities.fecModes.length > maxModeEntries)
    (text "FEC mode list exceeds the configured bound") <|
  refuseIf (capabilities.autonegModes.length > maxModeEntries)
    (text "autonegotiation mode list exceeds the configured bound") <|
  refuseIf (capabilities.pauseModes.length > maxModeEntries)
    (text "pause mode list exceeds the configured bound") <|
  refuseIf (capabilities.protocolFamilies.length > maxModeEntries)
    (text "protocol family list exceeds the configured bound") <|
  refuseIf (capabilities.maxLanes.toNat > PortFabric.maxLanes)
    (text "lane bound exceeds the configured bound") <|
  require (capabilities.supportedSpeeds.all PortSpeed.valid)
    (text "a supported speed entry is not a valid rate") <|
  require (capabilities.laneModes.all fun lanes =>
      lanes.toNat ≠ 0 && lanes.toNat ≤ PortFabric.maxLanes)
    (text "a lane mode entry is outside the legal lane range") <|
  require (capabilities.fecModes.all FecMode.isValid)
    (text "a FEC mode entry is not a legal value") <|
  require (capabilities.autonegModes.all AutonegPolicy.isValid)
    (text "an autonegotiation entry is not a legal value") <|
  require (capabilities.pauseModes.all PauseMode.isValid)
    (text "a pause mode entry is not a legal value") <|
  require (capabilities.protocolFamilies.all ProtocolFamily.isValid)
    (text "a protocol family entry is not a legal value") <|
  require capabilities.duplex.isValid
    (text "duplex evidence is not a legal value") <|
  refuseIf (capabilities.capabilityMtuMin > capabilities.capabilityMtuMax)
    (text "capability MTU bounds are inverted") <|
  refuseIf (capabilities.capabilityMtuMax.toNat > PortFabric.maxMtu)
    (text "capability MTU bound exceeds the runtime bound") <|
  refuseIf (capabilities.maxBreakoutChildren.toNat > PortFabric.maxBreakoutChildren)
    (text "breakout bound exceeds the configured bound") <|
  refuseIf (capabilities.maxQueueCount.toNat > PortFabric.maxQueueCount)
    (text "queue count bound exceeds the configured bound") <|
  within (validateText capabilities.transceiverClass maxNameLength)
    (text "transceiver class: " ++ ·) <|
  .ok ()

def supportsSpeed (capabilities : PortCapabilities) (speed : PortSpeed) : Bool :=
  if !speed.valid || capabilities.certainty = .unknown then false
  else capabilities.supportedSpeeds.contains speed

def supportsLanes (capabilities : PortCapabilities) (lanes : Nat) : Bool :=
  if lanes = 0 || capabilities.certainty = .unknown then false
  else if capabilities.maxLanes ≠ 0 && lanes > capabilities.maxLanes.toNat then false
  else if capabilities.laneModes.isEmpty then capabilities.maxLanes = 0 && lanes = 1
  else capabilities.laneModes.any fun mode => mode.toNat = lanes

def supportsFec (capabilities : PortCapabilities) (mode : FecMode) : Bool :=
  if capabilities.certainty = .unknown || mode = .unknown then false
  else capabilities.fecModes.contains mode

def supportsAutoneg (capabilities : PortCapabilities) (policy : AutonegPolicy) : Bool :=
  if capabilities.certainty = .unknown || policy = .unknown then false
  else capabilities.autonegModes.contains policy

def supportsPause (capabilities : PortCapabilities) (mode : PauseMode) : Bool :=
  if capabilities.certainty = .unknown || mode = .unknown then false
  else capabilities.pauseModes.contains mode

def supportsProtocol (capabilities : PortCapabilities) (family : ProtocolFamily) : Bool :=
  if capabilities.certainty = .unknown || family = .unknown then false
  else capabilities.protocolFamilies.contains family

def toText (capabilities : PortCapabilities) : Text :=
  text "certainty=" ++ capabilities.certainty.toText ++
  text " speeds=" ++ renderList PortSpeed.toText capabilities.supportedSpeeds ++
  text " lanes=" ++ renderList (fun lanes => formatU64 lanes.toNat) capabilities.laneModes ++
  text " max_lanes=" ++ formatU64 capabilities.maxLanes.toNat ++
  text " breakout=" ++ formatBool capabilities.breakoutSupported ++
  text " fec=" ++ renderList FecMode.toText capabilities.fecModes ++
  text " mtu=" ++ formatU64 capabilities.capabilityMtuMin.toNat ++
  text "-" ++ formatU64 capabilities.capabilityMtuMax.toNat ++
  text " protocols=" ++ renderList ProtocolFamily.toText capabilities.protocolFamilies

end PortCapabilities

structure CapabilityBinding where
  capabilities : PortCapabilities := {}
  generation : CapabilityBindingGeneration := .null
  evidenceGeneration : EvidenceGeneration := .null
  evidence : EvidenceId := .null
  source : Text := []
  present : Bool := false
  deriving DecidableEq

def CapabilityBinding.valid (binding : CapabilityBinding) : Bool :=
  !binding.present || (binding.generation.valid && binding.evidenceGeneration.valid)

/-- Why a configuration is not supported by the evidence. -/
structure CapabilityRejection where
  code : OutcomeCode
  reason : Text
  detail : Text
  deriving DecidableEq

end PortFabric
