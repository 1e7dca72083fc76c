import PortFabric.Adapter
import PortFabric.Capability
import PortFabric.Library.IndexedLists

/-!
# Synthetic fabric

The inventory of synthetic ports that the coordinator runs on, the capability
evidence it hands out, and the adapter that keeps the state of its devices.
-/

set_option autoImplicit false

namespace PortFabric

inductive SyntheticPortClass where
  | management1G | access1G | server10G | server25G | uplink40G | uplink50G | uplink100G
  | spine200G | spine400G | backbone800G | optical400G | infiniBandHdr200G
  | illegal (raw : Fin 244)
  deriving DecidableEq, Repr

def SyntheticPortClass.toText : SyntheticPortClass → Text
  | management1G => "MANAGEMENT_1G"
  | access1G => "ACCESS_1G"
  | server10G => "SERVER_10G"
  | server25G => "SERVER_25G"
  | uplink40G => "UPLINK_40G"
  | uplink50G => "UPLINK_50G"
  | uplink100G => "UPLINK_100G"
  | spine200G => "SPINE_200G"
  | spine400G => "SPINE_400G"
  | backbone800G => "BACKBONE_800G"
  | optical400G => "OPTICAL_400G"
  | infiniBandHdr200G => "INFINIBAND_HDR_200G"
  | illegal _ => "UNKNOWN"

structure ClassModel where
  portClass : SyntheticPortClass
  rate : Nat
  breakout : Bool := false
  infiniBand : Bool := false
  optical : Bool := false

/-- `kModels`, without the columns that nothing reads. -/
def classModels : List ClassModel :=
  [ { portClass := .management1G, rate := 1000000000 },
    { portClass := .access1G, rate := 1000000000 },
    { portClass := .server10G, rate := 10000000000 },
    { portClass := .server25G, rate := 25000000000 },
    { portClass := .uplink40G, rate := 40000000000, breakout := true },
    { portClass := .uplink50G, rate := 50000000000, breakout := true },
    { portClass := .uplink100G, rate := 100000000000, breakout := true },
    { portClass := .spine200G, rate := 200000000000, breakout := true },
    { portClass := .spine400G, rate := 400000000000, breakout := true },
    { portClass := .backbone800G, rate := 800000000000, breakout := true },
    { portClass := .optical400G, rate := 400000000000, optical := true },
    { portClass := .infiniBandHdr200G, rate := 200000000000, infiniBand := true } ]

def modelFor (portClass : SyntheticPortClass) : Option ClassModel :=
  classModels.find? fun model => model.portClass = portClass

def parseSyntheticClass (value : Text) : Option SyntheticPortClass :=
  (classModels.find? fun model => model.portClass.toText = value).map ClassModel.portClass

inductive SyntheticFault where
  | none | permissionDenied | deviceDisappeared | deviceReplaced | unsupportedParameter
  | partialApply | failedVerification | staleHandle | concurrentExternalChange | adapterCrash
  | transportFailure
  | illegal (raw : Fin 245)
  deriving DecidableEq, Repr

structure SyntheticPortDefinition where
  port : PortId := .null
  device : DeviceId := .null
  entityClass : PortEntityClass := .syntheticPort
  capabilities : PortCapabilities := {}
  deriving DecidableEq

def speed (bits : Nat) : PortSpeed :=
  (PortSpeed.fromBitsPerSecond bits).getD .unspecified

/-- The capability model of a class; a class without a model has no capabilities. -/
def capabilitiesFor (portClass : SyntheticPortClass) : PortCapabilities :=
  match modelFor portClass with
  | none => {}
  | some model =>
      let transceiverRequired : Bool := model.rate ≥ 25000000000
      { certainty := .known
        supportedSpeeds := [speed model.rate, speed (model.rate / 2)]
        maxLanes := UInt32.ofNat PortFabric.maxLanes
        laneModes := [1, 2, 4, 8]
        breakoutSupported := model.breakout
        maxBreakoutChildren := if model.breakout then 4 else 1
        fecModes :=
          [.none, .firecode, .reedSolomon528, .reedSolomon544, .reedSolomon544Interleaved]
        autonegModes := [.forced, .preferred, .negotiated]
        pauseModes := [.disabled, .transmit, .receive, .bidirectional]
        protocolFamilies :=
          (if model.infiniBand then .infiniBand else .ethernet) ::
            ((if model.optical then [.opticalTransport] else []) ++ [.synthetic])
        capabilityMtuMin := 1280
        capabilityMtuMax := if model.infiniBand then 4096 else 9216
        duplex := .full
        logicalInterfaceSupported := true
        maxQueueCount := 256
        transceiverRequired
        transceiverClass := if transceiverRequired then "synthetic-optics" else [] }

def maxPortsPerDevice : Nat := 4096

def composeSyntheticIdentity (deviceText : Text) (index : Nat) : Text :=
  let digits := formatU64 index
  let padding := if digits.length < 2 then text "0" else []
  truncate (deviceText ++ text "-p" ++ padding ++ digits) maxIdentifierLength

structure SyntheticFabric where
  name : Text
  ports : List SyntheticPortDefinition := []
  index : Std.ExtTreeMap PortId Nat := ∅
  devices : Std.ExtTreeMap DeviceId Nat := ∅
  faults : Std.ExtTreeMap PortId SyntheticFault := ∅
  observedConfigurations : Std.ExtTreeMap PortId PortConfiguration := ∅
  globalFault : SyntheticFault := .none
  capabilityGeneration : CapabilityBindingGeneration := .first

namespace SyntheticFabric

variable (fabric : SyntheticFabric)

/-- The inventory is read at the position in the index without a test. -/
def find (port : PortId) : Option SyntheticPortDefinition :=
  IndexedList.lookup fabric.index fabric.ports port

def addPort (definition : SyntheticPortDefinition) : SyntheticFabric :=
  if !definition.port.valid then
    fabric
  else
    match fabric.index[definition.port]? with
    | some place => { fabric with ports := fabric.ports.set place definition }
    | none =>
        { fabric with
          index := fabric.index.insert definition.port fabric.ports.length
          ports := fabric.ports ++ [definition]
          devices := fabric.devices.insert definition.device
            ((fabric.devices[definition.device]?).getD 0 + 1) }

/-- One turn of the loop of `add_device`. -/
def addGenerated (device : DeviceId) (portClass : SyntheticPortClass)
    (entityClass : PortEntityClass) (fabric : SyntheticFabric) (index : Nat) : SyntheticFabric :=
  let port : PortId := .fromValidated (composeSyntheticIdentity device.value index)
  if !port.valid then fabric
  else fabric.addPort { port, device, entityClass, capabilities := capabilitiesFor portClass }

/-- A count of zero or above the bound is taken as one. -/
def portsOf (portCount : UInt32) : Nat :=
  if portCount = 0 ∨ portCount.toNat > maxPortsPerDevice then 1 else portCount.toNat

def deviceFor (deviceLabel : Text) : DeviceId :=
  .fromValidated (text "syn-" ++ deviceLabel)

def addDevice (deviceLabel : Text) (portClass : SyntheticPortClass) (portCount : UInt32)
    (entityClass : PortEntityClass) : SyntheticFabric × DeviceId :=
  let count := portsOf portCount
  let device := deviceFor deviceLabel
  if !device.valid then
    (fabric, .null)
  else
    let counted := { fabric with devices := fabric.devices.insert device count }
    ((List.range' 1 count).foldl (addGenerated device portClass entityClass) counted, device)

def childPort (parent : PortId) (index : Nat) : PortId :=
  .fromValidated (parent.value ++ text "-b" ++ formatU64 index)

/-- One turn of the loop of `add_breakout_children`. -/
def addChild (parent : SyntheticPortDefinition) (origin : PortId)
    (state : SyntheticFabric × List PortId) (index : Nat) : SyntheticFabric × List PortId :=
  let child := { parent with port := childPort origin index, entityClass := .logicalPort }
  if !child.port.valid then state else (state.1.addPort child, state.2 ++ [child.port])

def addBreakoutChildren (parent : PortId) (children : UInt32) : SyntheticFabric × List PortId :=
  match fabric.find parent with
  | none => (fabric, [])
  | some definition =>
      if children < 2 ∨ children.toNat > maxBreakoutChildren then
        (fabric, [])
      else
        (List.range' 1 children.toNat).foldl (addChild definition parent) (fabric, [])

def portCount : Nat :=
  fabric.ports.length

def deviceCount : Nat :=
  fabric.devices.size

def bindingFor (port : PortId) : Option CapabilityBinding :=
  (fabric.find port).map fun definition =>
    { present := true
      capabilities := definition.capabilities
      generation := fabric.capabilityGeneration
      evidenceGeneration :=
        ⟨fabric.capabilityGeneration.value, fabric.capabilityGeneration.bounded⟩
      source := fabric.name
      evidence := .fromValidated (text "syn-evidence-" ++ port.value) }

def setFault (port : PortId) (fault : SyntheticFault) : SyntheticFabric :=
  { fabric with faults := fabric.faults.insert port fault }

def setGlobalFault (fault : SyntheticFault) : SyntheticFabric :=
  { fabric with globalFault := fault }

def clearFaults : SyntheticFabric :=
  { fabric with faults := ∅, globalFault := .none }

def faultFor (port : PortId) : SyntheticFault :=
  (fabric.faults[port]?).getD fabric.globalFault

/-- The port is looked for along the inventory, not in the index. -/
def setObservedConfiguration (port : PortId) (configuration : PortConfiguration) :
    SyntheticFabric × Bool :=
  if fabric.ports.any fun definition => definition.port = port then
    ({ fabric with
        observedConfigurations := fabric.observedConfigurations.insert port configuration }, true)
  else
    (fabric, false)

def observedConfigurationFor (port : PortId) : Option PortConfiguration :=
  fabric.observedConfigurations[port]?

def clearObservedConfiguration (port : PortId) : SyntheticFabric :=
  { fabric with observedConfigurations := fabric.observedConfigurations.erase port }

def advanceCapabilityGeneration : SyntheticFabric :=
  { fabric with capabilityGeneration := fabric.capabilityGeneration.next }

end SyntheticFabric

/-- A call that changes the fabric. -/
inductive SyntheticChange where
  | addDevice (deviceLabel : Text) (portClass : SyntheticPortClass) (portCount : UInt32)
      (entityClass : PortEntityClass)
  | addPort (definition : SyntheticPortDefinition)
  | addBreakoutChildren (parent : PortId) (children : UInt32)
  | setFault (port : PortId) (fault : SyntheticFault)
  | setGlobalFault (fault : SyntheticFault)
  | clearFaults
  | setObservedConfiguration (port : PortId) (configuration : PortConfiguration)
  | clearObservedConfiguration (port : PortId)
  | advanceCapabilityGeneration

def SyntheticFabric.change (fabric : SyntheticFabric) : SyntheticChange → SyntheticFabric
  | .addDevice deviceLabel portClass portCount entityClass =>
      (fabric.addDevice deviceLabel portClass portCount entityClass).1
  | .addPort definition => fabric.addPort definition
  | .addBreakoutChildren parent children => (fabric.addBreakoutChildren parent children).1
  | .setFault port fault => fabric.setFault port fault
  | .setGlobalFault fault => fabric.setGlobalFault fault
  | .clearFaults => fabric.clearFaults
  | .setObservedConfiguration port configuration =>
      (fabric.setObservedConfiguration port configuration).1
  | .clearObservedConfiguration port => fabric.clearObservedConfiguration port
  | .advanceCapabilityGeneration => fabric.advanceCapabilityGeneration

/-- What a readback answers, with the configuration it observed. -/
structure SyntheticReadback extends AdapterReadback where
  observed : PortConfiguration := {}
  deriving DecidableEq

/-- The configuration that each synthetic device holds, and the calls that were completed. -/
structure SyntheticAdapter where
  observed : Std.ExtTreeMap PortId PortConfiguration := ∅
  applies : UInt64 := 0
  readbacks : UInt64 := 0

namespace SyntheticAdapter

variable (adapter : SyntheticAdapter) (fabric : SyntheticFabric) (port : PortId)

def applyFault : SyntheticFault → Option AdapterApplyResult
  | .none | .illegal _ => none
  | .permissionDenied =>
      some { status := .failed, detail := "permission denied by the synthetic device" }
  | .deviceDisappeared =>
      some { status := .failed, detail := "the synthetic device disappeared" }
  | .deviceReplaced =>
      some
        { status := .outcomeUnknown
          detail := "the synthetic device was replaced while the request was in flight" }
  | .unsupportedParameter =>
      some
        { status := .failed
          detail := "the synthetic device rejected an unsupported parameter" }
  | .partialApply =>
      some
        { status := .failed
          detail := "the synthetic device applied part of the configuration only" }
  | .failedVerification =>
      -- Reported as applied, although the device keeps what it held.
      some
        { status := .applied
          detail := "the synthetic device accepted the configuration but verification failed" }
  | .staleHandle =>
      some { status := .failed, detail := "the synthetic device handle is stale" }
  | .concurrentExternalChange =>
      some
        { status := .outcomeUnknown
          detail := "a concurrent external change made the apply outcome ambiguous" }
  | .adapterCrash =>
      some { status := .outcomeUnknown, detail := "the synthetic adapter crashed mid apply" }
  | .transportFailure =>
      some
        { status := .outcomeUnknown
          detail := "the synthetic control transport failed before completion" }

def apply (configuration : PortConfiguration) : SyntheticAdapter × AdapterApplyResult :=
  let counted := { adapter with applies := adapter.applies + 1 }
  match applyFault (fabric.faultFor port) with
  | some result => (counted, result)
  | none =>
      ({ counted with observed := adapter.observed.insert port configuration },
        { status := .applied, detail := "the synthetic device accepted the configuration" })

def readbackFault : SyntheticFault → Option SyntheticReadback
  | .deviceDisappeared | .staleHandle | .adapterCrash | .transportFailure
  | .concurrentExternalChange | .deviceReplaced =>
      some { status := .unknown, detail := "the synthetic device could not be read back" }
  | .failedVerification | .partialApply =>
      some
        { status := .mismatch
          detail := "the synthetic device state does not match the request" }
  | _ => none

def readback : SyntheticAdapter × SyntheticReadback :=
  let counted := { adapter with readbacks := adapter.readbacks + 1 }
  let answer : SyntheticReadback :=
    match readbackFault (fabric.faultFor port) with
    | some answer => answer
    | none =>
        match adapter.observed[port]? with
        | none =>
            { status := .unknown
              detail := "the synthetic device holds no configuration for this port" }
        | some held =>
            match fabric.observedConfigurationFor port with
            | some external =>
                { status := .mismatch, observed := external
                  detail := "the synthetic device state differs from the request" }
            | none =>
                { status := .verified, observed := held
                  detail := "the synthetic device matches the request" }
  (counted, answer)

end SyntheticAdapter

end PortFabric
