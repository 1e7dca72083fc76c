import PortFabric.Library.OrderedMap
import PortFabric.Persistence

/-!
# Engine state

The runtime configuration and the state it governs: the records, their indexes,
the profiles and the authority tables.
-/

set_option autoImplicit false

namespace PortFabric

inductive AdapterPolicy where
  | desiredStateOnly | apply | applyAndVerify
  deriving DecidableEq, Repr

inductive PublisherRegistration where
  | automatic | explicit
  deriving DecidableEq, Repr

inductive PersistenceMode where
  | manual | automatic
  deriving DecidableEq, Repr

structure EngineConfig where
  fabric : FabricId := .null
  site : SiteId := .null
  coordinator : PublisherId
  epoch : CoordinatorEpoch
  persistencePath : Text := []
  persistence : PersistenceMode := .manual
  adapterPolicy : AdapterPolicy := .desiredStateOnly
  requireOwnership : Bool := true
  publisherRegistration : PublisherRegistration := .automatic
  portBound : Nat := maxPorts
  deviceBound : Nat := maxDevices
  deriving DecidableEq

open Checks in
def EngineConfig.valid (config : EngineConfig) : Except Text Unit :=
  require config.coordinator.valid (text "the coordinator identity is missing") <|
  require config.epoch.valid (text "the coordinator epoch is missing") <|
  refuseIf (config.persistence = .automatic && config.persistencePath.isEmpty)
    (text "automatic persistence requires a container path") <|
  refuseIf (config.portBound = 0 || config.portBound > maxPorts)
    (text "the port bound must be between 1 and the configured maximum") <|
  refuseIf (config.deviceBound = 0 || config.deviceBound > maxDevices)
    (text "the device bound must be between 1 and the configured maximum") <|
  .ok ()

/-- An invalid configuration keeps running with zero bounds. -/
def EngineConfig.governed (config : EngineConfig) : EngineConfig :=
  match config.valid with
  | .ok () => config
  | .error _ => { config with portBound := 0, deviceBound := 0 }

/-- What does not change while the engine runs. -/
structure Runtime where
  config : EngineConfig
  /-- A capability provider is configured. -/
  capabilityProvider : Bool := false
  /-- The label of the configured adapter. -/
  adapter : Option Text := none
  deriving DecidableEq

instance : Ord PortLifecycle := ⟨compareOn PortLifecycle.byte⟩

instance : Std.TransOrd PortLifecycle := inferInstanceAs (Std.TransCmp (compareOn _))

theorem PortLifecycle.byte_injective : Function.Injective PortLifecycle.byte := by
  intro first second same
  cases first <;> cases second <;> first | rfl | exact absurd same (by decide)

instance : Std.LawfulEqOrd PortLifecycle where
  compare_self := @Std.ReflCmp.compare_self _ (compareOn PortLifecycle.byte) _
  eq_of_compare := fun same =>
    PortLifecycle.byte_injective (@Std.LawfulEqCmp.eq_of_compare _ compare _ _ _ same)

instance : Ord AdministrativeState := ⟨compareOn AdministrativeState.byte⟩

instance : Std.TransOrd AdministrativeState := inferInstanceAs (Std.TransCmp (compareOn _))

theorem AdministrativeState.byte_injective : Function.Injective AdministrativeState.byte := by
  intro first second same
  cases first <;> cases second <;> simp only [byte] at same <;>
    first
    | rfl
    | omega
    | exact congrArg illegal (Fin.ext (by omega))

instance : Std.LawfulEqOrd AdministrativeState where
  compare_self := @Std.ReflCmp.compare_self _ (compareOn AdministrativeState.byte) _
  eq_of_compare := fun same =>
    AdministrativeState.byte_injective (@Std.LawfulEqCmp.eq_of_compare _ compare _ _ _ same)

abbrev PortSet := Std.ExtTreeSet PortId

/-- Ports grouped under a key; a key without ports is absent. -/
abbrev PortIndex (κ : Type) [Ord κ] := Std.ExtTreeMap κ PortSet

namespace PortIndex

variable {κ : Type} [Ord κ] [Std.TransOrd κ]

def add (index : PortIndex κ) (key : κ) (port : PortId) : PortIndex κ :=
  Std.ExtTreeMap.insert index key ((index[key]?.getD ∅).insert port)

def remove (index : PortIndex κ) (key : κ) (port : PortId) : PortIndex κ :=
  match index[key]? with
  | none => index
  | some ports =>
      if (ports.erase port).isEmpty then
        Std.ExtTreeMap.erase index key
      else
        Std.ExtTreeMap.insert index key (ports.erase port)

end PortIndex

structure PortIndexes where
  byDevice : PortIndex DeviceId := ∅
  byLifecycle : PortIndex PortLifecycle := ∅
  byAdministrative : PortIndex AdministrativeState := ∅
  byOwner : PortIndex OwnerId := ∅
  byProfile : PortIndex PortProfileId := ∅
  byAggregate : PortIndex AggregateId := ∅
  derivedFromIndex : PortIndex PortId := ∅
  revalidationRequired : PortSet := ∅

namespace PortIndexes

/-- Applies `change` to every index entry the record has. -/
def touch (indexes : PortIndexes) (record : PortRecord)
    (change : ∀ {κ : Type} [Ord κ] [Std.TransOrd κ], PortIndex κ → κ → PortIndex κ) :
    PortIndexes where
  byDevice := change indexes.byDevice record.parentDevice
  byLifecycle := change indexes.byLifecycle record.lifecycle
  byAdministrative :=
    match record.configuration with
    | some configuration => change indexes.byAdministrative configuration.administrative
    | none => indexes.byAdministrative
  byOwner :=
    match record.ownership with
    | some ownership => change indexes.byOwner ownership.owner
    | none => indexes.byOwner
  byProfile :=
    match record.configuration with
    | some configuration =>
        if configuration.profile.bound then change indexes.byProfile configuration.profile.id
        else indexes.byProfile
    | none => indexes.byProfile
  byAggregate :=
    match record.configuration with
    | some configuration =>
        if configuration.aggregation.member then
          change indexes.byAggregate configuration.aggregation.aggregate
        else indexes.byAggregate
    | none => indexes.byAggregate
  derivedFromIndex :=
    match record.configuration with
    | some configuration =>
        if configuration.derivedFrom.valid then
          change indexes.derivedFromIndex configuration.derivedFrom
        else indexes.derivedFromIndex
    | none => indexes.derivedFromIndex
  revalidationRequired := indexes.revalidationRequired

def indexAdd (indexes : PortIndexes) (record : PortRecord) : PortIndexes :=
  let touched := indexes.touch record fun index key => index.add key record.port
  { touched with
    revalidationRequired :=
      if record.lifecycle = .revalidationRequired then
        indexes.revalidationRequired.insert record.port
      else indexes.revalidationRequired }

def indexRemove (indexes : PortIndexes) (record : PortRecord) : PortIndexes :=
  let touched := indexes.touch record fun index key => index.remove key record.port
  { touched with revalidationRequired := indexes.revalidationRequired.erase record.port }

def indexUpdate (indexes : PortIndexes) (before after : PortRecord) : PortIndexes :=
  (indexes.indexRemove before).indexAdd after

def reindexAll (records : List PortRecord) : PortIndexes :=
  records.foldl indexAdd {}

end PortIndexes

abbrev RecordMap := Std.ExtTreeMap PortId PortRecord

structure EngineImpl where
  records : RecordMap := ∅
  indexes : PortIndexes := {}
  generation : EngineGeneration := .null
  profiles : ProfileRegistry := ∅
  epoch : CoordinatorEpoch
  /-- The baseline structural context is topology generation 1. -/
  topology : TopologyGeneration := .first
  publishers : Std.ExtTreeMap PublisherId PublisherRecord := ∅
  devices : Std.ExtTreeMap DeviceId DeviceBinding := ∅
  durabilityDirty : Bool := false
  shuttingDown : Bool := false

def EngineImpl.initial (config : EngineConfig) : EngineImpl where
  epoch := config.epoch

/-- The engine a caller constructs: an invalid configuration is governed, not refused. -/
def PortFabricEngine.construct (config : EngineConfig) (capabilityProvider : Bool)
    (adapter : Option Text) : Runtime × EngineImpl :=
  ({ config := config.governed, capabilityProvider, adapter }, .initial config)

end PortFabric
