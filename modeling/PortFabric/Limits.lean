import Mathlib.Data.List.Basic

/-!
# Bounds

Every container, string and count of the runtime is bounded by one of these
constants.
-/

set_option autoImplicit false

namespace PortFabric

def maxIdentifierLength : Nat := 128
def maxNameLength : Nat := 128
def maxDescriptionLength : Nat := 1024
def maxCapabilityEntries : Nat := 64
def maxModeEntries : Nat := 32
def maxProfiles : Nat := 65536
def maxProfileGenerations : Nat := 64
def maxPublishers : Nat := 65536
def maxPersistedRecords : Nat := 1000000
def maxDevices : Nat := 262144
def maxOutcomeDetails : Nat := 32
def maxQueueCount : Nat := 4096
def maxSpeedBitsPerSecond : Nat := 1600000000000
def minSpeedBitsPerSecond : Nat := 1000000
def maxLanes : Nat := 16
def maxMtu : Nat := 65536
def minMtu : Nat := 68
def maxBreakoutChildren : Nat := 8
def maxPorts : Nat := 1000000
def maxSnapshotPorts : Nat := 1000000
def maxQueryTextBytes : Nat := 8192
def maxExplanationReasons : Nat := 64
def maxFrameBytes : Nat := 1048576
def maxPersistenceBytes : Nat := 536870912

def maxU64 : Nat := 0xffffffffffffffff

end PortFabric
