import PortFabric.Engine.State
import Mathlib.Data.List.Sort

/-!
# Queries

The queries that answer from the indexes, as lists of ports.
-/

set_option autoImplicit false

namespace PortFabric

/-- The ports grouped under the key, in the order of the set. -/
def collect {κ : Type} [Ord κ] [Std.TransOrd κ] (index : PortIndex κ) (key : κ) : List PortId :=
  match index[key]? with
  | none => []
  | some ports => ports.toList

def portBefore (lhs rhs : PortId) : Prop :=
  (compare lhs rhs).isLE

instance (lhs rhs : PortId) : Decidable (portBefore lhs rhs) :=
  inferInstanceAs (Decidable ((compare lhs rhs).isLE = true))

instance : Std.Total portBefore where
  total lhs rhs := by
    have swapped : compare rhs lhs = (compare lhs rhs).swap := Std.OrientedOrd.eq_swap
    rw [portBefore, portBefore, swapped]
    cases compare lhs rhs <;> simp

instance : IsTrans PortId portBefore where
  trans _ _ _ := Std.TransCmp.isLE_trans

/-- `std::unique`: of equal neighbours one is kept. -/
def uniqueNeighbours : List PortId → List PortId
  | first :: second :: rest =>
      if first = second then uniqueNeighbours (second :: rest)
      else first :: uniqueNeighbours (second :: rest)
  | short => short

namespace PortFabricEngine

variable (impl : EngineImpl)

def portsOfDevice (device : DeviceId) : List PortId :=
  collect impl.indexes.byDevice device

def portsWithLifecycle (state : PortLifecycle) : List PortId :=
  collect impl.indexes.byLifecycle state

def portsWithAdministrativeState (state : AdministrativeState) : List PortId :=
  collect impl.indexes.byAdministrative state

/-- The indexed ports and the drifted ones that are not indexed, sorted and without repetition. -/
def portsRequiringRevalidation : List PortId :=
  let required := impl.indexes.revalidationRequired
  let drifted := (impl.records.toList.map Prod.snd).filter fun record =>
    record.drift = .revalidationRequired && !required.contains record.port
  uniqueNeighbours
    ((required.toList ++ drifted.map PortRecord.port).insertionSort portBefore)

def portsOfOwner (owner : OwnerId) : List PortId :=
  collect impl.indexes.byOwner owner

def portsByProfile (profile : PortProfileId) : List PortId :=
  collect impl.indexes.byProfile profile

def portsOfAggregate (aggregate : AggregateId) : List PortId :=
  collect impl.indexes.byAggregate aggregate

def derivedPorts (parent : PortId) : List PortId :=
  collect impl.indexes.derivedFromIndex parent

end PortFabricEngine

end PortFabric
