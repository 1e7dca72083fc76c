import PortFabric.Engine.Fixture
import PortFabric.Engine.IndexContents
import PortFabric.Engine.Views

/-!
# Digests of record sets

The digest of a set of records does not depend on the order in which they are
listed: records with different ports have one order by port, and the digest is
taken in that order. So a reachable state of the engine has the digest of the
records it holds, whichever way they were inserted and are iterated.
-/

set_option autoImplicit false

namespace PortFabric

instance : Std.Total recordBefore where
  total lhs rhs := Std.Total.total (r := portBefore) lhs.port rhs.port

instance : IsTrans PortRecord recordBefore where
  trans _ _ _ lower upper := IsTrans.trans (r := portBefore) _ _ _ lower upper

theorem portBefore_antisymm {lhs rhs : PortId} (lower : portBefore lhs rhs)
    (upper : portBefore rhs lhs) : lhs = rhs :=
  Std.LawfulEqCmp.eq_of_compare (Std.OrientedCmp.isLE_antisymm lower upper)

/-- Records with different ports are listed in one order by port. -/
theorem insertionSort_perm {records other : List PortRecord}
    (distinct : (records.map PortRecord.port).Nodup) (same : records.Perm other) :
    records.insertionSort recordBefore = other.insertionSort recordBefore := by
  have listed : (records.insertionSort recordBefore).Perm (other.insertionSort recordBefore) :=
    (List.perm_insertionSort _ _).trans (same.trans (List.perm_insertionSort _ _).symm)
  refine listed.eq_of_pairwise ?_ (List.pairwise_insertionSort _ _)
    (List.pairwise_insertionSort _ _)
  intro first second here there lower upper
  have stored : first ∈ records := (List.mem_insertionSort _).mp here
  have kept : second ∈ records := same.mem_iff.mpr ((List.mem_insertionSort _).mp there)
  exact List.inj_on_of_nodup_map distinct stored kept (portBefore_antisymm lower upper)

theorem digestRecords_perm {records other : List PortRecord}
    (distinct : (records.map PortRecord.port).Nodup) (same : records.Perm other) :
    digestRecords records = digestRecords other := by
  rw [digestRecords, digestRecords, insertionSort_perm distinct same]

/-- The digest of a state is the digest of its records, in any order. -/
theorem PortFabricEngine.stateDigest_eq {impl : EngineImpl} (own : impl.OwnPorts)
    {records : List PortRecord} (distinct : (records.map PortRecord.port).Nodup)
    (held : ∀ record, record ∈ records ↔ impl.records[record.port]? = some record) :
    stateDigest impl = digestRecords records := by
  have apart : ((impl.records.toList.map Prod.snd).map PortRecord.port).Nodup :=
    List.pairwise_map.mpr own.apart
  refine digestRecords_perm apart ?_
  refine (List.perm_ext_iff_of_nodup (.of_map _ apart) (.of_map _ distinct)).mpr ?_
  intro record
  rw [own.mem_values, held]

/--
Records with different ports have one digest in every order, and it is the state
digest of every reachable engine that holds exactly these records.
-/
theorem record_sets_digested {records other : List PortRecord}
    (distinct : (records.map PortRecord.port).Nodup) (same : records.Perm other) :
    digestRecords records = digestRecords other ∧
      ∀ (runtime : Runtime) (operations : List Operation),
        (∀ record, record ∈ records ↔
          (EngineImpl.after runtime operations).records[record.port]? = some record) →
        PortFabricEngine.stateDigest (EngineImpl.after runtime operations) =
          digestRecords other := by
  refine ⟨digestRecords_perm distinct same, ?_⟩
  intro runtime operations held
  rw [PortFabricEngine.stateDigest_eq (after_keyed runtime operations) distinct held]
  exact digestRecords_perm distinct same

namespace RecordSets

def unconfigured (port : PortId) : PortRecord where
  port
  parentDevice := Fixture.device

set_option maxRecDepth 100000 in
/-- Two ports whose identities differ in their last component only. -/
theorem two_ports_digested :
    digestRecords [unconfigured "sw1-p1", unconfigured "sw1-p10"] =
      digestRecords [unconfigured "sw1-p10", unconfigured "sw1-p1"] :=
  (record_sets_digested (by decide +kernel) (.swap _ _ [])).1

end RecordSets

end PortFabric
