import PortFabric.Engine.Interleaving

/-!
# Durability

Interleaved mutations with automatic persistence. Gathering the state, taking
the persistence lock and replacing the container are steps of their own.
-/

set_option autoImplicit false

namespace PortFabric

/-- A committed record, as the latest of the versions its port had when it was committed. -/
structure CommitStamp where
  port : PortId
  versions : List PortRecord
  generation : EngineGeneration

/-- The interleaved system with the container and the threads that write it. -/
structure DurableSystem where
  system : System
  /-- The images the threads have gathered and not yet written. -/
  images : Nat → Option PersistedState := fun _ => none
  /-- The thread that holds the persistence lock. -/
  holder : Option Nat := none
  /-- The containers that have been at the path, the current one first. -/
  written : List PersistedState := []
  /-- The records each port has had, the current one first. -/
  versions : PortId → List PortRecord
  /-- The commits of the threads, whether or not their calls have returned. -/
  stamps : Nat → Option CommitStamp := fun _ => none
  /-- The commits whose calls have returned `Ok`. -/
  acknowledged : List CommitStamp := []

inductive DurableAction where
  /-- A step of the interleaved system; what a call writes, it writes in steps of its own. -/
  | act (action : Action)
  /-- A thread gathers the state: its call persists, or it saves. -/
  | gather (thread : Nat)
  /-- The thread takes the persistence lock. -/
  | lock (thread : Nat)
  /-- The holder of the lock replaces the container and returns. -/
  | write (thread : Nat) (store : StoreAnswers)

/-- The operation writes the container or recovers one. -/
def Operation.reachesStore : Operation → Bool
  | .save _ => true
  | .load _ => true
  | _ => false

/-- The call has changed the engine and persists next. -/
def Flight.persists : Flight → Bool
  | .persist _ _ => true
  | _ => false

/-- The thread of a call that committed its mutation. -/
def Flight.committed? : Flight → Option Mutation
  | .persist mutation (.committed _) => some mutation
  | _ => none

namespace DurableSystem

variable (runtime : Runtime) (durable : DurableSystem)

def disk : Option PersistedState := durable.written.head?

def initial (impl : EngineImpl) (disk : Option PersistedState) : DurableSystem where
  system := { engine := impl }
  written := disk.toList
  versions port := impl.records[port]?.toList

def extend (current : Option PortRecord) (versions : List PortRecord) : List PortRecord :=
  match current with
  | none => versions
  | some record => if versions.head? = some record then versions else record :: versions

def withSystem (after : System) : DurableSystem :=
  { durable with
    system := after
    versions := fun port => extend after.engine.records[port]? (durable.versions port) }

def stampCommit (thread : Nat) : DurableSystem :=
  match (durable.system.flights thread).bind Flight.committed? with
  | none => durable
  | some mutation =>
      { durable with
        stamps := fun other =>
          if other = thread then
            some
              { port := mutation.port
                versions := durable.versions mutation.port
                generation := durable.system.engine.generation }
          else durable.stamps other }

def act (action : Action) : DurableSystem :=
  match action with
  | .operate operation =>
      if operation.reachesStore then durable
      else durable.withSystem (durable.system.step runtime (.operate operation))
  | .start thread mutation =>
      if (durable.images thread).isSome then durable
      else durable.withSystem (durable.system.step runtime (.start thread mutation))
  | .advance thread answers =>
      if (durable.system.flights thread).any Flight.persists then durable
      else (durable.withSystem
        (durable.system.step runtime (.advance thread answers))).stampCommit thread

/-- A thread in a mutation gathers when it persists; one in no mutation may save or bind. -/
def gather (thread : Nat) : DurableSystem :=
  if (durable.images thread).isNone ∧ (durable.system.flights thread).all Flight.persists then
    { durable with
      images := fun other =>
        if other = thread then some (durable.system.engine.gatherState runtime.config)
        else durable.images other }
  else durable

def lock (thread : Nat) : DurableSystem :=
  if durable.holder.isNone ∧ (durable.images thread).isSome then
    { durable with holder := some thread }
  else durable

/-- The holder of the lock has written its image, or failed to, and releases the lock. -/
def replace (thread : Nat) (image : PersistedState) (outcome : Outcome) : DurableSystem :=
  { durable with
    images := fun other => if other = thread then none else durable.images other
    holder := none
    written := if outcome.isOk then image :: durable.written else durable.written
    system :=
      { durable.system with
        engine := { durable.system.engine with durabilityDirty := !outcome.isOk } } }

def complete (thread : Nat) (outcome : Outcome) : DurableSystem :=
  { durable with
    system := durable.system.withFlight thread none
    stamps := fun other => if other = thread then none else durable.stamps other
    acknowledged :=
      if outcome.isOk then (durable.stamps thread).toList ++ durable.acknowledged
      else durable.acknowledged }

/-- The holder of the lock writes its image and returns. -/
def write (thread : Nat) (store : StoreAnswers) : DurableSystem :=
  match durable.images thread with
  | none => durable
  | some image =>
      if durable.holder = some thread then
        let outcome := savePersistedState image store
        (durable.replace thread image outcome).complete thread outcome
      else durable

def step : DurableAction → DurableSystem
  | .act action => durable.act runtime action
  | .gather thread => durable.gather runtime thread
  | .lock thread => durable.lock thread
  | .write thread store => durable.write thread store

end DurableSystem

end PortFabric
