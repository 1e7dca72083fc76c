import PortFabric.Engine.Operation

/-!
# Interleaved runs

Mutations of many threads, each advancing one critical section at a time, with
the other operations of the engine in between.
-/

set_option autoImplicit false

namespace PortFabric

/-- What the last critical section of a mutation recorded. -/
inductive Settlement where
  | committed (final : PortRecord)
  | uncertain (result : MutationResult)
  deriving DecidableEq

/-- A mutation in flight, named by the critical section it enters next. -/
inductive Flight where
  | authority (mutation : Mutation)
  | lookup (mutation : Mutation)
  | topology (mutation : Mutation) (snapshot : PortRecord)
  | context (mutation : Mutation) (snapshot : PortRecord)
  | plan (mutation : Mutation) (snapshot : PortRecord) (context : MutationContext)
  | apply (mutation : Mutation) (snapshot : PortRecord) (plan : MutationPlan)
  /-- `applied` is the answer of the adapter, when it was called. -/
  | conclude (mutation : Mutation) (snapshot : PortRecord) (applied : Option AdapterApplyStatus)
      (decision : ApplyDecision)
  | persist (mutation : Mutation) (settlement : Settlement)

def adapterStatus (runtime : Runtime) (plan : MutationPlan) (answers : MutationAnswers) :
    Option AdapterApplyStatus :=
  if plan.requiresApply ∧ runtime.config.adapterPolicy ≠ .desiredStateOnly ∧
      runtime.adapter.isSome then
    some answers.apply.status
  else
    none

namespace Flight

def mutation : Flight → Mutation
  | authority mutation => mutation
  | lookup mutation => mutation
  | topology mutation _ => mutation
  | context mutation _ => mutation
  | plan mutation _ _ => mutation
  | apply mutation _ _ => mutation
  | conclude mutation _ _ _ => mutation
  | persist mutation _ => mutation

/-- The last critical section: commit the plan or record the uncertainty. -/
def concludeStep (runtime : Runtime) (mutation : Mutation) (decision : ApplyDecision)
    (impl : EngineImpl) : EngineImpl × Except Reply Flight :=
  match decision with
  | .reject reply => (impl, .error reply)
  | .commit proposal applied settled =>
      match impl.commitRecord mutation.port proposal applied settled with
      | .error result => (impl, .error (.result result))
      | .ok committed =>
          (committed,
            .ok (.persist mutation
              (.committed (EngineImpl.committedRecord proposal applied settled))))
  | .uncertain generation detail code reply =>
      let result := reply.getD (.rejected code detail)
      if (impl.records[mutation.port]?).isSome then
        (impl.recordUncertainty runtime mutation.port mutation.authority generation
          .outcomeUnknown detail, .ok (.persist mutation (.uncertain result)))
      else
        (impl, .error (.result result))

/-- One critical section; the flight ends with a reply or goes on. -/
def advance (runtime : Runtime) (answers : MutationAnswers) (impl : EngineImpl) :
    Flight → EngineImpl × Except Reply Flight
  | authority mutation =>
      let authorised := authorise runtime impl mutation
      (authorised.1, do authorised.2; return .lookup mutation)
  | lookup mutation => (impl, do return .topology mutation (← observe impl mutation))
  | topology mutation snapshot =>
      (impl, do
        expectTopology impl mutation
        snapshotGates runtime.config mutation snapshot
        return .context mutation snapshot)
  | context mutation snapshot =>
      let read := readContext impl snapshot
      (impl, do deviceGate mutation snapshot read; return .plan mutation snapshot read)
  | plan mutation snapshot read =>
      (impl, do
        return .apply mutation snapshot
          (← preparePlan runtime impl.profiles mutation snapshot read answers.provider))
  | apply mutation snapshot proposal =>
      (impl, .ok (.conclude mutation snapshot (adapterStatus runtime proposal answers)
        (applyPlan runtime snapshot proposal answers)))
  | conclude mutation _ _ decision => concludeStep runtime mutation decision impl
  | persist _ settlement =>
      match settlement with
      | .committed final =>
          let persisted := impl.persistLockedState runtime answers.store
          (persisted.1, .error (.result (EngineImpl.commitResult final persisted.2)))
      | .uncertain result =>
          ((impl.persistLockedState runtime answers.store).1, .error (.result result))

/-- Advances a flight that nothing interrupts, at most `fuel` sections. -/
def finish (runtime : Runtime) (answers : MutationAnswers) :
    Nat → EngineImpl → Flight → EngineImpl × Option Reply
  | 0, impl, _ => (impl, none)
  | fuel + 1, impl, flight =>
      match flight.advance runtime answers impl with
      | (impl, .error reply) => (impl, some reply)
      | (impl, .ok flight) => finish runtime answers fuel impl flight

end Flight

/-- One engine and the mutations its threads have in flight. -/
structure System where
  engine : EngineImpl
  flights : Nat → Option Flight := fun _ => none

inductive Action where
  /-- An idle thread enters a mutation call. -/
  | start (thread : Nat) (mutation : Mutation)
  /-- The mutation of a thread takes its next critical section. -/
  | advance (thread : Nat) (answers : MutationAnswers)
  /-- Another operation, taken as one step; mutations are started and advanced instead. -/
  | operate (operation : Operation)

def Action.isLoad : Action → Bool
  | .operate operation => operation.isLoad
  | _ => false

def Action.thread? : Action → Option Nat
  | .start thread _ => some thread
  | .advance thread _ => some thread
  | .operate _ => none

namespace System

def withFlight (system : System) (thread : Nat) (flight : Option Flight) : System :=
  { system with flights := fun other => if other = thread then flight else system.flights other }

def step (runtime : Runtime) (system : System) : Action → System
  | .start thread mutation =>
      match system.flights thread, admitMutation system.engine mutation with
      | none, .ok () => system.withFlight thread (some (.authority mutation))
      | _, _ => system
  | .advance thread answers =>
      match system.flights thread with
      | none => system
      | some flight =>
          let advanced := flight.advance runtime answers system.engine
          { system with engine := advanced.1 }.withFlight thread advanced.2.toOption
  | .operate (.mutate _ _) => system
  | .operate operation => { system with engine := system.engine.perform runtime operation }

end System

end PortFabric
