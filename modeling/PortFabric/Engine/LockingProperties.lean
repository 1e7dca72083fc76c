import PortFabric.Engine.Locking

/-!
# Lock programs of the engine

The program of an operation, run without another thread, is the sequential
operation. Every program calls out with no lock held, but for the two lookups
that call out in the scope of the records lock.
-/

set_option autoImplicit false

namespace PortFabric

open LockPrograms

namespace LockedEngine

section Agreement

variable (runtime : Runtime) (answers : CallAnswers) (impl : EngineImpl)

@[simp] theorem exclusively_run {α : Type} (mutex : EngineMutex) (body : EngineProgram α) :
    (exclusively mutex body).run answers.answer impl = body.run answers.answer impl :=
  Program.run_guarded ..

@[simp] theorem jointly_run {α : Type} (mutex : EngineMutex) (body : EngineProgram α) :
    (jointly mutex body).run answers.answer impl = body.run answers.answer impl :=
  Program.run_guarded ..

@[simp] theorem providerCurrent_run (port : PortId) :
    (providerCurrent port).run answers.answer impl = (impl, answers.provider) :=
  Program.run_request ..

@[simp] theorem adapterApply_run (port : PortId) (configuration : PortConfiguration) :
    (adapterApply port configuration).run answers.answer impl = (impl, answers.apply) :=
  Program.run_request ..

@[simp] theorem adapterReadback_run (port : PortId) :
    (adapterReadback port).run answers.answer impl = (impl, answers.readback) :=
  Program.run_request ..

@[simp] theorem adapterLabel_run :
    adapterLabel.run answers.answer impl = (impl, ()) :=
  Program.run_request ..

@[simp] theorem storeSave_run (state : PersistedState) :
    (storeSave state).run answers.answer impl = (impl, answers.store) :=
  Program.run_request ..

@[simp] theorem storeLoad_run :
    storeLoad.run answers.answer impl = (impl, answers.container) :=
  Program.run_request ..

@[simp] theorem gatherState_run :
    (gatherState runtime).run answers.answer impl = (impl, impl.gatherState runtime.config) := rfl

@[simp] theorem storeState_run (state : PersistedState) :
    (storeState state).run answers.answer impl =
      ({ impl with durabilityDirty := !(savePersistedState state answers.store).isOk },
        savePersistedState state answers.store) := rfl

@[simp] theorem persistLockedState_run :
    (persistLockedState runtime).run answers.answer impl =
      impl.persistLockedState runtime answers.store := by
  simp only [persistLockedState, EngineImpl.persistLockedState, Program.run_bind, exclusively_run,
    Program.run_read]
  split
  · rfl
  · split <;> rfl

theorem save_run :
    (save runtime).run answers.answer impl = PortFabricEngine.save runtime impl answers.store := by
  unfold save PortFabricEngine.save
  split <;> rfl

theorem load_run :
    (load runtime).run answers.answer impl =
      PortFabricEngine.load runtime impl answers.container := by
  unfold load PortFabricEngine.load
  split
  · rfl
  · simp only [Program.run_bind, exclusively_run, storeLoad_run]
    cases answers.container with
    | error outcome => rfl
    | ok state =>
        dsimp only
        cases EngineImpl.acceptContainer runtime.config state with
        | error outcome => rfl
        | ok _ =>
            simp only [Program.run_bind, exclusively_run, Program.run_visit]
            cases restoreProfiles ∅ (state.profiles.insertionSort profileBefore) with
            | mk profiles failure =>
                cases failure with
                | some failure => rfl
                | none =>
                    simp only [restoreAuthority, Program.run_bind, exclusively_run,
                      Program.run_visit]
                    by_cases behind : impl.epoch ≤ state.epoch
                    · by_cases exhausted : state.epoch.exhaustible = true
                      · simp only [behind, exhausted, if_true]
                        rfl
                      · simp only [behind, exhausted, if_true, if_false, Bool.false_eq_true]
                        rfl
                    · simp only [behind, if_false]
                      rfl

theorem beginEpoch_run :
    beginEpoch.run answers.answer impl = PortFabricEngine.beginEpoch impl := by
  simp only [beginEpoch, PortFabricEngine.beginEpoch, exclusively_run, Program.run_bind,
    Program.run_read, Program.run_ite]
  split
  · rfl
  · split <;> rfl

theorem registerPublisher_run (publisher : PublisherId) (boot : WorkerBootId)
    (epoch : CoordinatorEpoch) :
    (registerPublisher publisher boot epoch).run answers.answer impl =
      PortFabricEngine.registerPublisher impl publisher boot epoch := by
  unfold registerPublisher
  split
  · next incomplete => rw [PortFabricEngine.registerPublisher, if_pos incomplete]; rfl
  · rw [exclusively_run, Program.run_visit]

theorem fencePublisher_run (publisher : PublisherId) (boot : WorkerBootId) :
    (fencePublisher publisher boot).run answers.answer impl =
      PortFabricEngine.fencePublisher impl publisher boot := by
  unfold fencePublisher PortFabricEngine.fencePublisher
  split
  · rfl
  · simp only [exclusively_run, Program.run_bind, Program.run_read]
    cases impl.publishers[publisher]? with
    | none => rfl
    | some existing =>
        dsimp only
        split
        · rfl
        · split <;> rfl

theorem registerDevice_run (device : DeviceId) (generation : DeviceGeneration) (source : Text) :
    (registerDevice runtime device generation source).run answers.answer impl =
      PortFabricEngine.registerDevice runtime impl device generation source := by
  unfold registerDevice
  split
  · next incomplete => rw [PortFabricEngine.registerDevice, if_pos incomplete]; rfl
  · next complete =>
      cases checked : validateText source maxNameLength with
      | error error =>
          rw [PortFabricEngine.registerDevice, if_neg complete, checked]
          rfl
      | ok _ => rfl

theorem setTopologyGeneration_run (generation : TopologyGeneration) :
    (setTopologyGeneration generation).run answers.answer impl =
      PortFabricEngine.setTopologyGeneration impl generation := by
  unfold setTopologyGeneration
  split
  · next missing => rw [PortFabricEngine.setTopologyGeneration, if_pos missing]; rfl
  · rw [exclusively_run, Program.run_visit]

@[simp] theorem resolveCapabilities_run (record : PortRecord) :
    (resolveCapabilities runtime record).run answers.answer impl =
      (impl, PortFabric.resolveCapabilities runtime record answers.provider) := by
  unfold resolveCapabilities
  split
  · next unasked =>
      unfold PortFabric.resolveCapabilities
      cases present : record.capability.present with
      | true => rfl
      | false =>
          have unprovided : (!runtime.capabilityProvider) = true := by
            rw [present, Bool.false_or] at unasked
            exact unasked
          simp [unprovided]
  · rfl

@[simp] theorem recordApplyUncertainty_run (port : PortId) (authority : AuthorityContext)
    (generation : PortConfigurationGeneration) (outcome : AppliedOutcome) (detail : Text)
    (code : OutcomeCode) :
    (recordApplyUncertainty runtime port authority generation outcome detail code).run
        answers.answer impl =
      impl.recordApplyUncertainty runtime port authority generation outcome detail code
        answers.store := by
  unfold recordApplyUncertainty EngineImpl.recordApplyUncertainty EngineImpl.recordUncertainty
  cases found : impl.records[port]? with
  | none => simp [found]
  | some before =>
      cases adapter : runtime.adapter with
      | none => simp [found]
      | some label => simp [found]

@[simp] theorem commit_run (port : PortId) (plan : MutationPlan) (applied : AppliedEvidence)
    (settled : Bool) :
    (commit runtime port plan applied settled).run answers.answer impl =
      impl.commit runtime port plan applied settled answers.store := by
  unfold commit EngineImpl.commit
  cases decided : impl.commitRecord port plan applied settled with
  | error result => simp [decided]
  | ok committed => simp [decided]

@[simp] theorem expectTopology_run (mutation : Mutation) :
    (expectTopology mutation).run answers.answer impl =
      (impl, PortFabric.expectTopology impl mutation) := by
  unfold expectTopology
  split
  · rw [exclusively_run, Program.run_read]
  · next unstated => simp [PortFabric.expectTopology, unstated]

@[simp] theorem evidenceFor_run (mutation : Mutation) (snapshot : PortRecord) :
    (evidenceFor runtime mutation snapshot).run answers.answer impl =
      (impl, PortFabric.evidenceFor runtime mutation snapshot answers.provider) := by
  unfold evidenceFor PortFabric.evidenceFor
  split
  · rw [Program.run_bind, resolveCapabilities_run]
    cases PortFabric.resolveCapabilities runtime snapshot answers.provider <;> rfl
  · rfl

/-- Where no adapter is asked, its answers do not matter. -/
theorem applyPlan_unasked {snapshot : PortRecord} {plan : MutationPlan}
    (unasked : (!plan.requiresApply || runtime.config.adapterPolicy = .desiredStateOnly ||
      runtime.adapter.isNone) = true) (first second : MutationAnswers) :
    PortFabric.applyPlan runtime snapshot plan first =
      PortFabric.applyPlan runtime snapshot plan second := by
  unfold PortFabric.applyPlan
  by_cases idle : (!plan.requiresApply) = true
  · simp only [idle, if_true]
  · by_cases desired : runtime.config.adapterPolicy = .desiredStateOnly
    · simp only [desired, if_true]
    · have none : runtime.adapter = none := by simpa [idle, desired] using unasked
      simp only [none]

@[simp] theorem applyPlan_run (port : PortId) (snapshot : PortRecord) (plan : MutationPlan) :
    (applyPlan runtime port snapshot plan).run answers.answer impl =
      (impl, PortFabric.applyPlan runtime snapshot plan answers.toMutationAnswers) := by
  unfold applyPlan
  split
  · next unasked => exact congrArg (Prod.mk impl) (applyPlan_unasked runtime unasked _ _)
  · next asked =>
      simp only [Bool.or_eq_true, decide_eq_true_eq, not_or, Option.isNone_iff_eq_none] at asked
      obtain ⟨⟨needed, live⟩, present⟩ := asked
      obtain ⟨label, configured⟩ := Option.ne_none_iff_exists'.mp present
      simp only [Program.run_bind, adapterApply_run, adapterLabel_run]
      cases status : answers.apply.status with
      | failed => simp [status, PortFabric.applyPlan, needed, live, configured]
      | applied =>
          by_cases verifying : runtime.config.adapterPolicy = .applyAndVerify
          · simp [status, verifying, PortFabric.applyPlan, configured]
          · simp [status, verifying, PortFabric.applyPlan, live, configured]
      | outcomeUnknown => simp [status, PortFabric.applyPlan, needed, live, configured]
      | unsupported => simp [status, PortFabric.applyPlan, needed, live, configured]

@[simp] theorem concludeMutation_run (mutation : Mutation) (decision : ApplyDecision) :
    (concludeMutation runtime mutation decision).run answers.answer impl =
      PortFabric.concludeMutation runtime mutation decision answers.store impl := by
  unfold concludeMutation PortFabric.concludeMutation
  cases decision <;> simp

@[simp] theorem preparePlan_run (mutation : Mutation) (snapshot : PortRecord)
    (context : MutationContext) :
    (preparePlan runtime mutation snapshot context).run.run answers.answer impl =
      (impl, PortFabric.preparePlan runtime impl.profiles mutation snapshot context
        answers.provider) := by
  refine Program.run_attempt_reading (evidenceFor_run ..) fun capability => ?_
  refine Program.run_attempt_reading (exclusively_run ..) fun plan => ?_
  exact Program.run_attempt_reading rfl fun _ => rfl

@[simp] theorem planMutation_run (mutation : Mutation) :
    (planMutation runtime mutation).run.run answers.answer impl =
      (impl, PortFabric.planMutation runtime mutation answers.provider impl) := by
  have looked (snapshot : PortRecord) :
      (ExceptT.lift (exclusively .authority (Program.read .plain fun impl =>
        readContext impl snapshot)) : ExceptT Reply EngineProgram MutationContext).run.run
          answers.answer impl = (impl, .ok (readContext impl snapshot)) := by
    rw [Program.run_lift, exclusively_run, Program.run_read]
  refine Program.run_attempt_reading (exclusively_run ..) fun snapshot => ?_
  refine Program.run_attempt_reading (expectTopology_run ..) fun _ => ?_
  refine Program.run_attempt_reading rfl fun _ => ?_
  rw [Program.run_attempt, looked snapshot]
  refine Program.run_attempt_reading rfl fun _ => ?_
  exact Program.run_attempt_reading (preparePlan_run ..) fun _ => rfl

theorem executeMutation_run (mutation : Mutation) :
    (executeMutation runtime mutation).run answers.answer impl =
      PortFabric.executeMutation runtime mutation answers.toMutationAnswers impl := by
  unfold executeMutation PortFabric.executeMutation attemptMutation
  rw [Program.run_bind, Program.run_attempt]
  simp only [ExceptT.run_mk, Program.run_read]
  cases admitMutation impl mutation with
  | error reply => rfl
  | ok _ =>
      dsimp only
      rw [Program.run_attempt]
      simp only [ExceptT.run_mk, exclusively_run, Program.run_visit]
      cases authorise runtime impl mutation with
      | mk authorised outcome =>
          cases outcome with
          | error reply => rfl
          | ok _ =>
              dsimp only
              rw [Program.run_attempt, planMutation_run]
              cases PortFabric.planMutation runtime mutation answers.provider authorised with
              | error reply => rfl
              | ok planned =>
                  obtain ⟨snapshot, plan⟩ := planned
                  dsimp only
                  rw [Program.run_attempt, Program.run_lift, applyPlan_run]
                  dsimp only
                  rw [Program.run_lift, concludeMutation_run]
                  rfl

@[simp] theorem probeCapabilities_run (request : PortBindingRequest) :
    (probeCapabilities runtime request).run answers.answer impl =
      (impl, PortFabric.probeCapabilities runtime impl request answers.provider) := by
  unfold probeCapabilities PortFabric.probeCapabilities
  rw [jointly_run, Program.run_bind, Program.run_read, Program.run_ite]
  split
  · rfl
  · rw [Program.run_bind, resolveCapabilities_run]
    dsimp only
    cases PortFabric.resolveCapabilities runtime
      { port := request.port, parentDevice := request.parentDevice } answers.provider <;> rfl

theorem insertBinding_run (request : PortBindingRequest) (evidence : Option CapabilityBinding) :
    (insertBinding runtime request evidence).run answers.answer impl =
      match PortFabric.insertBinding runtime impl request evidence with
      | .error result => (impl, .error result)
      | .ok inserted => (inserted, .ok ()) := by
  cases inserted : PortFabric.insertBinding runtime impl request evidence with
  | error result => simp only [insertBinding, exclusively_run, Program.run_visit, inserted]
  | ok after => simp only [insertBinding, exclusively_run, Program.run_visit, inserted]

theorem bindDevice_run (request : PortBindingRequest) (record : PortRecord) :
    (bindDevice runtime request record).run answers.answer impl =
      ((PortFabric.bindDevice runtime impl request record).1,
        match (PortFabric.bindDevice runtime impl request record).2 with
        | some result => .error result
        | none => .ok ()) := by
  rw [bindDevice, exclusively_run, Program.run_bind, Program.run_read, Program.run_ite,
    exclusively_run, Program.run_visit]
  split <;> rfl

/-- What is decided before the epoch is compared does not depend on it. -/
theorem admitBinding_split (request : PortBindingRequest) :
    (match admitBinding { impl with epoch := request.epoch } request with
      | .error result => .error result
      | .ok _ => admitBinding impl request) = admitBinding impl request := by
  unfold admitBinding
  dsimp only
  by_cases stopping : impl.shuttingDown = true
  · simp [stopping]
  · by_cases malformed : (!request.port.valid || !request.parentDevice.valid ||
        !request.deviceGeneration.valid || !request.attempt.valid) = true
    · simp [stopping, malformed]
    · cases (decide (request.entityClass ≠ .unknown) && !request.entityClass.isValid) with
      | true => simp only [stopping, malformed, if_true, if_false, Bool.false_eq_true]
      | false =>
          simp only [stopping, malformed, if_false, Bool.false_eq_true, ne_self_iff_false]

theorem bindPort_run (request : PortBindingRequest) :
    (bindPort runtime request).run answers.answer impl =
      PortFabricEngine.bindPort runtime impl request answers.toMutationAnswers := by
  unfold bindPort PortFabricEngine.bindPort attemptBinding
  rw [← admitBinding_split impl request, Program.run_bind, Program.run_attempt]
  simp only [ExceptT.run_mk, Program.run_read]
  cases admitBinding { impl with epoch := request.epoch } request with
  | error result => rfl
  | ok _ =>
      dsimp only
      rw [Program.run_attempt]
      simp only [ExceptT.run_mk, exclusively_run, Program.run_read]
      cases admitBinding impl request with
      | error result => rfl
      | ok _ =>
          dsimp only
          rw [Program.run_attempt, Program.run_lift, probeCapabilities_run]
          dsimp only
          rw [Program.run_attempt, ExceptT.run_mk, insertBinding_run]
          cases PortFabric.insertBinding runtime impl request
              (PortFabric.probeCapabilities runtime impl request answers.provider) with
          | error result => rfl
          | ok inserted =>
              dsimp only
              rw [Program.run_attempt, ExceptT.run_mk, bindDevice_run]
              cases PortFabric.bindDevice runtime inserted request (boundRecord request
                  (PortFabric.probeCapabilities runtime impl request answers.provider)) with
              | mk settled outcome =>
                  cases outcome with
                  | some result => rfl
                  | none =>
                      dsimp only
                      rw [Program.run_attempt, Program.run_lift, persistLockedState_run]
                      rfl

end Agreement

/-- The program of an operation, run without another thread, is the sequential operation. -/
theorem program_run (runtime : Runtime) (impl : EngineImpl) (operation : Operation) :
    ((operation.program runtime).run operation.answers.answer impl).1 =
      impl.perform runtime operation := by
  cases operation with
  | bindPort request answers =>
      simp only [Operation.program, Program.run_bind, bindPort_run]
      rfl
  | mutate mutation answers =>
      simp only [Operation.program, Program.run_bind, executeMutation_run]
      rfl
  | defineProfile profile => rfl
  | beginEpoch =>
      simp only [Operation.program, Program.run_bind, beginEpoch_run]
      rfl
  | registerPublisher publisher boot epoch =>
      simp only [Operation.program, Program.run_bind, registerPublisher_run]
      rfl
  | fencePublisher publisher boot =>
      simp only [Operation.program, Program.run_bind, fencePublisher_run]
      rfl
  | registerDevice device generation source =>
      simp only [Operation.program, Program.run_bind, registerDevice_run]
      rfl
  | setTopologyGeneration generation =>
      simp only [Operation.program, Program.run_bind, setTopologyGeneration_run]
      rfl
  | save store =>
      simp only [Operation.program, Program.run_bind, save_run]
      rfl
  | load container =>
      simp only [Operation.program, Program.run_bind, load_run]
      rfl
  | shutdown => rfl

end LockedEngine

/-- The access makes its thread call the provider or the adapter under the records lock. -/
def EngineAccess.Exposed (runtime : Runtime) : EngineAccess → EngineImpl → Prop
  | bindingLookup port, impl => impl.records[port]? = none ∧ runtime.capabilityProvider = true
  | uncertaintyLookup port, impl =>
      (impl.records[port]?).isSome = true ∧ runtime.adapter.isSome = true
  | plain, _ => False

/-- The program calls out with no lock held, but for the exposed accesses, and frees its locks. -/
def Careful (runtime : Runtime) {α : Type} (held : List (Hold EngineMutex))
    (program : EngineProgram α) : Prop :=
  program.Disciplined (fun call => call.foreign = true) (EngineAccess.Exposed runtime) held held

namespace Careful

variable {runtime : Runtime} {α β ε : Type} {held : List (Hold EngineMutex)}
  {program : EngineProgram α} {next : α → EngineProgram β}

theorem pure (value : α) : Careful runtime held (pure value : EngineProgram α) := rfl

theorem bind (first : Careful runtime held program)
    (rest : ∀ value, Careful runtime held (next value)) :
    Careful runtime held (program >>= next) :=
  Program.Disciplined.bind first rest

theorem ite {condition : Prop} [Decidable condition] {first second : EngineProgram α}
    (positive : condition → Careful runtime held first)
    (negative : ¬condition → Careful runtime held second) :
    Careful runtime held (if condition then first else second) := by
  split
  · next met => exact positive met
  · next unmet => exact negative unmet

theorem attempt {first : ExceptT ε EngineProgram α} {rest : α → ExceptT ε EngineProgram β}
    (begun : Careful runtime held first.run)
    (continued : ∀ value, Careful runtime held (rest value).run) :
    Careful runtime held (first >>= rest).run :=
  Program.Disciplined.attempt begun continued

theorem lift (careful : Careful runtime held program) :
    Careful runtime held (ExceptT.lift program : ExceptT ε EngineProgram α).run :=
  careful.bind fun _ => rfl

theorem exclusively {mutex : EngineMutex}
    (body : Careful runtime ({ mutex, mode := .exclusive } :: held) program) :
    Careful runtime held (exclusively mutex program) :=
  Program.Disciplined.guarded body

theorem jointly {mutex : EngineMutex}
    (body : Careful runtime ({ mutex, mode := .shared } :: held) program) :
    Careful runtime held (jointly mutex program) :=
  Program.Disciplined.guarded body

theorem visit (body : EngineImpl → EngineImpl × α) :
    Careful runtime held (Program.visit .plain body) :=
  Program.disciplined_visit (fun _ => id) body

theorem read (view : EngineImpl → α) : Careful runtime held (Program.read .plain view) :=
  Program.disciplined_read (fun _ => id) view

theorem write (update : EngineImpl → EngineImpl) :
    Careful runtime held (Program.write .plain update) :=
  Program.disciplined_write (fun _ => id) update

/-- A call out of the engine that is made with no lock held, or goes to the container. -/
theorem request {call : EngineCall} (unlocked : call.foreign = true → held = []) :
    Careful runtime held (Program.request call) :=
  Program.disciplined_request unlocked

end Careful

namespace LockedEngine

section Discipline

variable (runtime : Runtime) (held : List (Hold EngineMutex))

theorem gatherState_careful : Careful runtime held (gatherState runtime) :=
  .bind (.exclusively (.read _)) fun _ => .bind (.exclusively (.read _)) fun _ =>
    .jointly (.read _)

theorem storeState_careful (state : PersistedState) : Careful runtime held (storeState state) :=
  .exclusively (.bind (.request nofun) fun _ => .bind (.write _) fun _ => .pure _)

theorem persistLockedState_careful : Careful runtime held (persistLockedState runtime) :=
  .bind (.exclusively (.read _)) fun _ => .ite (fun _ => .pure _) fun _ =>
    .ite (fun _ => .pure _) fun _ =>
    .bind (gatherState_careful runtime held) fun state => storeState_careful runtime held state

theorem save_careful : Careful runtime held (save runtime) :=
  .ite (fun _ => .pure _) fun _ =>
    .bind (gatherState_careful runtime held) fun state => storeState_careful runtime held state

theorem load_careful : Careful runtime held (load runtime) := by
  refine .ite (fun _ => .pure _) fun _ => .bind (.exclusively (.request nofun)) fun container => ?_
  cases container with
  | error outcome => exact .pure _
  | ok state =>
      dsimp only
      cases EngineImpl.acceptContainer runtime.config state with
      | error outcome => exact .pure _
      | ok _ =>
          refine .bind (.exclusively (.visit _)) fun restored => ?_
          cases restored with
          | some failure => exact .pure _
          | none =>
              refine .bind (.exclusively (.visit _)) fun recovered => ?_
              cases recovered with
              | some failure => exact .pure _
              | none => exact .exclusively (.visit _)

theorem beginEpoch_careful : Careful runtime held beginEpoch :=
  .exclusively <| .bind (.read _) fun _ => .ite (fun _ => .pure _) fun _ =>
    .ite (fun _ => .pure _) fun _ => .bind (.write _) fun _ =>
    .bind (.exclusively (.write _)) fun _ => .pure _

theorem registerPublisher_careful (publisher : PublisherId) (boot : WorkerBootId)
    (epoch : CoordinatorEpoch) : Careful runtime held (registerPublisher publisher boot epoch) :=
  .ite (fun _ => .pure _) fun _ => .exclusively (.visit _)

theorem fencePublisher_careful (publisher : PublisherId) (boot : WorkerBootId) :
    Careful runtime held (fencePublisher publisher boot) := by
  refine .ite (fun _ => .pure _) fun _ => .exclusively <| .bind (.read _) fun found => ?_
  cases found with
  | none => exact .pure _
  | some existing =>
      exact .ite (fun _ => .pure _) fun _ => .ite (fun _ => .pure _) fun _ =>
        .bind (.write _) fun _ => .bind (.exclusively (.write _)) fun _ => .pure _

theorem registerDevice_careful (device : DeviceId) (generation : DeviceGeneration)
    (source : Text) : Careful runtime held (registerDevice runtime device generation source) := by
  refine .ite (fun _ => .pure _) fun _ => ?_
  cases validateText source maxNameLength with
  | error error => exact .pure _
  | ok _ => exact .exclusively (.visit _)

theorem setTopologyGeneration_careful (generation : TopologyGeneration) :
    Careful runtime held (setTopologyGeneration generation) :=
  .ite (fun _ => .pure _) fun _ => .exclusively (.visit _)

/-- With no lock held the provider may be asked. -/
theorem resolveCapabilities_careful (record : PortRecord) :
    Careful runtime [] (resolveCapabilities runtime record) :=
  .ite (fun _ => .pure _) fun _ => .bind (.request fun _ => rfl) fun _ => .pure _

/-- The lookup is exposed exactly when it finds the record and there is an adapter to name. -/
theorem recordApplyUncertainty_careful (port : PortId) (authority : AuthorityContext)
    (generation : PortConfigurationGeneration) (outcome : AppliedOutcome) (detail : Text)
    (code : OutcomeCode) :
    Careful runtime held
      (recordApplyUncertainty runtime port authority generation outcome detail code) := by
  refine .bind (.exclusively fun impl => ⟨fun exposed => ?_, fun concealed => ?_⟩) fun recorded =>
    .ite (fun _ => .bind (persistLockedState_careful runtime held) fun _ => .pure _)
      fun _ => .pure _
  · obtain ⟨before, found⟩ := Option.isSome_iff_exists.mp exposed.1
    refine ⟨List.cons_ne_nil _ _, ?_⟩
    simp only [found, Program.bind, exposed.2, if_true]
    exact rfl
  · simp only [Program.bind]
    cases found : impl.records[port]? with
    | none => exact rfl
    | some before =>
        have unlabelled : runtime.adapter.isSome = false := by
          simpa [EngineAccess.Exposed, found] using concealed
        simp only [unlabelled, Bool.false_eq_true, if_false]
        exact Careful.bind (.write _) fun _ => .pure _

theorem commit_careful (port : PortId) (plan : MutationPlan) (applied : AppliedEvidence)
    (settled : Bool) : Careful runtime held (commit runtime port plan applied settled) := by
  refine .bind (.exclusively (.visit _)) fun decided => ?_
  cases decided with
  | some result => exact .pure _
  | none => exact .bind (persistLockedState_careful runtime held) fun _ => .pure _

theorem expectTopology_careful (mutation : Mutation) :
    Careful runtime held (expectTopology mutation) :=
  .ite (fun _ => .exclusively (.read _)) fun _ => .pure _

theorem evidenceFor_careful (mutation : Mutation) (snapshot : PortRecord) :
    Careful runtime [] (evidenceFor runtime mutation snapshot) := by
  refine .ite (fun _ => .bind (resolveCapabilities_careful runtime snapshot) fun resolved => ?_)
    fun _ => .pure _
  cases resolved <;> exact .pure _

theorem preparePlan_careful (mutation : Mutation) (snapshot : PortRecord)
    (context : MutationContext) :
    Careful runtime [] (preparePlan runtime mutation snapshot context).run :=
  .attempt (evidenceFor_careful runtime mutation snapshot) fun _ =>
    .attempt (.exclusively (.read _)) fun _ => .attempt (.pure _) fun _ => .pure _

theorem planMutation_careful (mutation : Mutation) :
    Careful runtime [] (planMutation runtime mutation).run :=
  .attempt (.exclusively (.jointly (.read _))) fun snapshot =>
    .attempt (expectTopology_careful runtime [] mutation) fun _ => .attempt (.pure _) fun _ =>
    .attempt (.lift (.exclusively (.read _))) fun context => .attempt (.pure _) fun _ =>
    .attempt (preparePlan_careful runtime mutation snapshot context) fun _ => .pure _

/-- With no lock held the adapter may be called. -/
theorem applyPlan_careful (port : PortId) (snapshot : PortRecord) (plan : MutationPlan) :
    Careful runtime [] (applyPlan runtime port snapshot plan) := by
  have allowed (call : EngineCall) : Careful runtime [] (Program.request call) :=
    .request fun _ => rfl
  exact .ite (fun _ => .pure _) fun _ => .bind (allowed _) fun _ => .bind (allowed _) fun _ =>
    .ite (fun _ => .bind (allowed _) fun _ => .pure _) fun _ =>
    .ite (fun _ => .bind (allowed _) fun _ => .pure _) fun _ => .pure _

theorem concludeMutation_careful (mutation : Mutation) (decision : ApplyDecision) :
    Careful runtime [] (concludeMutation runtime mutation decision) := by
  cases decision with
  | reject reply => exact .pure _
  | commit plan applied settled =>
      exact .bind (commit_careful runtime [] mutation.port plan applied settled) fun _ => .pure _
  | uncertain generation detail code reply =>
      exact .bind (recordApplyUncertainty_careful runtime [] mutation.port mutation.authority
        generation .outcomeUnknown detail code) fun _ => .pure _

theorem executeMutation_careful (mutation : Mutation) :
    Careful runtime [] (executeMutation runtime mutation) := by
  refine .bind (.attempt (.read _) fun _ => .attempt (.exclusively (.visit _)) fun _ =>
    .attempt (planMutation_careful runtime mutation) fun planned =>
    .attempt (.lift (applyPlan_careful runtime mutation.port planned.1 planned.2)) fun decision =>
    .lift (concludeMutation_careful runtime mutation decision)) fun outcome => ?_
  cases outcome <;> exact .pure _

/-- The lookup is exposed exactly when the port is not bound and there is a provider to ask. -/
theorem probeCapabilities_careful (request : PortBindingRequest) :
    Careful runtime held (probeCapabilities runtime request) := by
  refine .jointly fun impl => ⟨fun exposed => ?_, fun concealed => ?_⟩
  · obtain ⟨absent, provided⟩ := exposed
    refine ⟨List.cons_ne_nil _ _, ?_⟩
    simp only [Program.bind, absent, resolveCapabilities, provided]
    exact rfl
  · simp only [Program.bind]
    refine Careful.ite (fun _ => .pure _) fun absent => ?_
    have unprovided : runtime.capabilityProvider = false := by
      simpa [EngineAccess.Exposed, Option.not_isSome_iff_eq_none.mp absent] using concealed
    simp only [resolveCapabilities, unprovided, Bool.not_false, Bool.or_true, if_true]
    refine Careful.bind (.pure _) fun resolved => ?_
    cases resolved <;> exact .pure _

theorem bindDevice_careful (request : PortBindingRequest) (record : PortRecord) :
    Careful runtime held (bindDevice runtime request record) :=
  .exclusively <| .bind (.read _) fun _ => .ite (fun _ => .exclusively (.visit _)) fun _ =>
    .visit _

theorem bindPort_careful (request : PortBindingRequest) :
    Careful runtime [] (bindPort runtime request) := by
  refine .bind (.attempt (.read _) fun _ => .attempt (.exclusively (.read _)) fun _ =>
    .attempt (.lift (probeCapabilities_careful runtime [] request)) fun evidence =>
    .attempt (.exclusively (.visit _)) fun _ =>
    .attempt (bindDevice_careful runtime [] request (boundRecord request evidence)) fun _ =>
    .attempt (.lift (persistLockedState_careful runtime [])) fun _ => .pure _) fun outcome => ?_
  cases outcome <;> exact .pure _

end Discipline

end LockedEngine

end PortFabric
