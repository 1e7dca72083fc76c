import PortFabric.Engine.MutationProperties
import PortFabric.Engine.SyntheticLoop

/-!
# Programs in the synthetic loop

Every operation but a mutation runs in the loop as with fixed answers. A mutation
does so as well, and its adapter phase changes the device of its port at most.
-/

set_option autoImplicit false

namespace PortFabric

open LockPrograms

/-- A call that leaves the devices alone; the provider is asked for one port at most. -/
def EngineCall.Quiet (asked : Option PortId) : EngineCall → Prop
  | providerCurrent port => asked = some port
  | adapterApply _ _ | adapterReadback _ => False
  | adapterLabel | storeSave _ | storeLoad => True

/-- The program makes quiet calls only. -/
def Quiet (asked : Option PortId) {α : Type} (program : EngineProgram α) : Prop :=
  program.Makes (EngineCall.Quiet asked)

namespace Quiet

variable {asked : Option PortId} {α β ε : Type} {program : EngineProgram α}
  {next : α → EngineProgram β}

theorem pure (value : α) : Quiet asked (pure value : EngineProgram α) := trivial

theorem bind (first : Quiet asked program) (rest : ∀ value, Quiet asked (next value)) :
    Quiet asked (program >>= next) :=
  Program.Makes.bind first rest

theorem ite {condition : Prop} [Decidable condition] {first second : EngineProgram α}
    (positive : condition → Quiet asked first) (negative : ¬condition → Quiet asked second) :
    Quiet asked (if condition then first else second) :=
  Program.Makes.ite positive negative

theorem attempt {first : ExceptT ε EngineProgram α} {rest : α → ExceptT ε EngineProgram β}
    (begun : Quiet asked first.run) (continued : ∀ value, Quiet asked (rest value).run) :
    Quiet asked (first >>= rest).run :=
  Program.Makes.attempt begun continued

theorem lift (quiet : Quiet asked program) :
    Quiet asked (ExceptT.lift program : ExceptT ε EngineProgram α).run :=
  Program.Makes.lift quiet

theorem exclusively {mutex : EngineMutex} (body : Quiet asked program) :
    Quiet asked (exclusively mutex program) :=
  Program.Makes.guarded body

theorem jointly {mutex : EngineMutex} (body : Quiet asked program) :
    Quiet asked (jointly mutex program) :=
  Program.Makes.guarded body

theorem visit (body : EngineImpl → EngineImpl × α) :
    Quiet asked (Program.visit .plain body) :=
  Program.makes_visit _ _

theorem read (name : EngineAccess) (view : EngineImpl → α) :
    Quiet asked (Program.read name view) :=
  Program.makes_read _ _

theorem write (update : EngineImpl → EngineImpl) :
    Quiet asked (Program.write .plain update) :=
  Program.makes_write _ _

theorem request {call : EngineCall} (quiet : call.Quiet asked) :
    Quiet asked (Program.request call) :=
  Program.makes_request quiet

end Quiet

namespace LockedEngine

section Quiet

variable (runtime : Runtime) (asked : Option PortId)

theorem gatherState_quiet : Quiet asked (gatherState runtime) :=
  .bind (.exclusively (.read _ _)) fun _ => .bind (.exclusively (.read _ _)) fun _ =>
    .jointly (.read _ _)

theorem storeState_quiet (state : PersistedState) : Quiet asked (storeState state) :=
  .exclusively (.bind (.request trivial) fun _ => .bind (.write _) fun _ => .pure _)

theorem persistLockedState_quiet : Quiet asked (persistLockedState runtime) :=
  .bind (.exclusively (.read _ _)) fun _ => .ite (fun _ => .pure _) fun _ =>
    .ite (fun _ => .pure _) fun _ =>
    .bind (gatherState_quiet runtime asked) fun state => storeState_quiet asked state

theorem save_quiet : Quiet asked (save runtime) :=
  .ite (fun _ => .pure _) fun _ =>
    .bind (gatherState_quiet runtime asked) fun state => storeState_quiet asked state

theorem load_quiet : Quiet asked (load runtime) := by
  refine .ite (fun _ => .pure _) fun _ => .bind (.exclusively (.request trivial)) fun container =>
    ?_
  cases container with
  | error outcome => exact .pure _
  | ok state =>
      dsimp only
      cases EngineImpl.acceptContainer runtime.config state with
      | error outcome => exact .pure _
      | ok _ =>
          refine .bind (.exclusively (.visit _)) fun restored => ?_
          cases restored with
          | some failure => exact .pure _
          | none =>
              refine .bind (.exclusively (.visit _)) fun recovered => ?_
              cases recovered with
              | some failure => exact .pure _
              | none => exact .exclusively (.visit _)

theorem beginEpoch_quiet : Quiet asked beginEpoch :=
  .exclusively <| .bind (.read _ _) fun _ => .ite (fun _ => .pure _) fun _ =>
    .ite (fun _ => .pure _) fun _ => .bind (.write _) fun _ =>
    .bind (.exclusively (.write _)) fun _ => .pure _

theorem registerPublisher_quiet (publisher : PublisherId) (boot : WorkerBootId)
    (epoch : CoordinatorEpoch) : Quiet asked (registerPublisher publisher boot epoch) :=
  .ite (fun _ => .pure _) fun _ => .exclusively (.visit _)

theorem fencePublisher_quiet (publisher : PublisherId) (boot : WorkerBootId) :
    Quiet asked (fencePublisher publisher boot) := by
  refine .ite (fun _ => .pure _) fun _ => .exclusively <| .bind (.read _ _) fun found => ?_
  cases found with
  | none => exact .pure _
  | some existing =>
      exact .ite (fun _ => .pure _) fun _ => .ite (fun _ => .pure _) fun _ =>
        .bind (.write _) fun _ => .bind (.exclusively (.write _)) fun _ => .pure _

theorem registerDevice_quiet (device : DeviceId) (generation : DeviceGeneration)
    (source : Text) : Quiet asked (registerDevice runtime device generation source) := by
  refine .ite (fun _ => .pure _) fun _ => ?_
  cases validateText source maxNameLength with
  | error error => exact .pure _
  | ok _ => exact .exclusively (.visit _)

theorem setTopologyGeneration_quiet (generation : TopologyGeneration) :
    Quiet asked (setTopologyGeneration generation) :=
  .ite (fun _ => .pure _) fun _ => .exclusively (.visit _)

theorem resolveCapabilities_quiet (record : PortRecord) :
    Quiet (some record.port) (resolveCapabilities runtime record) :=
  .ite (fun _ => .pure _) fun _ => .bind (.request rfl) fun _ => .pure _

theorem recordApplyUncertainty_quiet (port : PortId) (authority : AuthorityContext)
    (generation : PortConfigurationGeneration) (outcome : AppliedOutcome) (detail : Text)
    (code : OutcomeCode) :
    Quiet asked
      (recordApplyUncertainty runtime port authority generation outcome detail code) := by
  refine .bind (.exclusively (.bind (.read _ _) fun found => ?_)) fun recorded =>
    .ite (fun _ => .bind (persistLockedState_quiet runtime asked) fun _ => .pure _)
      fun _ => .pure _
  cases found with
  | none => exact .pure _
  | some before =>
      exact .ite (fun _ => .bind (.request trivial) fun _ => .bind (.write _) fun _ => .pure _)
        fun _ => .bind (.write _) fun _ => .pure _

theorem commit_quiet (port : PortId) (plan : MutationPlan) (applied : AppliedEvidence)
    (settled : Bool) : Quiet asked (commit runtime port plan applied settled) := by
  refine .bind (.exclusively (.visit _)) fun decided => ?_
  cases decided with
  | some result => exact .pure _
  | none => exact .bind (persistLockedState_quiet runtime asked) fun _ => .pure _

theorem concludeMutation_quiet (mutation : Mutation) (decision : ApplyDecision) :
    Quiet asked (concludeMutation runtime mutation decision) := by
  cases decision with
  | reject reply => exact .pure _
  | commit plan applied settled =>
      exact .bind (commit_quiet runtime asked mutation.port plan applied settled) fun _ => .pure _
  | uncertain generation detail code reply =>
      exact .bind (recordApplyUncertainty_quiet runtime asked mutation.port mutation.authority
        generation .outcomeUnknown detail code) fun _ => .pure _

theorem expectTopology_quiet (mutation : Mutation) : Quiet asked (expectTopology mutation) :=
  .ite (fun _ => .exclusively (.read _ _)) fun _ => .pure _

theorem evidenceFor_quiet (mutation : Mutation) (snapshot : PortRecord) :
    Quiet (some snapshot.port) (evidenceFor runtime mutation snapshot) := by
  refine .ite (fun _ => .bind (resolveCapabilities_quiet runtime snapshot) fun resolved => ?_)
    fun _ => .pure _
  cases resolved <;> exact .pure _

theorem preparePlan_quiet (mutation : Mutation) (snapshot : PortRecord)
    (context : MutationContext) :
    Quiet (some snapshot.port) (preparePlan runtime mutation snapshot context).run :=
  .attempt (evidenceFor_quiet runtime mutation snapshot) fun _ =>
    .attempt (.exclusively (.read _ _)) fun _ => .attempt (.pure _) fun _ => .pure _

theorem probeCapabilities_quiet (request : PortBindingRequest) :
    Quiet (some request.port) (probeCapabilities runtime request) := by
  refine .jointly <| .bind (.read _ _) fun bound => .ite (fun _ => .pure _) fun _ =>
    .bind (resolveCapabilities_quiet runtime
      { port := request.port, parentDevice := request.parentDevice }) fun resolved => ?_
  cases resolved <;> exact .pure _

theorem bindDevice_quiet (request : PortBindingRequest) (record : PortRecord) :
    Quiet asked (bindDevice runtime request record) :=
  .exclusively <| .bind (.read _ _) fun _ => .ite (fun _ => .exclusively (.visit _)) fun _ =>
    .visit _

theorem bindPort_quiet (request : PortBindingRequest) :
    Quiet (some request.port) (bindPort runtime request) := by
  refine .bind (.attempt (.read _ _) fun _ => .attempt (.exclusively (.read _ _)) fun _ =>
    .attempt (.lift (probeCapabilities_quiet runtime request)) fun evidence =>
    .attempt (.exclusively (.visit _)) fun _ =>
    .attempt (bindDevice_quiet runtime _ request (boundRecord request evidence)) fun _ =>
    .attempt (.lift (persistLockedState_quiet runtime _)) fun _ => .pure _) fun outcome => ?_
  cases outcome <;> exact .pure _

end Quiet

end LockedEngine

section Operations

variable (runtime : Runtime) (store : StoreAnswers) (container : Except Outcome PersistedState)

/-- The answers of the backend to quiet calls. -/
def SyntheticBackend.answers (backend : SyntheticBackend) (asked : Option PortId)
    (store : StoreAnswers) (container : Except Outcome PersistedState) : CallAnswers where
  provider := (asked.map backend.fabric.current).getD {}
  store
  container

theorem SyntheticBackend.respond_quiet (backend : SyntheticBackend) {asked : Option PortId}
    (call : EngineCall) (quiet : call.Quiet asked) :
    respond store container call backend =
      (backend, (backend.answers asked store container).answer call) := by
  cases call with
  | providerCurrent port =>
      cases quiet
      rfl
  | adapterApply port configuration => exact quiet.elim
  | adapterReadback port => exact quiet.elim
  | adapterLabel => rfl
  | storeSave state => rfl
  | storeLoad => rfl

theorem Quiet.drive_eq {α : Type} {asked : Option PortId} {program : EngineProgram α}
    (quiet : Quiet asked program) (impl : EngineImpl) (backend : SyntheticBackend) :
    program.drive (SyntheticBackend.respond store container) impl backend =
      (((program.run (backend.answers asked store container).answer impl).1, backend),
        (program.run (backend.answers asked store container).answer impl).2) :=
  Program.Makes.drive_eq_run quiet (backend.respond_quiet store container) impl

/-- The port an operation other than a mutation asks the provider about. -/
def Operation.asks : Operation → Option PortId
  | bindPort request _ => some request.port
  | _ => none

def Operation.mutates : Operation → Bool
  | mutate _ _ => true
  | _ => false

/-- The operation with the answers it gets from the backend. -/
def Operation.answeredBy (backend : SyntheticBackend) : Operation → Operation
  | bindPort request answers =>
      .bindPort request { provider := backend.fabric.current request.port, store := answers.store }
  | operation => operation

theorem Operation.program_quiet {operation : Operation}
    (quiet : operation.mutates = false) : Quiet operation.asks (operation.program runtime) := by
  cases operation with
  | bindPort request answers =>
      exact .bind (LockedEngine.bindPort_quiet runtime request) fun _ => .pure _
  | mutate mutation answers => cases quiet
  | defineProfile profile => exact .bind (.exclusively (.visit _)) fun _ => .pure _
  | beginEpoch => exact .bind (LockedEngine.beginEpoch_quiet none) fun _ => .pure _
  | registerPublisher publisher boot epoch =>
      exact .bind (LockedEngine.registerPublisher_quiet none publisher boot epoch) fun _ => .pure _
  | fencePublisher publisher boot =>
      exact .bind (LockedEngine.fencePublisher_quiet none publisher boot) fun _ => .pure _
  | registerDevice device generation source =>
      exact .bind (LockedEngine.registerDevice_quiet runtime none device generation source)
        fun _ => .pure _
  | setTopologyGeneration generation =>
      exact .bind (LockedEngine.setTopologyGeneration_quiet none generation) fun _ => .pure _
  | save store => exact .bind (LockedEngine.save_quiet runtime none) fun _ => .pure _
  | load container => exact .bind (LockedEngine.load_quiet runtime none) fun _ => .pure _
  | shutdown => exact .write _

/-- In the loop an operation that is no mutation leaves the backend as it is. -/
theorem SyntheticLoop.step_quiet (loop : SyntheticLoop) {operation : Operation}
    (quiet : operation.mutates = false) :
    loop.step runtime (.operate operation) =
      { loop with
        engine := loop.engine.perform runtime (operation.answeredBy loop.backend) } := by
  have driven := (operation.program_quiet runtime quiet).drive_eq operation.answers.store
    operation.answers.container loop.engine loop.backend
  have performed := LockedEngine.program_run runtime loop.engine (operation.answeredBy loop.backend)
  simp only [step, driven]
  rw [← performed]
  cases operation with
  | mutate mutation answers => cases quiet
  | _ => rfl

end Operations

section Mutations

variable {runtime : Runtime} (store : StoreAnswers) (container : Except Outcome PersistedState)
  (impl : EngineImpl) (backend : SyntheticBackend)

/-- The provider is asked about the port of the snapshot. -/
theorem planMutation_driven (mutation : Mutation) :
    ∃ provider,
      (LockedEngine.planMutation runtime mutation).run.drive
          (SyntheticBackend.respond store container) impl backend =
        ((impl, backend), planMutation runtime mutation provider impl) := by
  have looking : Quiet none (exclusively .profiles <| jointly .records <|
      Program.read .plain fun impl => observe impl mutation) :=
    .exclusively (.jointly (.read _ _))
  have seen (answers : CallAnswers) : (exclusively .profiles <| jointly .records <|
      Program.read .plain fun impl => observe impl mutation).run answers.answer impl =
        (impl, observe impl mutation) := by
    rw [LockedEngine.exclusively_run, LockedEngine.jointly_run, Program.run_read]
  have ran (answers : CallAnswers) := LockedEngine.planMutation_run runtime answers impl mutation
  unfold LockedEngine.planMutation at ran ⊢
  rw [Program.drive_attempt, ExceptT.run_mk, looking.drive_eq, seen]
  cases observed : observe impl mutation with
  | error reply =>
      have answered := ran {}
      rw [Program.run_attempt, ExceptT.run_mk, seen, observed] at answered
      exact ⟨{}, Prod.ext rfl (Prod.mk.inj answered).2⟩
  | ok snapshot =>
      have answered := ran (backend.answers (some snapshot.port) store container)
      rw [Program.run_attempt, ExceptT.run_mk, seen, observed] at answered
      refine ⟨_, (Quiet.drive_eq store container ?_ impl backend).trans
        (Prod.ext (Prod.ext (Prod.mk.inj answered).1 rfl) (Prod.mk.inj answered).2)⟩
      exact .attempt (LockedEngine.expectTopology_quiet _ mutation) fun _ =>
        .attempt (.pure _) fun _ => .attempt (.lift (.exclusively (.read _ _))) fun context =>
        .attempt (.pure _) fun _ =>
        .attempt (LockedEngine.preparePlan_quiet runtime mutation snapshot context) fun _ => .pure _

end Mutations

section Devices

variable {runtime : Runtime} {port : PortId} {plan : MutationPlan}

/-- An apply without a fault reaches the device; one that fails leaves it as it was. -/
theorem SyntheticAdapter.apply_observed (adapter : SyntheticAdapter) (fabric : SyntheticFabric)
    (port : PortId) (configuration : PortConfiguration) :
    (adapter.apply fabric port configuration).1.observed =
        adapter.observed.insert port configuration ∧
      (adapter.apply fabric port configuration).2.status = .applied ∨
    (adapter.apply fabric port configuration).1.observed = adapter.observed ∧
      ((adapter.apply fabric port configuration).2.status = .applied →
        fabric.faultFor port = .failedVerification) := by
  unfold apply
  cases fault : fabric.faultFor port with
  | none | illegal raw => exact .inl ⟨rfl, rfl⟩
  | failedVerification => exact .inr ⟨rfl, fun _ => rfl⟩
  | _ => exact .inr ⟨rfl, nofun⟩

/-- A device that is said to refuse verification is never read back as verified. -/
theorem SyntheticAdapter.readback_refused {fabric : SyntheticFabric}
    (refusing : fabric.faultFor port = .failedVerification) (adapter : SyntheticAdapter) :
    (adapter.readback fabric port).2.status = .mismatch := by
  simp only [readback, refusing, readbackFault]

/-- What the adapter phase of a plan does to the devices, under the answers it gets. -/
structure Reaches (port : PortId) (plan : MutationPlan) (answers : MutationAnswers)
    (before after : SyntheticBackend) : Prop where
  fabric : after.fabric = before.fabric
  device : after.adapter.observed = before.adapter.observed ∨
    plan.requiresApply = true ∧ answers.apply.status = .applied ∧
      after.adapter.observed = before.adapter.observed.insert port plan.applyConfiguration
  verified : answers.apply.status = .applied → answers.readback.status = .verified →
    after.held port = some plan.applyConfiguration

theorem Reaches.elsewhere {answers : MutationAnswers} {before after : SyntheticBackend}
    (reaches : Reaches port plan answers before after) {other : PortId} (apart : other ≠ port) :
    after.held other = before.held other := by
  rcases reaches.device with kept | ⟨_, _, inserted⟩
  · exact congrArg (fun observed => observed[other]?) kept
  · unfold SyntheticBackend.held
    rw [inserted]
    exact OrderedMap.lookup_insert_of_ne (Ne.symm apart)

theorem applyPlan_driven (store : StoreAnswers) (container : Except Outcome PersistedState)
    (impl : EngineImpl) (backend : SyntheticBackend) (provider : ProviderAnswer)
    (snapshot : PortRecord) :
    ∃ answers after,
      (LockedEngine.applyPlan runtime port snapshot plan).drive
          (SyntheticBackend.respond store container) impl backend =
        ((impl, after), applyPlan runtime snapshot plan answers) ∧
      answers.provider = provider ∧ answers.store = store ∧
      Reaches port plan answers backend after := by
  unfold LockedEngine.applyPlan
  split
  · next unasked =>
      refine ⟨{ provider, store }, backend, ?_, rfl, rfl, rfl, .inl rfl, nofun⟩
      exact congrArg (Prod.mk (impl, backend)) (LockedEngine.applyPlan_unasked runtime unasked _ _)
  · next asked =>
      have required : plan.requiresApply = true := by
        simp only [Bool.or_eq_true, not_or] at asked
        simpa using asked.1.1
      rw [LockedEngine.adapterApply, Program.drive_bind, Program.drive_request,
        SyntheticBackend.respond]
      have reached := backend.adapter.apply_observed backend.fabric port plan.applyConfiguration
      generalize backend.adapter.apply backend.fabric port plan.applyConfiguration = applied
        at reached ⊢
      have device : applied.1.observed = backend.adapter.observed ∨
          plan.requiresApply = true ∧ applied.2.status = .applied ∧
            applied.1.observed =
              backend.adapter.observed.insert port plan.applyConfiguration := by
        rcases reached with ⟨inserted, status⟩ | ⟨kept, _⟩
        · exact .inr ⟨required, status, inserted⟩
        · exact .inl kept
      rw [LockedEngine.adapterLabel, Program.drive_bind, Program.drive_request,
        SyntheticBackend.respond]
      split
      · exact ⟨{ provider, apply := applied.2, store }, _, rfl, rfl, rfl, rfl, device, nofun⟩
      · split
        · refine ⟨{ provider, apply := applied.2, readback := _, store }, _, rfl, rfl, rfl, rfl,
            device, ?_⟩
          intro accepted verified
          rcases reached with ⟨inserted, _⟩ | ⟨_, faulty⟩
          · change applied.1.observed[port]? = some plan.applyConfiguration
            rw [inserted]
            exact OrderedMap.lookup_insert_self ..
          · have refused := SyntheticAdapter.readback_refused (faulty accepted) applied.1
            exact absurd (refused.symm.trans verified) nofun
        · exact ⟨{ provider, apply := applied.2, store }, _, rfl, rfl, rfl, rfl, device, nofun⟩

private theorem authorise_ok {impl entered : EngineImpl} {mutation : Mutation}
    (authorised : authorise runtime impl mutation = (entered, .ok ())) :
    (impl.checkAuthority runtime mutation.authority).2.isOk = true ∧
      entered = impl.authorised runtime mutation := by
  simp only [authorise] at authorised
  split at authorised
  · next accepted =>
      cases authorised
      exact ⟨accepted, rfl⟩
  · cases authorised

/-- A mutation reaches a device with its plan, or asks no adapter. -/
theorem executeMutation_driven (store : StoreAnswers) (container : Except Outcome PersistedState)
    (impl : EngineImpl) (backend : SyntheticBackend) (mutation : Mutation) :
    ∃ answers after,
      (LockedEngine.executeMutation runtime mutation).drive
          (SyntheticBackend.respond store container) impl backend =
        (((executeMutation runtime mutation answers impl).1, after),
          (executeMutation runtime mutation answers impl).2) ∧
      (after = backend ∧ answers.apply.status = .unsupported ∨
        ∃ snapshot plan, Planned runtime mutation answers impl snapshot plan ∧
          Reaches mutation.port plan answers backend after) := by
  unfold LockedEngine.executeMutation LockedEngine.attemptMutation
  rw [Program.drive_bind, Program.drive_attempt, ExceptT.run_mk, Program.drive_read]
  cases admitted : admitMutation impl mutation with
  | error reply =>
      refine ⟨{}, backend, ?_, .inl ⟨rfl, rfl⟩⟩
      simp only [executeMutation, admitted]
      rfl
  | ok _ =>
      dsimp only
      rw [Program.drive_attempt, ExceptT.run_mk, exclusively, Program.drive_guarded,
        Program.drive_visit]
      cases authorised : authorise runtime impl mutation with
      | mk entered outcome =>
          cases outcome with
          | error reply =>
              refine ⟨{}, backend, ?_, .inl ⟨rfl, rfl⟩⟩
              simp only [executeMutation, admitted, authorised]
              rfl
          | ok _ =>
              dsimp only
              rw [Program.drive_attempt]
              obtain ⟨provider, driven⟩ :=
                planMutation_driven store container entered backend mutation
              rw [driven]
              cases planned : planMutation runtime mutation provider entered with
              | error reply =>
                  refine ⟨{ provider }, backend, ?_, .inl ⟨rfl, rfl⟩⟩
                  simp only [executeMutation, admitted, authorised, planned]
                  rfl
              | ok found =>
                  obtain ⟨snapshot, plan⟩ := found
                  obtain ⟨answers, after, applied, rfl, rfl, reaches⟩ :=
                    @applyPlan_driven runtime mutation.port plan store container entered backend
                      provider snapshot
                  have concluded := (LockedEngine.concludeMutation_quiet runtime none mutation
                    (applyPlan runtime snapshot plan answers)).drive_eq answers.store container
                      entered after
                  rw [LockedEngine.concludeMutation_run] at concluded
                  refine ⟨answers, after, ?_, .inr ⟨snapshot, plan, ?_, reaches⟩⟩
                  · dsimp only
                    rw [Program.drive_attempt, Program.drive_lift, applied]
                    dsimp only
                    rw [Program.drive_lift, concluded]
                    simp only [executeMutation, admitted, authorised, planned]
                    rfl
                  · obtain ⟨accepted, rfl⟩ := authorise_ok authorised
                    exact ⟨admitted, accepted, planMutation_authorised.symm.trans planned⟩

end Devices

end PortFabric
