import PortFabric.Engine.RecordInvariants

/-!
# Recorded parent devices

Two builders read the generation of the parent device without a test. A
configured port that is live always has its parent device in the device table,
so the reading finds it, in every run and for every request.
-/

set_option autoImplicit false

namespace PortFabric

open Checks PortFabricEngine

/-- A configured record that is live has its parent device in the table. -/
def PortRecord.DeviceRecorded (devices : Std.ExtTreeMap DeviceId DeviceBinding) :
    PortRecord → Prop :=
  PortRecord.WhileLive fun record =>
    record.configuration.isSome = true → (devices[record.parentDevice]?).isSome = true

def EngineImpl.DevicesRecorded (impl : EngineImpl) : Prop :=
  OrderedMap.Every (fun _ record => record.DeviceRecorded impl.devices) impl.records

/-- The parent device of a configured live port is at hand. -/
def MutationBuildInput.HasDevice (input : MutationBuildInput) : Prop :=
  input.current.configuration.isSome = true → input.current.lifecycle.isLive = true →
    input.parentDeviceGeneration.isSome = true

section Builders

variable {input : MutationBuildInput}

private theorem rejectIf_defined {condition : Bool} {code : OutcomeCode} {detail : Text} :
    Avoids .undefinedBehaviour (rejectIf condition code detail) :=
  .ite (fun _ => .error PlanFailure.noConfusion) fun _ => .ok ()

private theorem demand_defined {α : Type} {value : Option α} {code : OutcomeCode} {detail : Text} :
    Avoids .undefinedBehaviour (demand value code detail) := by
  cases value with
  | none => exact .error PlanFailure.noConfusion
  | some found => exact .ok found

private theorem rejectInvalid_defined {check : Except Text Unit} {code : OutcomeCode} :
    Avoids .undefinedBehaviour (rejectInvalid check code) := by
  cases check with
  | error error => exact .error PlanFailure.noConfusion
  | ok => exact .ok ()

private theorem dereference_defined {α : Type} {value : Option α} (present : value.isSome = true) :
    Avoids .undefinedBehaviour (dereference value) := by
  obtain ⟨found, rfl⟩ := Option.isSome_iff_exists.mp present
  exact .ok found

private theorem reconfigure_defined (recorded : input.HasDevice) (request : ReconfigureRequest) :
    Avoids .undefinedBehaviour (buildReconfigure input request) := by
  unfold buildReconfigure
  refine .bind demand_defined fun committed present => .bind rejectIf_defined fun _ live => ?_
  have device : input.parentDeviceGeneration.isSome = true := by
    rw [demand_eq_ok] at present
    rw [rejectIf_eq_ok] at live
    exact recorded (by rw [present]; rfl) (by simpa using live)
  exact .bind rejectIf_defined fun _ _ => .bind rejectIf_defined fun _ _ =>
    .bind (dereference_defined device) fun _ _ => .bind rejectIf_defined fun _ _ =>
    .bind rejectIf_defined fun _ _ => .bind rejectInvalid_defined fun _ _ =>
    .bind rejectIf_defined fun _ _ => .ok _

private theorem assignedProfile_avoids (request : ProfileRequest)
    (committed : PortConfiguration) :
    Avoids .undefinedBehaviour (assignedProfile input request committed) := by
  unfold assignedProfile
  exact .ite (fun _ => .bind rejectIf_defined fun _ _ => .ok _)
    fun _ => .bind demand_defined fun _ _ => .ok _

private theorem assignProfile_defined (recorded : input.HasDevice) (request : ProfileRequest) :
    Avoids .undefinedBehaviour (buildAssignProfile input request) := by
  unfold buildAssignProfile
  refine .bind demand_defined fun committed present => .bind rejectIf_defined fun _ live => ?_
  have device : input.parentDeviceGeneration.isSome = true := by
    rw [demand_eq_ok] at present
    rw [rejectIf_eq_ok] at live
    exact recorded (by rw [present]; rfl) (by simpa using live)
  exact .bind (assignedProfile_avoids request committed) fun _ _ =>
    .bind (dereference_defined device) fun _ _ => .bind rejectInvalid_defined fun _ _ =>
    .bind rejectIf_defined fun _ _ => .ok _

private theorem fence_defined (request : FenceRequest) (retire : Bool) :
    Avoids .undefinedBehaviour (buildFence input request retire) := by
  unfold buildFence
  exact .bind rejectIf_defined fun _ _ => .bind rejectIf_defined fun _ _ => .ok _

private theorem grantPlan_defined (request : OwnershipRequest) (transfer : Bool) :
    Avoids .undefinedBehaviour (grantPlan input request transfer) := by
  unfold grantPlan
  exact .bind rejectIf_defined fun _ _ => .bind rejectIf_defined fun _ _ => .ok _

/-- No builder reads an absent parent device when configured live ports have theirs. -/
theorem Mutation.build_avoids (recorded : input.HasDevice) (mutation : Mutation) :
    Avoids .undefinedBehaviour (mutation.build input) := by
  cases mutation with
  | configure request =>
      exact .bind rejectIf_defined fun _ _ => .bind demand_defined fun _ _ =>
        .bind rejectIf_defined fun _ _ => .bind rejectIf_defined fun _ _ =>
        .bind rejectIf_defined fun _ _ => .bind rejectIf_defined fun _ _ =>
        .bind rejectIf_defined fun _ _ => .bind rejectIf_defined fun _ _ =>
        .bind rejectInvalid_defined fun _ _ => .ok _
  | reconfigure request => exact reconfigure_defined recorded request
  | administrative request =>
      exact .bind rejectIf_defined fun _ _ => .bind demand_defined fun _ _ =>
        .bind rejectIf_defined fun _ _ => .bind rejectIf_defined fun _ _ =>
        .bind rejectIf_defined fun _ _ => .ok _
  | assignProfile request => exact assignProfile_defined recorded request
  | bindCapabilities request =>
      exact .bind rejectIf_defined fun _ _ => .bind rejectInvalid_defined fun _ _ =>
        .bind rejectIf_defined fun _ _ => .bind rejectIf_defined fun _ _ =>
        .bind rejectIf_defined fun _ _ => .ok _
  | reconcile request =>
      exact .bind demand_defined fun _ _ => .bind demand_defined fun _ _ =>
        .bind rejectIf_defined fun _ _ => .bind rejectIf_defined fun _ _ =>
        .bind rejectInvalid_defined fun _ _ => .bind rejectIf_defined fun _ _ => .ok _
  | supersede request => exact fence_defined request false
  | retire request => exact fence_defined request true
  | claimOwnership request =>
      exact .bind rejectIf_defined fun _ _ => .bind rejectIf_defined fun _ _ =>
        .bind rejectIf_defined fun _ _ => grantPlan_defined request false
  | transferOwnership request =>
      exact .bind demand_defined fun _ _ => .bind rejectIf_defined fun _ _ =>
        .bind rejectIf_defined fun _ _ => grantPlan_defined request true
  | releaseOwnership request =>
      exact .bind demand_defined fun _ _ => .bind rejectIf_defined fun _ _ => .ok _
  | recordAppliedEvidence request =>
      exact .bind rejectIf_defined fun _ _ => .bind rejectIf_defined fun _ _ =>
        .bind rejectIf_defined fun _ _ => .bind rejectIf_defined fun _ _ => .ok _
  | observeExternalState request =>
      exact .bind rejectIf_defined fun _ _ => .bind rejectIf_defined fun _ _ => .ok _

end Builders

section Phases

variable {runtime : Runtime} {mutation : Mutation} {snapshot : PortRecord}

private theorem reject_defined {α : Type} {code : OutcomeCode} {message : Text} :
    Avoids .undefinedBehaviour (.error (.reject code message) : Except Reply α) :=
  .error Reply.noConfusion

private theorem result_defined {α : Type} {result : MutationResult} :
    Avoids .undefinedBehaviour (.error (.result result) : Except Reply α) :=
  .error Reply.noConfusion

theorem observe_defined (impl : EngineImpl) (mutation : Mutation) :
    Avoids .undefinedBehaviour (observe impl mutation) := by
  have decided (snapshot : PortRecord) :
      Avoids .undefinedBehaviour (replayDecision mutation snapshot) :=
    .ite (fun _ => reject_defined) fun _ => .ite (fun _ => result_defined) fun _ =>
      .ite (fun _ => .ite (fun _ => result_defined) fun _ => reject_defined) fun _ => .ok ()
  unfold observe
  split
  · exact reject_defined
  · next snapshot _ =>
      split
      · next reply refused =>
          refine .error fun undefined => decided snapshot ?_
          rw [refused, undefined]
      · exact .ok _

theorem snapshotGates_defined (config : EngineConfig) (mutation : Mutation)
    (snapshot : PortRecord) :
    Avoids .undefinedBehaviour (snapshotGates config mutation snapshot) := by
  refine .bind (.ite (fun _ => reject_defined) fun _ => .ok ()) fun _ _ =>
    .bind (.ite (fun _ => result_defined) fun _ => .ok ()) fun _ _ =>
    .ite (fun _ => .ok ()) fun _ => ?_
  split
  · exact .ite (fun _ => reject_defined) fun _ => .ok ()
  · exact .ite (fun _ => reject_defined) fun _ => .ite (fun _ => reject_defined) fun _ =>
      .ite (fun _ => result_defined) fun _ => .ok ()

theorem deviceGate_defined (mutation : Mutation) (snapshot : PortRecord)
    (context : MutationContext) :
    Avoids .undefinedBehaviour (deviceGate mutation snapshot context) := by
  unfold deviceGate
  split
  · exact .ok ()
  · exact .ite (fun _ => .ok ()) fun _ => .ite (fun _ => result_defined) fun _ =>
      .ite (fun _ => result_defined) fun _ => .ok ()

theorem evidenceFor_defined (runtime : Runtime) (mutation : Mutation)
    (snapshot : PortRecord) (answer : ProviderAnswer) :
    Avoids .undefinedBehaviour (evidenceFor runtime mutation snapshot answer) := by
  refine .ite (fun _ => ?_) fun _ => .ok _
  split
  · exact result_defined
  · exact .ok _

theorem validatePlan_defined (snapshot : PortRecord) (plan : MutationPlan) :
    Avoids .undefinedBehaviour (validatePlan snapshot plan) := by
  unfold validatePlan
  split
  · exact reject_defined
  · refine .ite (fun _ => .ok ()) fun _ => ?_
    split
    · exact reject_defined
    · split
      · exact .ok ()
      · exact result_defined

theorem planReply_defined {α : Type} {planning : Planning α}
    (defined : Avoids .undefinedBehaviour planning) :
    Avoids .undefinedBehaviour (planning.mapError (planReply snapshot)) := by
  cases planning with
  | ok plan => exact .ok plan
  | error failure =>
      cases failure with
      | undefinedBehaviour => exact absurd rfl defined
      | rejected code detail =>
          refine .error ?_
          simp only [planReply]
          split
          · exact Reply.noConfusion
          · exact Reply.noConfusion

/-- Planning is defined when the observed record has its parent device. -/
theorem planMutation_defined {impl : EngineImpl} (answer : ProviderAnswer)
    (recorded : ∀ record : PortRecord, impl.records[mutation.port]? = some record →
      record.DeviceRecorded impl.devices) :
    Avoids .undefinedBehaviour (planMutation runtime mutation answer impl) := by
  unfold planMutation
  refine .bind (observe_defined impl mutation) fun snapshot observed =>
    .bind (.ite (fun _ => reject_defined) fun _ => .ok ()) fun _ _ =>
    .bind (snapshotGates_defined _ _ _) fun _ _ => .bind (deviceGate_defined _ _ _) fun _ _ =>
    .bind ?_ fun _ _ => .ok _
  have found := (observe_ok observed).1
  unfold preparePlan
  refine .bind (evidenceFor_defined _ _ _ _) fun capability _ =>
    .bind (planReply_defined (Mutation.build_avoids ?_ mutation)) fun _ _ =>
    .bind (validatePlan_defined _ _) fun _ _ => .ok _
  intro configured live
  have present := recorded snapshot found live configured
  simpa [readContext] using present

theorem applyPlan_rejects {plan : MutationPlan} {answers : MutationAnswers} {reply : Reply}
    (decided : applyPlan runtime snapshot plan answers = .reject reply) :
    ∃ result, reply = .result result := by
  unfold applyPlan at decided
  repeat' split at decided
  all_goals first
    | cases decided
    | (unfold verifyApplied at decided; split at decided <;> cases decided)
  exact ⟨_, rfl⟩

private theorem concludeMutation_defined {impl : EngineImpl} {plan : MutationPlan}
    {answers : MutationAnswers} :
    (concludeMutation runtime mutation (applyPlan runtime snapshot plan answers) answers.store
      impl).2 ≠ .undefinedBehaviour := by
  cases decided : applyPlan runtime snapshot plan answers with
  | reject reply =>
      obtain ⟨result, rfl⟩ := applyPlan_rejects decided
      exact Reply.noConfusion
  | commit plan applied settled => exact Reply.noConfusion
  | uncertain generation detail code reply => exact Reply.noConfusion

/-- A call is defined when the record of its port has its parent device. -/
theorem executeMutation_defined {impl : EngineImpl} (answers : MutationAnswers)
    (recorded : ∀ record : PortRecord, impl.records[mutation.port]? = some record →
      record.DeviceRecorded impl.devices) :
    (executeMutation runtime mutation answers impl).2 ≠ .undefinedBehaviour := by
  have admitted : Avoids .undefinedBehaviour (admitMutation impl mutation) :=
    .ite (fun _ => reject_defined) fun _ => .ite (fun _ => reject_defined) fun _ =>
      .ite (fun _ => reject_defined) fun _ => .ok ()
  have authorised : Avoids .undefinedBehaviour (authorise runtime impl mutation).2 := by
    unfold authorise
    dsimp only
    split
    · exact .ok ()
    · exact result_defined
  have same : (authorise runtime impl mutation).1 = impl.authorised runtime mutation := by
    unfold authorise
    dsimp only
    split
    · rfl
    · rfl
  have planned : Avoids .undefinedBehaviour
      (planMutation runtime mutation answers.provider (impl.authorised runtime mutation)) := by
    refine planMutation_defined _ fun record found => ?_
    rw [EngineImpl.authorised_records] at found
    rw [EngineImpl.authorised_devices]
    exact recorded record found
  unfold executeMutation
  split
  · next reply refused =>
      intro same
      subst same
      exact admitted refused
  · split
    · next reply refused =>
        intro same
        subst same
        exact authorised (congrArg Prod.snd refused)
    · next after passed =>
        obtain rfl : impl.authorised runtime mutation = after :=
          same.symm.trans (congrArg Prod.fst passed)
        split
        · next reply refused =>
            intro same
            subst same
            exact planned refused
        · exact concludeMutation_defined

end Phases

section Tables

variable {runtime : Runtime} {impl : EngineImpl}

/-- Every device of the table before is in the table after. -/
def DevicesKept (before after : EngineImpl) : Prop :=
  ∀ device : DeviceId, (before.devices[device]?).isSome = true →
    (after.devices[device]?).isSome = true

theorem DevicesKept.of_same {after : EngineImpl} (same : after.devices = impl.devices) :
    DevicesKept impl after := by
  intro device present
  rwa [same]

theorem bindDevice_devices (runtime : Runtime) (impl : EngineImpl) (request : PortBindingRequest)
    (record : PortRecord) :
    DevicesKept impl (bindDevice runtime impl request record).1 := by
  intro device present
  unfold bindDevice
  dsimp only
  split
  · split
    · exact present
    · exact OrderedMap.isSome_insert present
  · split
    · exact OrderedMap.isSome_insert present
    · split
      · exact present
      · exact present

private theorem bindPort_devices (request : PortBindingRequest) (answers : MutationAnswers) :
    DevicesKept impl (bindPort runtime impl request answers).1 := by
  unfold bindPort
  split
  · exact .of_same rfl
  · dsimp only
    split
    · exact .of_same rfl
    · next inserted stored =>
        obtain ⟨_, _, same⟩ := insertBinding_ok stored
        intro device present
        have held : (inserted.devices[device]?).isSome = true := by
          rw [same]
          exact present
        have kept := bindDevice_devices runtime inserted request (boundRecord request
          (probeCapabilities runtime impl request answers.provider)) device held
        split
        · next answered => rwa [answered] at kept
        · next settled answered =>
            rw [answered] at kept
            obtain ⟨_, same⟩ := EngineImpl.persistLockedState_eq runtime answers.store settled
            rw [same]
            exact kept

private theorem registerDevice_devices (device : DeviceId) (generation : DeviceGeneration)
    (source : Text) :
    DevicesKept impl (PortFabricEngine.registerDevice runtime impl device generation source).1 := by
  intro other present
  unfold PortFabricEngine.registerDevice
  dsimp only
  repeat' split
  all_goals first
    | exact present
    | exact OrderedMap.isSome_insert present

private theorem mutate_devices (mutation : Mutation) (answers : MutationAnswers) :
    (executeMutation runtime mutation answers impl).1.devices = impl.devices := by
  have effect := executeMutation_effect runtime mutation answers impl
  generalize (executeMutation runtime mutation answers impl).1 = after at effect ⊢
  cases effect with
  | unrecorded _ _ frame =>
      rcases frame with rfl | rfl
      · rfl
      · exact EngineImpl.authorised_devices
  | committed _ => simp [EngineImpl.authorised_devices]
  | doubted _ => simp [EngineImpl.authorised_devices]

/-- Only a load takes a device out of the table. -/
theorem EngineImpl.perform_devices (operation : Operation) (unloaded : operation.isLoad = false) :
    DevicesKept impl (impl.perform runtime operation) := by
  cases operation with
  | load container => cases unloaded
  | bindPort request answers => exact bindPort_devices request answers
  | mutate mutation answers => exact .of_same (mutate_devices mutation answers)
  | registerDevice device generation source => exact registerDevice_devices device generation source
  | registerPublisher publisher boot epoch =>
      obtain ⟨_, same⟩ := registerPublisher_frame impl publisher boot epoch
      rw [EngineImpl.perform, same]
      exact .of_same rfl
  | setTopologyGeneration generation =>
      obtain ⟨_, same⟩ := setTopologyGeneration_frame impl generation
      rw [EngineImpl.perform, same]
      exact .of_same rfl
  | save store =>
      obtain ⟨_, same⟩ := save_frame runtime impl store
      rw [EngineImpl.perform, same]
      exact .of_same rfl
  | beginEpoch =>
      rw [EngineImpl.perform, PortFabricEngine.beginEpoch]
      repeat' split
      all_goals exact .of_same rfl
  | fencePublisher publisher boot =>
      rw [EngineImpl.perform, PortFabricEngine.fencePublisher]
      repeat' split
      all_goals exact .of_same rfl
  | defineProfile profile => exact .of_same rfl
  | shutdown => exact .of_same rfl

end Tables

section Steps

namespace PortRecord

variable {devices : Std.ExtTreeMap DeviceId DeviceBinding} {record next : PortRecord}

theorem DeviceRecorded.mono {before after : EngineImpl} (kept : DevicesKept before after)
    (recorded : record.DeviceRecorded before.devices) : record.DeviceRecorded after.devices :=
  fun live configured => kept _ (recorded live configured)

theorem DeviceRecorded.congr (recorded : record.DeviceRecorded devices)
    (live : next.lifecycle.isLive = true → record.lifecycle.isLive = true)
    (configuration : next.configuration.isSome = record.configuration.isSome)
    (parentDevice : next.parentDevice = record.parentDevice) : next.DeviceRecorded devices := by
  intro alive configured
  rw [parentDevice]
  exact recorded (live alive) (configuration ▸ configured)

end PortRecord

variable {runtime : Runtime} {impl : EngineImpl} {mutation : Mutation} {answers : MutationAnswers}
  {snapshot final : PortRecord} {plan : MutationPlan} {input : MutationBuildInput}
  {devices : Std.ExtTreeMap DeviceId DeviceBinding}

/-- A builder makes a record live only with its parent device at hand. -/
theorem Mutation.build_deviceRecorded (built : mutation.build input = .ok plan)
    (table : ∀ generation, input.parentDeviceGeneration = some generation →
      (devices[input.current.parentDevice]?).isSome = true)
    (recorded : input.current.DeviceRecorded devices) : plan.next.DeviceRecorded devices := by
  by_cases reports : writesConfiguration mutation.kind = false
  · have reported := (Mutation.build_proposal built).reported reports
    exact recorded.congr reported.live (congrArg Option.isSome reported.configuration)
      reported.parentDevice
  · cases mutation with
    | configure request =>
        obtain ⟨_, _, device, _, _, _, rfl⟩ := buildConfigure_ok built
        exact fun _ _ => table _ device
    | reconfigure request =>
        obtain ⟨_, _, _, _, device, _, _, _, _, next⟩ := buildReconfigure_ok built
        rw [next]
        exact fun _ _ => table _ device
    | administrative request =>
        obtain ⟨_, _, present, live, _, _, _, next⟩ := buildAdministrative_ok built
        rw [next]
        exact fun _ _ => recorded live (present ▸ rfl)
    | assignProfile request =>
        obtain ⟨_, _, _, _, _, _, device, _, ⟨_, next⟩, _⟩ := buildAssignProfile_ok built
        rw [next]
        exact fun _ _ => table _ device
    | reconcile request =>
        obtain ⟨_, _, _, device, _, next, _⟩ := buildReconcile_ok built
        rw [next]
        exact fun _ _ => table _ device
    | bindCapabilities | supersede | retire | claimOwnership | transferOwnership
    | releaseOwnership | recordAppliedEvidence | observeExternalState => exact absurd rfl reports

theorem Commits.deviceRecorded
    (commits : Commits runtime mutation answers impl snapshot plan final)
    (before : snapshot.DeviceRecorded impl.devices) : final.DeviceRecorded impl.devices := by
  obtain ⟨_, proposal, _, _, _, built, _, rfl, _⟩ := commits.spec
  have next : proposal.next.DeviceRecorded impl.devices := by
    refine Mutation.build_deviceRecorded built (fun generation known => ?_) before
    obtain ⟨binding, stored, _⟩ := Option.map_eq_some_iff.mp known
    exact Option.isSome_of_eq_some stored
  exact next.congr id rfl rfl

theorem EngineImpl.perform_devicesRecorded (recorded : impl.DevicesRecorded)
    (operation : Operation) : (impl.perform runtime operation).DevicesRecorded := by
  have invariant (after : EngineImpl) :
      RecordInvariant fun _ record => record.DeviceRecorded after.devices :=
    whileLive_invariant fun _ _ _ recorded => recorded
  cases operation with
  | load container =>
      obtain ⟨_, _, same⟩ | ⟨state, recovers, loaded⟩ := load_effect runtime impl container
      · unfold EngineImpl.DevicesRecorded
        rw [EngineImpl.perform, same]
        exact recorded
      · unfold EngineImpl.DevicesRecorded
        rw [EngineImpl.perform, loaded.records]
        exact restored_whileLive state.records
  | mutate mutation answers =>
      unfold EngineImpl.DevicesRecorded at recorded ⊢
      rw [EngineImpl.perform, mutate_devices]
      exact (perform_every_iff (invariant impl) recorded (.mutate mutation answers)).mpr
        fun snapshot plan final commits => commits.deviceRecorded
          (recorded _ _ commits.toPlanned.snapshot_found)
  | bindPort | defineProfile | beginEpoch | registerPublisher | fencePublisher | registerDevice
  | setTopologyGeneration | save | shutdown =>
      exact (perform_records (by simp) rfl).every (invariant _)
        (OrderedMap.Every.imp (fun _ _ held => held.mono (EngineImpl.perform_devices _ rfl))
          recorded)

/-- In every state that is reached, configured live ports have their parent device recorded. -/
theorem after_devicesRecorded (runtime : Runtime) (operations : List Operation) :
    (EngineImpl.after runtime operations).DevicesRecorded := by
  have kept (impl : EngineImpl) (operation : Operation) (recorded : impl.DevicesRecorded) :
      (impl.perform runtime operation).DevicesRecorded :=
    EngineImpl.perform_devicesRecorded recorded operation
  have initially : (EngineImpl.initial runtime.config).DevicesRecorded := OrderedMap.Every.empty
  exact Runs.invariant kept initially operations

end Steps

/-- No call dereferences the generation of a parent device that is not recorded. -/
theorem dereferences_recorded_device (runtime : Runtime) (operations : List Operation)
    (mutation : Mutation) (answers : MutationAnswers) :
    (executeMutation runtime mutation answers (EngineImpl.after runtime operations)).2 ≠
      .undefinedBehaviour :=
  executeMutation_defined answers fun _ found => after_devicesRecorded runtime operations _ _ found

end PortFabric
