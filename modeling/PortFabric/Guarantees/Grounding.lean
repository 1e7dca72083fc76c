import PortFabric.Guarantees.AuthoritySafety
import PortFabric.Guarantees.EvidenceBinding
import PortFabric.Guarantees.Prospects

/-!
# Grounding

What every reachable state guarantees the repair of its ports: a live
configuration has evidence that supports it and is not ahead of its device, a
configured port is not unconfigured, and every ownership is of the current epoch.
-/

set_option autoImplicit false

namespace PortFabric

open Checks PortFabricEngine

theorem PortRecord.Evidenced.congr {runtime : Runtime} {record other : PortRecord}
    {capability : CapabilityBinding} (evident : record.Evidenced runtime capability)
    (same : other.capability = record.capability) : other.Evidenced runtime capability := by
  obtain ⟨provider, resolved⟩ := evident
  refine ⟨provider, ?_⟩
  simp only [resolveCapabilities, same]
  exact resolved

theorem PortRecord.evidenced_of_bound {runtime : Runtime} {record : PortRecord}
    {capability : CapabilityBinding} (bound : record.capability = capability)
    (present : capability.present = true) : record.Evidenced runtime capability :=
  ⟨{}, by simp [resolveCapabilities, bound, present]⟩

/-- What every record guarantees the operations that would configure its port. -/
structure PortRecord.Backed (runtime : Runtime) (record : PortRecord) : Prop where
  placed : record.configuration.isSome = true → record.lifecycle ≠ .unconfigured
  supported : record.lifecycle.isLive = true →
    ∀ committed, record.configuration = some committed →
      ∃ capability, record.Evidenced runtime capability ∧
        validateAgainstCapabilities committed capability = .ok ()
  numbered : record.lifecycle.isLive = true → record.generations.configuration.valid = true

section Backing

variable {runtime : Runtime} {impl : EngineImpl} {record other : PortRecord}

theorem evaluateTransition_ne_unconfigured {lifecycle : PortLifecycle}
    {transition : LifecycleTransition}
    (allowed : (evaluateTransition lifecycle transition).allowed = true) :
    (evaluateTransition lifecycle transition).result ≠ .unconfigured := by
  revert allowed
  cases lifecycle <;> cases transition <;> decide

theorem PortRecord.Backed.of_idle (fenced : record.lifecycle.isLive = false)
    (placed : record.configuration.isSome = true → record.lifecycle ≠ .unconfigured) :
    record.Backed runtime :=
  ⟨placed, fun live => absurd live (by simp [fenced]), fun live => absurd live (by simp [fenced])⟩

/-- A record that stands no better, and not as if it had no configuration, stays backed. -/
theorem PortRecord.Backed.continue (backed : record.Backed runtime)
    (continues : record.Continues other)
    (placed : other.configuration.isSome = true → other.lifecycle ≠ .unconfigured)
    (numbered : other.lifecycle.isLive = true → other.generations.configuration.valid = true) :
    other.Backed runtime := by
  refine ⟨placed, fun live committed configured => ?_, numbered⟩
  obtain ⟨former, earlier, _, _, same⟩ := continues.configuration committed configured
  obtain ⟨capability, evident, supported⟩ := backed.supported (continues.live live) former earlier
  exact ⟨capability, evident.congr continues.capability, same capability ▸ supported⟩

theorem Proposal.placed {mutation : Mutation} {input : MutationBuildInput} {plan : MutationPlan}
    (proposed : Proposal mutation input plan)
    (placed : input.current.configuration.isSome = true →
      input.current.lifecycle ≠ .unconfigured)
    (configured : plan.next.configuration.isSome = true) :
    plan.next.lifecycle ≠ .unconfigured := by
  cases proposed with
  | configured _ _ _ _ planned =>
      rw [planned]
      exact nofun
  | replaced _ _ live _ _ planned =>
      rw [planned]
      intro same
      rw [show input.current.lifecycle = .unconfigured from same] at live
      cases live
  | administered _ _ _ allowed _ next =>
      rw [next]
      exact evaluateTransition_ne_unconfigured allowed
  | @rebound request _ _ next =>
      obtain ⟨_, _, _, _, _, same, judged⟩ :=
        (input.current.withEvidence request.binding).reexamined_eq request.binding
      rw [next, same] at configured ⊢
      obtain ⟨fenced, _⟩ | ⟨kept, _⟩ := judged
      · exact fenced ▸ nofun
      · exact kept ▸ placed configured
  | reconciled _ _ _ _ planned =>
      rw [planned]
      exact nofun
  | @fenced lifecycle reason detail retire _ _ allowed result next =>
      obtain ⟨_, _, same⟩ := (input.current.fenced lifecycle reason detail).disowned_eq retire
      rw [next]
      dsimp only
      rw [same]
      exact result ▸ evaluateTransition_ne_unconfigured allowed
  | reowned _ _ next =>
      rw [next] at configured ⊢
      exact placed configured
  | @evidenced request _ _ present _ next =>
      obtain ⟨_, _, _, _, _, _, _, same, judged⟩ := input.current.evidenced_eq request.evidence
      rw [next, same]
      obtain kept | ⟨_, fenced⟩ := judged
      · exact kept ▸ placed present
      · exact fenced ▸ nofun
  | @observed request _ _ next =>
      obtain ⟨_, _, _, _, _, same, judged⟩ :=
        input.current.drifted_eq request.observed request.detail
      rw [next, same] at configured ⊢
      obtain kept | ⟨_, fenced⟩ | ⟨allowed, conflicted⟩ := judged
      · exact kept ▸ placed configured
      · exact fenced ▸ nofun
      · exact conflicted ▸ evaluateTransition_ne_unconfigured allowed

theorem evidenceFor_evidenced {mutation : Mutation} {answer : ProviderAnswer}
    {capability : CapabilityBinding}
    (consulted : evidenceFor runtime mutation record answer = .ok capability)
    (needed : needsConfigurationExpectation mutation.kind = true) :
    record.Evidenced runtime capability := by
  simp only [evidenceFor, needed, if_true] at consulted
  split at consulted
  · cases consulted
  · next resolved =>
      cases consulted
      exact ⟨answer, resolved⟩

/-- A port comes to stand as configured with the next generation of its configuration. -/
theorem Commits.numbered {mutation : Mutation} {answers : MutationAnswers}
    {snapshot final : PortRecord} {plan : MutationPlan}
    (commits : Commits runtime mutation answers impl snapshot plan final)
    (before : snapshot.lifecycle.isLive = true →
      snapshot.generations.configuration.valid = true)
    (live : final.lifecycle.isLive = true) : final.generations.configuration.valid = true := by
  by_cases former : snapshot.lifecycle.isLive = true
  · have counted := commits.counted.2.le
    have numbered := Generation.valid_iff.mp (before former)
    rw [Generation.le_iff] at counted
    exact Generation.valid_iff.mpr (by omega)
  · obtain ⟨_, proposal, _, _, _, proposed, _, _, rfl, _⟩ := commits.settlement
    by_cases reports : writesConfiguration mutation.kind = false
    · exact absurd ((proposed.reported reports).live live) former
    · cases proposed with
      | configured _ _ _ _ planned | replaced _ _ _ _ _ planned | reconciled _ _ _ _ planned =>
          simp only [stampPlan, PortRecord.settledWith, planned]
          exact Generation.valid_advance _
      | administered _ _ standing => exact absurd standing former
      | rebound requested | evidenced requested | observed requested =>
          exact absurd (by rw [requested]; rfl) reports
      | reowned requested =>
          exact absurd (by rcases requested with same | same | same <;> rw [same] <;> rfl) reports
      | @fenced _ _ _ retire requested =>
          exact absurd (by cases retire <;> rw [requested] <;> rfl) reports

theorem Commits.backed {mutation : Mutation} {answers : MutationAnswers}
    {snapshot final : PortRecord} {plan : MutationPlan}
    (commits : Commits runtime mutation answers impl snapshot plan final)
    (backed : snapshot.Backed runtime) : final.Backed runtime := by
  have numbered := commits.numbered backed.numbered
  obtain ⟨capability, proposal, applied, drift, evidence, proposed, consulted, validated, rfl, _⟩ :=
    commits.settlement
  have placed := proposed.placed backed.placed
  obtain ⟨needed, configuration, configures⟩ | ⟨request, rfl, next⟩ | continues :=
    proposed.configures_or fun needed => (evidenceFor_ok consulted needed).1
  · refine ⟨placed, fun _ committed configured => ?_, numbered⟩
    obtain rfl := Option.some.inj (configures.configured.symm.trans configured)
    have supported := validatePlan_supported validated configures.validated configures.configured
    rw [configures.evidence] at supported
    exact ⟨capability, (evidenceFor_evidenced consulted needed).congr configures.capability,
      supported⟩
  · refine ⟨placed, fun live committed configured => ?_, numbered⟩
    obtain ⟨_, _, _, _, _, same, judged⟩ :=
      (snapshot.withEvidence request.binding).reexamined_eq request.binding
    simp only [stampPlan, PortRecord.settledWith, next, same] at live configured
    obtain ⟨fenced, _⟩ | ⟨_, supported⟩ := judged
    · rw [fenced] at live
      cases live
    · have supported := supported committed configured
      refine ⟨request.binding, PortRecord.evidenced_of_bound ?_
        (validateAgainstCapabilities_present supported).1, supported⟩
      exact (congrArg PortRecord.capability next).trans (congrArg PortRecord.capability same)
  · exact backed.continue continues.settled placed numbered

theorem PortRecord.recovered_backed (formed : record.recovered.Formed) :
    record.recovered.Backed runtime := by
  cases configured : record.configuration with
  | none =>
      have unbound : record.recovered.configuration.isSome = true → False := by
        simp [PortRecord.recovered_configuration, configured]
      refine .of_idle ?_ fun bound => (unbound bound).elim
      exact Bool.eq_false_iff.mpr fun live => unbound (formed.live live)
  | some committed =>
      have bound : record.configuration.isSome = true := by rw [configured]; rfl
      refine .of_idle (record.recovered_idle bound) fun _ => ?_
      rw [record.recovered_standing bound]
      split
      · exact nofun
      · exact nofun

theorem EngineImpl.WellFormed.perform_backed (wellFormed : impl.WellFormed) (operation : Operation)
    (backed : OrderedMap.Every (fun _ record => record.Backed runtime) impl.records) :
    OrderedMap.Every (fun _ record => record.Backed runtime)
      (impl.perform runtime operation).records := by
  intro port record found
  have formed := (wellFormed.perform operation).formed _ _ found
  cases record_step found with
  | kept stored => exact backed _ _ stored
  | bound evidence absent => exact .of_idle rfl nofun
  | released reason detail stored =>
      exact (backed _ _ stored).continue (.of_same rfl rfl rfl rfl) (backed _ _ stored).placed
        (backed _ _ stored).numbered
  | committed commits => exact commits.backed (backed _ _ commits.toPlanned.snapshot_found)
  | doubted doubts =>
      have before := backed _ _ doubts.toPlanned.snapshot_found
      refine .of_idle (PortRecord.uncertain_not_live ..) fun configured => ?_
      rw [PortRecord.uncertain_configuration] at configured
      rw [PortRecord.uncertain_lifecycle]
      split
      · exact nofun
      · exact before.placed configured
  | recovered recovers member => exact PortRecord.recovered_backed formed

/-- Every ownership was granted under the current epoch. -/
def EngineImpl.OwnershipsOfEpoch (impl : EngineImpl) : Prop :=
  OrderedMap.Every
    (fun _ (record : PortRecord) => ∀ ownership, record.ownership = some ownership →
      ownership.epoch = impl.epoch)
    impl.records

theorem EngineImpl.OwnershipsOfEpoch.inherit {after : EngineImpl}
    (current : impl.OwnershipsOfEpoch) (inherits : InheritsOwnership impl.records after.records)
    (epoch : after.epoch = impl.epoch) : after.OwnershipsOfEpoch := by
  intro port record found ownership owned
  obtain ⟨source, present, same⟩ := inherits port record ownership found owned
  exact (current port source present ownership same).trans epoch.symm

/-- An ownership that a new epoch leaves alone would have been granted under it. -/
theorem EngineImpl.OwnershipsOfEpoch.beginEpoch (current : impl.OwnershipsOfEpoch) :
    (PortFabricEngine.beginEpoch impl).1.OwnershipsOfEpoch := by
  obtain ⟨same, _⟩ | ⟨_, later, _, after⟩ := beginEpoch_effect_cases impl
  · rw [same]
    exact current
  · rw [after]
    intro port record found ownership owned
    rw [releaseOwnershipBeforeEpoch, releaseWhere_lookup] at found
    obtain ⟨source, present, rfl⟩ := Option.map_eq_some_iff.mp found
    split at owned
    · cases owned
    · next unheld =>
        have granted := current port source present ownership owned
        simp only [PortRecord.ownedBefore, owned, Option.any_some, granted,
          decide_eq_true_eq] at unheld
        exact absurd later unheld

theorem EngineImpl.OwnershipsOfEpoch.perform (current : impl.OwnershipsOfEpoch)
    (operation : Operation) : (impl.perform runtime operation).OwnershipsOfEpoch := by
  have frame := perform_setting runtime impl operation
  cases operation with
  | mutate mutation answers =>
      have epoch : (impl.perform runtime (.mutate mutation answers)).epoch = impl.epoch :=
        executeMutation_epoch
      intro port record found ownership owned
      rw [epoch]
      cases record_step found with
      | kept stored => exact current _ _ stored ownership owned
      | released _ _ _ => cases owned
      | committed commits =>
          rcases EngineImpl.Commits.ownership_source commits owned with held | granted
          · exact current _ _ commits.toPlanned.snapshot_found ownership held
          · exact granted
      | doubted doubts =>
          rw [PortRecord.uncertain_ownership] at owned
          exact current _ _ doubts.toPlanned.snapshot_found ownership owned
  | beginEpoch => exact current.beginEpoch
  | load container =>
      obtain ⟨_, _, same⟩ | ⟨state, _, loaded⟩ := load_effect runtime impl container
      · rw [EngineImpl.perform, same]
        exact current
      · intro port record found ownership owned
        obtain ⟨⟨persisted, rfl⟩, _⟩ := loaded.recovered _ _ found
        rw [PortRecord.recovered_ownership] at owned
        cases owned
  | bindPort request answers =>
      exact current.inherit (bindPort_effect runtime impl request answers).1.inherits
        (bindPort_effect runtime impl request answers).2.2
  | registerPublisher publisher boot epoch =>
      obtain ⟨_, same⟩ := registerPublisher_frame impl publisher boot epoch
      rw [EngineImpl.perform, same]
      exact current
  | fencePublisher publisher boot =>
      refine current.inherit fencePublisher_effect.inherits ?_
      obtain ⟨same, _⟩ | ⟨_, _, _, _, _, after⟩ := fencePublisher_effect_cases impl publisher boot
      · rw [EngineImpl.perform, same]
      · rw [EngineImpl.perform, after]
        rfl
  | defineProfile | registerDevice | setTopologyGeneration | save | shutdown =>
      refine current.inherit ?_ (frame rfl).epoch
      rw [(frame rfl).records]
      exact fun _ record _ found owned => ⟨record, found, owned⟩

/-- The configuration of a live port names no later generation than its device is registered
under. -/
def EngineImpl.Abreast (impl : EngineImpl) (record : PortRecord) : Prop :=
  record.lifecycle.isLive = true → ∀ committed, record.configuration = some committed →
    ∃ binding, impl.devices[record.parentDevice]? = some binding ∧
      committed.deviceGeneration ≤ binding.generation

theorem EngineImpl.DevicesStep.later {spent : Nat}
    {devices : Std.ExtTreeMap DeviceId DeviceBinding}
    (step : impl.DevicesStep runtime spent devices) {device : DeviceId} {binding : DeviceBinding}
    (registered : impl.devices[device]? = some binding) :
    ∃ current : DeviceBinding, devices[device]? = some current ∧
      binding.generation ≤ current.generation := by
  cases step with
  | kept => exact ⟨binding, registered, Generation.le_refl _⟩
  | @added other added absent room =>
      have differs : other ≠ device := by
        intro here
        rw [here, registered] at absent
        cases absent
      exact ⟨binding, (OrderedMap.lookup_insert_of_ne differs).trans registered,
        Generation.le_refl _⟩
  | @raised other former raised found newer allowed =>
      by_cases here : other = device
      · subst here
        cases found.symm.trans registered
        exact ⟨raised, OrderedMap.lookup_insert_self .., Generation.le_of_lt newer⟩
      · exact ⟨binding, (OrderedMap.lookup_insert_of_ne here).trans registered,
          Generation.le_refl _⟩

theorem EngineImpl.Abreast.of_idle (fenced : record.lifecycle.isLive = false) :
    impl.Abreast record := by
  intro live
  rw [fenced] at live
  cases live

theorem EngineImpl.Abreast.congr (abreast : impl.Abreast record)
    (live : other.lifecycle.isLive = true → record.lifecycle.isLive = true)
    (configuration : other.configuration = record.configuration)
    (parentDevice : other.parentDevice = record.parentDevice) : impl.Abreast other := by
  intro alive committed configured
  rw [parentDevice]
  exact abreast (live alive) committed (configuration ▸ configured)

theorem Mutation.build_abreast {mutation : Mutation} {input : MutationBuildInput}
    {plan : MutationPlan} (built : mutation.build input = .ok plan)
    (context : ∀ generation, input.parentDeviceGeneration = some generation →
      ∃ binding, impl.devices[input.current.parentDevice]? = some binding ∧
        generation ≤ binding.generation)
    (abreast : impl.Abreast input.current) : impl.Abreast plan.next := by
  by_cases reports : writesConfiguration mutation.kind = false
  · have reported := (Mutation.build_proposal built).reported reports
    exact abreast.congr reported.live reported.configuration reported.parentDevice
  · cases mutation with
    | configure request =>
        obtain ⟨_, _, device, _, _, _, rfl⟩ := buildConfigure_ok built
        intro _ committed configured
        cases configured
        exact context _ device
    | reconfigure request =>
        obtain ⟨_, _, _, _, device, _, _, _, _, next⟩ := buildReconfigure_ok built
        rw [next]
        intro _ committed configured
        cases configured
        exact context _ device
    | administrative request =>
        obtain ⟨former, _, present, live, _, rfl, _, next⟩ := buildAdministrative_ok built
        rw [next]
        intro _ committed configured
        cases configured
        exact abreast live former present
    | assignProfile request =>
        obtain ⟨_, _, _, _, _, _, device, _, ⟨_, next⟩, _⟩ := buildAssignProfile_ok built
        rw [next]
        intro _ committed configured
        cases configured
        exact context _ device
    | reconcile request =>
        obtain ⟨_, _, _, device, _, next, _⟩ := buildReconcile_ok built
        rw [next]
        intro _ committed configured
        cases configured
        exact context _ device
    | bindCapabilities | supersede | retire | claimOwnership | transferOwnership
    | releaseOwnership | recordAppliedEvidence | observeExternalState => exact absurd rfl reports

theorem Commits.abreast {mutation : Mutation} {answers : MutationAnswers}
    {snapshot final : PortRecord} {plan : MutationPlan}
    (commits : Commits runtime mutation answers impl snapshot plan final)
    (before : impl.Abreast snapshot) : impl.Abreast final := by
  obtain ⟨_, proposal, _, _, _, built, _, rfl, _⟩ := commits.spec
  have next : impl.Abreast proposal.next := by
    refine Mutation.build_abreast built (fun generation known => ?_) before
    obtain ⟨binding, stored, rfl⟩ := Option.map_eq_some_iff.mp known
    exact ⟨binding, stored, Generation.le_refl _⟩
  exact next.congr id rfl rfl

theorem EngineImpl.WellFormed.perform_abreast (wellFormed : impl.WellFormed)
    (abreast : OrderedMap.Every (fun _ record => impl.Abreast record) impl.records)
    (operation : Operation) :
    OrderedMap.Every (fun _ record => (impl.perform runtime operation).Abreast record)
      (impl.perform runtime operation).records := by
  intro port record found
  cases loads : operation.isLoad with
  | true =>
      cases operation with
      | load container =>
          obtain ⟨_, _, same⟩ | ⟨state, _, loaded⟩ := load_effect runtime impl container
          · rw [EngineImpl.perform, same] at found ⊢
            exact abreast _ _ found
          · intro live
            rw [(loaded.recovered _ _ found).not_live] at live
            cases live
      | _ => cases loads
  | false =>
      obtain ⟨_, precedes, _⟩ := EngineImpl.perform_precedes runtime wellFormed loads
      suffices before : impl.Abreast record by
        intro live committed configured
        obtain ⟨binding, registered, earlier⟩ := before live committed configured
        obtain ⟨current, stored, later⟩ := precedes.devices.later registered
        exact ⟨current, stored, Generation.le_trans earlier later⟩
      cases record_step found with
      | kept stored => exact abreast _ _ stored
      | bound _ _ => exact .of_idle rfl
      | released reason detail stored => exact (abreast _ _ stored).congr id rfl rfl
      | committed commits => exact commits.abreast (abreast _ _ commits.toPlanned.snapshot_found)
      | doubted doubts => exact .of_idle (PortRecord.uncertain_not_live ..)
      | recovered _ _ => cases loads

/-- What every reachable state guarantees the repair of its ports. -/
structure EngineImpl.Grounded (runtime : Runtime) (impl : EngineImpl) : Prop
    extends impl.WellFormed where
  backed : OrderedMap.Every (fun _ record => record.Backed runtime) impl.records
  current : impl.OwnershipsOfEpoch
  abreast : OrderedMap.Every (fun _ record => impl.Abreast record) impl.records

theorem EngineImpl.Grounded.perform (grounded : impl.Grounded runtime) (operation : Operation) :
    (impl.perform runtime operation).Grounded runtime where
  toWellFormed := grounded.toWellFormed.perform operation
  backed := grounded.toWellFormed.perform_backed operation grounded.backed
  current := grounded.current.perform operation
  abreast := grounded.toWellFormed.perform_abreast grounded.abreast operation

theorem EngineImpl.after_grounded (runtime : Runtime) (operations : List Operation) :
    (EngineImpl.after runtime operations).Grounded runtime :=
  Runs.invariant (fun _ operation grounded => grounded.perform operation)
    ⟨⟨OrderedMap.Every.empty, OrderedMap.Every.empty, OrderedMap.Every.empty,
      OrderedMap.Every.empty, OrderedMap.Every.empty⟩, OrderedMap.Every.empty,
      OrderedMap.Every.empty, OrderedMap.Every.empty⟩ operations

end Backing

end PortFabric
