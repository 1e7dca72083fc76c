import PortFabric.Engine.Fixture
import PortFabric.Engine.WellFormedness
import PortFabric.Guarantees.RecordValidity
import PortFabric.Protocol.Dispatch
import PortFabric.Protocol.MessageProperties

/-!
# Untrusted messages

Which dispatches leave every record of the engine writable and readable. The
raw provenance of a message reaches records unchecked, and so do the texts of
the adapter and of the capability provider.
-/

set_option autoImplicit false

namespace PortFabric

open Checks PortFabricEngine

/-- Every record the engine holds survives being written and read back. -/
def EngineImpl.RecordsSurvive (impl : EngineImpl) : Prop :=
  OrderedMap.Every (fun _ record => record.Survives) impl.records

/-- The name of the adapter fits the field that keeps it. -/
def Runtime.LabelFits (runtime : Runtime) : Prop :=
  ∀ label, runtime.adapter = some label → label.length ≤ maxNameLength

/-- What a decoded message lets a mutation carry into a record. -/
structure Mutation.Carried (mutation : Mutation) : Prop where
  source : mutation.envelope.provenanceSource.length ≤ maxNameLength
  binding : ∀ request, mutation = .bindCapabilities request →
    request.binding.capabilities.validate = .ok () ∧
      request.binding.source.length ≤ maxNameLength
  evidence : ∀ request, mutation = .recordAppliedEvidence request →
    request.evidence.source.length ≤ maxNameLength

theorem Mutation.Carried.plain {mutation : Mutation}
    (source : mutation.envelope.provenanceSource.length ≤ maxNameLength)
    (unbound : mutation.kind ≠ .bindCapabilities)
    (unrecorded : mutation.kind ≠ .recordAppliedEvidence) : mutation.Carried where
  source
  binding := by
    intro request same
    subst same
    exact absurd rfl unbound
  evidence := by
    intro request same
    subst same
    exact absurd rfl unrecorded

section Proposals

variable {mutation : Mutation} {input : MutationBuildInput} {plan : MutationPlan}

/-- What a proposed record keeps of the current one, up to what the mutation carries. -/
structure Inherits (mutation : Mutation) (current next : PortRecord) : Prop where
  configuration : writesConfiguration mutation.kind = false →
    next.configuration = current.configuration
  capability : next.capability = current.capability ∨
    ∃ request, mutation = .bindCapabilities request ∧ next.capability = request.binding
  source : next.applied.source = [] ∨ next.applied.source = current.applied.source ∨
    ∃ request, mutation = .recordAppliedEvidence request ∧
      next.applied.source = request.evidence.source

theorem Proposal.inherits (proposed : Proposal mutation input plan) :
    Inherits mutation input.current plan.next := by
  suffices kept : (plan.next.capability = input.current.capability ∨
        ∃ request, mutation = .bindCapabilities request ∧
          plan.next.capability = request.binding) ∧
      (plan.next.applied.source = [] ∨
        plan.next.applied.source = input.current.applied.source ∨
        ∃ request, mutation = .recordAppliedEvidence request ∧
          plan.next.applied.source = request.evidence.source) from
    ⟨fun reports => (proposed.reported reports).configuration, kept.1, kept.2⟩
  cases proposed with
  | configured _ _ _ _ planned | replaced _ _ _ _ _ planned | reconciled _ _ _ _ planned =>
      subst planned
      exact ⟨.inl rfl, .inl rfl⟩
  | administered _ _ _ _ _ next | reowned _ _ next =>
      rw [next]
      exact ⟨.inl rfl, .inr (.inl rfl)⟩
  | rebound requested _ next =>
      obtain ⟨_, _, _, _, _, same, _⟩ := PortRecord.reexamined_eq _ _
      rw [next, same]
      exact ⟨.inr ⟨_, requested, rfl⟩, .inr (.inl rfl)⟩
  | fenced _ _ _ _ next =>
      obtain ⟨_, _, same⟩ := PortRecord.disowned_eq _ _
      rw [next]
      dsimp only
      rw [same]
      exact ⟨.inl rfl, .inr (.inl rfl)⟩
  | @evidenced request requested _ _ _ next =>
      have noted := input.current.evidenced_applied request.evidence
      obtain ⟨_, _, _, _, _, _, _, same, _⟩ := input.current.evidenced_eq request.evidence
      rw [same] at noted
      rw [next, same]
      refine ⟨.inl rfl, .inr (.inr ⟨_, requested, ?_⟩)⟩
      obtain ⟨_, noted⟩ := noted
      rw [noted]
  | @observed request _ _ next =>
      have noted := input.current.drifted_applied request.observed request.detail
      obtain ⟨_, _, _, _, _, same, _⟩ := input.current.drifted_eq request.observed request.detail
      rw [same] at noted
      rw [next, same]
      refine ⟨.inl rfl, .inr (.inl ?_)⟩
      rw [congrArg AppliedEvidence.source noted]
      split
      · rfl
      · rfl

/-- A proposed configuration keeps its provenance or is stamped with that of the request. -/
theorem Mutation.build_provenance (built : mutation.build input = .ok plan)
    {configuration : PortConfiguration} (proposed : plan.next.configuration = some configuration) :
    (∃ earlier, input.current.configuration = some earlier ∧
        configuration.provenance = earlier.provenance) ∨
      configuration.provenance.source = mutation.envelope.provenanceSource := by
  have kept (same : plan.next.configuration = input.current.configuration) :
      ∃ earlier, input.current.configuration = some earlier ∧
        configuration.provenance = earlier.provenance :=
    ⟨configuration, same ▸ proposed, rfl⟩
  cases mutation with
  | configure request =>
      simp only [build, buildConfigure, bind_eq_ok, pure_eq_ok] at built
      obtain ⟨_, _, _, _, _, _, _, _, _, _, _, _, _, _, _, _, _, _, rfl⟩ := built
      cases proposed
      exact .inr rfl
  | reconfigure request =>
      simp only [build, buildReconfigure, bind_eq_ok, pure_eq_ok] at built
      obtain ⟨_, _, _, _, _, _, _, _, _, _, _, _, _, _, _, _, _, _, rfl⟩ := built
      cases proposed
      exact .inr rfl
  | administrative request =>
      simp only [build, buildAdministrative, bind_eq_ok, pure_eq_ok] at built
      obtain ⟨_, _, _, _, _, _, _, _, _, _, rfl⟩ := built
      cases proposed
      exact .inr rfl
  | assignProfile request =>
      simp only [build, buildAssignProfile, bind_eq_ok, pure_eq_ok] at built
      obtain ⟨_, _, _, _, _, _, _, _, _, _, _, _, rfl⟩ := built
      cases proposed
      exact .inr rfl
  | reconcile request =>
      simp only [build, buildReconcile, bind_eq_ok, pure_eq_ok] at built
      obtain ⟨_, _, _, _, _, _, _, _, _, _, _, _, rfl⟩ := built
      cases proposed
      exact .inr rfl
  | bindCapabilities | supersede | retire | claimOwnership | transferOwnership | releaseOwnership
  | recordAppliedEvidence | observeExternalState =>
      exact .inl (kept ((Mutation.build_proposal built).inherits.configuration rfl))

end Proposals

section Commits

variable {runtime : Runtime} {impl : EngineImpl} {mutation : Mutation} {answers : MutationAnswers}
  {snapshot final : PortRecord} {plan : MutationPlan}

/-- The source of settled evidence is a fixed text or the name of the adapter. -/
theorem applyPlan_source_iff {proposal : MutationPlan} {applied : AppliedEvidence}
    {settled : Bool}
    (decided : applyPlan runtime snapshot plan answers = .commit proposal applied settled)
    (noted : plan.next.applied.source.length ≤ maxNameLength) :
    (EngineImpl.committedRecord proposal applied settled).applied.source.length ≤ maxNameLength ↔
      (CountsEvidence runtime plan → runtime.LabelFits) := by
  have label {name : Text} (named : runtime.adapter = some name)
      (counts : CountsEvidence runtime plan) {given : AppliedEvidence}
      (sourced : given.source = name)
      (decided : settlePlan plan given = .commit proposal applied settled) :
      (EngineImpl.committedRecord proposal applied settled).applied.source.length ≤
          maxNameLength ↔
        (CountsEvidence runtime plan → runtime.LabelFits) := by
    simp only [settlePlan, ApplyDecision.commit.injEq] at decided
    obtain ⟨rfl, rfl, rfl⟩ := decided
    simp [EngineImpl.committedRecord, Runtime.LabelFits, counts, named, sourced]
  unfold applyPlan at decided
  split at decided
  · next unapplied =>
      cases decided
      rw [Bool.not_eq_true'] at unapplied
      refine iff_of_true noted fun counts => ?_
      rw [counts.1] at unapplied
      cases unapplied
  · next applies =>
      have required : plan.requiresApply = true := by simpa using applies
      split at decided
      · next desired =>
          cases decided
          have short : (text "desired-state-only").length ≤ maxNameLength := by decide
          exact iff_of_true short fun counts => absurd desired counts.2
      · next consulted =>
          have counts : CountsEvidence runtime plan := ⟨required, consulted⟩
          split at decided
          · next absent =>
              simp only [settlePlan, ApplyDecision.commit.injEq] at decided
              obtain ⟨rfl, rfl, rfl⟩ := decided
              have short : (text "no-adapter").length ≤ maxNameLength := by decide
              exact iff_of_true short fun _ => by simp [Runtime.LabelFits, absent]
          · next name named =>
              split at decided
              · split at decided
                · unfold verifyApplied at decided
                  split at decided
                  · exact label named counts rfl decided
                  · cases decided
                  · cases decided
                  · exact label named counts rfl decided
                · exact label named counts rfl decided
              · exact label named counts rfl decided
              · cases decided
              · cases decided

theorem makeProvenance_valid_iff (mutation : Mutation) {envelope : MutationEnvelope} :
    (makeProvenance envelope mutation.fallbackProvenance).kind.isValid = true ↔
      envelope.provenanceKind.isValid = true := by
  unfold makeProvenance
  dsimp only
  split
  · next unknown =>
      rw [unknown]
      refine iff_of_true ?_ rfl
      cases mutation <;> rfl
  · exact Iff.rfl

/--
A committed record survives exactly when the provenance of the request is a
declared one and an adapter that was consulted has a name that fits.
-/
theorem Commits.survives_iff (commits : Commits runtime mutation answers impl snapshot plan final)
    (carried : mutation.Carried) (before : snapshot.Survives) :
    final.Survives ↔ mutation.envelope.provenanceKind.isValid = true ∧
      (CountsEvidence runtime plan → runtime.LabelFits) := by
  have consistent := commits.final_validate
  obtain ⟨readable, fit⟩ := PortRecord.survives_iff.mp before
  obtain ⟨_, _, _, prepared⟩ := planMutation_ok commits.planned
  obtain ⟨capability, proposal, built, _, rfl⟩ := preparePlan_ok prepared
  obtain ⟨settledPlan, applied, settled, _, decided, _, rfl⟩ := commits.stored
  obtain ⟨drift, evidence, same, _⟩ := applyPlan_settlement decided
  have inherits := (Mutation.build_proposal built).inherits
  have evident : proposal.next.capability.capabilities.validate = .ok () ∧
      proposal.next.capability.source.length ≤ maxNameLength := by
    rcases inherits.capability with kept | ⟨request, asked, bound⟩
    · rw [kept]
      exact ⟨readable.capabilities, fit.evidence⟩
    · rw [bound]
      exact carried.binding request asked
  have noted : proposal.next.applied.source.length ≤ maxNameLength := by
    rcases inherits.source with none | kept | ⟨request, asked, told⟩
    · rw [none]
      exact Nat.zero_le _
    · rw [kept]
      exact fit.applied
    · rw [told]
      exact carried.evidence request asked
  have configured : ∀ configuration, proposal.next.configuration = some configuration →
      configuration.provenance.source.length ≤ maxNameLength := by
    intro configuration proposed
    rcases Mutation.build_provenance built proposed with ⟨earlier, held, kept⟩ | stamped
    · rw [kept]
      exact fit.configured earlier held
    · rw [stamped]
      exact carried.source
  rw [← applyPlan_source_iff decided noted, ← makeProvenance_valid_iff mutation,
    PortRecord.survives_iff]
  rw [same] at consistent ⊢
  constructor
  · intro given
    rcases given with ⟨readable, fit⟩
    exact ⟨readable.provenance, fit.applied⟩
  · intro given
    rcases given with ⟨provenance, source⟩
    exact ⟨⟨consistent, evident.1, provenance⟩, carried.source, configured, evident.2, source⟩

/-- An uncertain record names the adapter, and is its own provenance from then on. -/
theorem PortRecord.uncertain_texts (record : PortRecord) (runtime : Runtime)
    (authority : AuthorityContext) (generation : PortConfigurationGeneration) (detail : Text) :
    (record.uncertain runtime authority generation .outcomeUnknown detail).applied.source =
        runtime.adapter.getD "adapter" ∧
      (record.uncertain runtime authority generation .outcomeUnknown detail).provenance.kind =
        .recovery ∧
      (record.uncertain runtime authority generation .outcomeUnknown detail).provenance.source =
        record.provenance.source := by
  unfold uncertain
  simp only [if_true]
  split
  · exact ⟨rfl, rfl, rfl⟩
  · exact ⟨rfl, rfl, rfl⟩

/-- What keeps the record of an uncertain apply writable and readable. -/
structure DoubtFits (runtime : Runtime) (answers : MutationAnswers) (snapshot : PortRecord) :
    Prop where
  configured : snapshot.configuration.isSome = true
  described : answers.apply.status = .outcomeUnknown →
    validateText answers.apply.detail maxDescriptionLength = .ok ()
  label : runtime.LabelFits

theorem Doubts.survives_iff {generation : PortConfigurationGeneration} {detail : Text}
    (doubts : Doubts runtime mutation answers impl snapshot plan generation detail)
    (before : snapshot.Survives) :
    (snapshot.uncertain runtime mutation.authority generation .outcomeUnknown detail).Survives ↔
      DoubtFits runtime answers snapshot := by
  obtain ⟨readable, fit⟩ := PortRecord.survives_iff.mp before
  have valid := doubts.validate_iff readable.consistent
  obtain ⟨source, kind, kept⟩ :=
    snapshot.uncertain_texts runtime mutation.authority generation detail
  have label : (runtime.adapter.getD (text "adapter")).length ≤ maxNameLength ↔
      runtime.LabelFits := by
    cases named : runtime.adapter with
    | none => exact iff_of_true (by decide) (by simp [Runtime.LabelFits, named])
    | some name => simp [Runtime.LabelFits, named]
  rw [PortRecord.survives_iff]
  constructor
  · intro given
    rcases given with ⟨⟨consistent, _, _⟩, fits⟩
    obtain ⟨configured, described⟩ := valid.mp consistent
    have applied := fits.applied
    rw [source] at applied
    exact ⟨configured, described, label.mp applied⟩
  · intro given
    rcases given with ⟨configured, described, fits⟩
    refine ⟨⟨valid.mpr ⟨configured, described⟩, ?_, ?_⟩, ?_, ?_, ?_, ?_⟩
    · rw [PortRecord.uncertain_capability]
      exact readable.capabilities
    · rw [kind]
      rfl
    · rw [kept]
      exact fit.source
    · rw [PortRecord.uncertain_configuration]
      exact fit.configured
    · rw [PortRecord.uncertain_capability]
      exact fit.evidence
    · rw [source]
      exact label.mpr fits

end Commits

section Binding

variable {runtime : Runtime} {impl : EngineImpl} {request : PortBindingRequest}
  {answers : MutationAnswers}

/-- The binding passes every check, and no newer device undoes it. -/
structure Binds (runtime : Runtime) (impl : EngineImpl) (request : PortBindingRequest)
    (answers : MutationAnswers) : Prop where
  admitted : admitBinding impl request = .ok ()
  inserted : ∃ inserted, insertBinding runtime impl request
    (probeCapabilities runtime impl request answers.provider) = .ok inserted
  current : ∀ existing, impl.devices[request.parentDevice]? = some existing →
    ¬request.deviceGeneration < existing.generation

/-- A newer device takes the inserted record away again. -/
theorem bindDevice_records (runtime : Runtime) (impl : EngineImpl) (request : PortBindingRequest)
    (record : PortRecord) :
    ((∀ existing, impl.devices[request.parentDevice]? = some existing →
          ¬request.deviceGeneration < existing.generation) ∧
        (bindDevice runtime impl request record).1.records = impl.records) ∨
      ((∃ existing, impl.devices[request.parentDevice]? = some existing ∧
          request.deviceGeneration < existing.generation) ∧
        (bindDevice runtime impl request record).1.records = impl.records.erase request.port) := by
  unfold bindDevice
  dsimp only
  split
  · next unknown =>
      have current : ∀ existing, impl.devices[request.parentDevice]? = some existing →
          ¬request.deviceGeneration < existing.generation := by
        intro existing found
        rw [unknown] at found
        cases found
      split
      · exact .inl ⟨current, rfl⟩
      · exact .inl ⟨current, rfl⟩
  · next existing found =>
      split
      · next older =>
          refine .inl ⟨fun other held => ?_, rfl⟩
          rw [found] at held
          cases held
          exact Nat.lt_asymm older
      · split
        · next newer => exact .inr ⟨⟨existing, found, newer⟩, rfl⟩
        · next same =>
            refine .inl ⟨fun other held => ?_, rfl⟩
            rw [found] at held
            cases held
            exact same

/-- A binding adds one record, or leaves the records alone. -/
theorem bindPort_records (runtime : Runtime) (impl : EngineImpl) (request : PortBindingRequest)
    (answers : MutationAnswers) :
    (Binds runtime impl request answers ∧
        (bindPort runtime impl request answers).1.records =
          impl.records.insert request.port
            (boundRecord request (probeCapabilities runtime impl request answers.provider))) ∨
      (¬Binds runtime impl request answers ∧
        (bindPort runtime impl request answers).1.records = impl.records) := by
  unfold bindPort
  split
  · next refused =>
      refine .inr ⟨fun binds => ?_, rfl⟩
      rw [binds.admitted] at refused
      cases refused
  · next admitted =>
      dsimp only
      split
      · next refused =>
          refine .inr ⟨fun binds => ?_, rfl⟩
          obtain ⟨_, inserted⟩ := binds.inserted
          rw [inserted] at refused
          cases refused
      · next inserted stored =>
          obtain ⟨absent, _, rfl⟩ := insertBinding_ok stored
          obtain ⟨current, same⟩ | ⟨⟨existing, found, newer⟩, same⟩ :=
            bindDevice_records runtime
              { impl with
                records := impl.records.insert request.port
                  (boundRecord request (probeCapabilities runtime impl request answers.provider))
                indexes := impl.indexes.indexAdd
                  (boundRecord request (probeCapabilities runtime impl request answers.provider))
                generation := impl.generation.advance }
              request
              (boundRecord request (probeCapabilities runtime impl request answers.provider))
          · refine .inl ⟨⟨admitted, ⟨_, stored⟩, current⟩, ?_⟩
            split
            · next answered =>
                rw [answered] at same
                exact same
            · next answered =>
                rw [answered] at same
                exact (EngineImpl.persistLockedState_records ..).trans same
          · refine .inr ⟨fun binds => binds.current existing found newer, ?_⟩
            rw [OrderedMap.erase_insert_of_absent absent] at same
            split
            · next answered =>
                rw [answered] at same
                exact same
            · next answered =>
                rw [answered] at same
                exact (EngineImpl.persistLockedState_records ..).trans same

/-- Evidence that is probed for a new port was validated. -/
theorem probeCapabilities_some {answer : ProviderAnswer} {binding : CapabilityBinding}
    (probed : probeCapabilities runtime impl request answer = some binding) :
    binding.capabilities.validate = .ok () := by
  unfold probeCapabilities at probed
  split at probed
  · cases probed
  · split at probed
    · cases probed
    · next found resolved =>
        split at probed
        · cases probed
          unfold resolveCapabilities at resolved
          split at resolved
          · next bound => cases bound
          · split at resolved
            · cases resolved
            · split at resolved
              · cases resolved
              · split at resolved
                · cases resolved
                · split at resolved
                  · cases resolved
                  · next validated =>
                      cases resolved
                      exact validated
        · cases probed

/-- What keeps the record of a new port writable and readable. -/
structure BindingFits (runtime : Runtime) (impl : EngineImpl) (request : PortBindingRequest)
    (answers : MutationAnswers) : Prop where
  kind : request.provenanceKind.isValid = true
  evidence : ∀ binding,
    probeCapabilities runtime impl request answers.provider = some binding →
      binding.source.length ≤ maxNameLength

theorem Binds.survives_iff (binds : Binds runtime impl request answers)
    (source : request.provenanceSource.length ≤ maxNameLength) :
    (boundRecord request (probeCapabilities runtime impl request answers.provider)).Survives ↔
      BindingFits runtime impl request answers := by
  obtain ⟨_, inserted⟩ := binds.inserted
  obtain ⟨_, consistent, _⟩ := insertBinding_ok inserted
  have stamped : (boundRecord request
      (probeCapabilities runtime impl request answers.provider)).provenance.kind.isValid =
        true ↔ request.provenanceKind.isValid = true := by
    dsimp only [boundRecord]
    split
    · next unknown =>
        rw [unknown]
        exact iff_of_true rfl rfl
    · exact Iff.rfl
  have evident : (boundRecord request
      (probeCapabilities runtime impl request answers.provider)).capability.capabilities.validate =
        .ok () := by
    dsimp only [boundRecord]
    cases probed : probeCapabilities runtime impl request answers.provider with
    | none => decide
    | some binding => exact probeCapabilities_some probed
  have sourced : (boundRecord request
      (probeCapabilities runtime impl request answers.provider)).capability.source.length ≤
        maxNameLength ↔
      ∀ binding, probeCapabilities runtime impl request answers.provider = some binding →
        binding.source.length ≤ maxNameLength := by
    dsimp only [boundRecord]
    cases probeCapabilities runtime impl request answers.provider with
    | none => simp
    | some binding => simp
  rw [PortRecord.survives_iff]
  constructor
  · intro given
    rcases given with ⟨readable, fit⟩
    exact ⟨stamped.mp readable.provenance, sourced.mp fit.evidence⟩
  · intro given
    rcases given with ⟨kind, evidence⟩
    refine ⟨⟨consistent, evident, stamped.mpr kind⟩, source, ?_, sourced.mpr evidence,
      Nat.zero_le _⟩
    intro configuration carried
    have unconfigured : (boundRecord request
        (probeCapabilities runtime impl request answers.provider)).configuration = none := rfl
    rw [unconfigured] at carried
    cases carried

end Binding

section Dispatch

variable {runtime : Runtime} {impl : EngineImpl} {answers : MutationAnswers}

/-- What a mutation stores for the request can be written and read back. -/
structure MutationFits (runtime : Runtime) (impl : EngineImpl) (mutation : Mutation)
    (answers : MutationAnswers) : Prop where
  committed : ∀ snapshot plan final, Commits runtime mutation answers impl snapshot plan final →
    mutation.envelope.provenanceKind.isValid = true ∧
      (CountsEvidence runtime plan → runtime.LabelFits)
  doubted : ∀ snapshot plan generation detail,
    Doubts runtime mutation answers impl snapshot plan generation detail →
      DoubtFits runtime answers snapshot

/-- What the engine stores for the request can be written and read back. -/
def EngineRequest.Fits (runtime : Runtime) (answers : MutationAnswers) (impl : EngineImpl) :
    EngineRequest → Prop
  | .bind request => Binds runtime impl request answers → BindingFits runtime impl request answers
  | .mutate mutation => MutationFits runtime impl mutation answers

theorem bindPort_survive_iff {request : PortBindingRequest} (survive : impl.RecordsSurvive)
    (source : request.provenanceSource.length ≤ maxNameLength) :
    (bindPort runtime impl request answers).1.RecordsSurvive ↔
      (Binds runtime impl request answers → BindingFits runtime impl request answers) := by
  unfold EngineImpl.RecordsSurvive
  rcases bindPort_records runtime impl request answers with ⟨binds, same⟩ | ⟨unbound, same⟩
  · rw [same, ← binds.survives_iff source]
    constructor
    · intro every _
      exact every _ _ (OrderedMap.lookup_insert_self ..)
    · intro stored
      exact OrderedMap.Every.insert survive (stored binds)
  · rw [same]
    exact iff_of_true survive fun binds => absurd binds unbound

theorem executeMutation_survive_iff {mutation : Mutation} (survive : impl.RecordsSurvive)
    (carried : mutation.Carried) :
    (executeMutation runtime mutation answers impl).1.RecordsSurvive ↔
      MutationFits runtime impl mutation answers := by
  unfold EngineImpl.RecordsSurvive
  have effect := executeMutation_records runtime mutation answers impl
  generalize (executeMutation runtime mutation answers impl).1.records = after at effect ⊢
  cases effect with
  | unrecorded uncommitted undoubted =>
      exact iff_of_true survive
        ⟨fun _ _ _ commits => absurd commits (uncommitted _ _ _),
          fun _ _ _ _ doubts => absurd doubts (undoubted _ _ _ _)⟩
  | @committed snapshot final plan commits =>
      have before : snapshot.Survives := survive _ _ commits.toPlanned.snapshot_found
      constructor
      · intro every
        refine ⟨fun _ _ _ again => ?_, fun _ _ _ _ doubts => (commits.not_doubts doubts).elim⟩
        obtain ⟨rfl, rfl, rfl⟩ := commits.unique again
        exact (commits.survives_iff carried before).mp
          (every _ _ (OrderedMap.lookup_insert_self ..))
      · intro fits
        exact OrderedMap.Every.insert survive
          ((commits.survives_iff carried before).mpr (fits.committed _ _ _ commits))
  | @doubted snapshot plan generation detail doubts =>
      have before : snapshot.Survives := survive _ _ doubts.toPlanned.snapshot_found
      constructor
      · intro every
        refine ⟨fun _ _ _ commits => (commits.not_doubts doubts).elim, fun _ _ _ _ again => ?_⟩
        obtain ⟨rfl, rfl, rfl, rfl⟩ := doubts.unique again
        exact (doubts.survives_iff before).mp (every _ _ (OrderedMap.lookup_insert_self ..))
      · intro fits
        exact OrderedMap.Every.insert survive
          ((doubts.survives_iff before).mpr (fits.doubted _ _ _ _ doubts))

end Dispatch

section Messages

variable {message : PortMutationMessage} {bytes : Text}

/-- The texts a decoded message carries fit the fields of a record. -/
structure PortMutationMessage.TextsFit (message : PortMutationMessage) : Prop where
  source : message.provenanceSource.length ≤ maxNameLength
  evidence : message.capability.source.length ≤ maxNameLength
  applied : message.evidence.source.length ≤ maxNameLength

theorem decodeMutation_texts (decoded : decodeMutation bytes = .ok message) :
    message.TextsFit := by
  obtain ⟨_, written⟩ := decodeMutation_eq_ok.mp decoded
  obtain ⟨_, ⟨evidence, _⟩, _, applied, source⟩ :=
    ByteLayout.whole_mutation.mp (Formats.Layout.whole_iff.mpr ⟨bytes, written⟩)
  exact ⟨source, evidence, applied⟩

/-- A request is made of what the message carries. -/
theorem PortMutationMessage.request_carried (decoded : decodeMutation bytes = .ok message)
    {mutation : Mutation} (asked : message.request = .ok (.mutate mutation)) :
    mutation.Carried := by
  have readable := (decodeMutation_eq_ok.mp decoded).1
  have fit := decodeMutation_texts decoded
  unfold request at asked
  split at asked
  · cases asked
  · next kind _ =>
      cases kind with
      | bindPort => cases asked
      | configure | reconfigure =>
          dsimp only at asked
          split at asked
          · cases asked
          · cases asked
            exact .plain fit.source nofun nofun
      | administrative | observeExternalState =>
          dsimp only at asked
          split at asked
          · cases asked
            exact .plain fit.source nofun nofun
          · cases asked
      | bindCapabilities =>
          cases asked
          refine ⟨fit.source, ?_, ?_⟩
          · intro request given
            cases given
            exact ⟨readable.capabilities, fit.evidence⟩
          · intro request given
            cases given
      | recordAppliedEvidence =>
          cases asked
          refine ⟨fit.source, ?_, ?_⟩
          · intro request given
            cases given
          · intro request given
            cases given
            exact fit.applied
      | assignProfile | reconcile | supersede | retire | claimOwnership | transferOwnership
      | releaseOwnership =>
          cases asked
          exact .plain fit.source nofun nofun

theorem PortMutationMessage.request_bind {request : PortBindingRequest}
    (asked : message.request = .ok (.bind request)) : request = message.bindingRequest := by
  unfold PortMutationMessage.request at asked
  split at asked
  · cases asked
  · next kind _ =>
      cases kind with
      | bindPort =>
          cases asked
          rfl
      | configure | reconfigure | administrative | observeExternalState =>
          dsimp only at asked
          split at asked
          · cases asked
          · cases asked
      | assignProfile | bindCapabilities | reconcile | supersede | retire | claimOwnership
      | transferOwnership | releaseOwnership | recordAppliedEvidence => cases asked

end Messages

open EngineService

/--
Dispatching a decoded message keeps every record writable and readable exactly
when what it stores fits: the provenance it is stamped with is a declared one,
and the texts of the provider and of the adapter fit their fields.
-/
theorem dispatch_survive_iff (runtime : Runtime) (answers : MutationAnswers) {impl : EngineImpl}
    {message : PortMutationMessage} {bytes : Text}
    (decoded : decodeMutation bytes = .ok message) (survive : impl.RecordsSurvive) :
    (dispatch runtime answers impl message).1.RecordsSurvive ↔
      ∀ request, message.request = .ok request → request.Fits runtime answers impl := by
  unfold dispatch
  cases asked : message.request with
  | error detail =>
      refine iff_of_true survive fun request same => ?_
      cases same
  | ok request =>
      simp only [Except.ok.injEq, forall_eq']
      cases request with
      | bind request =>
          have source : request.provenanceSource.length ≤ maxNameLength := by
            rw [PortMutationMessage.request_bind asked]
            exact (decodeMutation_texts decoded).source
          exact bindPort_survive_iff survive source
      | mutate mutation =>
          exact executeMutation_survive_iff survive
            (PortMutationMessage.request_carried decoded asked)

namespace ForeignProvenance

/-- A binding message with a raw provenance byte. -/
def message (provenanceKind : UInt8) : PortMutationMessage where
  authority := { epoch := .first, attempt := "bind-1" }
  port := "syn-sw1-p01"
  parentDevice := Fixture.device
  deviceGeneration := .first
  provenanceKind

/-- Whatever the byte, the message is decoded. -/
theorem decodable (provenanceKind : UInt8) :
    ∃ bytes, decodeMutation bytes = .ok (message provenanceKind) := by
  have configured : ∀ configuration,
      (message provenanceKind).configuration ≠ some configuration :=
    fun configuration => (Option.some_ne_none configuration).symm
  have whole : (ByteLayout.mutation (message provenanceKind)).Whole :=
    ByteLayout.whole_mutation.mpr ⟨fun _ carried => absurd carried (configured _),
      ⟨Nat.zero_le _, Nat.zero_le _⟩, Nat.zero_le _, Nat.zero_le _, Nat.zero_le _⟩
  obtain ⟨bytes, written⟩ := Formats.Layout.whole_iff.mp whole
  have evident : ({} : CapabilityBinding).capabilities.validate = .ok () := by decide
  exact ⟨bytes, decodeMutation_eq_ok.mpr
    ⟨⟨fun _ carried => absurd carried (configured _), evident, rfl, rfl⟩, written⟩⟩

def empty : EngineImpl := EngineImpl.after Fixture.runtime []

theorem empty_survives : empty.RecordsSurvive :=
  (OrderedMap.Every.empty : OrderedMap.Every (fun _ record => record.Survives) (∅ : RecordMap))

/-- Dispatched, a byte that names no kind leaves a record that cannot be read back. -/
theorem record_unreadable :
    (∃ bytes, decodeMutation bytes = .ok (message 200)) ∧ empty.RecordsSurvive ∧
      ¬(dispatch Fixture.runtime {} empty (message 200)).1.RecordsSurvive := by
  have stored : ((dispatch Fixture.runtime {} empty (message 200)).1.records[
      (message 200).port]?).map (fun record => record.provenance.kind.isValid) =
        some false := by
    decide +kernel
  refine ⟨decodable 200, empty_survives, fun survive => ?_⟩
  obtain ⟨record, found, illegal⟩ := Option.map_eq_some_iff.mp stored
  have legal := (PortRecord.survives_iff.mp (survive _ _ found)).1.provenance
  rw [illegal] at legal
  cases legal

/-- A declared byte leaves a record that can. -/
theorem record_readable :
    (dispatch Fixture.runtime {} empty (message 1)).1.RecordsSurvive := by
  obtain ⟨bytes, decoded⟩ := decodable 1
  refine (dispatch_survive_iff Fixture.runtime {} decoded empty_survives).mpr ?_
  intro request asked
  obtain rfl : EngineRequest.bind (message 1).bindingRequest = request := Except.ok.inj asked
  have unprobed : probeCapabilities Fixture.runtime empty (message 1).bindingRequest
      ({} : MutationAnswers).provider = none := by
    decide +kernel
  refine fun _ => ⟨rfl, fun binding probed => ?_⟩
  rw [unprobed] at probed
  cases probed

end ForeignProvenance

end PortFabric
