import PortFabric.Engine.PayloadProperties
import PortFabric.Guarantees.AttemptReplay

/-!
# Replay decision

A repeated attempt is answered by comparing payload digests. A payload leaves
out fields its builder uses and contains fields its builder overwrites, so the
answer is right under a condition on the two requests.
-/

set_option autoImplicit false

namespace PortFabric

open Checks

namespace PortConfiguration

/-- The provenance fields a payload contains agree. -/
def ProvenanceAlike (first second : PortConfiguration) : Prop :=
  first.provenance.kind.toText = second.provenance.kind.toText ∧
    first.provenance.source = second.provenance.source ∧
    first.provenance.publisher = second.provenance.publisher

/-- The payloads of two configurations tell whether their targets agree. -/
structure Told (first second : PortConfiguration) : Prop where
  legible : first.RenderedAlike second → first.target = second.target
  provenance : first.target = second.target → first.ProvenanceAlike second
  untouched : ¬first.Injects second
  untouching : ¬second.Injects first

/-- Equal targets with one provenance are rendered alike. -/
theorem renderedAlike_of_target {first second : PortConfiguration}
    (same : first.target = second.target) (provenance : first.ProvenanceAlike second) :
    first.RenderedAlike second := by
  simp only [target, mk.injEq, true_and, and_true] at same
  obtain ⟨record, port, device, deviceGeneration, topology, generation, administrative, mode,
    protocol, speed, duplex, mtu, lanes, breakout, autoneg, fec, pause, aggregation, profile, role,
    logical, derived, child, capability⟩ := same
  obtain ⟨kind, source, publisher⟩ := provenance
  refine ⟨?_, role, ⟨logical, derived, child, capability, kind⟩, source, publisher⟩
  constructor
  case aggregation =>
    rw [aggregation]
    exact ⟨rfl, fun _ => ⟨rfl, rfl, rfl⟩⟩
  case profile =>
    rw [profile]
    exact ⟨rfl, fun _ => ⟨rfl, rfl⟩⟩
  all_goals simp only [*]

theorem Injects.target_ne {first second : PortConfiguration} (injects : first.Injects second) :
    first.target ≠ second.target := by
  intro same
  have roles : first.target.role = second.target.role := congrArg PortConfiguration.role same
  exact injects.role_ne roles

theorem told_iff {first second : PortConfiguration} :
    (first.MistakenFor second ↔ first.target = second.target) ↔ first.Told second := by
  constructor
  · intro decided
    have untouched : ¬first.Injects second :=
      fun injects => injects.target_ne (decided.mp (.inr (.inl injects)))
    have untouching : ¬second.Injects first :=
      fun injects => injects.target_ne (decided.mp (.inr (.inr injects))).symm
    refine ⟨fun alike => decided.mp (.inl alike), fun same => ?_, untouched, untouching⟩
    obtain alike | injects | injects := decided.mpr same
    · exact ⟨alike.middle.provenanceKind, alike.source, alike.publisher⟩
    · exact absurd injects untouched
    · exact absurd injects untouching
  · intro told
    constructor
    · intro given
      rcases given with alike | injects | injects
      · exact told.legible alike
      · exact absurd injects told.untouched
      · exact absurd injects told.untouching
    · exact fun same => .inl (renderedAlike_of_target same (told.provenance same))

end PortConfiguration

namespace Mutation

/--
The requests have one kind and agree on every field the builder of that kind
computes the new record from, apart from provenance.
-/
def SameRequest : Mutation → Mutation → Prop
  | configure first, configure second =>
      first.configuration.target = second.configuration.target
  | reconfigure first, reconfigure second =>
      first.configuration.target = second.configuration.target
  | administrative first, administrative second => first.op = second.op
  | assignProfile first, assignProfile second => first.Alike second
  | bindCapabilities first, bindCapabilities second => first.binding = second.binding
  | reconcile first, reconcile second => first.detail = second.detail
  | supersede first, supersede second => first.detail = second.detail
  | retire first, retire second => first.detail = second.detail
  | claimOwnership first, claimOwnership second
  | transferOwnership first, transferOwnership second =>
      first.ownerKind = second.ownerKind ∧ first.owner = second.owner ∧
        first.exclusive = second.exclusive ∧
        first.delegatePublisher = second.delegatePublisher ∧
        first.delegateBoot = second.delegateBoot
  | releaseOwnership _, releaseOwnership _ => True
  | recordAppliedEvidence first, recordAppliedEvidence second =>
      first.evidence.outcome = second.evidence.outcome ∧
        first.evidence.generation = second.evidence.generation ∧
        first.evidence.verified = second.evidence.verified ∧
        first.evidence.source = second.evidence.source
  | observeExternalState first, observeExternalState second =>
      first.observed = second.observed ∧ first.detail = second.detail
  | _, _ => False

/-- The fields the payloads leave out, or render alike, agree where the others do. -/
def Told : Mutation → Mutation → Prop
  | configure first, configure second | reconfigure first, reconfigure second =>
      first.configuration.Told second.configuration
  | configure first, reconfigure second | reconfigure first, configure second =>
      ¬first.configuration.MistakenFor second.configuration
  | bindCapabilities first, bindCapabilities second =>
      first.binding.generation = second.binding.generation →
        first.binding.capabilities.Alike second.binding.capabilities →
          first.binding = second.binding
  | claimOwnership first, claimOwnership second
  | transferOwnership first, transferOwnership second =>
      first.ownerKind = second.ownerKind → first.owner = second.owner →
        first.exclusive = second.exclusive ∧
          first.delegatePublisher = second.delegatePublisher ∧
          first.delegateBoot = second.delegateBoot
  | recordAppliedEvidence first, recordAppliedEvidence second =>
      first.evidence.outcome.toText = second.evidence.outcome.toText →
        first.evidence.generation = second.evidence.generation →
          first.evidence.outcome = second.evidence.outcome ∧
            first.evidence.verified = second.evidence.verified ∧
            first.evidence.source = second.evidence.source
  | observeExternalState first, observeExternalState second =>
      first.observed.toText = second.observed.toText → first.detail = second.detail →
        first.observed = second.observed
  | _, _ => True

/-- The enumerations a builder reads are legal, and an owner is named. -/
def Legible : Mutation → Prop
  | administrative request => request.op.isValid = true
  | claimOwnership request | transferOwnership request => request.namesOwner = true
  | _ => True

theorem build_legible {mutation : Mutation} {input : MutationBuildInput} {plan : MutationPlan}
    (built : mutation.build input = .ok plan) : mutation.Legible := by
  cases mutation with
  | administrative request =>
      simp only [build, buildAdministrative, bind_eq_ok, rejectIf_eq_ok] at built
      obtain ⟨_, legal, _⟩ := built
      have valid : request.op.isValid = true := by simpa using legal
      exact valid
  | claimOwnership request => exact (buildClaim_ok built).1
  | transferOwnership request =>
      simp only [build, buildTransfer, bind_eq_ok, rejectIf_eq_ok] at built
      obtain ⟨_, _, _, _, _, named, _⟩ := built
      have names : request.namesOwner = true := by simpa using named
      exact names
  | _ => trivial

theorem ownership_told_iff {first second : OwnershipRequest} (named : first.namesOwner = true) :
    ((first.ownerKind.toText = second.ownerKind.toText ∧ first.owner = second.owner) ↔
        first.ownerKind = second.ownerKind ∧ first.owner = second.owner ∧
          first.exclusive = second.exclusive ∧
          first.delegatePublisher = second.delegatePublisher ∧
          first.delegateBoot = second.delegateBoot) ↔
      (first.ownerKind = second.ownerKind → first.owner = second.owner →
        first.exclusive = second.exclusive ∧
          first.delegatePublisher = second.delegatePublisher ∧
          first.delegateBoot = second.delegateBoot) := by
  simp only [OwnershipRequest.namesOwner, Bool.and_eq_true, decide_eq_true_eq] at named
  rw [PortOwnerKind.toText_inj named.1.1 named.1.2]
  constructor
  · exact fun decided kind owner => (decided.mp ⟨kind, owner⟩).2.2
  · intro told
    constructor
    · intro given
      rcases given with ⟨kind, owner⟩
      exact ⟨kind, owner, told kind owner⟩
    · intro given
      rcases given with ⟨kind, owner, _⟩
      exact ⟨kind, owner⟩

/-- For a legible request, the payload tells the second request exactly under the condition. -/
theorem told_iff {first second : Mutation} (legible : first.Legible) :
    (first.PayloadAlike second ↔ first.SameRequest second) ↔ first.Told second := by
  cases first <;> cases second <;> first
    | exact PortConfiguration.told_iff
    | exact ownership_told_iff legible
    | exact iff_true_intro (AdministrativeOp.toText_inj legible)
    | simp only [PayloadAlike, SameRequest, Told, iff_self, iff_false]
  case bindCapabilities.bindCapabilities first second =>
      constructor
      · exact fun decided generation alike => decided.mp ⟨generation, alike⟩
      · intro told
        constructor
        · intro given
          rcases given with ⟨generation, alike⟩
          exact told generation alike
        · intro same
          change first.binding = second.binding at same
          refine ⟨congrArg _ same, PortCapabilities.toText_alike.mp ?_⟩
          rw [same]
  case recordAppliedEvidence.recordAppliedEvidence first second =>
      constructor
      · intro decided outcome generation
        obtain ⟨outcomes, _, verified, source⟩ := decided.mp ⟨outcome, generation⟩
        exact ⟨outcomes, verified, source⟩
      · refine fun told => ⟨?_, ?_⟩
        · intro given
          rcases given with ⟨outcome, generation⟩
          obtain ⟨outcomes, verified, source⟩ := told outcome generation
          exact ⟨outcomes, generation, verified, source⟩
        · intro given
          rcases given with ⟨outcome, generation, _⟩
          exact ⟨congrArg _ outcome, generation⟩
  case observeExternalState.observeExternalState first second =>
      constructor
      · exact fun decided observed detail => (decided.mp ⟨observed, detail⟩).1
      · intro told
        constructor
        · intro given
          rcases given with ⟨observed, detail⟩
          exact ⟨told observed detail, detail⟩
        · intro given
          rcases given with ⟨observed, detail⟩
          exact ⟨congrArg _ observed, detail⟩

end Mutation

/-- The answer to the second request when the first was just committed. -/
def AnswersReplay (reply : Reply) (first second : Mutation) : Prop :=
  (reply.code? = some .idempotent ↔ first.SameRequest second) ∧
    (¬first.SameRequest second → reply.code? = some .conflictDetected)

theorem admitMutation_ok {impl : EngineImpl} {mutation : Mutation}
    (admitted : admitMutation impl mutation = .ok ()) :
    impl.shuttingDown = false ∧ mutation.port.valid = true := by
  unfold admitMutation at admitted
  split at admitted
  · cases admitted
  · next running =>
      split at admitted
      · cases admitted
      · next named => exact ⟨by simpa using running, by simpa using named⟩

section Answer

variable {runtime : Runtime} {first second : Mutation} {answers : MutationAnswers}
  {impl : EngineImpl} {record : PortRecord}

theorem replay_code (running : impl.shuttingDown = false)
    (authorised : (impl.checkAuthority runtime second.authority).2.isOk = true)
    (found : impl.records[second.port]? = some record) (named : second.port.valid = true)
    (unretired : record.lifecycle ≠ .retired)
    (remembered : record.lastMutation.attempt = second.attempt)
    (digested : record.lastMutation.payloadDigest ≠ 0) :
    (executeMutation runtime second answers impl).2.code? =
      some (if record.lastMutation.payloadDigest = second.payloadDigest then .idempotent
        else .conflictDetected) := by
  have complete := (EngineImpl.checkAuthority_ok authorised).1
  have admitted : admitMutation impl second = .ok () := by
    simp [admitMutation, running, named, complete]
  have accepted : authorise runtime impl second = (impl.authorised runtime second, .ok ()) := by
    simp [authorise, authorised]
  have answering : record.lastMutation.valid = true ∧
      record.lastMutation.attempt = second.attempt := by
    have attempt : second.attempt.valid = true := by
      simp only [AuthorityContext.valid, Bool.and_eq_true] at complete
      exact complete.2
    exact ⟨by simp [LastMutationRecord.valid, remembered, attempt, digested], remembered⟩
  have decided : replayDecision second record =
      .error (if record.lastMutation.payloadDigest = second.payloadDigest then
        .result (.reporting (.idempotent
          "the exact mutation attempt with an identical payload is already committed") record)
        else .reject .conflictDetected
          "the mutation attempt identity was already used with a different payload") := by
    rw [replayDecision, if_neg fun retired => unretired retired.1,
      if_neg fun retired => unretired retired.1, if_pos answering]
    split <;> rfl
  have refused : planMutation runtime second answers.provider impl =
      .error (if record.lastMutation.payloadDigest = second.payloadDigest then
        .result (.reporting (.idempotent
          "the exact mutation attempt with an identical payload is already committed") record)
        else .reject .conflictDetected
          "the mutation attempt identity was already used with a different payload") := by
    simp only [planMutation, observe, found, decided]
    rfl
  simp only [executeMutation, admitted, accepted, planMutation_authorised, refused]
  split <;> rfl

theorem executeMutation_shuttingDown (runtime : Runtime) (mutation : Mutation)
    (answers : MutationAnswers) (impl : EngineImpl) :
    (executeMutation runtime mutation answers impl).1.shuttingDown = impl.shuttingDown := by
  have authorised : (impl.authorised runtime mutation).shuttingDown = impl.shuttingDown := by
    obtain ⟨_, same⟩ := EngineImpl.checkAuthority_frame runtime impl mutation.authority
    rw [EngineImpl.authorised, same]
  have effect := executeMutation_effect runtime mutation answers impl
  generalize (executeMutation runtime mutation answers impl).1 = after at effect ⊢
  cases effect with
  | unrecorded _ _ frame =>
      rcases frame with rfl | rfl
      · rfl
      · exact authorised
  | committed _ => simpa using authorised
  | doubted _ => simpa using authorised

end Answer

/--
When the first request was just committed, the second one with the same attempt
is answered by whether it is the same request, exactly when the payloads tell so.
-/
theorem replay_answered_iff {runtime : Runtime} {first second : Mutation}
    {firstAnswers secondAnswers : MutationAnswers} {before after : EngineImpl}
    (committed : Committed runtime first firstAnswers before)
    (state : (executeMutation runtime first firstAnswers before).1 = after)
    (port : second.port = first.port) (attempt : second.attempt = first.attempt)
    (unretired : ∀ record, after.records[first.port]? = some record →
      record.lifecycle ≠ .retired)
    (authorised : (after.checkAuthority runtime second.authority).2.isOk = true)
    (collisionFree : first.payloadDigest = second.payloadDigest → first.payload = second.payload) :
    AnswersReplay (executeMutation runtime second secondAnswers after).2 first second ↔
      first.Told second := by
  obtain ⟨snapshot, plan, final, commits⟩ := committed
  obtain ⟨_, _, _, _, _, built, _⟩ := commits.spec
  obtain ⟨remembered, digest⟩ := commits.lastMutation
  have found : after.records[second.port]? = some final := by
    rw [← state, port, commits.after_eq.1, OrderedMap.lookup_insert_self]
  obtain ⟨running, named⟩ := admitMutation_ok commits.admitted
  have code : (executeMutation runtime second secondAnswers after).2.code? =
      some (if final.lastMutation.payloadDigest = second.payloadDigest then .idempotent
        else .conflictDetected) := by
    apply replay_code _ authorised found
    · rw [port]
      exact named
    · exact unretired final (port ▸ found)
    · exact remembered.trans attempt.symm
    · rw [digest]
      exact payloadDigestOf_ne_zero _
    · rw [← state, executeMutation_shuttingDown]
      exact running
  have alike : final.lastMutation.payloadDigest = second.payloadDigest ↔
      first.PayloadAlike second := by
    rw [digest, ← Mutation.payload_eq_iff]
    exact ⟨collisionFree, fun same => by rw [Mutation.payloadDigest, same, Mutation.payloadDigest]⟩
  rw [← Mutation.told_iff (Mutation.build_legible built), ← alike, AnswersReplay, code]
  by_cases same : final.lastMutation.payloadDigest = second.payloadDigest
  · simp [same]
  · simp [same]

namespace ResubmittedClaim

def port : PortId := "syn-sw1-p01"

def claim (exclusive : Bool) : Mutation :=
  .claimOwnership
    { Fixture.claimRequest (Fixture.envelope port "agent-a" "boot-a" "claim-1" .first)
        "owner-a" with
      exclusive }

def bound : EngineImpl :=
  (EngineImpl.initial Fixture.runtime.config).perform Fixture.runtime (Fixture.bind port "bind-1")

def claimed : EngineImpl := (executeMutation Fixture.runtime (claim false) {} bound).1

set_option maxRecDepth 100000 in
theorem standing :
    Committed Fixture.runtime (claim false) {} bound ∧
      (claimed.records[port]?).all (fun record => record.lifecycle ≠ .retired) = true ∧
      (claimed.checkAuthority Fixture.runtime (claim true).authority).2.isOk = true := by
  decide +kernel

theorem unretired (record : PortRecord) (found : claimed.records[port]? = some record) :
    record.lifecycle ≠ .retired := by
  have live := standing.2.1
  rw [found] at live
  simpa using live

set_option maxRecDepth 100000 in
/-- An exclusive claim after a shared one under the same attempt is taken for its replay. -/
theorem exclusive_taken_for_shared :
    Committed Fixture.runtime (claim false) {} bound ∧
      (claim true).port = (claim false).port ∧ (claim true).attempt = (claim false).attempt ∧
      (∀ record, claimed.records[port]? = some record → record.lifecycle ≠ .retired) ∧
      (claimed.checkAuthority Fixture.runtime (claim true).authority).2.isOk = true ∧
      ((claim false).payloadDigest = (claim true).payloadDigest →
        (claim false).payload = (claim true).payload) ∧
      ¬AnswersReplay (executeMutation Fixture.runtime (claim true) {} claimed).2 (claim false)
        (claim true) := by
  refine ⟨standing.1, rfl, rfl, unretired, standing.2.2, fun _ => rfl, ?_⟩
  intro given
  rcases given with ⟨answered, _⟩
  have code : (executeMutation Fixture.runtime (claim true) {} claimed).2.code? =
      some .idempotent := by
    decide +kernel
  obtain ⟨_, _, exclusive, _⟩ := answered.mp code
  cases exclusive

/-- The exact condition for these two claims. -/
theorem claims_answered_iff :
    AnswersReplay (executeMutation Fixture.runtime (claim true) {} claimed).2 (claim false)
        (claim true) ↔
      (claim false).Told (claim true) :=
  replay_answered_iff standing.1 rfl rfl rfl unretired standing.2.2 fun _ => rfl

end ResubmittedClaim

end PortFabric
