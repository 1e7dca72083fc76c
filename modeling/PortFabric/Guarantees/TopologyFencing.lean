import PortFabric.Guarantees.Claimability
import PortFabric.Guarantees.IncarnationFencing
import PortFabric.Engine.Progress

/-!
# Topology fencing

When a configuration bound to an older topology generation is fenced. No phase
of the pipeline compares that generation with the current one, so the requests
on such a port are stopped only by what would stop them on any other port.
-/

set_option autoImplicit false

namespace PortFabric

open Checks

/-- Reconciliation, the fences and the ownership operations are meant to pass a fence. -/
def passesFence : PortMutationKind → Bool
  | .reconcile | .supersede | .retire => true
  | .claimOwnership | .transferOwnership | .releaseOwnership => true
  | _ => false

namespace EngineImpl

/-- The configuration of the port is bound to an older topology than the current one. -/
structure TopologyStale (impl : EngineImpl) (port : PortId) (record : PortRecord) : Prop where
  found : impl.records[port]? = some record
  older : ∃ committed, record.configuration = some committed ∧
    committed.topologyGeneration < impl.topology

/-- No mutation of the port is accepted but those that pass a fence. -/
def Fences (runtime : Runtime) (impl : EngineImpl) (port : PortId) : Prop :=
  ∀ (mutation : Mutation) (answers : MutationAnswers), mutation.port = port →
    passesFence mutation.kind = false →
    (executeMutation runtime mutation answers impl).2.accepted = false

/-- Some incarnation has mutation authority over a port whose device was not replaced. -/
def Amends (runtime : Runtime) (impl : EngineImpl) (record : PortRecord) : Prop :=
  impl.DeviceUnreplaced record ∧
    ∃ caller : Incarnation, impl.Accepts runtime caller.1 caller.2 ∧
      (runtime.config.requireOwnership = true → record.entitles caller impl.epoch = true)

/-- Some authorised request repeats the last attempt of the record with its payload. -/
def ReplaysCommitted (runtime : Runtime) (impl : EngineImpl) (record : PortRecord) : Prop :=
  ∃ mutation : Mutation, mutation.port = record.port ∧ passesFence mutation.kind = false ∧
    (impl.checkAuthority runtime mutation.authority).2.isOk = true ∧
    record.lastMutation.valid = true ∧ record.lastMutation.attempt = mutation.attempt ∧
    record.lastMutation.payloadDigest = mutation.payloadDigest

/-- What stops the requests on a port under any topology. -/
def Halts (runtime : Runtime) (impl : EngineImpl) (record : PortRecord) : Prop :=
  impl.shuttingDown = true ∨ record.lifecycle = .retired ∨
    ¬impl.Amends runtime record ∧ ¬impl.ReplaysCommitted runtime record

end EngineImpl

section Gates

variable {runtime : Runtime} {impl : EngineImpl} {mutation : Mutation} {record : PortRecord}
  {reply : Reply}

theorem admitMutation_refuses (refused : admitMutation impl mutation = .error reply) :
    reply.accepted = false := by
  unfold admitMutation at refused
  repeat' split at refused
  all_goals cases refused
  · rfl
  · rfl
  · rfl

theorem expectTopology_refuses (refused : expectTopology impl mutation = .error reply) :
    reply.accepted = false := by
  unfold expectTopology at refused
  split at refused
  · cases refused
    rfl
  · cases refused

theorem snapshotGates_refuses {config : EngineConfig}
    (refused : snapshotGates config mutation record = .error reply) : reply.accepted = false := by
  simp only [snapshotGates, bind_eq_error] at refused
  obtain capability | ⟨_, _, configuration | ⟨_, _, ownership⟩⟩ := refused
  · unfold expectCapability at capability
    split at capability
    · cases capability
      rfl
    · cases capability
  · unfold expectConfiguration at configuration
    split at configuration
    · cases configuration
      simp [Reply.accepted, MutationResult.accepted, Outcome.accepted, Outcome.failure,
        OutcomeCode.isAccepted]
    · cases configuration
  · unfold ownershipGate at ownership
    repeat' split at ownership
    all_goals cases ownership
    · rfl
    · rfl
    · rfl
    · simp [Reply.accepted, MutationResult.accepted, Outcome.accepted, Outcome.failure,
        OutcomeCode.isAccepted]

theorem deviceGate_refuses {context : MutationContext}
    (refused : deviceGate mutation record context = .error reply) : reply.accepted = false := by
  unfold deviceGate at refused
  repeat' split at refused
  all_goals cases refused
  · rfl
  · rfl

/-- The gates before planning let the mutation through. -/
structure Gated (runtime : Runtime) (impl : EngineImpl) (mutation : Mutation)
    (record : PortRecord) : Prop where
  observed : observe impl mutation = .ok record
  gated : snapshotGates runtime.config mutation record = .ok ()
  bound : deviceGate mutation record (readContext impl record) = .ok ()

/-- A refused plan is a replay, or it was refused behind all gates, or it was not accepted. -/
theorem planMutation_refuses {answer : ProviderAnswer}
    (refused : planMutation runtime mutation answer impl = .error reply)
    (accepted : reply.accepted = true) :
    observe impl mutation = .error reply ∨ ∃ record, Gated runtime impl mutation record := by
  simp only [planMutation, bind_eq_error] at refused
  obtain replayed | ⟨record, observed, refused⟩ := refused
  · exact .inl replayed
  obtain topology | ⟨_, _, refused⟩ := refused
  · rw [expectTopology_refuses topology] at accepted
    cases accepted
  obtain snapshot | ⟨_, gated, refused⟩ := refused
  · rw [snapshotGates_refuses snapshot] at accepted
    cases accepted
  obtain device | ⟨_, bound, _⟩ := refused
  · rw [deviceGate_refuses device] at accepted
    cases accepted
  exact .inr ⟨record, observed, gated, bound⟩

/-- An accepted answer is a replay, or it is given behind all gates. -/
theorem executeMutation_accepted {answers : MutationAnswers}
    (accepted : (executeMutation runtime mutation answers impl).2.accepted = true) :
    impl.shuttingDown = false ∧
      (impl.checkAuthority runtime mutation.authority).2.isOk = true ∧
      ((∃ reply, observe impl mutation = .error reply ∧ reply.accepted = true) ∨
        ∃ record, Gated runtime impl mutation record) := by
  unfold executeMutation at accepted
  split at accepted
  · next refused =>
      rw [admitMutation_refuses refused] at accepted
      cases accepted
  · next admitted =>
      have running : impl.shuttingDown = false := by
        cases stopped : impl.shuttingDown with
        | false => rfl
        | true =>
            rw [admitMutation, if_pos stopped] at admitted
            cases admitted
      unfold authorise at accepted
      by_cases authorised : (impl.checkAuthority runtime mutation.authority).2.isOk = true
      · refine ⟨running, authorised, ?_⟩
        simp only [authorised, if_true, planMutation_authorised] at accepted
        split at accepted
        · next reply refused =>
            exact (planMutation_refuses refused accepted).imp_left fun replayed =>
              ⟨reply, replayed, accepted⟩
        · next snapshot plan planned =>
            obtain ⟨observed, gated, bound, _⟩ := planMutation_ok planned
            exact .inr ⟨snapshot, observed, gated, bound⟩
      · have rejected := rejects_of_not_ok authorised
        simp only [authorised, Bool.false_eq_true, if_false, Reply.accepted,
          MutationResult.accepted] at accepted
        rw [rejected] at accepted
        cases accepted

/-- Only a repetition of the last attempt is accepted in place of a snapshot. -/
theorem observe_accepted (found : impl.records[mutation.port]? = some record)
    (refused : observe impl mutation = .error reply) (accepted : reply.accepted = true)
    (fenced : passesFence mutation.kind = false) :
    record.lifecycle ≠ .retired ∧ record.lastMutation.valid = true ∧
      record.lastMutation.attempt = mutation.attempt ∧
      record.lastMutation.payloadDigest = mutation.payloadDigest := by
  have ordinary : mutation.kind ≠ .retire := by
    intro same
    simp [same, passesFence] at fenced
  simp only [observe, found, replayDecision, ordinary, ne_eq, not_false_eq_true, and_true,
    and_false, if_false] at refused
  by_cases standing : record.lifecycle = .retired
  · rw [if_pos standing] at refused
    cases refused
    cases accepted
  · rw [if_neg standing] at refused
    split at refused
    · next failed =>
        split at failed
        · next repeated =>
            split at failed
            · next same => exact ⟨standing, repeated.1, repeated.2, same⟩
            · cases failed
              cases refused
              cases accepted
        · cases failed
    · cases refused

/-- A request that does not pass a fence is gated by the device and the ownership. -/
theorem Gated.amends (gated : Gated runtime impl mutation record)
    (fenced : passesFence mutation.kind = false)
    (authorised : (impl.checkAuthority runtime mutation.authority).2.isOk = true)
    (configured : record.configuration.isSome = true) : impl.Amends runtime record := by
  have current := (EngineImpl.checkAuthority_ok authorised).2.1
  refine ⟨fun binding registered => ?_, (mutation.authority.publisher, mutation.authority.boot),
    ⟨mutation.authority, rfl, rfl, authorised⟩, fun required => ?_⟩
  · have recorded : (readContext impl record).deviceGeneration = some binding.generation := by
      simp [readContext, registered]
    have strict : toleratesReplacedDevice mutation.kind = false := by
      cases mutation with
      | reconcile | supersede | retire => cases fenced
      | _ => rfl
    exact deviceGate_ok gated.bound recorded strict
  · have owned := gated.gated
    simp only [snapshotGates, bind_eq_ok] at owned
    obtain ⟨_, _, _, _, owned⟩ := owned
    have plain : mutation.kind ≠ .claimOwnership ∧ mutation.kind ≠ .transferOwnership ∧
        mutation.kind ≠ .releaseOwnership := by
      refine ⟨?_, ?_, ?_⟩
      · intro same
        simp [same, passesFence] at fenced
      · intro same
        simp [same, passesFence] at fenced
      · intro same
        simp [same, passesFence] at fenced
    cases holder : record.ownership with
    | none => simp [ownershipGate, required, plain, holder, configured] at owned
    | some ownership =>
        by_contra unheld
        simp only [PortRecord.entitles, holder, ← current, Bool.not_eq_true] at unheld
        simp only [ownershipGate, required, plain, holder, unheld, Bool.not_true, Bool.false_or,
          decide_false, Bool.false_eq_true, if_false, ne_eq, not_false_eq_true, Bool.not_false,
          and_self, if_true] at owned
        split at owned
        · cases owned
        · split at owned
          · cases owned
          · cases owned

end Gates

section Fencing

variable {runtime : Runtime} {impl : EngineImpl} {port : PortId} {record : PortRecord}

/-- An observation of the drift the record already has is accepted. -/
theorem EngineImpl.Amends.accepted (amends : impl.Amends runtime record)
    (wellFormed : impl.WellFormed) (running : impl.shuttingDown = false)
    (found : impl.records[record.port]? = some record) (standing : record.lifecycle ≠ .retired) :
    ∃ mutation : Mutation, mutation.port = record.port ∧ passesFence mutation.kind = false ∧
      (executeMutation runtime mutation {} impl).2.accepted = true := by
  obtain ⟨unreplaced, caller, accepts, entitled⟩ := amends
  let mutation : Mutation :=
    .observeExternalState { envelope := impl.envelopeFor caller record, observed := record.drift }
  have sent : mutation.envelope = impl.envelopeFor caller record := rfl
  obtain ⟨epoch, publisher, boot, admits⟩ := accepts_iff.mp accepts
  have formed := wellFormed.formed _ _ found
  have complete : mutation.authority.valid = true := by
    have attempt := record.unusedAttempt_valid
    simp [mutation, AuthorityContext.valid, Mutation.authority, Mutation.envelope, envelopeFor,
      epoch, publisher, boot, attempt]
  have admitted : admitMutation impl mutation = .ok () := by
    have named : mutation.port.valid = true := formed.port
    simp [admitMutation, running, named, complete]
  have authorised : (impl.checkAuthority runtime mutation.authority).2.isOk = true :=
    checkAuthority_of_admits complete rfl admits
  have observed : observe impl mutation = .ok record := by
    have unanswered : ¬(record.lastMutation.valid = true ∧
        record.lastMutation.attempt = mutation.attempt) :=
      fun answered => record.unusedAttempt_ne answered.2.symm
    have stored : impl.records[mutation.port]? = some record := found
    simp [observe, stored, replayDecision, standing, unanswered]
  have topology : expectTopology impl mutation = .ok () := by
    simp [expectTopology, mutation, Mutation.authority, Mutation.envelope, envelopeFor]
  have current : planMutation runtime mutation ({} : MutationAnswers).provider impl =
      .error (.result (.reporting (.current "the observed drift state is already recorded")
        record)) := by
    have unevidenced : evidenceFor runtime mutation record ({} : MutationAnswers).provider =
        .ok {} := rfl
    have built : mutation.build
        { current := record, topology := impl.topology,
          parentDeviceGeneration := (readContext impl record).deviceGeneration, capability := {},
          profiles := impl.profiles } =
        .error (.rejected .alreadyCurrent "the observed drift state is already recorded") := by
      simp only [mutation, Mutation.build, buildDrift, formed.drift, Bool.not_true, rejectIf,
        Bool.false_eq_true, if_false, decide_true, if_true, ok_bind]
      rfl
    have context : (readContext impl record).topology = impl.topology := rfl
    have gated : snapshotGates runtime.config mutation record = .ok () :=
      snapshotGates_of_envelope sent (ownershipGate_of_envelope sent entitled)
    simp only [planMutation, observed, topology, gated, unreplaced.passes sent, ok_bind,
      preparePlan, unevidenced, context, built, Except.mapError, planReply, if_true, error_bind]
  refine ⟨mutation, rfl, rfl, ?_⟩
  simp only [executeMutation, admitted, authorise, authorised, if_true, planMutation_authorised,
    current]
  rfl

theorem EngineImpl.ReplaysCommitted.accepted (repeats : impl.ReplaysCommitted runtime record)
    (wellFormed : impl.WellFormed) (running : impl.shuttingDown = false)
    (found : impl.records[record.port]? = some record) (standing : record.lifecycle ≠ .retired) :
    ∃ mutation : Mutation, mutation.port = record.port ∧ passesFence mutation.kind = false ∧
      (executeMutation runtime mutation {} impl).2.accepted = true := by
  obtain ⟨mutation, sent, fenced, authorised, remembered, attempt, payload⟩ := repeats
  have admitted : admitMutation impl mutation = .ok () := by
    have named : mutation.port.valid = true := sent ▸ (wellFormed.formed _ _ found).port
    simp [admitMutation, running, named, (checkAuthority_ok authorised).1]
  have replayed : planMutation runtime mutation ({} : MutationAnswers).provider impl =
      .error (.result (.reporting (.idempotent
        "the exact mutation attempt with an identical payload is already committed")
        record)) := by
    have stored : impl.records[mutation.port]? = some record := by rw [sent]; exact found
    simp [planMutation, observe, stored, replayDecision, standing, remembered, attempt, payload]
  refine ⟨mutation, sent, fenced, ?_⟩
  simp only [executeMutation, admitted, authorise, authorised, if_true, planMutation_authorised,
    replayed]
  rfl

/-- A port that nothing else halts takes requests under any topology. -/
theorem EngineImpl.WellFormed.fences_iff (wellFormed : impl.WellFormed)
    (stale : impl.TopologyStale port record) :
    impl.Fences runtime port ↔ impl.Halts runtime record := by
  obtain ⟨found, committed, configured, _⟩ := stale
  have same : record.port = port := wellFormed.keyed _ _ found
  subst same
  constructor
  · intro fences
    by_contra open_
    simp only [Halts, not_or] at open_
    obtain ⟨running, standing, untied⟩ := open_
    have accepts : ∃ mutation : Mutation, mutation.port = record.port ∧
        passesFence mutation.kind = false ∧
        (executeMutation runtime mutation {} impl).2.accepted = true := by
      by_cases amends : impl.Amends runtime record
      · exact amends.accepted wellFormed (by simpa using running) found standing
      · have repeats : impl.ReplaysCommitted runtime record := by
          by_contra fresh
          exact untied ⟨amends, fresh⟩
        exact repeats.accepted wellFormed (by simpa using running) found standing
    obtain ⟨mutation, sent, fenced, accepted⟩ := accepts
    rw [fences mutation {} sent fenced] at accepted
    cases accepted
  · intro halts mutation answers sent fenced
    by_contra taken
    rw [Bool.not_eq_false] at taken
    obtain ⟨running, authorised, passed⟩ := executeMutation_accepted taken
    have stored : impl.records[mutation.port]? = some record := by
      rw [sent]
      exact found
    obtain ⟨reply, refused, replayed⟩ | ⟨other, gated⟩ := passed
    · obtain ⟨standing, remembered, attempt, payload⟩ :=
        observe_accepted stored refused replayed fenced
      obtain stopped | retired | ⟨_, fresh⟩ := halts
      · rw [stopped] at running
        cases running
      · exact standing retired
      · exact fresh ⟨mutation, sent, fenced, authorised, remembered, attempt, payload⟩
    · obtain ⟨again, standing, _⟩ := observe_ok gated.observed
      rw [stored] at again
      cases again
      obtain stopped | retired | ⟨untied, _⟩ := halts
      · rw [stopped] at running
        cases running
      · exact standing retired
      · exact untied (gated.amends fenced authorised (by rw [configured]; rfl))

end Fencing

/--
In every reachable state the topology generation fences a port bound to an older
one exactly when something else halts it.
-/
theorem topology_fenced_iff (runtime : Runtime) (operations : List Operation)
    {port : PortId} {record : PortRecord}
    (stale : (EngineImpl.after runtime operations).TopologyStale port record) :
    (EngineImpl.after runtime operations).Fences runtime port ↔
      (EngineImpl.after runtime operations).Halts runtime record :=
  (EngineImpl.after_wellFormed runtime operations).fences_iff stale

namespace AdvancedTopology

def port : PortId := "syn-sw1-p01"

def envelope (attempt : MutationAttemptId) : MutationEnvelope :=
  Fixture.envelope port "agent-a" "boot-a" attempt .first

/-- The topology advances after the port was configured. -/
def operations : List Operation :=
  [ Fixture.bind port "bind-1",
    .mutate (Fixture.claim (envelope "claim-1") "owner-a") {},
    .mutate (Fixture.configuration (envelope "configure-1")) Fixture.verified,
    .setTopologyGeneration (.next .first) ]

def advanced : EngineImpl := EngineImpl.after Fixture.runtime operations

/-- The port is retired behind the advance. -/
def retiring : List Operation :=
  operations ++ [.mutate (.retire { envelope := envelope "retire-1" }) {}]

def stale (impl : EngineImpl) : Bool :=
  (impl.records[port]?).any fun record => record.configuration.any fun committed =>
    committed.topologyGeneration < impl.topology

theorem topologyStale_of_stale {impl : EngineImpl} (older : stale impl = true) :
    ∃ record, impl.TopologyStale port record := by
  simp only [stale, Option.any_eq_true, decide_eq_true_eq] at older
  obtain ⟨record, found, committed, configured, older⟩ := older
  exact ⟨record, found, committed, configured, older⟩

/-- The record of the port is not retired, and the agent that claimed it may amend it. -/
def amendable (impl : EngineImpl) : Bool :=
  (impl.records[port]?).any fun record =>
    !decide (record.lifecycle = .retired) && record.entitles ("agent-a", "boot-a") impl.epoch &&
      (impl.devices[record.parentDevice]?).all fun binding =>
        binding.generation = record.generations.device

theorem not_halts {impl : EngineImpl} {record : PortRecord}
    (found : impl.records[port]? = some record) (running : impl.shuttingDown = false)
    (amends : amendable impl = true)
    (accepted : (impl.checkAuthority Fixture.runtime (envelope "any").authority).2.isOk = true) :
    ¬impl.Halts Fixture.runtime record := by
  simp only [amendable, found, Option.any_some, Bool.and_eq_true, Bool.not_eq_true',
    decide_eq_false_iff_not] at amends
  obtain ⟨⟨standing, entitled⟩, unreplaced⟩ := amends
  intro halts
  rcases halts with stopped | retired | ⟨untied, _⟩
  · rw [running] at stopped
    cases stopped
  · exact standing retired
  · refine untied ⟨fun binding registered => ?_, ("agent-a", "boot-a"),
      ⟨_, rfl, rfl, accepted⟩, fun _ => entitled⟩
    rw [registered] at unreplaced
    exact of_decide_eq_true unreplaced

set_option maxRecDepth 100000 in
/-- The advance alone fences nothing; the retirement of the port behind it does. -/
theorem retirement_fences : ¬advanced.Fences Fixture.runtime port ∧
    (EngineImpl.after Fixture.runtime retiring).Fences Fixture.runtime port := by
  constructor
  · have older : stale advanced = true := by decide +kernel
    obtain ⟨record, stale⟩ := topologyStale_of_stale older
    refine (not_congr (topology_fenced_iff Fixture.runtime operations stale)).mpr ?_
    exact not_halts stale.found (by decide +kernel) (by decide +kernel) (by decide +kernel)
  · have older : stale (EngineImpl.after Fixture.runtime retiring) = true := by decide +kernel
    have retired : ((EngineImpl.after Fixture.runtime retiring).records[port]?).all
        (fun record => record.lifecycle = .retired) = true := by
      decide +kernel
    obtain ⟨record, stale⟩ := topologyStale_of_stale older
    rw [stale.found] at retired
    refine (topology_fenced_iff Fixture.runtime retiring stale).mpr (.inr (.inl ?_))
    exact of_decide_eq_true retired

set_option maxRecDepth 100000 in
/-- The port is disabled under its old topology, with no reconciliation. -/
theorem stale_topology_unfenced :
    (∃ record, advanced.TopologyStale port record) ∧ ¬advanced.Fences Fixture.runtime port := by
  have outcome : stale advanced = true ∧ (executeMutation Fixture.runtime
      (Fixture.administer (Fixture.expecting (envelope "disable-1") .first) .disable)
      Fixture.verified advanced).2.accepted = true := by
    decide +kernel
  obtain ⟨older, disabled⟩ := outcome
  refine ⟨topologyStale_of_stale older, fun fences => ?_⟩
  rw [fences _ _ rfl rfl] at disabled
  cases disabled

end AdvancedTopology

end PortFabric
