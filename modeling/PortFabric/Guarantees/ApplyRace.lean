import PortFabric.Engine.Fixture
import PortFabric.Engine.InterleavingProperties
import PortFabric.Engine.WellFormedness
import PortFabric.Guarantees.UnresolvedApply

/-!
# Lost apply races

A commit that is rejected after its adapter applied the configuration writes
nothing. It leaves its port conservative exactly when the event that last
decided the standing of the port suspended it.
-/

set_option autoImplicit false

namespace PortFabric

open Checks PortFabricEngine

/-- The state an ambiguous apply leaves: nothing live, and evidence that says so. -/
def PortRecord.Conservative (record : PortRecord) : Prop :=
  record.lifecycle = .revalidationRequired ∧ record.applied.outcome = .outcomeUnknown

/-- The port is conservative, retired or no longer bound. -/
def EngineImpl.Conservative (impl : EngineImpl) (port : PortId) : Prop :=
  ∀ record, impl.records[port]? = some record → record.lifecycle ≠ .retired → record.Conservative

/-- The action is a commit on the port that is rejected although the adapter applied its plan. -/
def System.losesApply (system : System) (port : PortId) : Action → Bool
  | .advance thread _ =>
      match system.flights thread with
      | some (.conclude mutation _ (some .applied) (.commit proposal evidence settled)) =>
          mutation.port = port &&
            match system.engine.commitRecord port proposal evidence settled with
            | .error result => !result.accepted
            | .ok _ => false
      | _ => false
  | _ => false

section Events

/-- The evidence does not support the committed configuration. -/
def PortRecord.invalidatedBy (record : PortRecord) (binding : CapabilityBinding) : Bool :=
  record.configuration.any fun configuration =>
    !(validateAgainstCapabilities configuration binding).isOk

/--
The committed mutation leaves its port suspended. A report of an unknown outcome
suspends a live port, evidence that no longer supports the configuration one
whose apply is unresolved; ownership and observations other than a conflict
decide nothing, and every other mutation ends a suspension.
-/
def Mutation.suspends (mutation : Mutation) (snapshot : PortRecord) (suspended : Bool) : Bool :=
  match mutation with
  | .claimOwnership _ | .transferOwnership _ | .releaseOwnership _ => suspended
  | .observeExternalState request => suspended && request.observed ≠ .conflicted
  | .bindCapabilities request =>
      suspended ||
        (snapshot.applied.outcome = .outcomeUnknown && snapshot.invalidatedBy request.binding)
  | .recordAppliedEvidence request =>
      request.evidence.outcome = .outcomeUnknown &&
        (snapshot.lifecycle.isLive || snapshot.lifecycle = .revalidationRequired)
  | _ => false

/-- The recovered record is suspended: its configuration was applied, or perhaps applied. -/
def PortRecord.recoversSuspended (record : PortRecord) : Bool :=
  record.configuration.isSome && record.lifecycle ≠ .retired &&
    (record.applied.outcome = .applied || record.applied.outcome = .verified ||
      record.applied.outcome = .outcomeUnknown)

/-- The container leaves the port suspended. -/
def PersistedState.suspends (state : PersistedState) (port : PortId) : Bool :=
  (state.recoverable.find? fun record => record.port = port).any PortRecord.recoversSuspended

/-- An uncertain apply suspends the port, unless it is retired or superseded. -/
def PortRecord.opensToDoubt (record : PortRecord) : Bool :=
  record.lifecycle ≠ .retired && record.lifecycle ≠ .superseded

def ApplyDecision.suspends (decision : ApplyDecision) (impl : EngineImpl) (mutation : Mutation)
    (snapshot : PortRecord) (seen suspended : Bool) : Bool :=
  match decision with
  | .reject _ => suspended
  | .commit proposal evidence settled =>
      if (impl.commitRecord mutation.port proposal evidence settled).isOk then
        mutation.suspends snapshot seen
      else suspended
  | .uncertain _ _ _ _ =>
      (impl.records[mutation.port]?).any PortRecord.opensToDoubt

def Flight.suspends (flight : Flight) (impl : EngineImpl) (port : PortId)
    (seen suspended : Bool) : Bool :=
  match flight with
  | .conclude mutation snapshot _ decision =>
      if mutation.port = port then decision.suspends impl mutation snapshot seen suspended
      else suspended
  | _ => suspended

def Operation.suspends (operation : Operation) (runtime : Runtime) (impl : EngineImpl)
    (port : PortId) (suspended : Bool) : Bool :=
  match operation with
  | .load container =>
      if impl.carriesOut runtime container then
        container.toOption.any fun state => state.suspends port
      else suspended
  | _ => suspended

end Events

/-- An interleaved system with an account of the events that suspend its ports. -/
structure ApplyAccount where
  system : System
  /-- The last event that decided the standing of the port suspended it. -/
  suspended : PortId → Bool := fun _ => false
  /-- The port was suspended when the mutation of the thread looked at it. -/
  seen : Nat → Bool := fun _ => false

namespace ApplyAccount

def initial (runtime : Runtime) : ApplyAccount where
  system := { engine := .initial runtime.config }

def suspendedAfter (runtime : Runtime) (account : ApplyAccount) (port : PortId) : Action → Bool
  | .start _ _ => account.suspended port
  | .advance thread _ =>
      ((account.system.flights thread).map fun flight =>
        flight.suspends account.system.engine port (account.seen thread)
          (account.suspended port)).getD (account.suspended port)
  | .operate operation =>
      operation.suspends runtime account.system.engine port (account.suspended port)

def seenAfter (account : ApplyAccount) (thread : Nat) : Action → Bool
  | .advance mover _ =>
      match account.system.flights thread with
      | some (.lookup mutation) =>
          if mover = thread then account.suspended mutation.port else account.seen thread
      | _ => account.seen thread
  | _ => account.seen thread

def step (runtime : Runtime) (account : ApplyAccount) (action : Action) : ApplyAccount where
  system := account.system.step runtime action
  suspended port := account.suspendedAfter runtime port action
  seen thread := account.seenAfter thread action

theorem run_system (runtime : Runtime) (account : ApplyAccount) (actions : List Action) :
    (Runs.run (step runtime) account actions).system =
      Runs.run (System.step runtime) account.system actions := by
  induction actions generalizing account with
  | nil => rfl
  | cons action rest ih => exact ih (account.step runtime action)

/-- Every commit rejected after an apply leaves its port conservative. -/
def LeavesConservative (runtime : Runtime) (account : ApplyAccount) (action : Action) : Prop :=
  ∀ port, account.system.losesApply port action = true →
    (account.step runtime action).system.engine.Conservative port

/--
Every commit rejected after an apply finds its port unbound, retired, or
suspended by the event that last decided its standing.
-/
def FindsSuspended (account : ApplyAccount) (action : Action) : Prop :=
  ∀ port, account.system.losesApply port action = true →
    ∀ record, account.system.engine.records[port]? = some record →
      record.lifecycle ≠ .retired → account.suspended port = true

end ApplyAccount

/--
The account of a record: it is suspended exactly when it is conservative, and a
port whose apply is unresolved is not live.
-/
structure PortRecord.Accounted (record : PortRecord) (suspended : Bool) : Prop where
  unresolved : record.WhileLive PortRecord.ApplyKnown
  exact : suspended = true ↔ record.Conservative

theorem System.engine_eq_of_losesApply {runtime : Runtime} {system : System} {action : Action}
    {port : PortId} (lost : system.losesApply port action = true) :
    (system.step runtime action).engine = system.engine := by
  cases action with
  | start thread mutation => cases lost
  | operate operation => cases lost
  | advance thread answers =>
      simp only [losesApply] at lost
      split at lost
      · next mutation snapshot proposal evidence settled flying =>
          simp only [Bool.and_eq_true, decide_eq_true_eq] at lost
          obtain ⟨rfl, rejected⟩ := lost
          split at rejected
          · next result refused =>
              simp only [step, flying, Flight.advance, Flight.concludeStep, refused]
              rfl
          · cases rejected
      · cases lost

section Records

variable {record : PortRecord} {suspended : Bool}

theorem boundRecord_accounted (request : PortBindingRequest)
    (evidence : Option CapabilityBinding) : (boundRecord request evidence).Accounted false := by
  refine ⟨.of_not_live rfl, iff_of_false (by simp) fun conservative => ?_⟩
  cases conservative.1

theorem PortRecord.Accounted.congr {other : PortRecord} (accounted : record.Accounted suspended)
    (lifecycle : other.lifecycle = record.lifecycle)
    (outcome : other.applied.outcome = record.applied.outcome) : other.Accounted suspended := by
  obtain ⟨unresolved, exact⟩ := accounted
  refine ⟨unresolved.known_congr (fun live => lifecycle ▸ live) outcome, ?_⟩
  rw [exact, PortRecord.Conservative, PortRecord.Conservative, lifecycle, outcome]

theorem PortRecord.uncertain_accounted (record : PortRecord) (runtime : Runtime)
    (authority : AuthorityContext) (generation : PortConfigurationGeneration) (detail : Text) :
    (record.uncertain runtime authority generation .outcomeUnknown detail).Accounted
      record.opensToDoubt := by
  refine ⟨.of_not_live (record.uncertain_not_live runtime authority generation detail), ?_⟩
  rw [PortRecord.Conservative, PortRecord.uncertain_applied, and_iff_left rfl,
    PortRecord.uncertain_lifecycle]
  split
  · next unfenced => simp [opensToDoubt, unfenced]
  · next fenced =>
      refine iff_of_false (by simpa [opensToDoubt] using fenced) fun given => fenced ?_
      simp [given]

theorem PortRecord.recovered_unknown_iff :
    record.recovered.applied.outcome = .outcomeUnknown ↔
      record.applied.outcome = .applied ∨ record.applied.outcome = .verified ∨
        record.applied.outcome = .outcomeUnknown := by
  obtain ⟨_, _, _, owned⟩ := record.recoverOwnership_eq
  rw [PortRecord.recovered_applied, owned]
  unfold recoverEvidence
  dsimp only
  split
  · next settled => simpa [← or_assoc] using .inl settled
  · next unsettled => simp [← or_assoc, unsettled]

/-- A recovered record is live or waits for revalidation only with a configuration. -/
theorem PortRecord.recovered_accounted (valid : record.recovered.validate = .ok ()) :
    record.recovered.Accounted record.recoversSuspended := by
  have formed := PortRecord.formed_of_valid valid
  have standing := (formed.validate_iff.mp valid).1
  rw [Settled, PortRecord.recovered_configuration] at standing
  have fenced : record.recovered.lifecycle.isLive = false ∧
      (record.recovered.lifecycle = .revalidationRequired ↔
        record.configuration.isSome = true ∧ record.lifecycle ≠ .retired) := by
    rw [PortRecord.recovered_lifecycle] at standing ⊢
    split
    · next revalidated => simp [revalidated, PortLifecycle.isLive]
    · next kept =>
        have closed : record.lifecycle = .unconfigured ∨ record.lifecycle = .retired ∨
            record.lifecycle = .superseded := by
          rw [if_neg kept] at standing
          rcases standing with bound | rest
          · exact .inr (.inl (by_contra fun other => kept ⟨bound, other⟩))
          · exact rest
        rcases closed with same | same | same <;> simp [same, PortLifecycle.isLive] at kept ⊢
        · exact kept
        · exact kept
  refine ⟨.of_not_live fenced.1, ?_⟩
  rw [PortRecord.Conservative, fenced.2, PortRecord.recovered_unknown_iff]
  simp [recoversSuspended, or_assoc]

theorem PortRecord.invalidatedBy_iff {binding : CapabilityBinding} :
    record.invalidatedBy binding = true ↔
      ∃ configuration, record.configuration = some configuration ∧
        validateAgainstCapabilities configuration binding ≠ .ok () := by
  have refused (checked : Except CapabilityRejection Unit) :
      checked.isOk = false ↔ checked ≠ .ok () := by
    cases checked with
    | error rejection => simp [Except.isOk, Except.toBool]
    | ok passed => simp [Except.isOk, Except.toBool]
  cases held : record.configuration with
  | none => simp [invalidatedBy, held]
  | some configuration => simp [invalidatedBy, held, refused]

theorem PortRecord.Accounted.rebound (accounted : record.Accounted suspended)
    (binding : CapabilityBinding) :
    (suspended || (record.applied.outcome = .outcomeUnknown && record.invalidatedBy binding)) =
        true ↔
      ((record.withEvidence binding).reexamined binding).Conservative := by
  obtain ⟨lifecycle, _, _, _, _, same, judged⟩ :=
    (record.withEvidence binding).reexamined_eq binding
  have outcome : (record.withEvidence binding).applied.outcome = record.applied.outcome := rfl
  rw [same, Conservative, outcome]
  dsimp only
  obtain ⟨fenced, invalid⟩ | ⟨kept, valid⟩ := judged
  · have invalidated : record.invalidatedBy binding = true :=
      PortRecord.invalidatedBy_iff.mpr invalid
    rw [invalidated, Bool.and_true, Bool.or_eq_true, decide_eq_true_eq, and_iff_right fenced]
    exact or_iff_right_of_imp fun before => (accounted.exact.mp before).2
  · have supported : record.invalidatedBy binding = false := by
      rw [← Bool.not_eq_true, PortRecord.invalidatedBy_iff]
      intro given
      rcases given with ⟨configuration, held, refused⟩
      exact refused (valid configuration held)
    rw [supported, Bool.and_false, Bool.or_false, kept]
    exact accounted.exact

theorem PortRecord.evidenced_conservative_iff (evidence : AppliedEvidence) :
    (record.evidenced evidence).Conservative ↔
      (evidence.outcome = .outcomeUnknown ∧
        (record.lifecycle.isLive = true ∨ record.lifecycle = .revalidationRequired)) := by
  obtain ⟨_, same⟩ := record.evidenced_applied evidence
  have advanced : record.advanceEvidenceGeneration.lifecycle = record.lifecycle := rfl
  rw [Conservative, same, and_comm]
  refine and_congr_right fun unknown => ?_
  rw [PortRecord.evidenced, unknown, judged]
  dsimp only
  rw [advanced]
  split
  · next live => exact iff_of_true rfl (.inl live)
  · next dead => exact (or_iff_right dead).symm

theorem PortRecord.Accounted.drifted (accounted : record.Accounted suspended)
    (observed : DriftState) (detail : Text) :
    (suspended && observed ≠ .conflicted) = true ↔
      (record.drifted observed detail).Conservative := by
  have outcome : (record.drifted observed detail).applied.outcome = record.applied.outcome := by
    rw [drifted_applied]
    split
    · rfl
    · rfl
  have known (live : record.lifecycle.isLive = true) : suspended = false := by
    rw [← Bool.not_eq_true, accounted.exact]
    exact fun given => accounted.unresolved live given.2
  rw [Conservative, outcome]
  cases observed with
  | revalidationRequired =>
      simp only [PortRecord.drifted, PortRecord.observed]
      split
      · next live =>
          rw [known live]
          exact iff_of_false (by simp) fun given => accounted.unresolved live given.2
      · simpa [Conservative] using accounted.exact
  | conflicted =>
      refine iff_of_false (by simp) fun given => ?_
      have fenced := given.1
      simp only [PortRecord.drifted, PortRecord.observed] at fenced
      split at fenced
      · next allowed => cases revalidation_of_result allowed fenced
      · next refused =>
          have same : record.lifecycle = .revalidationRequired := fenced
          rw [same] at refused
          exact refused rfl
  | _ => simpa [PortRecord.drifted, PortRecord.observed, Conservative] using accounted.exact

/-- A plan that is not applied accounts for what it makes of the record. -/
theorem Proposal.accounted {mutation : Mutation} {input : MutationBuildInput} {plan : MutationPlan}
    (accounted : input.current.Accounted suspended) (proposed : Proposal mutation input plan)
    (unapplied : plan.requiresApply = false) :
    plan.next.Accounted (mutation.suspends input.current suspended) := by
  refine ⟨proposed.applyKnown accounted.unresolved unapplied, ?_⟩
  cases proposed with
  | configured _ _ _ _ planned =>
      subst planned
      cases unapplied
  | replaced _ _ _ _ _ planned =>
      subst planned
      cases unapplied
  | administered requested _ live _ _ next =>
      subst requested
      rw [next]
      exact iff_of_false (by simp [Mutation.suspends])
        fun given => accounted.unresolved live given.2
  | @rebound request requested _ next =>
      subst requested
      rw [next]
      exact accounted.rebound request.binding
  | reconciled _ _ _ _ planned =>
      subst planned
      cases unapplied
  | @fenced lifecycle reason detail retire requested _ allowed result next =>
      obtain ⟨_, _, same⟩ := (input.current.fenced lifecycle reason detail).disowned_eq retire
      rw [next]
      dsimp only
      rw [same]
      have outside : mutation.suspends input.current suspended = false := by
        cases mutation <;> cases retire <;> first | rfl | simp [Mutation.kind] at requested
      refine iff_of_false (by simp [outside]) fun given => ?_
      have revalidates := revalidation_of_result allowed (result ▸ given.1)
      cases retire <;> cases revalidates
  | @reowned ownership reason detail requested _ next =>
      rw [next]
      have kept : mutation.suspends input.current suspended = suspended := by
        cases mutation with
        | claimOwnership | transferOwnership | releaseOwnership => rfl
        | _ => simp [Mutation.kind] at requested
      rw [kept]
      exact (accounted.congr rfl rfl).exact
  | @evidenced request requested _ _ _ next =>
      subst requested
      rw [next, PortRecord.evidenced_conservative_iff]
      simp [Mutation.suspends]
  | @observed request requested _ next =>
      subst requested
      rw [next]
      exact accounted.drifted request.observed request.detail

/-- What is applied to the device and committed ends a suspension. -/
theorem Proposal.ends_suspension {mutation : Mutation} {input : MutationBuildInput}
    {plan : MutationPlan} (proposed : Proposal mutation input plan)
    (required : plan.requiresApply = true) :
    mutation.suspends input.current suspended = false := by
  have applied (unapplied : plan.requiresApply = false) : False := by
    rw [required] at unapplied
    cases unapplied
  cases proposed with
  | configured requested _ _ _ _ =>
      subst requested
      rfl
  | replaced requested _ _ _ _ _ =>
      cases mutation with
      | reconfigure | assignProfile => rfl
      | _ => simp [Mutation.kind] at requested
  | administered requested _ _ _ _ _ =>
      subst requested
      rfl
  | reconciled requested _ _ _ _ =>
      subst requested
      rfl
  | rebound _ unapplied _ => exact (applied unapplied).elim
  | fenced _ unapplied _ _ _ => exact (applied unapplied).elim
  | reowned _ unapplied _ => exact (applied unapplied).elim
  | evidenced _ unapplied _ _ _ => exact (applied unapplied).elim
  | observed _ unapplied _ => exact (applied unapplied).elim

theorem BuiltFrom.settlement {runtime : Runtime} {mutation : Mutation} {snapshot : PortRecord}
    {plan : MutationPlan} {evidence : AppliedEvidence} {settled : Bool}
    (built : BuiltFrom runtime mutation snapshot plan evidence settled) :
    ∃ (input : MutationBuildInput) (proposal : MutationPlan) (applied : AppliedEvidence)
      (drift : DriftState) (counted : EvidenceGeneration),
      input.current = snapshot ∧ Proposal mutation input proposal ∧
      EngineImpl.committedRecord plan evidence settled =
        (stampPlan mutation proposal).next.settledWith applied drift counted ∧
      EvidenceSettlement runtime proposal applied drift counted := by
  obtain ⟨_, answers, ⟨profiles, context, answer, prepared⟩, decided⟩ := built
  obtain ⟨capability, proposal, constructed, _, rfl⟩ := preparePlan_ok prepared
  obtain ⟨drift, counted, same, settlement⟩ := applyPlan_settlement decided
  refine ⟨_, proposal, _, drift, counted, rfl, Mutation.build_proposal constructed, same, ?_⟩
  have decided (required : proposal.requiresApply = true) : DecidedEvidence proposal _ :=
    have answered := settlement.decided required
    ⟨answered.verified, answered.known, answered.generation⟩
  exact ⟨settlement.unapplied, decided, settlement.counted⟩

/-- A commit of a plan prepared from an accounted snapshot is accounted for. -/
theorem BuiltFrom.accounted {runtime : Runtime} {mutation : Mutation} {snapshot : PortRecord}
    {plan : MutationPlan} {evidence : AppliedEvidence} {settled : Bool}
    (built : BuiltFrom runtime mutation snapshot plan evidence settled)
    (accounted : snapshot.Accounted suspended) :
    (EngineImpl.committedRecord plan evidence settled).Accounted
      (mutation.suspends snapshot suspended) := by
  obtain ⟨input, proposal, applied, drift, counted, rfl, proposed, same, settlement⟩ :=
    built.settlement
  rw [same]
  by_cases required : proposal.requiresApply = true
  · have known := (settlement.decided required).known
    refine ⟨fun _ => known, iff_of_false ?_ fun given => known given.2⟩
    rw [proposed.ends_suspension required]
    exact Bool.false_ne_true
  · have unapplied : proposal.requiresApply = false := by simpa using required
    obtain ⟨rfl, _⟩ := settlement.unapplied unapplied
    exact (proposed.accounted accounted unapplied).congr rfl rfl

end Records

/-- The account of a port agrees with what it is bound to. -/
def Accounts (suspended : Bool) : Option PortRecord → Prop
  | none => suspended = false
  | some record => record.Accounted suspended

section Sections

variable {runtime : Runtime} {impl : EngineImpl} {port : PortId} {suspended seen : Bool}

theorem ApplyDecision.accounts (mutation : Mutation)
    (snapshot : PortRecord) (applied : Option AdapterApplyStatus) (decision : ApplyDecision)
    (accounts : Accounts suspended impl.records[port]?) (looked : snapshot.Accounted seen)
    (sound : (Flight.conclude mutation snapshot applied decision).Sound runtime) :
    Accounts
      ((Flight.conclude mutation snapshot applied decision).suspends impl port seen suspended)
      (Flight.concludeStep runtime mutation decision impl).1.records[port]? := by
  simp only [Flight.suspends]
  cases decision with
  | reject reply =>
      simpa [ApplyDecision.suspends, Flight.concludeStep] using accounts
  | commit proposal evidence settled =>
      simp only [ApplyDecision.suspends, Flight.concludeStep]
      cases stored : impl.commitRecord mutation.port proposal evidence settled with
      | error result => simpa [Except.isOk, Except.toBool] using accounts
      | ok committed =>
          obtain ⟨_, _, _, _, _, _, rfl⟩ := EngineImpl.commitRecord_ok stored
          rw [EngineImpl.replaceRecord_records, OrderedMap.lookup_insert]
          split
          · exact BuiltFrom.accounted sound looked
          · exact accounts
  | uncertain generation detail code reply =>
      simp only [ApplyDecision.suspends, Flight.concludeStep]
      cases found : impl.records[mutation.port]? with
      | none =>
          simp only [Option.isSome_none, Option.any_none, Bool.false_eq_true, if_false]
          split
          · next here =>
              rw [← here, found]
              rfl
          · exact accounts
      | some before =>
          simp only [Option.isSome_some, Option.any_some, if_true, EngineImpl.recordUncertainty,
            found, EngineImpl.replaceRecord_records, OrderedMap.lookup_insert]
          split
          · exact before.uncertain_accounted runtime mutation.authority generation detail
          · exact accounts

theorem Flight.accounts (answers : MutationAnswers) {flight : Flight}
    (accounts : Accounts suspended impl.records[port]?)
    (looked : ∀ snapshot, flight.snapshot? = some snapshot → snapshot.Accounted seen)
    (sound : flight.Sound runtime) :
    Accounts (flight.suspends impl port seen suspended)
      (flight.advance runtime answers impl).1.records[port]? := by
  have effect := flight.advance_effect runtime answers impl
  cases flight with
  | conclude mutation snapshot applied decision =>
      exact decision.accounts mutation snapshot applied accounts (looked snapshot rfl)
        sound
  | _ =>
      cases effect with
      | kept records =>
          rw [records]
          exact accounts

theorem RecordsEffect.accounts {operation : Operation} {records : RecordMap}
    (effect : RecordsEffect operation impl.records records)
    (accounts : Accounts suspended impl.records[port]?) : Accounts suspended records[port]? := by
  cases effect with
  | unchanged => exact accounts
  | @bound request _ evidence _ absent _ _ =>
      rw [OrderedMap.lookup_insert]
      split
      · next here =>
          rw [← here, absent] at accounts
          cases accounts
          exact boundRecord_accounted request evidence
      · exact accounts
  | released held texts =>
      rw [OrderedMap.lookup_map]
      cases found : impl.records[port]? with
      | none =>
          rw [found] at accounts
          exact accounts
      | some record =>
          rw [found] at accounts
          rw [Option.map_some]
          split
          · exact PortRecord.Accounted.congr accounts rfl rfl
          · exact accounts

theorem PersistedState.accounts (state : PersistedState) :
    Accounts (state.suspends port) (restoreRecords ∅ state.records).1[port]? := by
  rw [restored_lookup, PersistedState.suspends]
  cases found : state.recoverable.find? fun record => record.port = port with
  | none => rfl
  | some record =>
      exact PortRecord.recovered_accounted
        (state.recoverable_validate (List.mem_of_find?_eq_some found))

theorem Operation.accounts {operation : Operation}
    (outside : ∀ mutation answers, operation ≠ .mutate mutation answers)
    (accounts : Accounts suspended impl.records[port]?) :
    Accounts (operation.suspends runtime impl port suspended)
      (impl.perform runtime operation).records[port]? := by
  cases operation with
  | load container =>
      rw [suspends, EngineImpl.perform]
      obtain ⟨unread, profiles, same⟩ | ⟨state, recovers, loaded⟩ :=
        load_effect runtime impl container
      · have refused : impl.carriesOut runtime container = false := by
          rw [← Bool.not_eq_true, EngineImpl.carriesOut_iff]
          intro given
          rcases given with ⟨state, recovers⟩
          exact unread state recovers
        rw [refused, same]
        exact accounts
      · rw [EngineImpl.carriesOut_iff.mpr ⟨state, recovers⟩, loaded.records, recovers.read]
        exact state.accounts
  | _ => exact (perform_records outside rfl).accounts accounts

end Sections

/-- The account agrees with the records and with the snapshots in flight. -/
structure ApplyAccount.Kept (runtime : Runtime) (account : ApplyAccount) : Prop where
  sound : account.system.Sound runtime
  records : ∀ port, Accounts (account.suspended port) account.system.engine.records[port]?
  flights : ∀ thread flight snapshot, account.system.flights thread = some flight →
    flight.snapshot? = some snapshot → snapshot.Accounted (account.seen thread)

namespace ApplyAccount

variable {runtime : Runtime} {account : ApplyAccount} {action : Action}

theorem Kept.step_records (kept : account.Kept runtime) (action : Action) (port : PortId) :
    Accounts (account.suspendedAfter runtime port action)
      (account.system.step runtime action).engine.records[port]? := by
  have accounts := kept.records port
  cases action with
  | start thread mutation =>
      have same : (account.system.step runtime (.start thread mutation)).engine =
          account.system.engine := by
        simp only [System.step]
        split <;> rfl
      rw [same]
      exact accounts
  | advance thread answers =>
      simp only [suspendedAfter, System.step]
      cases flying : account.system.flights thread with
      | none => exact accounts
      | some flight =>
          have looked (snapshot : PortRecord) (carried : flight.snapshot? = some snapshot) :
              snapshot.Accounted (account.seen thread) :=
            kept.flights thread flight snapshot flying carried
          exact Flight.accounts answers accounts looked (kept.sound thread flight flying)
  | operate operation =>
      cases operation with
      | mutate mutation answers => exact accounts
      | _ => exact Operation.accounts (by simp) accounts

theorem Kept.step_flights (kept : account.Kept runtime) (action : Action) {thread : Nat}
    {flight : Flight} {snapshot : PortRecord}
    (flying : (account.system.step runtime action).flights thread = some flight)
    (carried : flight.snapshot? = some snapshot) :
    snapshot.Accounted (account.seenAfter thread action) := by
  obtain ⟨untouched, other⟩ | ⟨_, _, rfl, _⟩ | ⟨answers, before, after, rfl, found, advanced⟩ :=
    System.step_flights flying
  · have seen : account.seenAfter thread action = account.seen thread := by
      cases action with
      | advance mover answers =>
          have same : mover ≠ thread := fun same => other answers (same ▸ rfl)
          simp only [seenAfter, untouched, if_neg same]
          split <;> rfl
      | _ => rfl
    rw [seen]
    exact kept.flights thread flight snapshot untouched carried
  · cases carried
  · simp only [seenAfter, found]
    cases before with
    | lookup mutation =>
        simp only [Flight.advance, Prod.mk.injEq, bind_eq_ok, pure_eq_ok] at advanced
        obtain ⟨_, looked, observed, rfl⟩ := advanced
        cases carried
        have accounts := kept.records mutation.port
        rw [(observe_ok observed).1] at accounts
        simp only [if_true]
        exact accounts
    | authority mutation =>
        simp only [Flight.advance, Prod.mk.injEq, bind_eq_ok, pure_eq_ok] at advanced
        obtain ⟨_, _, _, rfl⟩ := advanced
        cases carried
    | conclude mutation looked applied decision =>
        obtain ⟨_, rfl⟩ := Flight.conclude_next advanced
        cases carried
    | persist mutation settlement => cases settlement <;> cases advanced
    | topology mutation looked | context mutation looked | plan mutation looked
    | apply mutation looked =>
        have unsettled : flight.unsettled = true := by
          cases flight with
          | persist => cases carried
          | _ => rfl
        have same := Flight.advance_snapshot advanced rfl unsettled
        rw [carried] at same
        cases same
        exact kept.flights thread _ _ found rfl

theorem Kept.step (kept : account.Kept runtime) (action : Action) :
    (account.step runtime action).Kept runtime where
  sound := kept.sound.step action
  records := kept.step_records action
  flights _ _ _ flying carried := kept.step_flights action flying carried

theorem step_conservative_iff {port : PortId} (kept : account.Kept runtime)
    (lost : account.system.losesApply port action = true) :
    (account.step runtime action).system.engine.Conservative port ↔
      ∀ record, account.system.engine.records[port]? = some record →
        record.lifecycle ≠ .retired → account.suspended port = true := by
  have same : (account.step runtime action).system.engine = account.system.engine :=
    System.engine_eq_of_losesApply lost
  rw [same]
  refine forall_congr' fun record => forall_congr' fun found => imp_congr_right fun _ => ?_
  have accounts := kept.records port
  rw [found] at accounts
  exact accounts.exact.symm

theorem kept_initial (runtime : Runtime) : (initial runtime).Kept runtime := by
  refine ⟨?_, fun port => ?_, ?_⟩
  · intro _ _ flying
    cases flying
  · simp [initial, EngineImpl.initial, Accounts]
  · intro _ _ _ flying
    cases flying

end ApplyAccount

/--
Along any interleaving, every commit that is rejected after an apply leaves its
port conservative exactly when every such commit finds a port that is unbound,
retired, or suspended by the event that last decided its standing.
-/
theorem leaves_conservative_along_iff (runtime : Runtime) (actions : List Action) :
    Runs.Along (ApplyAccount.step runtime) (ApplyAccount.LeavesConservative runtime)
        (.initial runtime) actions ↔
      Runs.Along (ApplyAccount.step runtime) ApplyAccount.FindsSuspended (.initial runtime)
        actions := by
  have exactly (account : ApplyAccount) (action : Action) (kept : account.Kept runtime) :
      account.LeavesConservative runtime action ↔ account.FindsSuspended action := by
    refine forall_congr' fun port => forall_congr' fun lost => ?_
    exact ApplyAccount.step_conservative_iff kept lost
  have supported (account : ApplyAccount) (action : Action) (kept : account.Kept runtime)
      (_ : True) : (account.step runtime action).Kept runtime := kept.step action
  exact Runs.along_congr supported exactly (ApplyAccount.kept_initial runtime)
    fun _ _ => trivial

namespace OvertakenApply

def port : PortId := "syn-sw1-p01"

def envelope (attempt : MutationAttemptId) : MutationEnvelope :=
  Fixture.envelope port "agent-a" "boot-a" attempt .first

/-- A drift is observed while the adapter disables a configured port. -/
def actions : List Action :=
  .operate (Fixture.bind port "bind-1") ::
    Fixture.complete 0 (Fixture.claim (envelope "claim-1") "owner-a") {} ++
    Fixture.complete 0 (Fixture.configuration (envelope "configure-1")) Fixture.verified ++
    Fixture.prepare 0 (Fixture.administer (envelope "disable-1") .disable) Fixture.verified ++
    Fixture.complete 1
      (.observeExternalState { envelope := envelope "drift-1", observed := .drifted }) {}

set_option maxRecDepth 100000 in
/-- The commit is rejected after the apply, and the port stays live. -/
theorem leaves_live :
    ¬Runs.Along (ApplyAccount.step Fixture.runtime)
      (ApplyAccount.LeavesConservative Fixture.runtime) (.initial Fixture.runtime)
      (actions ++ [.advance 0 Fixture.verified]) := by
  have outcome : (Fixture.systemAfter actions).losesApply port (.advance 0 Fixture.verified) =
        true ∧
      ((Fixture.systemAfter actions).engine.records[port]?).map PortRecord.lifecycle =
        some .configured := by
    decide +kernel
  obtain ⟨lost, live⟩ := outcome
  intro along
  have last := (Runs.along_append.mp along).2.1
  have same : (Runs.run (ApplyAccount.step Fixture.runtime) (.initial Fixture.runtime)
      actions).system = Fixture.systemAfter actions :=
    ApplyAccount.run_system Fixture.runtime (.initial Fixture.runtime) actions
  have leaves : ((Fixture.systemAfter actions).step Fixture.runtime
      (.advance 0 Fixture.verified)).engine.Conservative port := by
    rw [← same] at lost ⊢
    exact last port lost
  rw [System.engine_eq_of_losesApply lost] at leaves
  obtain ⟨record, found, configured⟩ := Option.map_eq_some_iff.mp live
  have fenced := (leaves record found (by simp [configured])).1
  rw [configured] at fenced
  cases fenced

end OvertakenApply

end PortFabric
