import PortFabric.Engine.Interleaving
import PortFabric.Engine.MutationProperties
import PortFabric.Engine.OperationProperties

/-!
# Properties of interleaved runs

A flight that nothing interrupts is a sequential mutation, and one section of a
flight changes the records only where it concludes.
-/

set_option autoImplicit false

namespace PortFabric

open Checks

section Sequential

variable (runtime : Runtime) (answers : MutationAnswers)

variable {runtime answers} in
theorem Flight.finish_next {fuel : Nat} {impl after : EngineImpl} {flight next : Flight}
    (advanced : flight.advance runtime answers impl = (after, .ok next)) :
    Flight.finish runtime answers (fuel + 1) impl flight =
      Flight.finish runtime answers fuel after next := by
  simp only [Flight.finish, advanced]

variable {runtime answers} in
theorem Flight.finish_done {fuel : Nat} {impl after : EngineImpl} {flight : Flight} {reply : Reply}
    (advanced : flight.advance runtime answers impl = (after, .error reply)) :
    Flight.finish runtime answers (fuel + 1) impl flight = (after, some reply) := by
  simp only [Flight.finish, advanced]

private theorem finish_conclude (mutation : Mutation) (snapshot : PortRecord)
    (applied : Option AdapterApplyStatus) (decision : ApplyDecision) (impl : EngineImpl) :
    Flight.finish runtime answers 2 impl (.conclude mutation snapshot applied decision) =
      ((concludeMutation runtime mutation decision answers.store impl).1,
        some (concludeMutation runtime mutation decision answers.store impl).2) := by
  cases decision with
  | reject reply => exact Flight.finish_done rfl
  | commit proposal evidence settled =>
      cases stored : impl.commitRecord mutation.port proposal evidence settled with
      | error result =>
          have lost : (Flight.conclude mutation snapshot applied
              (.commit proposal evidence settled)).advance runtime answers impl =
                (impl, .error (.result result)) := by
            simp only [Flight.advance, Flight.concludeStep, stored]
          rw [Flight.finish_done lost]
          simp only [concludeMutation, EngineImpl.commit, stored]
      | ok committed =>
          have won : (Flight.conclude mutation snapshot applied
              (.commit proposal evidence settled)).advance runtime answers impl =
                (committed, .ok (.persist mutation
                  (.committed (EngineImpl.committedRecord proposal evidence settled)))) := by
            simp only [Flight.advance, Flight.concludeStep, stored]
          rw [Flight.finish_next won, Flight.finish_done rfl]
          simp only [concludeMutation, EngineImpl.commit, stored]
  | uncertain generation detail code reply =>
      cases found : impl.records[mutation.port]? with
      | none =>
          have absent : (Flight.conclude mutation snapshot applied
              (.uncertain generation detail code reply)).advance runtime answers impl =
                (impl, .error (.result (reply.getD (.rejected code detail)))) := by
            simp only [Flight.advance, Flight.concludeStep, found, Option.isSome_none,
              Bool.false_eq_true, if_false]
          rw [Flight.finish_done absent]
          simp only [concludeMutation, EngineImpl.recordApplyUncertainty,
            EngineImpl.recordUncertainty, found, Option.isSome_none, Bool.false_eq_true, if_false]
      | some before =>
          have doubted : (Flight.conclude mutation snapshot applied
              (.uncertain generation detail code reply)).advance runtime answers impl =
                (impl.recordUncertainty runtime mutation.port mutation.authority generation
                  .outcomeUnknown detail,
                  .ok (.persist mutation (.uncertain (reply.getD (.rejected code detail))))) := by
            simp only [Flight.advance, Flight.concludeStep, found, Option.isSome_some, if_true]
          rw [Flight.finish_next doubted, Flight.finish_done rfl]
          simp only [concludeMutation, EngineImpl.recordApplyUncertainty, found,
            Option.isSome_some, if_true]

private theorem finish_plan (mutation : Mutation) (snapshot : PortRecord) (impl : EngineImpl) :
    Flight.finish runtime answers 4 impl (.plan mutation snapshot (readContext impl snapshot)) =
      match preparePlan runtime impl.profiles mutation snapshot (readContext impl snapshot)
        answers.provider with
      | .error reply => (impl, some reply)
      | .ok plan =>
          ((concludeMutation runtime mutation (applyPlan runtime snapshot plan answers)
              answers.store impl).1,
            some (concludeMutation runtime mutation (applyPlan runtime snapshot plan answers)
              answers.store impl).2) := by
  cases prepared : preparePlan runtime impl.profiles mutation snapshot (readContext impl snapshot)
      answers.provider with
  | error reply =>
      have refused : (Flight.plan mutation snapshot (readContext impl snapshot)).advance runtime
          answers impl = (impl, .error reply) := by
        simp only [Flight.advance, prepared]
        rfl
      exact Flight.finish_done refused
  | ok plan =>
      have planned : (Flight.plan mutation snapshot (readContext impl snapshot)).advance runtime
          answers impl = (impl, .ok (.apply mutation snapshot plan)) := by
        simp only [Flight.advance, prepared]
        rfl
      rw [Flight.finish_next planned, Flight.finish_next rfl, finish_conclude]

private theorem finish_lookup (mutation : Mutation) (impl : EngineImpl) :
    Flight.finish runtime answers 7 impl (.lookup mutation) =
      match planMutation runtime mutation answers.provider impl with
      | .error reply => (impl, some reply)
      | .ok (snapshot, plan) =>
          ((concludeMutation runtime mutation (applyPlan runtime snapshot plan answers)
              answers.store impl).1,
            some (concludeMutation runtime mutation (applyPlan runtime snapshot plan answers)
              answers.store impl).2) := by
  cases observed : observe impl mutation with
  | error reply =>
      have refused : (Flight.lookup mutation).advance runtime answers impl =
          (impl, .error reply) := by
        simp only [Flight.advance, observed]
        rfl
      rw [Flight.finish_done refused]
      simp only [planMutation, observed, error_bind]
  | ok snapshot =>
  have looked : (Flight.lookup mutation).advance runtime answers impl =
      (impl, .ok (.topology mutation snapshot)) := by
    simp only [Flight.advance, observed]
    rfl
  rw [Flight.finish_next looked]
  cases structural : expectTopology impl mutation with
  | error reply =>
      have refused : (Flight.topology mutation snapshot).advance runtime answers impl =
          (impl, .error reply) := by
        simp only [Flight.advance, structural]
        rfl
      rw [Flight.finish_done refused]
      simp only [planMutation, observed, structural, ok_bind, error_bind]
  | ok _ =>
  cases gated : snapshotGates runtime.config mutation snapshot with
  | error reply =>
      have refused : (Flight.topology mutation snapshot).advance runtime answers impl =
          (impl, .error reply) := by
        simp only [Flight.advance, structural, gated]
        rfl
      rw [Flight.finish_done refused]
      simp only [planMutation, observed, structural, gated, ok_bind, error_bind]
  | ok _ =>
  have passed : (Flight.topology mutation snapshot).advance runtime answers impl =
      (impl, .ok (.context mutation snapshot)) := by
    simp only [Flight.advance, structural, gated]
    rfl
  rw [Flight.finish_next passed]
  cases bound : deviceGate mutation snapshot (readContext impl snapshot) with
  | error reply =>
      have refused : (Flight.context mutation snapshot).advance runtime answers impl =
          (impl, .error reply) := by
        simp only [Flight.advance, bound]
        rfl
      rw [Flight.finish_done refused]
      simp only [planMutation, observed, structural, gated, bound, ok_bind, error_bind]
  | ok _ =>
  have read : (Flight.context mutation snapshot).advance runtime answers impl =
      (impl, .ok (.plan mutation snapshot (readContext impl snapshot))) := by
    simp only [Flight.advance, bound]
    rfl
  rw [Flight.finish_next read, finish_plan]
  simp only [planMutation, observed, structural, gated, bound, ok_bind]
  cases preparePlan runtime impl.profiles mutation snapshot (readContext impl snapshot)
      answers.provider with
  | error reply => rfl
  | ok plan => rfl

/-- The sections of a mutation, run without interruption, are the sequential mutation. -/
theorem finish_eq_executeMutation (mutation : Mutation) (impl : EngineImpl)
    (admitted : admitMutation impl mutation = .ok ()) :
    Flight.finish runtime answers 8 impl (.authority mutation) =
      ((executeMutation runtime mutation answers impl).1,
        some (executeMutation runtime mutation answers impl).2) := by
  -- A flight has eight sections, and a refusal ends it at the first.
  cases gate : authorise runtime impl mutation with
  | mk authorised verdict =>
  cases verdict with
  | error reply =>
      have refused : (Flight.authority mutation).advance runtime answers impl =
          (authorised, .error reply) := by
        simp only [Flight.advance, gate]
        rfl
      rw [Flight.finish_done refused]
      simp only [executeMutation, admitted, gate]
  | ok done =>
      have accepted : (Flight.authority mutation).advance runtime answers impl =
          (authorised, .ok (.lookup mutation)) := by
        simp only [Flight.advance, gate]
        rfl
      rw [Flight.finish_next accepted, finish_lookup]
      simp only [executeMutation, admitted, gate]
      cases planMutation runtime mutation answers.provider authorised with
      | error reply => rfl
      | ok planned => rfl

end Sequential

section Sections

/-- What one section of a flight does to the records. -/
inductive SectionEffect (runtime : Runtime) (impl : EngineImpl) : Flight → EngineImpl → Prop where
  | kept {flight : Flight} {after : EngineImpl} (records : after.records = impl.records) :
      SectionEffect runtime impl flight after
  | committed {mutation : Mutation} {snapshot : PortRecord} {applied : Option AdapterApplyStatus}
      {proposal : MutationPlan} {evidence : AppliedEvidence} {settled : Bool} {after : EngineImpl}
      (stored : impl.commitRecord mutation.port proposal evidence settled = .ok after) :
      SectionEffect runtime impl
        (.conclude mutation snapshot applied (.commit proposal evidence settled)) after
  | doubted {mutation : Mutation} {snapshot before : PortRecord}
      {applied : Option AdapterApplyStatus} {generation : PortConfigurationGeneration}
      {detail : Text} {code : OutcomeCode} {reply : Option MutationResult}
      (found : impl.records[mutation.port]? = some before) :
      SectionEffect runtime impl
        (.conclude mutation snapshot applied (.uncertain generation detail code reply))
        (impl.replaceRecord mutation.port before
          (before.uncertain runtime mutation.authority generation .outcomeUnknown detail))

theorem Flight.advance_effect (runtime : Runtime) (answers : MutationAnswers) (impl : EngineImpl)
    (flight : Flight) :
    SectionEffect runtime impl flight (flight.advance runtime answers impl).1 := by
  cases flight with
  | authority mutation =>
      refine .kept ?_
      simp only [advance, authorise]
      split <;> exact EngineImpl.authorised_records
  | lookup mutation => exact .kept rfl
  | topology mutation snapshot => exact .kept rfl
  | context mutation snapshot => exact .kept rfl
  | plan mutation snapshot context => exact .kept rfl
  | apply mutation snapshot proposal => exact .kept rfl
  | conclude mutation snapshot applied decision =>
      cases decision with
      | reject reply => exact .kept rfl
      | commit proposal evidence settled =>
          simp only [advance, concludeStep]
          split
          · exact .kept rfl
          · next stored => exact .committed stored
      | uncertain generation detail code reply =>
          simp only [advance, concludeStep]
          cases found : impl.records[mutation.port]? with
          | none => exact .kept rfl
          | some before =>
              simp only [Option.isSome_some, if_true, EngineImpl.recordUncertainty, found]
              exact .doubted found
  | persist mutation settlement =>
      cases settlement <;> exact .kept (EngineImpl.persistLockedState_records ..)

/-- What one section of a flight does to the engine: at most one record is replaced. -/
theorem Flight.advance_cases (runtime : Runtime) (answers : MutationAnswers) (impl : EngineImpl)
    (flight : Flight) :
    (flight.advance runtime answers impl).1 = impl ∨
      (∃ mutation, flight = .authority mutation ∧
        (flight.advance runtime answers impl).1 = impl.authorised runtime mutation) ∨
      (∃ port before record, impl.records[port]? = some before ∧
        (flight.advance runtime answers impl).1 = impl.replaceRecord port before record) ∨
      (flight.advance runtime answers impl).1 =
        (impl.persistLockedState runtime answers.store).1 := by
  cases flight with
  | authority mutation =>
      refine .inr (.inl ⟨mutation, rfl, ?_⟩)
      simp only [advance, authorise]
      split
      · rfl
      · rfl
  | lookup | topology | context | plan | apply => exact .inl rfl
  | conclude mutation snapshot applied decision =>
      cases decision with
      | reject reply => exact .inl rfl
      | commit proposal evidence settled =>
          simp only [advance, concludeStep]
          split
          · exact .inl rfl
          · next stored =>
              obtain ⟨_, found, _, _, _, _, rfl⟩ := EngineImpl.commitRecord_ok stored
              exact .inr (.inr (.inl ⟨_, _, _, found, rfl⟩))
      | uncertain generation detail code reply =>
          simp only [advance, concludeStep]
          cases found : impl.records[mutation.port]? with
          | none => exact .inl rfl
          | some before =>
              simp only [Option.isSome_some, if_true, EngineImpl.recordUncertainty, found]
              exact .inr (.inr (.inl ⟨_, _, _, found, rfl⟩))
  | persist mutation settlement =>
      refine .inr (.inr (.inr ?_))
      cases settlement with
      | committed final => rfl
      | uncertain result => rfl

/-- A section keeps the epoch, and only the authority section touches the publishers. -/
theorem Flight.advance_tables (runtime : Runtime) (answers : MutationAnswers) (impl : EngineImpl)
    (flight : Flight) :
    (flight.advance runtime answers impl).1.epoch = impl.epoch ∧
      ((flight.advance runtime answers impl).1.publishers = impl.publishers ∨
        ∃ mutation, flight = .authority mutation ∧
          (flight.advance runtime answers impl).1 = impl.authorised runtime mutation) := by
  obtain same | ⟨mutation, entering, same⟩ | ⟨_, _, _, _, same⟩ | same :=
    flight.advance_cases runtime answers impl
  · rw [same]
    exact ⟨rfl, .inl rfl⟩
  · rw [same]
    exact ⟨EngineImpl.authorised_epoch, .inr ⟨mutation, entering, rfl⟩⟩
  · rw [same]
    exact ⟨rfl, .inl rfl⟩
  · rw [same]
    exact ⟨EngineImpl.persistLockedState_epoch ..,
      .inl (EngineImpl.persistLockedState_publishers ..)⟩

end Sections

section Steps

variable {runtime : Runtime} {system : System}

/-- A step of the system changes the engine by one section, by one operation, or not at all. -/
theorem System.step_engine (runtime : Runtime) (system : System) (action : Action) :
    (system.step runtime action).engine = system.engine ∨
      (∃ thread answers flight, action = .advance thread answers ∧
        system.flights thread = some flight ∧
        (system.step runtime action).engine =
          (flight.advance runtime answers system.engine).1) ∨
      ∃ operation, action = .operate operation ∧
        (∀ mutation answers, operation ≠ .mutate mutation answers) ∧
        (system.step runtime action).engine = system.engine.perform runtime operation := by
  cases action with
  | start thread mutation =>
      left
      simp only [step]
      split <;> rfl
  | advance thread answers =>
      cases found : system.flights thread with
      | none => exact .inl (by simp only [step, found])
      | some flight =>
          exact .inr (.inl ⟨thread, answers, flight, rfl, found, by simp only [step, found]; rfl⟩)
  | operate operation =>
      cases operation with
      | mutate mutation answers => exact .inl rfl
      | _ => exact .inr (.inr ⟨_, rfl, by simp, rfl⟩)

theorem System.step_flights_of_ne {action : Action} {thread : Nat}
    (untouched : action.thread? ≠ some thread) :
    (system.step runtime action).flights thread = system.flights thread := by
  cases action with
  | start starter mutation =>
      have other : thread ≠ starter := fun same => untouched (congrArg some same.symm)
      simp only [step]
      split
      · simp only [withFlight, other, if_false]
      · rfl
  | advance mover answers =>
      have other : thread ≠ mover := fun same => untouched (congrArg some same.symm)
      simp only [step]
      split
      · rfl
      · simp only [withFlight, other, if_false]
  | operate operation => cases operation <;> rfl

theorem System.step_operate {operation : Operation}
    (outside : ∀ mutation answers, operation ≠ .mutate mutation answers) :
    (system.step runtime (.operate operation)).engine =
      system.engine.perform runtime operation := by
  cases operation with
  | mutate mutation answers => exact absurd rfl (outside mutation answers)
  | _ => rfl

end Steps

section Provenance

def Prepared (runtime : Runtime) (mutation : Mutation) (snapshot : PortRecord)
    (plan : MutationPlan) : Prop :=
  ∃ profiles context answer,
    preparePlan runtime profiles mutation snapshot context answer = .ok plan

/-- What is committed is a plan prepared from this snapshot, as the adapter phase left it. -/
def BuiltFrom (runtime : Runtime) (mutation : Mutation) (snapshot : PortRecord)
    (proposal : MutationPlan) (evidence : AppliedEvidence) (settled : Bool) : Prop :=
  ∃ plan answers, Prepared runtime mutation snapshot plan ∧
    applyPlan runtime snapshot plan answers = .commit proposal evidence settled

namespace Flight

def snapshot? : Flight → Option PortRecord
  | topology _ snapshot => some snapshot
  | context _ snapshot => some snapshot
  | plan _ snapshot _ => some snapshot
  | apply _ snapshot _ => some snapshot
  | conclude _ snapshot _ _ => some snapshot
  | _ => none

def unsettled : Flight → Bool
  | persist _ _ => false
  | _ => true

/-- The plan a flight carries was prepared from the snapshot it carries. -/
def Sound (runtime : Runtime) : Flight → Prop
  | apply mutation snapshot proposal => Prepared runtime mutation snapshot proposal
  | conclude mutation snapshot _ (.commit proposal evidence settled) =>
      BuiltFrom runtime mutation snapshot proposal evidence settled
  | _ => True

variable {runtime : Runtime} {answers : MutationAnswers} {impl after : EngineImpl}
  {flight next : Flight}

theorem conclude_next {mutation : Mutation} {snapshot : PortRecord}
    {applied : Option AdapterApplyStatus} {decision : ApplyDecision}
    (advanced : (conclude mutation snapshot applied decision).advance runtime answers impl =
      (after, .ok next)) : ∃ settlement, next = .persist mutation settlement := by
  cases decision with
  | reject reply => cases advanced
  | commit proposal evidence settled =>
      simp only [advance, concludeStep] at advanced
      split at advanced
      · cases advanced
      · cases advanced
        exact ⟨_, rfl⟩
  | uncertain generation detail code reply =>
      simp only [advance, concludeStep] at advanced
      split at advanced
      · cases advanced
        exact ⟨_, rfl⟩
      · cases advanced

/-- A flight that goes on keeps its mutation, and takes its snapshot from itself or the records. -/
theorem advance_next (advanced : flight.advance runtime answers impl = (after, .ok next)) :
    next.mutation = flight.mutation ∧ flight.unsettled = true ∧
      ∀ snapshot, next.snapshot? = some snapshot →
        flight.snapshot? = some snapshot ∨
          (impl.records[flight.mutation.port]? = some snapshot ∧ after.records = impl.records) := by
  cases flight with
  | authority mutation =>
      simp only [advance, Prod.mk.injEq, bind_eq_ok, pure_eq_ok] at advanced
      obtain ⟨_, _, _, rfl⟩ := advanced
      exact ⟨rfl, rfl, fun _ found => by cases found⟩
  | lookup mutation =>
      simp only [advance, Prod.mk.injEq, bind_eq_ok, pure_eq_ok] at advanced
      obtain ⟨rfl, snapshot, observed, rfl⟩ := advanced
      refine ⟨rfl, rfl, fun _ found => ?_⟩
      cases found
      exact .inr ⟨(observe_ok observed).1, rfl⟩
  | topology mutation snapshot =>
      simp only [advance, Prod.mk.injEq, bind_eq_ok, pure_eq_ok] at advanced
      obtain ⟨_, _, _, _, _, rfl⟩ := advanced
      exact ⟨rfl, rfl, fun _ found => .inl found⟩
  | context mutation snapshot =>
      simp only [advance, Prod.mk.injEq, bind_eq_ok, pure_eq_ok] at advanced
      obtain ⟨_, _, _, rfl⟩ := advanced
      exact ⟨rfl, rfl, fun _ found => .inl found⟩
  | plan mutation snapshot context =>
      simp only [advance, Prod.mk.injEq, bind_eq_ok, pure_eq_ok] at advanced
      obtain ⟨_, _, _, rfl⟩ := advanced
      exact ⟨rfl, rfl, fun _ found => .inl found⟩
  | apply mutation snapshot proposal =>
      cases advanced
      exact ⟨rfl, rfl, fun _ found => .inl found⟩
  | conclude mutation snapshot applied decision =>
      obtain ⟨_, rfl⟩ := conclude_next advanced
      exact ⟨rfl, rfl, fun _ found => by cases found⟩
  | persist mutation settlement => cases settlement <;> cases advanced

theorem advance_snapshot (advanced : flight.advance runtime answers impl = (after, .ok next))
    {snapshot : PortRecord} (carried : flight.snapshot? = some snapshot)
    (unsettled : next.unsettled = true) : next.snapshot? = some snapshot := by
  cases flight with
  | authority mutation => cases carried
  | lookup mutation => cases carried
  | topology mutation found =>
      simp only [advance, Prod.mk.injEq, bind_eq_ok, pure_eq_ok] at advanced
      obtain ⟨_, _, _, _, _, rfl⟩ := advanced
      exact carried
  | context mutation found =>
      simp only [advance, Prod.mk.injEq, bind_eq_ok, pure_eq_ok] at advanced
      obtain ⟨_, _, _, rfl⟩ := advanced
      exact carried
  | plan mutation found context =>
      simp only [advance, Prod.mk.injEq, bind_eq_ok, pure_eq_ok] at advanced
      obtain ⟨_, _, _, rfl⟩ := advanced
      exact carried
  | apply mutation found proposal =>
      cases advanced
      exact carried
  | conclude mutation found applied decision =>
      obtain ⟨_, rfl⟩ := conclude_next advanced
      cases unsettled
  | persist mutation settlement => cases carried

theorem Sound.advance (sound : flight.Sound runtime)
    (advanced : flight.advance runtime answers impl = (after, .ok next)) :
    next.Sound runtime := by
  cases flight with
  | authority mutation =>
      simp only [Flight.advance, Prod.mk.injEq, bind_eq_ok, pure_eq_ok] at advanced
      obtain ⟨_, _, _, rfl⟩ := advanced
      trivial
  | lookup mutation =>
      simp only [Flight.advance, Prod.mk.injEq, bind_eq_ok, pure_eq_ok] at advanced
      obtain ⟨_, _, _, rfl⟩ := advanced
      trivial
  | topology mutation snapshot =>
      simp only [Flight.advance, Prod.mk.injEq, bind_eq_ok, pure_eq_ok] at advanced
      obtain ⟨_, _, _, _, _, rfl⟩ := advanced
      trivial
  | context mutation snapshot =>
      simp only [Flight.advance, Prod.mk.injEq, bind_eq_ok, pure_eq_ok] at advanced
      obtain ⟨_, _, _, rfl⟩ := advanced
      trivial
  | plan mutation snapshot context =>
      simp only [Flight.advance, Prod.mk.injEq, bind_eq_ok, pure_eq_ok] at advanced
      obtain ⟨_, proposal, prepared, rfl⟩ := advanced
      exact ⟨_, _, _, prepared⟩
  | apply mutation snapshot proposal =>
      cases advanced
      cases decided : applyPlan runtime snapshot proposal answers with
      | commit plan evidence settled => exact ⟨proposal, answers, sound, decided⟩
      | reject reply => trivial
      | uncertain generation detail code reply => trivial
  | conclude mutation snapshot applied decision =>
      obtain ⟨_, rfl⟩ := conclude_next advanced
      trivial
  | persist mutation settlement => cases settlement <;> cases advanced

end Flight

/-- Every plan in flight was prepared from the snapshot of its flight. -/
def System.Sound (runtime : Runtime) (system : System) : Prop :=
  ∀ thread flight, system.flights thread = some flight → flight.Sound runtime

/-- A flight after a step is one the step leaves alone, one it starts or one it moves. -/
theorem System.step_flights {runtime : Runtime} {system : System} {action : Action}
    {thread : Nat} {flight : Flight}
    (flying : (system.step runtime action).flights thread = some flight) :
    (system.flights thread = some flight ∧ ∀ answers, action ≠ .advance thread answers) ∨
      (∃ mutation, action = .start thread mutation ∧ flight = .authority mutation ∧
        system.flights thread = none ∧ admitMutation system.engine mutation = .ok ()) ∨
      ∃ answers before after, action = .advance thread answers ∧
        system.flights thread = some before ∧
        before.advance runtime answers system.engine = (after, .ok flight) := by
  cases action with
  | start starter mutation =>
      simp only [step] at flying
      split at flying
      · next idle admitted =>
          simp only [withFlight] at flying
          split at flying
          · next same =>
              subst same
              cases flying
              exact .inr (.inl ⟨mutation, rfl, rfl, idle, admitted⟩)
          · exact .inl ⟨flying, by simp⟩
      · exact .inl ⟨flying, by simp⟩
  | advance mover answers =>
      cases found : system.flights mover with
      | none =>
          simp only [step, found] at flying
          refine .inl ⟨flying, ?_⟩
          intro _ given
          cases given
          rw [found] at flying
          cases flying
      | some before =>
          simp only [step, found, withFlight] at flying
          split at flying
          · next same =>
              subst same
              refine .inr (.inr ⟨answers, before, _, rfl, found, Prod.ext rfl ?_⟩)
              cases advanced : (before.advance runtime answers system.engine).2 with
              | error reply =>
                  rw [advanced] at flying
                  cases flying
              | ok next =>
                  rw [advanced] at flying
                  cases flying
                  rfl
          · next other =>
              refine .inl ⟨flying, ?_⟩
              intro _ given
              cases given
              exact other rfl
  | operate operation => cases operation <;> exact .inl ⟨flying, by simp⟩

theorem System.Sound.step {runtime : Runtime} {system : System} (sound : system.Sound runtime)
    (action : Action) : (system.step runtime action).Sound runtime := by
  intro thread flight flying
  obtain ⟨kept, _⟩ | ⟨mutation, _, rfl, _⟩ | ⟨answers, before, after, _, found, advanced⟩ :=
    System.step_flights flying
  · exact sound thread flight kept
  · trivial
  · exact (sound thread before found).advance advanced

section Committing

variable {runtime : Runtime} {mutation : Mutation} {snapshot : PortRecord}
  {proposal : MutationPlan} {evidence : AppliedEvidence} {settled : Bool}

theorem BuiltFrom.expected (built : BuiltFrom runtime mutation snapshot proposal evidence settled) :
    proposal.expected = .capture snapshot := by
  obtain ⟨plan, answers, ⟨profiles, context, answer, prepared⟩, decided⟩ := built
  obtain ⟨capability, draft, constructed, _, rfl⟩ := preparePlan_ok prepared
  rw [(applyPlan_commit decided).expected]
  exact Mutation.build_expected constructed

theorem BuiltFrom.attempt (built : BuiltFrom runtime mutation snapshot proposal evidence settled) :
    (EngineImpl.committedRecord proposal evidence settled).lastMutation.attempt =
      mutation.attempt := by
  obtain ⟨plan, answers, ⟨profiles, context, answer, prepared⟩, decided⟩ := built
  obtain ⟨capability, draft, _, _, rfl⟩ := preparePlan_ok prepared
  obtain ⟨_, _, _, final, _⟩ := (applyPlan_commit decided).final
  rw [final]
  rfl

theorem BuiltFrom.ownership
    (built : BuiltFrom runtime mutation snapshot proposal evidence settled) :
    OwnershipChange mutation snapshot
      (EngineImpl.committedRecord proposal evidence settled) := by
  obtain ⟨plan, answers, ⟨profiles, context, answer, prepared⟩, decided⟩ := built
  obtain ⟨capability, draft, constructed, _, rfl⟩ := preparePlan_ok prepared
  obtain ⟨_, _, _, final, _⟩ := (applyPlan_commit decided).final
  rw [final]
  cases Mutation.build_ownership constructed with
  | kept ownership counter => exact .kept ownership counter
  | ended ownership counter => exact .ended ownership counter
  | claimed requested own ownership counter => exact .claimed requested own ownership counter
  | transferred requested ownership counter => exact .transferred requested ownership counter

end Committing

end Provenance

end PortFabric
