import PortFabric.Engine.AuthorityProperties
import PortFabric.Engine.Fixture

/-!
# Mutation atomicity

A refused mutation leaves the engine as it was, apart from the registration of
its own publisher. Three codes are reported for changes that were recorded.
-/

set_option autoImplicit false

namespace PortFabric

namespace OutcomeCode

/-- The failure is reported although a record was changed. -/
def reportsChange : OutcomeCode → Bool
  | applyOutcomeUnknown | readbackMismatch | persistenceIoFailure => true
  | _ => false

end OutcomeCode

/-- The engine differs from the one before at most in the entry of the calling publisher. -/
inductive Untouched (authority : AuthorityContext) (impl : EngineImpl) : EngineImpl → Prop
  | same : Untouched authority impl impl
  | registered (entry : PublisherRecord) :
      Untouched authority impl
        { impl with publishers := impl.publishers.insert authority.publisher entry }

section Replies

theorem Reply.code?_eq_some {reply : Reply} {code : OutcomeCode} :
    reply.code? = some code ↔ ∃ answer, reply = .result answer ∧ answer.outcome.code = code := by
  cases reply <;> simp [Reply.code?]

variable {runtime : Runtime} {mutation : Mutation} {answers : MutationAnswers} {impl : EngineImpl}
  {snapshot : PortRecord} {plan : MutationPlan}

theorem untouched_authorised :
    Untouched mutation.authority impl (impl.authorised runtime mutation) := by
  rcases EngineImpl.checkAuthority_eq runtime impl mutation.authority with same | accepted
  · rw [EngineImpl.authorised, same]
    exact .same
  · obtain ⟨_, _, ⟨_, _, _, _, same⟩ | ⟨_, _, _, registered⟩⟩ :=
      EngineImpl.checkAuthority_ok accepted
    · rw [EngineImpl.authorised, same]
      exact .same
    · rw [EngineImpl.authorised, registered]
      exact .registered _

/-- The last phase leaves the engine alone, commits, or reports the change it recorded. -/
theorem concludeMutation_untouched {answer : MutationResult}
    (replied : (concludeMutation runtime mutation (applyPlan runtime snapshot plan answers)
      answers.store impl).2 = .result answer)
    (refused : answer.accepted = false) (silent : answer.outcome.code.reportsChange = false) :
    (concludeMutation runtime mutation (applyPlan runtime snapshot plan answers) answers.store
      impl).1 = impl := by
  cases decided : applyPlan runtime snapshot plan answers with
  | reject reply => rfl
  | commit proposal applied settled =>
      rw [decided] at replied
      simp only [concludeMutation, EngineImpl.commit] at replied ⊢
      cases stored : impl.commitRecord mutation.port proposal applied settled with
      | error result => rfl
      | ok committed =>
          simp only [stored, Reply.result.injEq] at replied
          subst replied
          unfold EngineImpl.commitResult at refused silent
          split at refused
          · cases refused
          · next failed =>
              simp [failed, MutationResult.reporting, OutcomeCode.reportsChange, Outcome.failure]
                at silent
  | uncertain generation detail code reply =>
      have reported : (reply.getD (.rejected code detail)).outcome.code.reportsChange = true := by
        obtain named | named := applyPlan_uncertain_code decided <;> rw [named] <;> rfl
      rw [decided] at replied
      simp only [concludeMutation, EngineImpl.recordApplyUncertainty, Reply.result.injEq]
        at replied
      rw [replied, silent] at reported
      cases reported

end Replies

/--
A mutation that is refused, with any other code than the three that report a
change, leaves every table of the engine as it was; only the entry of its own
publisher can be new.
-/
theorem refused_untouched {runtime : Runtime} {mutation : Mutation} {answers : MutationAnswers}
    {impl : EngineImpl} {answer : MutationResult}
    (replied : (executeMutation runtime mutation answers impl).2 = .result answer)
    (refused : answer.accepted = false) (silent : answer.outcome.code.reportsChange = false) :
    Untouched mutation.authority impl (executeMutation runtime mutation answers impl).1 := by
  have authorised : Untouched mutation.authority impl (impl.authorised runtime mutation) :=
    untouched_authorised
  unfold executeMutation at replied ⊢
  split at replied
  · exact .same
  · by_cases accepted : (impl.checkAuthority runtime mutation.authority).2.isOk = true
    · simp only [authorise, accepted, if_true] at replied ⊢
      split at replied
      · exact authorised
      · rw [concludeMutation_untouched replied refused silent]
        exact authorised
    · simp only [authorise, accepted] at replied ⊢
      exact authorised

namespace RefusedDisable

def port : PortId := "syn-sw1-p01"

def disable : Mutation :=
  Fixture.administer (Fixture.envelope port "agent-a" "boot-a" "disable-1" .first) .disable

def bound : EngineImpl :=
  (EngineImpl.initial Fixture.runtime.config).perform Fixture.runtime (Fixture.bind port "bind-1")

set_option maxRecDepth 100000 in
/-- The refused request registers its publisher and changes nothing else. -/
theorem disable_untouched :
    (executeMutation Fixture.runtime disable {} bound).2.code? = some .invalidLifecycleTransition ∧
      Untouched disable.authority bound (executeMutation Fixture.runtime disable {} bound).1 := by
  have code : (executeMutation Fixture.runtime disable {} bound).2.code? =
      some .invalidLifecycleTransition := by
    decide +kernel
  obtain ⟨answer, replied, refused⟩ := Reply.code?_eq_some.mp code
  refine ⟨code, refused_untouched replied ?_ ?_⟩
  · rw [MutationResult.accepted, Outcome.accepted, refused]
    rfl
  · rw [refused]
    rfl

end RefusedDisable

end PortFabric
