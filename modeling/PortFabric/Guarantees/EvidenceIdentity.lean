import PortFabric.Engine.Fixture
import PortFabric.Engine.PlanProperties
import PortFabric.RenderingProperties

/-!
# Evidence identity

Evidence offered under the bound capability generation is compared with the
bound evidence by a digest of its rendering, which leaves out half of the
dimensions.
-/

set_option autoImplicit false

namespace PortFabric

open Checks

/-- The evidence is complete and valid. -/
structure CapabilityBinding.Offered (binding : CapabilityBinding) : Prop where
  present : binding.present = true
  generation : binding.generation.valid = true
  evidenceGeneration : binding.evidenceGeneration.valid = true
  valid : binding.capabilities.validate = .ok ()

namespace PortCapabilities

variable {first second : PortCapabilities}

/-- The evidence differs, and in no dimension that a rendering shows. -/
def DifferUnseen (first second : PortCapabilities) : Prop :=
  first ≠ second ∧ first.Alike second

/-- The evidence is rendered differently, with one digest. -/
def Collide (first second : PortCapabilities) : Prop :=
  first.toText ≠ second.toText ∧ digestBytes first.toText = digestBytes second.toText

/-- Digests of renderings tell evidence apart that differs in sight and does not collide. -/
theorem digests_tell_iff :
    (digestBytes first.toText = digestBytes second.toText ↔ first = second) ↔
      ¬first.DifferUnseen second ∧ ¬first.Collide second := by
  constructor
  · intro told
    refine ⟨fun ⟨different, alike⟩ => different ?_, fun ⟨different, same⟩ => different ?_⟩
    · exact told.mp (congrArg digestBytes (toText_alike.mpr alike))
    · exact congrArg toText (told.mp same)
  · intro given
    rcases given with ⟨seen, apart⟩
    refine ⟨fun same => ?_, fun same => same ▸ rfl⟩
    by_contra different
    by_cases rendered : first.toText = second.toText
    · exact seen ⟨different, toText_alike.mp rendered⟩
    · exact apart ⟨rendered, same⟩

end PortCapabilities

section Rebinding

variable {input : MutationBuildInput} {request : CapabilityRequest}

/-- Evidence offered under the bound generation is refused as current or as a conflict. -/
theorem buildBindCapabilities_again (bound : input.current.capability.present = true)
    (offered : request.binding.Offered)
    (same : request.binding.generation = input.current.capability.generation) :
    ∃ detail, buildBindCapabilities input request =
      .error (.rejected
        (if digestBytes request.binding.capabilities.toText =
            digestBytes input.current.capability.capabilities.toText then .alreadyCurrent
          else .conflictDetected)
        detail) := by
  have valid : input.current.capability.generation.valid = true := same ▸ offered.generation
  have notOlder : ¬input.current.capability.generation < input.current.capability.generation :=
    Nat.lt_irrefl input.current.capability.generation.value
  simp only [buildBindCapabilities, offered.present, same, valid, offered.evidenceGeneration,
    offered.valid, rejectInvalid, bound, notOlder, rejectIf, reject, Bool.not_true, Bool.or_self,
    Bool.false_eq_true, if_false, ok_bind, decide_false, decide_true, Bool.and_true,
    Bool.true_and, decide_eq_true_eq, if_true]
  split
  · exact ⟨_, rfl⟩
  · exact ⟨_, rfl⟩

/-- The checks before the builder let the mutation through, on this record. -/
structure Examines (runtime : Runtime) (impl : EngineImpl) (mutation : Mutation)
    (snapshot : PortRecord) : Prop where
  admitted : admitMutation impl mutation = .ok ()
  authorised : (authorise runtime impl mutation).2 = .ok ()
  observed : observe (authorise runtime impl mutation).1 mutation = .ok snapshot
  topology : expectTopology (authorise runtime impl mutation).1 mutation = .ok ()
  gated : snapshotGates runtime.config mutation snapshot = .ok ()
  device : deviceGate mutation snapshot
    (readContext (authorise runtime impl mutation).1 snapshot) = .ok ()

variable {runtime : Runtime} {impl : EngineImpl} {snapshot : PortRecord}
  {answers : MutationAnswers}

/-- What the builder rejects is reported. -/
theorem Examines.bindCapabilities_code
    (examines : Examines runtime impl (.bindCapabilities request) snapshot) {code : OutcomeCode}
    (built : ∀ input : MutationBuildInput, input.current = snapshot →
      ∃ detail, buildBindCapabilities input request = .error (.rejected code detail)) :
    (PortFabricEngine.bindCapabilities runtime answers impl request).2.code? = some code := by
  obtain ⟨admitted, authorised, observed, topology, gated, device⟩ := examines
  obtain ⟨after, checked⟩ : ∃ after,
      authorise runtime impl (.bindCapabilities request) = (after, .ok ()) :=
    ⟨_, Prod.ext rfl authorised⟩
  rw [checked] at observed topology device
  obtain ⟨detail, refused⟩ := built
    { current := snapshot, topology := (readContext after snapshot).topology,
      parentDeviceGeneration := (readContext after snapshot).deviceGeneration,
      capability := {}, profiles := after.profiles } rfl
  have planned : planMutation runtime (.bindCapabilities request) answers.provider after =
      .error (planReply snapshot (.rejected code detail)) := by
    have unneeded : needsConfigurationExpectation
        (Mutation.bindCapabilities request).kind = false := rfl
    simp only [planMutation, observed, topology, gated, device, ok_bind, preparePlan,
      evidenceFor, unneeded, Bool.false_eq_true, if_false, Mutation.build, refused,
      Except.mapError, error_bind]
  simp only [PortFabricEngine.bindCapabilities, executeMutation, admitted, checked, planned,
    planReply]
  split
  · next current =>
      rw [current]
      rfl
  · rfl

/-- The answer to evidence offered under the bound generation. -/
theorem Examines.rebinding_code
    (examines : Examines runtime impl (.bindCapabilities request) snapshot)
    (bound : snapshot.capability.present = true) (offered : request.binding.Offered)
    (same : request.binding.generation = snapshot.capability.generation) :
    (PortFabricEngine.bindCapabilities runtime answers impl request).2.code? =
      some (if digestBytes request.binding.capabilities.toText =
          digestBytes snapshot.capability.capabilities.toText then .alreadyCurrent
        else .conflictDetected) := by
  refine examines.bindCapabilities_code fun input current => ?_
  subst current
  exact buildBindCapabilities_again bound offered same

/--
Evidence offered under the bound generation is reported as current exactly when
it is the bound evidence, and as a conflict otherwise, provided that it does not
differ from it out of sight or collide with it.
-/
theorem rebinding_told_iff
    (examines : Examines runtime impl (.bindCapabilities request) snapshot)
    (bound : snapshot.capability.present = true) (offered : request.binding.Offered)
    (same : request.binding.generation = snapshot.capability.generation) :
    (((PortFabricEngine.bindCapabilities runtime answers impl request).2.code? =
            some .alreadyCurrent ↔
          request.binding.capabilities = snapshot.capability.capabilities) ∧
        (request.binding.capabilities ≠ snapshot.capability.capabilities →
          (PortFabricEngine.bindCapabilities runtime answers impl request).2.code? =
            some .conflictDetected)) ↔
      ¬request.binding.capabilities.DifferUnseen snapshot.capability.capabilities ∧
        ¬request.binding.capabilities.Collide snapshot.capability.capabilities := by
  rw [examines.rebinding_code bound offered same, ← PortCapabilities.digests_tell_iff]
  have current : (some (if digestBytes request.binding.capabilities.toText =
      digestBytes snapshot.capability.capabilities.toText then OutcomeCode.alreadyCurrent
        else .conflictDetected) = some .alreadyCurrent) ↔
      digestBytes request.binding.capabilities.toText =
        digestBytes snapshot.capability.capabilities.toText := by
    split
    · next identical => exact iff_of_true rfl identical
    · next different => exact iff_of_false (by decide) different
  rw [current]
  constructor
  · exact And.left
  · intro told
    refine ⟨told, fun different => ?_⟩
    rw [if_neg (told.not.mpr different)]

end Rebinding

namespace OtherPauses

def port : PortId := "syn-sw1-p01"

def operations : List Operation :=
  [ Fixture.bind port "bind-1",
    .mutate (Fixture.claim (Fixture.envelope port "agent-a" "boot-a" "claim-1" .first) "agent-a")
      Fixture.verified ]

def impl : EngineImpl := .after Fixture.runtime operations

/-- The record that carries the evidence of the fixture. -/
def snapshot : PortRecord := (impl.records[port]?).getD { port, parentDevice := Fixture.device }

/-- The bound evidence with another list of pause modes. -/
def offer : CapabilityBinding :=
  { Fixture.evidence with
    capabilities := { Fixture.evidence.capabilities with pauseModes := [.bidirectional] } }

def request : CapabilityRequest where
  envelope := Fixture.envelope port "agent-a" "boot-a" "capabilities-1" .first
  binding := offer

theorem offered : request.binding.Offered := ⟨by decide, by decide, by decide, by decide +kernel⟩

set_option maxRecDepth 100000 in
theorem examined : Examines Fixture.runtime impl (.bindCapabilities request) snapshot where
  admitted := by decide +kernel
  authorised := by decide +kernel
  observed := by decide +kernel
  topology := by decide +kernel
  gated := by decide +kernel
  device := by decide +kernel

set_option maxRecDepth 100000 in
theorem bound : snapshot.capability = Fixture.evidence := by decide +kernel

/-- Other pause modes under the bound generation pass for the bound evidence. -/
theorem different_taken_for_current :
    Examines Fixture.runtime impl (.bindCapabilities request) snapshot ∧
      request.binding.Offered ∧
      request.binding.generation = snapshot.capability.generation ∧
      request.binding.capabilities ≠ snapshot.capability.capabilities ∧
      (PortFabricEngine.bindCapabilities Fixture.runtime {} impl request).2.code? =
        some .alreadyCurrent := by
  have rendered : request.binding.capabilities.toText =
      Fixture.evidence.capabilities.toText := by
    decide +kernel
  refine ⟨examined, offered, ?_, ?_, ?_⟩
  · rw [bound]
    rfl
  · rw [bound]
    decide
  · have present : snapshot.capability.present = true := by
      rw [bound]
      rfl
    have same : request.binding.generation = snapshot.capability.generation := by
      rw [bound]
      rfl
    rw [examined.rebinding_code present offered same, bound, if_pos (congrArg digestBytes rendered)]

theorem pauses_told_iff :
    (((PortFabricEngine.bindCapabilities Fixture.runtime {} impl request).2.code? =
            some .alreadyCurrent ↔
          request.binding.capabilities = snapshot.capability.capabilities) ∧
        (request.binding.capabilities ≠ snapshot.capability.capabilities →
          (PortFabricEngine.bindCapabilities Fixture.runtime {} impl request).2.code? =
            some .conflictDetected)) ↔
      ¬request.binding.capabilities.DifferUnseen snapshot.capability.capabilities ∧
        ¬request.binding.capabilities.Collide snapshot.capability.capabilities :=
  rebinding_told_iff examined (by rw [bound]; rfl) offered (by rw [bound]; rfl)

end OtherPauses

end PortFabric
