import PortFabric.Engine.Fixture
import PortFabric.Engine.LockingProperties

/-!
# Lock discipline

The provider and the adapter are called with no lock of the engine held, in any
interleaving of any calls, but for two lookups under the records lock: the one of
`bind_port`, which asks the provider, and the one of `record_apply_uncertainty`,
which asks the adapter for its label.
-/

set_option autoImplicit false

namespace PortFabric

open LockPrograms

/-- Calls in progress on one engine. -/
abbrev LockedSystem :=
  LockPrograms.System EngineMutex EngineImpl EngineAccess EngineCall.Answer Unit

abbrev LockedAction := LockPrograms.Action EngineCall.Answer EngineMethod

namespace LockedSystem

/-- Every thread that is calling the provider or the adapter holds no lock of the engine. -/
def CallsUnlocked (system : LockedSystem) : Prop :=
  system.Unlocked fun call => call.foreign = true

instance (system : LockedSystem) : Decidable system.CallsUnlocked :=
  inferInstanceAs (Decidable (system.Unlocked fun call => call.foreign = true))

/-- The step looks up an unbound port to bind with a provider, or a doubted one with an adapter. -/
def Exposes (runtime : Runtime) (system : LockedSystem) (action : LockedAction) : Prop :=
  LockPrograms.System.Exposes (EngineAccess.Exposed runtime) system action

def step (runtime : Runtime) : LockedSystem → LockedAction → LockedSystem :=
  LockPrograms.System.step (EngineMethod.program runtime)

end LockedSystem

open LockedEngine in
theorem EngineMethod.program_careful (runtime : Runtime) (request : EngineMethod) :
    Careful runtime [] (request.program runtime) := by
  cases request with
  | operation performed =>
      cases performed with
      | bindPort request answers => exact .bind (bindPort_careful runtime request) fun _ => .pure _
      | mutate mutation answers =>
          exact .bind (executeMutation_careful runtime mutation) fun _ => .pure _
      | defineProfile profile => exact .bind (.exclusively (.visit _)) fun _ => .pure _
      | beginEpoch => exact .bind (beginEpoch_careful runtime []) fun _ => .pure _
      | registerPublisher publisher boot epoch =>
          exact .bind (registerPublisher_careful runtime [] publisher boot epoch) fun _ => .pure _
      | fencePublisher publisher boot =>
          exact .bind (fencePublisher_careful runtime [] publisher boot) fun _ => .pure _
      | registerDevice device generation source =>
          exact .bind (registerDevice_careful runtime [] device generation source) fun _ => .pure _
      | setTopologyGeneration generation =>
          exact .bind (setTopologyGeneration_careful runtime [] generation) fun _ => .pure _
      | save store => exact .bind (save_careful runtime []) fun _ => .pure _
      | load container => exact .bind (load_careful runtime []) fun _ => .pure _
      | shutdown => exact .write _
  | query asked =>
      cases asked with
      | records => exact .bind (.jointly (.read _)) fun _ => .pure _
      | authority | profiles => exact .bind (.exclusively (.read _)) fun _ => .pure _
      | staleProfileBindings => exact .bind (.exclusively (.jointly (.read _))) fun _ => .pure _
      | described =>
          exact .bind (.bind (.jointly (.read _)) fun _ => .bind (.exclusively (.read _)) fun _ =>
            .pure _) fun _ => .pure _
      | shuttingDown => exact .bind (.read _) fun _ => .pure _

/--
Along any interleaving of calls to one engine, no thread ever calls the provider
or the adapter under a lock exactly when no step looks up, to bind it, a port
that is not bound while there is a provider, or looks up, to record an uncertain
apply, a port that is bound while there is an adapter.
-/
theorem foreign_calls_unlocked_iff (runtime : Runtime) (impl : EngineImpl)
    (actions : List LockedAction) :
    Runs.Throughout (LockedSystem.step runtime) LockedSystem.CallsUnlocked { state := impl }
        actions ↔
      Runs.Along (LockedSystem.step runtime)
        (fun system action => ¬LockedSystem.Exposes runtime system action) { state := impl }
        actions :=
  LockPrograms.System.unlocked_throughout_iff (EngineMethod.program_careful runtime) impl actions

namespace CallsUnderLock

def port : PortId := "syn-sw1-p01"

/-- A port is bound for the first time; the sixth step of its thread is the lookup. -/
def binding : List LockedAction :=
  .start (.operation (Fixture.bind port "bind-1")) ::
    List.replicate 6 (.advance 0 { provider := Fixture.provider : CallAnswers }.answer)

def owned : EngineImpl :=
  EngineImpl.after Fixture.runtime
    [ Fixture.bind port "bind-1",
      .mutate (Fixture.claim (Fixture.envelope port "agent-a" "boot-a" "claim-1" .first) "agent-a")
        Fixture.verified ]

/-- The adapter does not know what became of the first configuration of an owned port. -/
def doubting : List LockedAction :=
  .start (.operation (.mutate
      (Fixture.configuration (Fixture.envelope port "agent-a" "boot-a" "configure-1" .first))
      Fixture.uncertain)) ::
    List.replicate 19 (.advance 0 { Fixture.uncertain with : CallAnswers }.answer)

/-- The provider is called, and the adapter asked for its label, with the records lock held. -/
theorem called_under_lock :
    ¬Runs.Throughout (LockedSystem.step Fixture.runtime) LockedSystem.CallsUnlocked
        { state := .initial Fixture.runtime.config } binding ∧
      ¬Runs.Throughout (LockedSystem.step Fixture.runtime) LockedSystem.CallsUnlocked
        { state := owned } doubting := by
  decide +kernel

end CallsUnderLock

end PortFabric
