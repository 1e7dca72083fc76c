import PortFabric.Engine.Fixture
import PortFabric.Engine.InterleavingProperties

/-!
# Retirement

A retired port stays retired, whatever was in flight when it retired.
-/

set_option autoImplicit false

namespace PortFabric

/-- The port is bound and retired. -/
def EngineImpl.Retired (impl : EngineImpl) (port : PortId) : Prop :=
  ∃ record, impl.records[port]? = some record ∧ record.lifecycle = .retired

section Steps

variable {runtime : Runtime} {impl after : EngineImpl} {port : PortId}

theorem EngineImpl.Retired.congr (retired : impl.Retired port)
    (records : after.records = impl.records) : after.Retired port := by
  unfold EngineImpl.Retired at retired ⊢
  rw [records]
  exact retired

theorem EngineImpl.Retired.replace (retired : impl.Retired port) {other : PortId}
    {current final : PortRecord} (found : impl.records[other]? = some current)
    (terminal : current.lifecycle = .retired → final.lifecycle = .retired) :
    (impl.replaceRecord other current final).Retired port := by
  obtain ⟨record, present, fenced⟩ := retired
  unfold EngineImpl.Retired
  rw [EngineImpl.replaceRecord_records, OrderedMap.lookup_insert]
  split
  · next same =>
      subst same
      rw [found] at present
      cases present
      exact ⟨final, rfl, terminal fenced⟩
  · exact ⟨record, present, fenced⟩

theorem RecordsEffect.retired {operation : Operation}
    (effect : RecordsEffect operation impl.records after.records)
    (retired : impl.Retired port) : after.Retired port := by
  obtain ⟨record, present, fenced⟩ := retired
  unfold EngineImpl.Retired
  generalize after.records = records at effect ⊢
  cases effect with
  | unchanged => exact ⟨record, present, fenced⟩
  | @bound request _ evidence _ absent named validated =>
      rw [OrderedMap.lookup_insert]
      split
      · next same =>
          subst same
          rw [absent] at present
          cases present
      · exact ⟨record, present, fenced⟩
  | released held texts =>
      rw [OrderedMap.lookup_map, present]
      refine ⟨_, rfl, ?_⟩
      dsimp only
      split
      · exact fenced
      · exact fenced

/-- A section keeps a retired port retired: the commit compares, the uncertainty spares it. -/
theorem SectionEffect.retired {flight : Flight} (effect : SectionEffect runtime impl flight after)
    (retired : impl.Retired port) : after.Retired port := by
  cases effect with
  | kept records => exact retired.congr records
  | @committed mutation _ _ proposal evidence settled _ stored =>
      obtain ⟨current, found, _, _, terminal, _, rfl⟩ := EngineImpl.commitRecord_ok stored
      refine retired.replace found fun fenced => ?_
      cases settled with
      | false => exact terminal fenced
      | true => exact terminal fenced
  | doubted found =>
      refine retired.replace found fun fenced => ?_
      rw [PortRecord.uncertain_lifecycle]
      simp [fenced]

theorem System.step_retired {system : System} {action : Action} (unloaded : action.isLoad = false)
    (retired : system.engine.Retired port) :
    (system.step runtime action).engine.Retired port := by
  obtain same | ⟨thread, answers, flight, _, _, advanced⟩ | ⟨operation, rfl, outside, performed⟩ :=
    System.step_engine runtime system action
  · rw [same]
    exact retired
  · rw [advanced]
    exact (flight.advance_effect runtime answers system.engine).retired retired
  · rw [performed]
    exact (perform_records outside unloaded).retired retired

end Steps

/-- Retirement is terminal: no interleaving without a load changes or removes a retired port. -/
theorem retired_throughout {runtime : Runtime} {system : System} {port : PortId}
    (retired : system.engine.Retired port) {actions : List Action}
    (unloaded : ∀ action ∈ actions, action.isLoad = false) :
    Runs.Throughout (System.step runtime) (fun system => system.engine.Retired port) system
      actions := by
  induction actions generalizing system with
  | nil => exact retired
  | cons action rest ih =>
      have first := unloaded action List.mem_cons_self
      exact ⟨retired, ih (System.step_retired first retired)
        fun other later => unloaded other (List.mem_cons_of_mem _ later)⟩

namespace RetiredInFlight

def port : PortId := "syn-sw1-p01"

def envelope (attempt : MutationAttemptId) : MutationEnvelope :=
  Fixture.envelope port "agent-a" "boot-a" attempt .first

/-- A port retires while a configuration waits for its adapter. -/
def system : System :=
  Fixture.systemAfter
    (.operate (Fixture.bind port "bind-1") ::
      Fixture.prepare 0 (Fixture.configuration (envelope "configure-1")) Fixture.uncertain ++
        Fixture.complete 1 (.retire { envelope := envelope "retire-1" }) {})

/-- The configuration concludes, and its attempt is used again. -/
def actions : List Action :=
  List.replicate 2 (.advance 0 Fixture.uncertain) ++
    Fixture.complete 0 (Fixture.configuration (envelope "configure-1")) Fixture.uncertain

set_option maxRecDepth 100000 in
/-- The port in flight when it retired stays retired. -/
theorem stays_retired :
    Runs.Throughout (System.step Fixture.runtime) (fun system => system.engine.Retired port) system
      actions := by
  have retired : (system.engine.records[port]?).map PortRecord.lifecycle = some .retired := by
    decide +kernel
  obtain ⟨record, found, fenced⟩ := Option.map_eq_some_iff.mp retired
  exact retired_throughout ⟨record, found, fenced⟩ (by decide +kernel)

end RetiredInFlight

end PortFabric
