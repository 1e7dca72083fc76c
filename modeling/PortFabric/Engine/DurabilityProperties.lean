import PortFabric.Engine.AuthorityProperties
import PortFabric.Engine.Durability
import PortFabric.Engine.InterleavingProperties

/-!
# Properties of durability

What a step of the engine does to the engine generation and to the bound ports,
and the images of the state that the threads gather.
-/

set_option autoImplicit false

namespace PortFabric

open PortFabricEngine Checks

/-- The engine generation does not fall, and no port is unbound. -/
structure Onward (before after : EngineImpl) : Prop where
  generation : before.generation ≤ after.generation
  bound : ∀ port : PortId, before.records[port]?.isSome = true → after.records[port]?.isSome = true

namespace Onward

variable {impl after : EngineImpl}

theorem of_same (generation : after.generation = impl.generation)
    (records : after.records = impl.records) : Onward impl after := by
  refine ⟨?_, ?_⟩
  · rw [generation]
    exact Generation.le_refl _
  · intro port bound
    rw [records]
    exact bound

theorem insert {port : PortId} {record : PortRecord}
    (generation : impl.generation ≤ after.generation)
    (records : after.records = impl.records.insert port record) : Onward impl after := by
  refine ⟨generation, fun other bound => ?_⟩
  rw [records, OrderedMap.lookup_insert]
  split
  · rfl
  · exact bound

theorem releaseWhere (impl : EngineImpl) (held : PortRecord → Bool) (reason detail : Text) :
    Onward impl (impl.releaseWhere held reason detail) := by
  constructor
  · simp only [EngineImpl.releaseWhere]
    split
    · exact Generation.le_refl _
    · exact Generation.le_advance _
  · intro port bound
    rw [EngineImpl.releaseWhere_lookup, Option.isSome_map]
    exact bound

theorem congr {before : EngineImpl} (onward : Onward before after)
    (generation : impl.generation = before.generation) (records : impl.records = before.records) :
    Onward impl after := by
  obtain ⟨later, kept⟩ := onward
  refine ⟨?_, ?_⟩
  · rw [generation]
    exact later
  · rw [records]
    exact kept

end Onward

section Operations

variable {runtime : Runtime} {impl : EngineImpl}

theorem bindPort_onward (runtime : Runtime) (impl : EngineImpl) (request : PortBindingRequest)
    (answers : MutationAnswers) : Onward impl (bindPort runtime impl request answers).1 := by
  unfold bindPort
  split
  · exact .of_same rfl rfl
  · dsimp only
    split
    · exact .of_same rfl rfl
    · next inserted stored =>
        obtain ⟨devices, records, indexes, settled, kept⟩ := bindDevice_frame runtime inserted
          request (boundRecord request (probeCapabilities runtime impl request answers.provider))
        obtain ⟨absent, _, rfl⟩ := insertBinding_ok stored
        have onward (after : EngineImpl) (generation : after.generation = impl.generation.advance)
            (same : after.records = records) : Onward impl after := by
          have later : impl.generation ≤ after.generation := by
            rw [generation]
            exact Generation.le_advance _
          rcases kept with kept | kept
          · exact .insert later (same.trans kept)
          · have unbound : after.records = impl.records := by
              rw [same, kept]
              exact OrderedMap.erase_insert_of_absent absent
            refine ⟨later, fun port bound => ?_⟩
            rw [unbound]
            exact bound
        split
        · next after _ answered =>
            obtain rfl : after = _ := (congrArg Prod.fst answered).symm.trans settled
            exact onward _ rfl rfl
        · next after answered =>
            obtain rfl : after = _ := (congrArg Prod.fst answered).symm.trans settled
            exact onward _ (by simp) (by simp)

theorem perform_onward {operation : Operation}
    (outside : ∀ mutation answers, operation ≠ .mutate mutation answers)
    (unloaded : operation.isLoad = false) : Onward impl (impl.perform runtime operation) := by
  have frame := perform_setting runtime impl operation
  cases operation with
  | bindPort request answers => exact bindPort_onward runtime impl request answers
  | mutate mutation answers => exact absurd rfl (outside mutation answers)
  | beginEpoch =>
      obtain ⟨same, _⟩ | ⟨_, _, _, after⟩ := EngineImpl.beginEpoch_effect_cases impl
      · rw [EngineImpl.perform, same]
        exact .of_same rfl rfl
      · rw [EngineImpl.perform, after]
        exact (Onward.releaseWhere _ _ _ _).congr rfl rfl
  | registerPublisher publisher boot epoch =>
      obtain ⟨_, same⟩ := registerPublisher_frame impl publisher boot epoch
      rw [EngineImpl.perform, same]
      exact .of_same rfl rfl
  | fencePublisher publisher boot =>
      obtain ⟨same, _⟩ | ⟨_, _, _, _, _, after⟩ :=
        EngineImpl.fencePublisher_effect_cases impl publisher boot
      · rw [EngineImpl.perform, same]
        exact .of_same rfl rfl
      · rw [EngineImpl.perform, after]
        exact (Onward.releaseWhere _ _ _ _).congr rfl rfl
  | load container => simp [Operation.isLoad] at unloaded
  | defineProfile | registerDevice | setTopologyGeneration | save | shutdown =>
      exact .of_same (frame rfl).generation (frame rfl).records

end Operations

section Sections

variable {runtime : Runtime} {answers : MutationAnswers} {impl : EngineImpl}

theorem replaceRecord_onward (impl : EngineImpl) (port : PortId) (before record : PortRecord) :
    Onward impl (impl.replaceRecord port before record) :=
  .insert (Generation.le_next _) rfl

theorem Flight.advance_onward (runtime : Runtime) (answers : MutationAnswers) (impl : EngineImpl)
    (flight : Flight) : Onward impl (flight.advance runtime answers impl).1 := by
  cases flight with
  | authority mutation =>
      obtain ⟨_, same⟩ := EngineImpl.checkAuthority_frame runtime impl mutation.authority
      have checked : ((Flight.authority mutation).advance runtime answers impl).1 =
          (EngineImpl.checkAuthority runtime impl mutation.authority).1 := by
        simp only [advance, authorise]
        split <;> rfl
      rw [checked, same]
      exact .of_same rfl rfl
  | lookup mutation => exact .of_same rfl rfl
  | topology mutation snapshot => exact .of_same rfl rfl
  | context mutation snapshot => exact .of_same rfl rfl
  | plan mutation snapshot context => exact .of_same rfl rfl
  | apply mutation snapshot proposal => exact .of_same rfl rfl
  | conclude mutation snapshot applied decision =>
      cases decision with
      | reject reply => exact .of_same rfl rfl
      | commit proposal evidence settled =>
          simp only [advance, concludeStep]
          split
          · exact .of_same rfl rfl
          · next stored =>
              obtain ⟨current, _, _, _, _, _, rfl⟩ := EngineImpl.commitRecord_ok stored
              exact replaceRecord_onward ..
      | uncertain generation detail code reply =>
          simp only [advance, concludeStep]
          split
          · simp only [EngineImpl.recordUncertainty]
            split
            · exact .of_same rfl rfl
            · exact replaceRecord_onward ..
          · exact .of_same rfl rfl
  | persist mutation settlement =>
      cases settlement <;>
        exact .of_same (EngineImpl.persistLockedState_generation ..)
          (EngineImpl.persistLockedState_records ..)

/-- A commit raises the engine generation, and the port it names is bound. -/
theorem Flight.advance_committed {flight : Flight} {after : EngineImpl} {mutation : Mutation}
    {final : PortRecord}
    (advanced : flight.advance runtime answers impl =
      (after, .ok (.persist mutation (.committed final)))) :
    impl.generation < after.generation ∧ after.records[mutation.port]?.isSome = true := by
  cases flight with
  | authority planned =>
      simp only [advance, Prod.mk.injEq, bind_eq_ok, pure_eq_ok] at advanced
      obtain ⟨_, _, _, other⟩ := advanced
      cases other
  | lookup planned =>
      simp only [advance, Prod.mk.injEq, bind_eq_ok, pure_eq_ok] at advanced
      obtain ⟨_, _, _, other⟩ := advanced
      cases other
  | topology planned snapshot =>
      simp only [advance, Prod.mk.injEq, bind_eq_ok, pure_eq_ok] at advanced
      obtain ⟨_, _, _, _, _, other⟩ := advanced
      cases other
  | context planned snapshot =>
      simp only [advance, Prod.mk.injEq, bind_eq_ok, pure_eq_ok] at advanced
      obtain ⟨_, _, _, other⟩ := advanced
      cases other
  | plan planned snapshot context =>
      simp only [advance, Prod.mk.injEq, bind_eq_ok, pure_eq_ok] at advanced
      obtain ⟨_, _, _, other⟩ := advanced
      cases other
  | apply planned snapshot proposal => cases advanced
  | conclude planned snapshot applied decision =>
      cases decision with
      | reject reply => cases advanced
      | commit proposal evidence settled =>
          simp only [advance, concludeStep] at advanced
          split at advanced
          · cases advanced
          · next committed stored =>
              obtain ⟨current, _, _, _, _, room, rfl⟩ := EngineImpl.commitRecord_ok stored
              cases advanced
              refine ⟨Generation.lt_next room, ?_⟩
              simp [EngineImpl.replaceRecord]
      | uncertain generation detail code reply =>
          simp only [advance, concludeStep] at advanced
          split at advanced <;> cases advanced
  | persist planned settlement => cases settlement <;> cases advanced

theorem Flight.committed?_eq {flight : Flight} {mutation : Mutation}
    (committed : flight.committed? = some mutation) :
    ∃ final, flight = .persist mutation (.committed final) := by
  cases flight with
  | persist settled settlement =>
      cases settlement with
      | committed final =>
          cases committed
          exact ⟨final, rfl⟩
      | uncertain result => cases committed
  | _ => cases committed

theorem System.step_advance {system : System} {thread : Nat} {flight : Flight}
    {after : EngineImpl} {outcome : Except Reply Flight}
    (flying : system.flights thread = some flight)
    (advanced : flight.advance runtime answers system.engine = (after, outcome)) :
    (system.step runtime (.advance thread answers)).engine = after := by
  simp only [step, flying, advanced]
  rfl

/-- Every step that recovers no container moves the engine onward. -/
theorem System.step_onward (runtime : Runtime) (system : System) {action : Action}
    (unloaded : action.isLoad = false) :
    Onward system.engine (system.step runtime action).engine := by
  obtain same | ⟨thread, answers, flight, rfl, _, advanced⟩ |
      ⟨operation, rfl, outside, performed⟩ :=
    System.step_engine runtime system action
  · rw [same]
    exact .of_same rfl rfl
  · rw [advanced]
    exact flight.advance_onward ..
  · rw [performed]
    exact perform_onward outside unloaded

end Sections

namespace DurableSystem

/-- The latest version of a port is its record, when no port is unbound. -/
theorem head?_extend {before current : Option PortRecord} {versions : List PortRecord}
    (latest : versions.head? = before) (bound : before.isSome = true → current.isSome = true) :
    (extend current versions).head? = current := by
  unfold extend
  split
  · rw [latest, Option.eq_none_iff_forall_ne_some]
    intro record found
    rw [found] at bound
    cases bound rfl
  · next record =>
      split
      · next same => exact same
      · rfl

theorem suffix_extend (current : Option PortRecord) (versions : List PortRecord) :
    versions <:+ extend current versions := by
  unfold extend
  split
  · exact List.suffix_refl _
  · split
    · exact List.suffix_refl _
    · exact List.suffix_cons ..

end DurableSystem

end PortFabric
