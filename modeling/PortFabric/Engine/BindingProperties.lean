import PortFabric.Engine.BindingInterleaving
import PortFabric.Engine.IndexContents
import PortFabric.Engine.InterleavingProperties

/-!
# Properties of interleaved bindings

The indexes under interleaving, the section that undoes an insertion, and the
mark that a mutation leaves on its record.
-/

set_option autoImplicit false

namespace PortFabric

open SecondaryIndex

theorem BuiltFrom.publisher {runtime : Runtime} {mutation : Mutation} {snapshot : PortRecord}
    {proposal : MutationPlan} {evidence : AppliedEvidence} {settled : Bool}
    (built : BuiltFrom runtime mutation snapshot proposal evidence settled) :
    (EngineImpl.committedRecord proposal evidence settled).provenance.publisher =
      mutation.authority.publisher := by
  obtain ⟨plan, answers, ⟨profiles, context, answer, prepared⟩, decided⟩ := built
  obtain ⟨capability, draft, _, _, rfl⟩ := preparePlan_ok prepared
  obtain ⟨_, _, _, final, _⟩ := (applyPlan_commit decided).final
  rw [final]
  rfl

theorem BuiltFrom.port {runtime : Runtime} {mutation : Mutation} {snapshot : PortRecord}
    {proposal : MutationPlan} {evidence : AppliedEvidence} {settled : Bool}
    (built : BuiltFrom runtime mutation snapshot proposal evidence settled) :
    (EngineImpl.committedRecord proposal evidence settled).port = snapshot.port := by
  obtain ⟨plan, answers, ⟨profiles, context, answer, prepared⟩, decided⟩ := built
  obtain ⟨capability, draft, constructed, _, rfl⟩ := preparePlan_ok prepared
  obtain ⟨_, _, _, final, _⟩ := (applyPlan_commit decided).final
  rw [final]
  exact (Mutation.build_proposal constructed).port

/-- The snapshot of a flight is a record of its port. -/
def Flight.Own (flight : Flight) : Prop :=
  ∀ snapshot, flight.snapshot? = some snapshot → snapshot.port = flight.mutation.port

/-- The records and the snapshots are filed under their own ports, and the plans fit them. -/
structure System.Filed (runtime : Runtime) (system : System) : Prop where
  sound : system.Sound runtime
  records : system.engine.OwnPorts
  snapshots : ∀ thread flight, system.flights thread = some flight → flight.Own

section Flights

variable {runtime : Runtime} {answers : MutationAnswers} {impl : EngineImpl} {flight : Flight}

theorem Flight.Own.advance (own : flight.Own) (records : impl.OwnPorts) {after : EngineImpl}
    {next : Flight} (advanced : flight.advance runtime answers impl = (after, .ok next)) :
    next.Own := by
  obtain ⟨same, _, origin⟩ := Flight.advance_next advanced
  intro snapshot carried
  rw [same]
  obtain before | ⟨found, _⟩ := origin snapshot carried
  · exact own snapshot before
  · exact records _ _ found

theorem EngineImpl.OwnPorts.replaceRecord (records : impl.OwnPorts) {port : PortId}
    {before after : PortRecord} (own : after.port = port) :
    (impl.replaceRecord port before after).OwnPorts :=
  OrderedMap.Every.insert records own

/-- A section of a mutation keeps the records filed and the indexes describing them. -/
theorem Flight.advance_indexed (records : impl.OwnPorts) (own : flight.Own)
    (sound : flight.Sound runtime) :
    (flight.advance runtime answers impl).1.OwnPorts ∧
      (impl.Indexed → (flight.advance runtime answers impl).1.Indexed) := by
  cases flight with
  | authority mutation =>
      have checked : ((Flight.authority mutation).advance runtime answers impl).1 =
          impl.authorised runtime mutation := by
        simp only [advance, authorise]
        split <;> rfl
      rw [checked]
      refine ⟨?_, fun indexed =>
        indexed.congr EngineImpl.authorised_records EngineImpl.authorised_indexes⟩
      rw [EngineImpl.OwnPorts, EngineImpl.authorised_records]
      exact records
  | lookup | topology | context | plan | apply => exact ⟨records, id⟩
  | conclude mutation snapshot applied decision =>
      cases decision with
      | reject reply => exact ⟨records, id⟩
      | commit proposal evidence settled =>
          simp only [advance, concludeStep]
          split
          · exact ⟨records, id⟩
          · next stored =>
              obtain ⟨current, found, _, _, _, _, rfl⟩ := EngineImpl.commitRecord_ok stored
              have kept : (EngineImpl.committedRecord proposal evidence settled).port =
                  mutation.port :=
                (BuiltFrom.port sound).trans (own snapshot rfl)
              exact ⟨records.replaceRecord kept,
                fun indexed => indexed.replaceRecord found (records _ _ found) kept⟩
      | uncertain generation detail code reply =>
          simp only [advance, concludeStep]
          split
          · simp only [EngineImpl.recordUncertainty]
            split
            · exact ⟨records, id⟩
            · next before found =>
                have kept : (before.uncertain runtime mutation.authority generation
                    .outcomeUnknown detail).port = mutation.port := by
                  rw [PortRecord.uncertain_port]
                  exact records _ _ found
                exact ⟨records.replaceRecord kept,
                  fun indexed => indexed.replaceRecord found (records _ _ found) kept⟩
          · exact ⟨records, id⟩
  | persist mutation settlement =>
      have same : ((Flight.persist mutation settlement).advance runtime answers impl).1 =
          (impl.persistLockedState runtime answers.store).1 := by
        cases settlement <;> rfl
      rw [same]
      refine ⟨?_, fun indexed => indexed.persistLockedState answers.store⟩
      rw [EngineImpl.OwnPorts, EngineImpl.persistLockedState_records]
      exact records

end Flights

section Systems

variable {runtime : Runtime} {system : System} {action : Action}

theorem System.Filed.step (filed : system.Filed runtime) :
    (system.step runtime action).Filed runtime := by
  refine ⟨filed.sound.step action, ?_, ?_⟩
  · obtain same | ⟨thread, answers, flight, _, flying, advanced⟩ | ⟨operation, _, _, performed⟩ :=
      System.step_engine runtime system action
    · rw [same]
      exact filed.records
    · rw [advanced]
      exact (Flight.advance_indexed filed.records (filed.snapshots thread flight flying)
        (filed.sound thread flight flying)).1
    · have kept : (system.engine.perform runtime operation).OwnPorts :=
        perform_keyed operation filed.records
      rw [EngineImpl.OwnPorts, performed]
      exact kept
  · intro thread flight flying
    obtain ⟨kept, _⟩ | ⟨mutation, _, rfl, _⟩ | ⟨answers, before, after, _, found, advanced⟩ :=
      System.step_flights flying
    · exact filed.snapshots thread flight kept
    · intro snapshot carried
      cases carried
    · exact (filed.snapshots thread before found).advance filed.records advanced

end Systems

section Bindings

variable {runtime : Runtime} {state : BindingSystem}

/-- What a section of a binding does to the records, with the insertion it undoes. -/
inductive BindingEffect (impl : EngineImpl) :
    Option (PortBindingRequest × Option CapabilityBinding) → EngineImpl → Prop where
  | kept {after : EngineImpl} (records : after.records = impl.records)
      (indexes : after.indexes = impl.indexes) : BindingEffect impl none after
  | inserted {after : EngineImpl} (request : PortBindingRequest)
      (evidence : Option CapabilityBinding) (absent : impl.records[request.port]? = none)
      (records : after.records = impl.records.insert request.port (boundRecord request evidence))
      (indexes : after.indexes = impl.indexes.indexAdd (boundRecord request evidence)) :
      BindingEffect impl none after
  | undone {after : EngineImpl} (request : PortBindingRequest)
      (evidence : Option CapabilityBinding)
      (records : after.records = impl.records.erase request.port)
      (indexes : after.indexes = impl.indexes.indexRemove (boundRecord request evidence)) :
      BindingEffect impl (some (request, evidence)) after

theorem BindingSystem.step_bind {thread : Nat} {request : PortBindingRequest} :
    (state.step runtime (.bind thread request)).system = state.system := by
  simp only [step]
  split <;> rfl

theorem BindingSystem.advance_flights {thread : Nat} {answers : MutationAnswers} :
    (state.step runtime (.advance thread answers)).system.flights = state.system.flights := by
  simp only [step]
  split <;> rfl

theorem BindingFlight.advance_device {answers : MutationAnswers} {impl : EngineImpl}
    {request : PortBindingRequest} {evidence : Option CapabilityBinding} :
    ((BindingFlight.device request evidence).advance runtime answers impl).1 =
      (bindDevice runtime impl request (boundRecord request evidence)).1 := by
  simp only [advance]
  split
  · next answered => rw [answered]
  · next answered => rw [answered]

variable (runtime state) in
theorem BindingSystem.advance_effect (thread : Nat) (answers : MutationAnswers) :
    BindingEffect state.engine (state.rollsBack (.advance thread answers))
      (state.step runtime (.advance thread answers)).engine := by
  cases found : state.bindings thread with
  | none =>
      simp only [rollsBack, step, found]
      exact .kept rfl rfl
  | some flight =>
  simp only [rollsBack, step, found, BindingSystem.engine, withBinding]
  cases flight with
  | probe request => exact .kept rfl rfl
  | insert request evidence =>
      simp only [BindingFlight.advance]
      split
      · exact .kept rfl rfl
      · next inserted stored =>
          obtain ⟨absent, _, rfl⟩ := insertBinding_ok stored
          exact .inserted request evidence absent rfl rfl
  | device request evidence =>
      simp only [BindingFlight.advance_device, bindDevice]
      cases state.system.engine.devices[request.parentDevice]? with
      | none =>
          dsimp only
          split <;> exact .kept rfl rfl
      | some existing =>
          dsimp only
          split
          · exact .kept rfl rfl
          · split
            · exact .undone request evidence rfl rfl
            · exact .kept rfl rfl
  | persist request evidence =>
      exact .kept (EngineImpl.persistLockedState_records ..)
        (EngineImpl.persistLockedState_indexes ..)

theorem BindingEffect.ownPorts {impl after : EngineImpl}
    {undone : Option (PortBindingRequest × Option CapabilityBinding)}
    (effect : BindingEffect impl undone after) (own : impl.OwnPorts) : after.OwnPorts := by
  cases effect with
  | kept records _ =>
      rw [EngineImpl.OwnPorts, records]
      exact own
  | inserted request evidence _ records _ =>
      rw [EngineImpl.OwnPorts, records]
      exact OrderedMap.Every.insert own rfl
  | undone request evidence records _ =>
      rw [EngineImpl.OwnPorts, records]
      intro port record found
      rw [OrderedMap.lookup_erase] at found
      split at found
      · cases found
      · exact own port record found

end Bindings

section Marks

variable {runtime : Runtime} {answers : MutationAnswers} {impl : EngineImpl} {port : PortId}

/-- The port has a record, and a mutation has left its publisher there. -/
def EngineImpl.Marked (impl : EngineImpl) (port : PortId) : Prop :=
  ∃ record, impl.records[port]? = some record ∧ record.provenance.publisher.valid = true

theorem boundRecord_unmarked (request : PortBindingRequest)
    (evidence : Option CapabilityBinding) :
    (boundRecord request evidence).provenance.publisher.valid = false := rfl

theorem EngineImpl.Marked.congr {other : EngineImpl} (marked : impl.Marked port)
    (same : other.records = impl.records) : other.Marked port := by
  rw [Marked, same]
  exact marked

/-- A record put in the place of another keeps the marks when it is marked itself. -/
theorem EngineImpl.Marked.insert {other : EngineImpl} {target : PortId} {record : PortRecord}
    (marked : impl.Marked port) (inserted : other.records = impl.records.insert target record)
    (publisher : port = target → record.provenance.publisher.valid = true) :
    other.Marked port := by
  rw [Marked, inserted]
  by_cases here : port = target
  · subst here
    exact ⟨record, OrderedMap.lookup_insert_self .., publisher rfl⟩
  · rw [OrderedMap.lookup_insert_of_ne (Ne.symm here)]
    exact marked

theorem EngineImpl.Marked.perform {operation : Operation} (marked : impl.Marked port)
    (outside : ∀ mutation answers, operation ≠ .mutate mutation answers)
    (unloaded : operation.isLoad = false) : (impl.perform runtime operation).Marked port := by
  have effect : RecordsEffect operation impl.records (impl.perform runtime operation).records :=
    perform_records outside unloaded
  generalize impl.perform runtime operation = after at effect ⊢
  obtain ⟨record, found, publisher⟩ := marked
  generalize changed : after.records = records at effect
  cases effect with
  | unchanged => exact ⟨record, changed ▸ found, publisher⟩
  | @bound request _ evidence _ absent _ _ =>
      refine Marked.insert ⟨record, found, publisher⟩ changed fun here => ?_
      rw [here, absent] at found
      cases found
  | @released reason detail held _ =>
      rw [Marked, changed, OrderedMap.lookup_map, found]
      refine ⟨_, rfl, ?_⟩
      dsimp only
      split <;> exact publisher

/-- A section of an admitted mutation leaves every mark. -/
theorem Flight.advance_marked {flight : Flight} (marked : impl.Marked port)
    (publisher : flight.mutation.authority.publisher.valid = true)
    (sound : flight.Sound runtime) :
    (flight.advance runtime answers impl).1.Marked port := by
  have effect := flight.advance_effect runtime answers impl
  generalize (flight.advance runtime answers impl).1 = after at effect ⊢
  cases effect with
  | kept records => exact marked.congr records
  | committed stored =>
      obtain ⟨_, _, _, _, _, _, rfl⟩ := EngineImpl.commitRecord_ok stored
      refine marked.insert rfl fun _ => ?_
      rw [BuiltFrom.publisher sound]
      exact publisher
  | @doubted _ _ before _ _ _ _ _ found =>
      refine marked.insert rfl fun here => ?_
      obtain ⟨record, stored, kept⟩ := marked
      rw [here, found] at stored
      cases stored
      rw [PortRecord.uncertain_publisher]
      exact kept

/-- The section that commits a mutation marks its port. -/
theorem Flight.marked_of_committed {flight : Flight} {mutation : Mutation} {final : PortRecord}
    (publisher : flight.mutation.authority.publisher.valid = true)
    (sound : flight.Sound runtime)
    (committed : (flight.advance runtime answers impl).2 =
      .ok (.persist mutation (.committed final))) :
    mutation = flight.mutation ∧
      (flight.advance runtime answers impl).1.Marked mutation.port := by
  have same := (Flight.advance_next (Prod.ext rfl committed)).1
  refine ⟨same, ?_⟩
  cases flight with
  | conclude own snapshot applied decision =>
      obtain rfl : mutation = own := same
      cases decision with
      | reject reply => cases committed
      | uncertain generation detail code reply =>
          simp only [advance, concludeStep] at committed
          split at committed <;> cases committed
      | commit proposal evidence settled =>
          simp only [advance, concludeStep] at committed ⊢
          split at committed
          · cases committed
          · next stored =>
              obtain ⟨_, _, _, _, _, _, rfl⟩ := EngineImpl.commitRecord_ok stored
              refine ⟨_, OrderedMap.lookup_insert_self .., ?_⟩
              rw [BuiltFrom.publisher sound]
              exact publisher
  | persist own settlement => cases settlement <;> cases committed
  | apply own snapshot proposal => cases committed
  | authority own | lookup own | topology own | context own | plan own =>
      simp only [advance, Checks.bind_eq_ok, Checks.pure_eq_ok] at committed
      simp at committed

end Marks

end PortFabric
