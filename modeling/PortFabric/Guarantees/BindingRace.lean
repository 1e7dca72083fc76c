import PortFabric.Engine.BindingProperties
import PortFabric.Engine.Fixture
import PortFabric.Guarantees.IndexConsistency

/-!
# Binding races

What a binding does to the work of other threads between its sections: the
indexes, and the mutations of its port that were answered meanwhile. The
section that undoes an insertion removes whatever record it finds.
-/

set_option autoImplicit false

namespace PortFabric

open PortFabricEngine SecondaryIndex

/-- An interleaved system with an account of the mutations and of their answers. -/
structure BindingAccount where
  state : BindingSystem
  /-- The committed mutations that are not answered yet, by thread, while their effect stands. -/
  standing : Nat → Option Mutation := fun _ => none
  /-- The mutations answered with success while their effect stood, since the last recovery. -/
  acknowledged : List Mutation := []

namespace BindingSystem

/-- What the section of a mutation ends with, and its thread. -/
def sectionEnd (runtime : Runtime) (state : BindingSystem) :
    BindingAction → Option (Nat × Except Reply Flight)
  | .act (.advance thread answers) =>
      (state.system.flights thread).map fun flight =>
        (thread, (flight.advance runtime answers state.engine).2)
  | _ => none

/-- The records a load of the action replaces. -/
def replaces (runtime : Runtime) (state : BindingSystem) : BindingAction → Bool
  | .act (.operate (.load container)) => state.engine.carriesOut runtime container
  | _ => false

end BindingSystem

namespace BindingAccount

def initial (runtime : Runtime) : BindingAccount where
  state := .initial runtime

def withStanding (account : BindingAccount) (thread : Nat) (mutation : Option Mutation) :
    BindingAccount :=
  { account with
    standing := fun other => if other = thread then mutation else account.standing other }

/-- A commit stands until its answer, a recovery, or the removal of its record. -/
def step (runtime : Runtime) (account : BindingAccount) (action : BindingAction) :
    BindingAccount :=
  let next := { account with state := account.state.step runtime action }
  match account.state.sectionEnd runtime action with
  | some (thread, .ok (.persist mutation (.committed _))) =>
      next.withStanding thread (some mutation)
  | some (_, .ok _) => next
  | some (thread, .error reply) =>
      let answered :=
        if reply.code? = some .ok then (account.standing thread).toList else []
      { next with acknowledged := answered ++ account.acknowledged }.withStanding thread none
  | none =>
      if account.state.replaces runtime action then
        { state := next.state }
      else
        match account.state.rollsBack action with
        | some (request, _) =>
            { next with
              standing := fun thread =>
                (account.standing thread).filter fun mutation => mutation.port ≠ request.port }
        | none => next

/-- The indexes describe the records, and no mutation that was answered has been undone. -/
structure KeepsWork (account : BindingAccount) : Prop where
  indexed : account.state.engine.Indexed
  kept : ∀ mutation ∈ account.acknowledged,
    (account.state.engine.records[mutation.port]?).isSome = true

end BindingAccount

def BindingAction.operation? : BindingAction → Option Operation
  | .act (.operate operation) => some operation
  | _ => none

/-- A binding that undoes its insertion finds the record that it inserted, or none. -/
def BindingSystem.FindsInsertion (state : BindingSystem) (action : BindingAction) : Prop :=
  ∀ undone ∈ state.rollsBack action, ∀ record ∈ state.engine.records[undone.1.port]?,
    record = boundRecord undone.1 undone.2

/-- The load of an action is given what decoding the bytes of a container answered. -/
def BindingAction.ReadsContainer (action : BindingAction) : Prop :=
  ∀ operation ∈ action.operation?, operation.ReadsContainer

instance (state : BindingSystem) (action : BindingAction) :
    Decidable (state.FindsInsertion action) := by
  unfold BindingSystem.FindsInsertion
  infer_instance

/-- The flights are filed and admitted, and the indexes describe the records. -/
structure BindingSystem.Fit (runtime : Runtime) (state : BindingSystem) : Prop where
  filed : state.system.Filed runtime
  admitted : ∀ thread flight, state.system.flights thread = some flight →
    flight.mutation.authority.publisher.valid = true
  indexed : state.engine.Indexed

section Systems

variable {runtime : Runtime} {state : BindingSystem} {action : BindingAction}

theorem admitted_publisher {impl : EngineImpl} {mutation : Mutation}
    (admitted : admitMutation impl mutation = .ok ()) :
    mutation.authority.publisher.valid = true := by
  unfold admitMutation at admitted
  split at admitted
  · cases admitted
  split at admitted
  · cases admitted
  split at admitted
  · cases admitted
  · next complete =>
      simp only [AuthorityContext.valid, Bool.not_eq_true', Bool.not_eq_false, Bool.and_eq_true]
        at complete
      exact complete.1.1.2

theorem BindingSystem.sectionEnd_eq_some {thread : Nat} {ending : Except Reply Flight}
    (ended : state.sectionEnd runtime action = some (thread, ending)) :
    ∃ answers flight, action = .act (.advance thread answers) ∧
      state.system.flights thread = some flight ∧
      ending = (flight.advance runtime answers state.engine).2 := by
  unfold sectionEnd at ended
  split at ended
  · obtain ⟨flight, flying, same⟩ := Option.map_eq_some_iff.mp ended
    cases same
    exact ⟨_, flight, rfl, flying, rfl⟩
  · cases ended

/-- The record that a binding undoes is not described by more keys than it takes away. -/
theorem BindingSystem.FindsInsertion.indexed {request : PortBindingRequest}
    {evidence : Option CapabilityBinding} (finds : state.FindsInsertion action)
    (undone : state.rollsBack action = some (request, evidence))
    (indexed : state.engine.Indexed) :
    RecordsDescribed (state.engine.records.erase request.port)
      (state.engine.indexes.indexRemove (boundRecord request evidence)) := by
  refine RecordsDescribed.erase indexed rfl fun key held => ?_
  obtain ⟨record, found, keyed⟩ := (indexed key request.port).mp held
  rwa [finds _ undone record found] at keyed

theorem BindingSystem.Fit.act {action : Action} (fit : state.Fit runtime)
    (reads : (BindingAction.act action).ReadsContainer) :
    (state.step runtime (.act action)).Fit runtime := by
  have filed : (state.system.step runtime action).Filed runtime := fit.filed.step
  refine ⟨filed, fun thread flight flying => ?_, ?_⟩
  · obtain ⟨kept, _⟩ | ⟨mutation, _, rfl, _, admitted⟩ |
        ⟨answers, before, after, _, found, advanced⟩ := System.step_flights flying
    · exact fit.admitted thread flight kept
    · exact admitted_publisher admitted
    · rw [(Flight.advance_next advanced).1]
      exact fit.admitted thread before found
  · have indexed : (state.system.step runtime action).engine.Indexed := by
      obtain same | ⟨thread, answers, flight, rfl, flying, advanced⟩ |
          ⟨operation, rfl, outside, performed⟩ := System.step_engine runtime state.system action
      · rw [same]
        exact fit.indexed
      · rw [advanced]
        exact (Flight.advance_indexed fit.filed.records (fit.filed.snapshots thread flight flying)
          (fit.filed.sound thread flight flying)).2 fit.indexed
      · rw [performed]
        exact fit.indexed.perform_reads fit.filed.records (reads operation rfl)
    exact indexed

theorem BindingSystem.Fit.advance {thread : Nat} {answers : MutationAnswers}
    (fit : state.Fit runtime) (finds : state.FindsInsertion (.advance thread answers)) :
    (state.step runtime (.advance thread answers)).Fit runtime := by
  have effect := state.advance_effect runtime thread answers
  have own := effect.ownPorts fit.filed.records
  refine ⟨⟨?_, own, ?_⟩, ?_, ?_⟩
  · rw [System.Sound, BindingSystem.advance_flights]
    exact fit.filed.sound
  · rw [BindingSystem.advance_flights]
    exact fit.filed.snapshots
  · rw [BindingSystem.advance_flights]
    exact fit.admitted
  · generalize undoes : state.rollsBack (.advance thread answers) = undone at effect
    generalize (state.step runtime (.advance thread answers)).engine = after at effect
    cases effect with
    | kept records indexes => exact fit.indexed.congr records indexes
    | inserted request evidence absent records indexes =>
        rw [EngineImpl.Indexed, records, indexes]
        exact RecordsDescribed.insert fit.indexed absent rfl
    | undone request evidence records indexes =>
        rw [EngineImpl.Indexed, records, indexes]
        exact finds.indexed undoes fit.indexed

theorem BindingSystem.Fit.step (fit : state.Fit runtime) (finds : state.FindsInsertion action)
    (reads : action.ReadsContainer) :
    (state.step runtime action).Fit runtime := by
  cases action with
  | act action => exact fit.act reads
  | advance thread answers => exact fit.advance finds
  | bind thread request =>
      refine ⟨?_, ?_, ?_⟩
      · rw [BindingSystem.step_bind]
        exact fit.filed
      · rw [BindingSystem.step_bind]
        exact fit.admitted
      · rw [BindingSystem.engine, BindingSystem.step_bind]
        exact fit.indexed

/-- Only a recovery takes the mark of a mutation from a port, when insertions are undone as made. -/
theorem BindingSystem.Fit.marked (fit : state.Fit runtime) (finds : state.FindsInsertion action)
    (kept : state.replaces runtime action = false) {port : PortId}
    (marked : state.engine.Marked port) :
    (state.step runtime action).engine.Marked port := by
  cases action with
  | act action =>
      have stepped : (state.system.step runtime action).engine.Marked port := by
        obtain same | ⟨thread, answers, flight, rfl, flying, advanced⟩ |
            ⟨operation, rfl, outside, performed⟩ :=
          System.step_engine runtime state.system action
        · rw [same]
          exact marked
        · rw [advanced]
          exact Flight.advance_marked marked (fit.admitted thread flight flying)
            (fit.filed.sound thread flight flying)
        · rw [performed]
          cases operation with
          | load container =>
              exact marked.congr (EngineImpl.load_records_of_not_carriesOut kept)
          | _ => exact marked.perform outside rfl
      exact stepped
  | bind thread request =>
      rw [BindingSystem.engine, BindingSystem.step_bind]
      exact marked
  | advance thread answers =>
      have effect := state.advance_effect runtime thread answers
      generalize undoes : state.rollsBack (.advance thread answers) = undone at effect
      generalize (state.step runtime (.advance thread answers)).engine = after at effect ⊢
      obtain ⟨record, found, publisher⟩ := marked
      cases effect with
      | kept records indexes => exact ⟨record, records ▸ found, publisher⟩
      | inserted request evidence absent records _ =>
          refine EngineImpl.Marked.insert ⟨record, found, publisher⟩ records fun here => ?_
          rw [here, absent] at found
          cases found
      | undone request evidence records _ =>
          rw [EngineImpl.Marked, records, OrderedMap.lookup_erase]
          split
          · next here =>
              subst here
              rw [finds _ undoes record found, boundRecord_unmarked] at publisher
              cases publisher
          · exact ⟨record, found, publisher⟩

end Systems

namespace BindingAccount

/-- Every commit that stands, answered or not, has marked its port. -/
structure Sound (runtime : Runtime) (account : BindingAccount) : Prop where
  fit : account.state.Fit runtime
  standing : ∀ thread mutation, account.standing thread = some mutation →
    account.state.engine.Marked mutation.port
  acknowledged : ∀ mutation ∈ account.acknowledged, account.state.engine.Marked mutation.port

variable {runtime : Runtime} {account : BindingAccount} {action : BindingAction}

theorem Sound.keepsWork (sound : account.Sound runtime) : account.KeepsWork := by
  refine ⟨sound.fit.indexed, fun mutation answered => ?_⟩
  obtain ⟨record, found, _⟩ := sound.acknowledged mutation answered
  exact Option.isSome_of_mem found

theorem Sound.withStanding (sound : account.Sound runtime) {thread : Nat}
    {mutation : Option Mutation}
    (marked : ∀ committed ∈ mutation, account.state.engine.Marked committed.port) :
    (account.withStanding thread mutation).Sound runtime := by
  refine ⟨sound.fit, fun other committed found => ?_, sound.acknowledged⟩
  dsimp only [BindingAccount.withStanding] at found
  split at found
  · exact marked committed found
  · exact sound.standing other committed found

/-- Nothing stands right after a recovery. -/
theorem Sound.fresh {state : BindingSystem} (fit : state.Fit runtime) :
    ({ state } : BindingAccount).Sound runtime where
  fit
  standing _ _ found := by cases found
  acknowledged _ member := by cases member

theorem Sound.step (sound : account.Sound runtime)
    (finds : account.state.FindsInsertion action) (reads : action.ReadsContainer) :
    (account.step runtime action).Sound runtime := by
  have fit := sound.fit.step finds reads
  have marked (kept : account.state.replaces runtime action = false) {port : PortId}
      (before : account.state.engine.Marked port) :
      (account.state.step runtime action).engine.Marked port :=
    sound.fit.marked finds kept before
  unfold BindingAccount.step
  cases ended : account.state.sectionEnd runtime action with
  | none =>
      dsimp only
      split
      · exact .fresh fit
      · next kept =>
          rw [Bool.not_eq_true] at kept
          have answered (mutation : Mutation) (member : mutation ∈ account.acknowledged) :=
            marked kept (sound.acknowledged mutation member)
          split
          · refine ⟨fit, fun thread mutation found => ?_, answered⟩
            exact marked kept
              (sound.standing thread mutation (Option.filter_eq_some_iff.mp found).1)
          · exact ⟨fit, fun thread mutation found =>
              marked kept (sound.standing thread mutation found), answered⟩
  | some ending =>
      obtain ⟨thread, ending⟩ := ending
      obtain ⟨answers, flight, rfl, flying, rfl⟩ := BindingSystem.sectionEnd_eq_some ended
      have answered (mutation : Mutation) (member : mutation ∈ account.acknowledged) :=
        marked rfl (sound.acknowledged mutation member)
      have standing (other : Nat) (mutation : Mutation)
          (found : account.standing other = some mutation) :=
        marked rfl (sound.standing other mutation found)
      have next : ({ account with
          state := account.state.step runtime (.act (.advance thread answers)) } :
            BindingAccount).Sound runtime := ⟨fit, standing, answered⟩
      dsimp only
      split
      · next mutation final ended =>
          simp only [Option.some.injEq, Prod.mk.injEq] at ended
          obtain ⟨rfl, committed⟩ := ended
          obtain ⟨_, here⟩ := Flight.marked_of_committed
            (sound.fit.admitted _ flight flying) (sound.fit.filed.sound _ flight flying) committed
          refine next.withStanding fun mutation stood => ?_
          cases stood
          refine here.congr ?_
          simp only [BindingSystem.engine, BindingSystem.step, System.step, flying]
          rfl
      · exact next
      · next reply ended =>
          refine Sound.withStanding ⟨fit, standing, fun mutation member => ?_⟩ fun _ none => by
            cases none
          obtain replied | member := List.mem_append.mp member
          · split at replied
            · exact standing _ mutation (Option.mem_toList.mp replied)
            · cases replied
          · exact answered mutation member
      · next none => cases none

theorem sound_initial (runtime : Runtime) : (BindingAccount.initial runtime).Sound runtime := by
  have indexed : (EngineImpl.initial runtime.config).Indexed := fun key port =>
    iff_of_false PortIndexes.not_holds_empty (not_keyed_of_absent (OrderedMap.lookup_empty port))
  have filed : (BindingSystem.initial runtime).system.Filed runtime :=
    ⟨fun _ _ flying => (by cases flying), OrderedMap.Every.empty,
      fun _ _ flying => (by cases flying)⟩
  exact .fresh ⟨filed, fun _ _ flying => (by cases flying), indexed⟩

end BindingAccount

/--
Along every interleaving in which a binding that undoes its insertion finds the
record that it inserted, the indexes describe the records after every step and
no answered mutation of a port is undone.
-/
theorem binding_keeps_work (runtime : Runtime) (actions : List BindingAction)
    (reads : ∀ action ∈ actions, action.ReadsContainer)
    (undisturbed : Runs.Along (BindingAccount.step runtime)
      (fun account action => account.state.FindsInsertion action) (.initial runtime) actions) :
    Runs.Throughout (BindingAccount.step runtime) BindingAccount.KeepsWork (.initial runtime)
      actions := by
  have sound : Runs.Throughout (BindingAccount.step runtime)
      (BindingAccount.Sound runtime) (.initial runtime) actions :=
    Runs.throughout_along (fun _ _ sound kept => sound.step kept.1 kept.2)
      (BindingAccount.sound_initial runtime) (undisturbed.and (Runs.along_of_forall reads))
  exact sound.imp fun _ sound => sound.keepsWork

namespace UndoneBinding

def port : PortId := "syn-sw1-p01"

def request : PortBindingRequest where
  port
  parentDevice := Fixture.device
  deviceGeneration := .first
  epoch := .first
  attempt := "bind-1"

/-- A binding up to its device section, which its thread enters with the last action. -/
def bindAround (between : List Action) : List BindingAction :=
  .bind 0 request :: List.replicate 2 (.advance 0 Fixture.verified) ++
    between.map BindingAction.act ++ [.advance 0 Fixture.verified]

def replaceDevice : Action :=
  .operate (.registerDevice Fixture.device (.next .first) "operator")

def claim : List Action :=
  Fixture.complete 0
    (Fixture.claim (Fixture.envelope port "agent-a" "boot-a" "claim-1" .first) "owner-a") {}

def ended (actions : List BindingAction) : BindingAccount :=
  Runs.run (BindingAccount.step Fixture.runtime) (.initial Fixture.runtime) actions

theorem replaced_reads : ∀ action ∈ bindAround [replaceDevice], action.ReadsContainer := by
  have unloaded : (bindAround [replaceDevice]).all (fun action =>
      action.operation?.all fun operation => !operation.isLoad) = true := by
    decide
  intro action member operation performed
  refine Operation.readsContainer_of_unloaded ?_
  have here := (Option.all_eq_true ..).mp (List.all_eq_true.mp unloaded action member)
  simpa using here operation performed

set_option maxRecDepth 100000 in
/-- An insertion that nobody has touched is undone, and no work is lost. -/
theorem untouched_undone :
    Runs.Throughout (BindingAccount.step Fixture.runtime) BindingAccount.KeepsWork
        (.initial Fixture.runtime) (bindAround [replaceDevice]) ∧
      (ended (bindAround [replaceDevice])).state.engine.records.size = 0 := by
  have untouched : Runs.Along (BindingAccount.step Fixture.runtime)
      (fun account action => account.state.FindsInsertion action)
      (.initial Fixture.runtime) (bindAround [replaceDevice]) := by
    decide +kernel
  exact ⟨binding_keeps_work Fixture.runtime _ replaced_reads untouched, by decide +kernel⟩

set_option maxRecDepth 100000 in
/-- A claim answered with success is undone with the record of its port. -/
theorem answered_claim_undone :
    ¬Runs.Throughout (BindingAccount.step Fixture.runtime) BindingAccount.KeepsWork
      (.initial Fixture.runtime) (bindAround (claim ++ [replaceDevice])) := by
  have undone : ((ended (bindAround (claim ++ [replaceDevice]))).acknowledged.any fun mutation =>
      ((ended (bindAround (claim ++ [replaceDevice]))).state.engine.records[mutation.port]?).isNone)
        = true := by
    decide +kernel
  intro throughout
  obtain ⟨mutation, answered, absent⟩ := List.any_eq_true.mp undone
  have present := throughout.last.kept mutation answered
  rw [Option.isNone_iff_eq_none] at absent
  rw [ended] at absent
  simp [absent] at present

end UndoneBinding

end PortFabric
