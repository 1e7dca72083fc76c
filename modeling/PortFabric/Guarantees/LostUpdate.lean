import PortFabric.Engine.Fixture
import PortFabric.Engine.InterleavingProperties
import PortFabric.Library.CompareAndCommit

/-!
# Lost updates

A commit compares a few counters and the last attempt of a record. While attempts
are distinct and counters can advance, that is as good as comparing the record.
-/

set_option autoImplicit false

namespace PortFabric

open CompareAndCommit

namespace PortRecord

/-- A commit changes the last attempt; a release and an uncertain apply advance a counter. -/
def versioning : Versioning PortRecord MutationAttemptId (Nat × Nat) where
  era record := record.lastMutation.attempt
  count record := (record.generations.ownership.value, record.generations.evidence.value)

variable {record : PortRecord}

theorem released_amends {reason detail : Text}
    (room : record.generations.ownership.exhaustible = false) :
    versioning.Amends record (record.released reason detail) := by
  refine ⟨rfl, Prod.mk_lt_mk.mpr (.inl ⟨?_, Nat.le_refl _⟩)⟩
  exact Generation.lt_advance room

theorem uncertain_amends {runtime : Runtime} {authority : AuthorityContext}
    {generation : PortConfigurationGeneration} {detail : Text}
    (room : record.generations.evidence.exhaustible = false) :
    versioning.Amends record
      (record.uncertain runtime authority generation .outcomeUnknown detail) := by
  refine ⟨by simp [versioning], Prod.mk_lt_mk.mpr (.inr ⟨by simp, ?_⟩)⟩
  rw [uncertain_generations_evidence]
  exact Generation.lt_advance room

theorem version_of_capture {current : PortRecord}
    (same : ExpectedState.capture record = ExpectedState.capture current) :
    versioning.era current = versioning.era record ∧
      versioning.count current = versioning.count record := by
  simp only [ExpectedState.capture, ExpectedState.mk.injEq] at same
  obtain ⟨_, _, _, ownership, evidence, attempt⟩ := same
  simp [versioning, ownership, evidence, attempt]

end PortRecord

/-- The attempt identity an action uses on the port. -/
def Action.attemptOn (port : PortId) : Action → Option MutationAttemptId
  | .start _ mutation => if mutation.port = port then some mutation.attempt else none
  | .operate (.bindPort request _) => if request.port = port then some request.attempt else none
  | _ => none

/-- The attempt identities the actions use on the port, in order. -/
def attemptsOn (port : PortId) (actions : List Action) : List MutationAttemptId :=
  actions.filterMap (Action.attemptOn port)

namespace System

/-- The thread has a mutation of the port in flight that is not settled. -/
structure Pending (system : System) (port : PortId) (thread : Nat) (flight : Flight) : Prop where
  flying : system.flights thread = some flight
  addressed : flight.mutation.port = port
  unsettled : flight.unsettled = true

/-- The attempt can still become the last attempt of the port. -/
def Claimable (system : System) (port : PortId) (upcoming : List MutationAttemptId)
    (attempt : MutationAttemptId) : Prop :=
  attempt ∈ upcoming ∨
    ∃ thread flight, system.Pending port thread flight ∧ flight.mutation.attempt = attempt

/-- Every attempt has one user, and every snapshot in flight is told apart from later records. -/
structure Isolated (port : PortId) (upcoming : List MutationAttemptId) (system : System) :
    Prop where
  distinct : upcoming.Nodup
  unspent : ∀ thread flight, system.Pending port thread flight →
    flight.mutation.attempt ∉ upcoming
  separate : ∀ thread flight other another, system.Pending port thread flight →
    system.Pending port other another →
    flight.mutation.attempt = another.mutation.attempt → thread = other
  recorded : ∀ record, system.engine.records[port]? = some record →
    ¬system.Claimable port upcoming (PortRecord.versioning.era record)
  observed : ∀ thread flight snapshot, system.Pending port thread flight →
    flight.snapshot? = some snapshot →
    ¬system.Claimable port upcoming (PortRecord.versioning.era snapshot) ∧
      ∃ record, system.engine.records[port]? = some record ∧
        PortRecord.versioning.Tracks snapshot record

/-- The counters of the port's record can advance. -/
def HasRoom (port : PortId) (system : System) : Prop :=
  ∀ record, system.engine.records[port]? = some record →
    record.generations.ownership.exhaustible = false ∧
      record.generations.evidence.exhaustible = false

instance (port : PortId) : DecidablePred (HasRoom port) := fun system =>
  inferInstanceAs (Decidable (∀ record ∈ system.engine.records[port]?,
    record.generations.ownership.exhaustible = false ∧
      record.generations.evidence.exhaustible = false))

section Steps

variable {runtime : Runtime} {system : System} {action : Action} {port : PortId}
  {rest : List MutationAttemptId}

theorem Pending.origin {thread : Nat} {flight : Flight}
    (pending : (system.step runtime action).Pending port thread flight) :
    (∃ before, system.Pending port thread before ∧
        before.mutation.attempt = flight.mutation.attempt ∧
        ∀ snapshot, flight.snapshot? = some snapshot →
          before.snapshot? = some snapshot ∨
            (system.engine.records[port]? = some snapshot ∧
              (system.step runtime action).engine.records = system.engine.records)) ∨
      ∃ mutation, action = .start thread mutation ∧ flight = .authority mutation ∧
        mutation.port = port := by
  obtain ⟨kept, _⟩ | ⟨mutation, started, rfl, _⟩ |
      ⟨answers, before, after, rfl, found, advanced⟩ :=
    step_flights pending.flying
  · exact .inl
      ⟨flight, ⟨kept, pending.addressed, pending.unsettled⟩, rfl, fun _ found => .inl found⟩
  · exact .inr ⟨mutation, started, rfl, pending.addressed⟩
  · obtain ⟨sameMutation, unsettled, snapshots⟩ := Flight.advance_next advanced
    have addressed : before.mutation.port = port := by
      rw [← sameMutation]
      exact pending.addressed
    refine .inl ⟨before, ⟨found, addressed, unsettled⟩, by rw [sameMutation], ?_⟩
    intro snapshot carried
    obtain carried | ⟨current, kept⟩ := snapshots snapshot carried
    · exact .inl carried
    · refine .inr ⟨addressed ▸ current, ?_⟩
      simp only [step, found, advanced]
      exact kept

theorem Claimable.of_step {attempt : MutationAttemptId}
    (claimable : (system.step runtime action).Claimable port rest attempt) :
    system.Claimable port ((action.attemptOn port).toList ++ rest) attempt := by
  obtain upcoming | ⟨thread, flight, pending, rfl⟩ := claimable
  · exact .inl (List.mem_append_right _ upcoming)
  · obtain ⟨before, earlier, same, _⟩ | ⟨mutation, rfl, rfl, addressed⟩ := pending.origin
    · exact .inr ⟨thread, before, earlier, same⟩
    · exact .inl (List.mem_append_left _ (by simp [Action.attemptOn, addressed, Flight.mutation]))

/-- The attempt of a mutation that concludes cannot be claimed again. -/
theorem Isolated.spent {thread : Nat} {answers : MutationAnswers} {mutation : Mutation}
    {snapshot : PortRecord} {applied : Option AdapterApplyStatus} {decision : ApplyDecision}
    (isolated : system.Isolated port rest)
    (flying : system.flights thread = some (.conclude mutation snapshot applied decision))
    (addressed : mutation.port = port) :
    ¬(system.step runtime (.advance thread answers)).Claimable port rest mutation.attempt := by
  have concluding : system.Pending port thread (.conclude mutation snapshot applied decision) :=
    ⟨flying, addressed, rfl⟩
  intro given
  rcases given with upcoming | ⟨other, flight, pending, same⟩
  · exact isolated.unspent thread _ concluding upcoming
  · obtain ⟨before, earlier, carried, _⟩ | ⟨_, started, _⟩ := pending.origin
    · obtain rfl : other = thread :=
        isolated.separate other before thread _ earlier concluding (carried.trans same)
      obtain ⟨_, unmoved⟩ | ⟨_, started, _⟩ | ⟨_, _, _, _, found, advanced⟩ :=
        step_flights pending.flying
      · exact unmoved answers rfl
      · cases started
      · rw [flying] at found
        cases found
        obtain ⟨_, rfl⟩ := Flight.conclude_next advanced
        cases pending.unsettled
    · cases started

private theorem Isolated.revised_advance {thread : Nat} {answers : MutationAnswers}
    {flight : Flight} (isolated : system.Isolated port rest) (sound : system.Sound runtime)
    (room : system.HasRoom port) (flying : system.flights thread = some flight) :
    PortRecord.versioning.Revised (system.Claimable port rest)
      ((system.step runtime (.advance thread answers)).Claimable port rest)
      system.engine.records[port]?
      (flight.advance runtime answers system.engine).1.records[port]? := by
  have effect := flight.advance_effect runtime answers system.engine
  generalize (flight.advance runtime answers system.engine).1 = after at effect ⊢
  cases effect with
  | kept records =>
      rw [records]
      exact .same
  | @committed mutation snapshot applied proposal evidence settled _ stored =>
      obtain ⟨current, found, _, _, _, _, rfl⟩ := EngineImpl.commitRecord_ok stored
      rw [EngineImpl.replaceRecord_records, OrderedMap.lookup_insert]
      split
      · next addressed =>
          have built : BuiltFrom runtime mutation snapshot proposal evidence settled :=
            sound thread _ flying
          have era : PortRecord.versioning.era
              (EngineImpl.committedRecord proposal evidence settled) = mutation.attempt :=
            built.attempt
          -- The commit claims the attempt of its own flight, and spends it.
          refine .published ?_ ?_
          · rw [era]
            exact .inr ⟨thread, _, ⟨flying, addressed, rfl⟩, rfl⟩
          · rw [era]
            exact isolated.spent flying addressed
      · exact .same
  | @doubted mutation snapshot before applied generation detail code reply found =>
      rw [EngineImpl.replaceRecord_records, OrderedMap.lookup_insert]
      split
      · next addressed =>
          subst addressed
          rw [found]
          exact .amended (PortRecord.uncertain_amends (room before found).2)
      · exact .same

private theorem Isolated.revised_operate {operation : Operation}
    (isolated : system.Isolated port (((Action.operate operation).attemptOn port).toList ++ rest))
    (room : system.HasRoom port)
    (outside : ∀ mutation answers, operation ≠ .mutate mutation answers)
    (unloaded : operation.isLoad = false) :
    PortRecord.versioning.Revised
      (system.Claimable port (((Action.operate operation).attemptOn port).toList ++ rest))
      ((system.step runtime (.operate operation)).Claimable port rest)
      system.engine.records[port]?
      (system.engine.perform runtime operation).records[port]? := by
  have effect : RecordsEffect operation system.engine.records
      (system.engine.perform runtime operation).records := perform_records outside unloaded
  generalize (system.engine.perform runtime operation).records = records at effect ⊢
  cases effect with
  | unchanged => exact .same
  | @bound request answers evidence requested absent named validated =>
      subst requested
      rw [OrderedMap.lookup_insert]
      split
      · next addressed =>
          have used : (Action.operate (.bindPort request answers)).attemptOn port =
              some request.attempt := by
            simp [Action.attemptOn, addressed]
          rw [used] at isolated ⊢
          have claimed : PortRecord.versioning.era (boundRecord request evidence) ∈
              (some request.attempt).toList := by
            simp [PortRecord.versioning, boundRecord]
          refine .published (.inl (List.mem_append_left _ claimed)) ?_
          intro given
          rcases given with upcoming | ⟨thread, flight, pending, same⟩
          · exact (List.nodup_cons.mp isolated.distinct).1 upcoming
          · obtain ⟨before, earlier, carried, _⟩ | ⟨_, started, _⟩ := pending.origin
            · apply isolated.unspent thread before earlier
              rw [carried, same]
              exact List.mem_append_left _ (by simp [PortRecord.versioning, boundRecord])
            · cases started
      · exact .same
  | released held texts =>
      rw [OrderedMap.lookup_map]
      cases found : system.engine.records[port]? with
      | none => exact .same
      | some record =>
          rw [Option.map_some]
          split
          · exact .amended (PortRecord.released_amends (room record found).1)
          · exact .same

/-- Every step revises the port's record. -/
theorem Isolated.revised
    (isolated : system.Isolated port ((action.attemptOn port).toList ++ rest))
    (sound : system.Sound runtime) (room : system.HasRoom port)
    (unloaded : action.isLoad = false) :
    PortRecord.versioning.Revised
      (system.Claimable port ((action.attemptOn port).toList ++ rest))
      ((system.step runtime action).Claimable port rest)
      system.engine.records[port]? (system.step runtime action).engine.records[port]? := by
  obtain same | ⟨thread, answers, flight, rfl, flying, advanced⟩ |
      ⟨operation, rfl, outside, performed⟩ := step_engine runtime system action
  · rw [same]
    exact .same
  · rw [advanced]
    exact isolated.revised_advance sound room flying
  · rw [performed]
    exact isolated.revised_operate room outside unloaded

/-- One step keeps the attempts and the snapshots apart. -/
theorem Isolated.step
    (isolated : system.Isolated port ((action.attemptOn port).toList ++ rest))
    (sound : system.Sound runtime) (room : system.HasRoom port)
    (unloaded : action.isLoad = false) :
    (system.step runtime action).Isolated port rest where
  distinct := isolated.distinct.of_append_right
  unspent := by
    intro thread flight pending upcoming
    obtain ⟨before, earlier, same, _⟩ | ⟨mutation, rfl, rfl, addressed⟩ := pending.origin
    · apply isolated.unspent thread before earlier
      rw [same]
      exact List.mem_append_right _ upcoming
    · have distinct := isolated.distinct
      simp only [Action.attemptOn, addressed, if_true, Option.toList_some, List.cons_append,
        List.nil_append, List.nodup_cons] at distinct
      exact distinct.1 upcoming
  separate := by
    intro thread flight other another pending second same
    -- A flight that starts brings an attempt that no pending one carries.
    have unused : ∀ starter mutation older former, action = .start starter mutation →
        mutation.port = port → system.Pending port older former →
        former.mutation.attempt ≠ mutation.attempt := by
      intro starter mutation older former same addressed earlier used
      subst same
      apply isolated.unspent older former earlier
      rw [used]
      exact List.mem_append_left _ (by simp [Action.attemptOn, addressed])
    obtain ⟨before, earlier, carried, _⟩ | ⟨mutation, started, rfl, addressed⟩ := pending.origin
    · obtain ⟨former, older, again, _⟩ | ⟨mutation, started, rfl, addressed⟩ := second.origin
      · exact isolated.separate thread before other former earlier older
          (carried.trans (same.trans again.symm))
      · exact absurd (carried.trans same) (unused _ _ _ _ started addressed earlier)
    · obtain ⟨former, older, again, _⟩ | ⟨_, restarted, _⟩ := second.origin
      · exact absurd (again.trans same.symm) (unused _ _ _ _ started addressed older)
      · rw [started] at restarted
        cases restarted
        rfl
  recorded := by
    intro record found
    have revised := isolated.revised sound room unloaded
    rw [found] at revised
    exact revised.unclaimable (fun _ => Claimable.of_step) isolated.recorded
  observed := by
    intro thread flight snapshot pending carried
    have revised := isolated.revised sound room unloaded
    obtain ⟨before, earlier, _, snapshots⟩ | ⟨mutation, rfl, rfl, addressed⟩ := pending.origin
    · obtain carried | ⟨current, kept⟩ := snapshots snapshot carried
      · obtain ⟨unclaimable, tracked⟩ := isolated.observed thread before snapshot earlier carried
        exact ⟨fun claimable => unclaimable claimable.of_step,
          Versioning.Tracks.revised tracked revised unclaimable⟩
      · refine ⟨fun claimable => isolated.recorded snapshot current claimable.of_step, snapshot, ?_,
          .refl snapshot⟩
        rw [kept]
        exact current
    · cases carried

/-- Before any mutation is in flight, the attempts to come only have to be distinct. -/
theorem Isolated.of_idle {upcoming : List MutationAttemptId}
    (idle : ∀ thread, system.flights thread = none)
    (distinct : ((system.engine.records[port]?).map PortRecord.versioning.era).toList ++
      upcoming |>.Nodup) : system.Isolated port upcoming := by
  have unpending (thread : Nat) (flight : Flight) : ¬system.Pending port thread flight := by
    intro pending
    have flying := pending.flying
    rw [idle] at flying
    cases flying
  refine ⟨distinct.of_append_right, fun _ _ pending => absurd pending (unpending _ _),
    fun _ _ _ _ pending => absurd pending (unpending _ _), ?_,
    fun _ _ _ pending => absurd pending (unpending _ _)⟩
  intro record found given
  rcases given with upcoming | ⟨thread, flight, pending, _⟩
  · rw [found] at distinct
    exact (List.nodup_cons.mp distinct).1 upcoming
  · exact unpending thread flight pending

end Steps

/-- A commit of the port that is stored replaces the record its plan was built from. -/
def ReplacesItsBase (runtime : Runtime) (port : PortId) (system : System) (action : Action) :
    Prop :=
  ∀ thread answers mutation snapshot applied proposal evidence settled committed,
    action = .advance thread answers →
    system.flights thread =
      some (.conclude mutation snapshot applied (.commit proposal evidence settled)) →
    mutation.port = port →
    system.engine.commitRecord port proposal evidence settled = .ok committed →
    BuiltFrom runtime mutation snapshot proposal evidence settled ∧
      system.engine.records[port]? = some snapshot

/-- Comparing versions is enough to replace the record the plan was built from. -/
theorem Isolated.replacesItsBase {runtime : Runtime} {system : System} {action : Action}
    {port : PortId} {upcoming : List MutationAttemptId} (isolated : system.Isolated port upcoming)
    (sound : system.Sound runtime) : ReplacesItsBase runtime port system action := by
  intro thread answers mutation snapshot applied proposal evidence settled committed _ flying
    addressed stored
  have built : BuiltFrom runtime mutation snapshot proposal evidence settled :=
    sound thread _ flying
  obtain ⟨current, found, _, expected, _⟩ := EngineImpl.commitRecord_ok stored
  obtain ⟨_, record, present, tracks⟩ :=
    isolated.observed thread _ snapshot ⟨flying, addressed, rfl⟩ rfl
  rw [found] at present
  cases present
  obtain ⟨era, count⟩ := PortRecord.version_of_capture (built.expected.symm.trans expected)
  refine ⟨built, ?_⟩
  rw [found, tracks.eq_of_version era count]

end System

/--
No lost update: in any interleaving without a load, from any engine without
mutations in flight, every stored commit of a port replaces the record its plan
was built from, if the attempts used on the port are distinct and the counters
of its record can advance.
-/
theorem replaces_its_base_along {runtime : Runtime} {system : System} {port : PortId}
    {actions : List Action} (idle : ∀ thread, system.flights thread = none)
    (distinct : (((system.engine.records[port]?).map PortRecord.versioning.era).toList ++
      attemptsOn port actions).Nodup)
    (unloaded : ∀ action ∈ actions, action.isLoad = false)
    (room : Runs.Throughout (System.step runtime) (System.HasRoom port) system actions) :
    Runs.Along (System.step runtime) (System.ReplacesItsBase runtime port) system actions := by
  have isolated := System.Isolated.of_idle idle distinct
  have sound : system.Sound runtime := by
    intro thread flight flying
    rw [idle] at flying
    cases flying
  clear idle distinct
  induction actions generalizing system with
  | nil => trivial
  | cons action rest ih =>
      have first := unloaded action List.mem_cons_self
      have spent : attemptsOn port (action :: rest) =
          (action.attemptOn port).toList ++ attemptsOn port rest := by
        cases used : action.attemptOn port <;> simp [attemptsOn, used]
      rw [spent] at isolated
      refine ⟨isolated.replacesItsBase sound, ?_⟩
      exact ih (fun other later => unloaded other (List.mem_cons_of_mem _ later)) room.2
        (isolated.step sound room.first first) (sound.step action)

namespace OvertakenClaim

def port : PortId := "syn-sw1-p01"

/-- One claim is stored while another one, prepared before, waits to conclude. -/
def actions : List Action :=
  .operate (Fixture.bind port "bind-1") ::
    Fixture.prepare 0
      (Fixture.claim (Fixture.envelope port "agent-a" "boot-a" "claim-1" .first) "owner-a") {} ++
    Fixture.complete 1
      (Fixture.claim (Fixture.envelope port "agent-b" "boot-b" "claim-2" .first) "owner-b") {} ++
    [.advance 0 {}]

set_option maxRecDepth 100000 in
theorem replaces_its_base :
    Runs.Along (System.step Fixture.runtime) (System.ReplacesItsBase Fixture.runtime port)
      { engine := .initial Fixture.runtime.config } actions :=
  replaces_its_base_along (fun _ => rfl) (by decide +kernel) (by decide +kernel)
    (by decide +kernel)

end OvertakenClaim

end PortFabric
