import PortFabric.Engine.Fixture
import PortFabric.Engine.Views

/-!
# Record diffs

A diff is documented as an ordered set of changed dimensions. Two renderings are
filed under the capability binding: the one in the configuration and the one of
the record. When both changed, the dimension is listed twice; in every other
case the diff keeps to its description.
-/

set_option autoImplicit false

namespace PortFabric

open Differences

/-- The rendering of a configuration dimension of a record. -/
def PortRecord.configurationRendering (record : PortRecord) (field : DiffField) : Text :=
  match record.configuration with
  | some configuration => renderConfigurationField configuration field
  | none => "absent"

/-- The renderings of the record itself, each under its dimension. -/
def recordMeasurements : List (DiffField × (PortRecord → Text)) :=
  [ (.lifecycle, fun record => record.lifecycle.toText),
    (.ownership, renderOwnership),
    (.appliedEvidence, fun record => record.applied.toText),
    (.drift, fun record => record.drift.toText),
    (.capabilityBinding, fun record => record.capability.generation.formatOrNone) ]

/-- Everything of a record that a diff compares, each rendering under its dimension. -/
def diffMeasurements : List (DiffField × (PortRecord → Text)) :=
  ((configurationFields.filter fun field => !field.isRecordField).map fun field =>
    (field, fun record => record.configurationRendering field)) ++ recordMeasurements

/-- The renderings of a dimension of a record. -/
def PortRecord.renderings (record : PortRecord) (field : DiffField) : List Text :=
  (diffMeasurements.filter fun measurement => measurement.1 = field).map fun measurement =>
    measurement.2 record

/-- The diff is an ordered set of the dimensions whose renderings differ. -/
structure DiffLaw (before after : PortRecord) : Prop where
  ascending : ((diffRecords before after).map (DiffField.byte ∘ Entry.field)).Pairwise (· < ·)
  listed : ∀ field, field ∈ (diffRecords before after).map Entry.field ↔
    before.renderings field ≠ after.renderings field
  empty : diffRecords before after = [] ↔
    ∀ field, before.renderings field = after.renderings field
  swapped : diffRecords after before = (diffRecords before after).map Entry.swap

section Measurements

theorem DiffField.byte_injective : Function.Injective DiffField.byte := by
  intro first second same
  cases first <;> cases second <;> first | rfl | cases same

theorem addIfChanged_eq (entries : List DiffEntry) (field : DiffField)
    (measure : PortRecord → Text) (before after : PortRecord) :
    addIfChanged entries field (measure before) (measure after) =
      entries ++ differences [(field, measure)] before after := by
  rw [addIfChanged, differences_singleton]
  split
  · exact (List.append_nil entries).symm
  · rfl

/-- The loop over the configuration dimensions makes the measurements of the configuration. -/
theorem diffRendered_eq (before after : PortRecord) :
    diffRendered before.configurationRendering after.configurationRendering =
      differences ((configurationFields.filter fun field => !field.isRecordField).map
        fun field => (field, fun record => record.configurationRendering field)) before after := by
  have counted (fields : List DiffField) (entries : List DiffEntry) :
      fields.foldl (fun entries field => if field.isRecordField then entries
        else addIfChanged entries field (before.configurationRendering field)
          (after.configurationRendering field)) entries =
      entries ++ differences ((fields.filter fun field => !field.isRecordField).map
        fun field => (field, fun record => record.configurationRendering field)) before after := by
    induction fields generalizing entries with
    | nil => exact (List.append_nil entries).symm
    | cons field fields ih =>
        rw [List.foldl_cons, ih, List.filter_cons]
        cases record : field.isRecordField with
        | true => rfl
        | false =>
            rw [if_neg Bool.false_ne_true, Bool.not_false, if_pos rfl, List.map_cons,
              ← List.singleton_append, differences_append, ← List.append_assoc,
              addIfChanged_eq entries field fun record => record.configurationRendering field]
  exact counted configurationFields []

/-- The configuration dimensions come in order, so sorting them early changes nothing. -/
theorem sortEntries_diffRendered (before after : PortRecord) :
    sortEntries (diffRendered before.configurationRendering after.configurationRendering) =
      diffRendered before.configurationRendering after.configurationRendering := by
  have ordered : (configurationFields.filter fun field => !field.isRecordField).Pairwise
      fun first second => first.byte ≤ second.byte := by decide
  apply sorted_of_ordered
  rw [diffRendered_eq]
  refine List.Pairwise.sublist (fields_sublist _ before after) ?_
  rw [List.map_map]
  exact ordered

/-- However the configurations are present, their renderings are compared. -/
theorem diffPresence_eq (before after : PortRecord) :
    diffPresence before.configuration after.configuration =
      diffRendered before.configurationRendering after.configurationRendering := by
  have rendered {record : PortRecord} {configuration : PortConfiguration}
      (found : record.configuration = some configuration) :
      record.configurationRendering = renderConfigurationField configuration := by
    funext field
    rw [PortRecord.configurationRendering, found]
  have absent {record : PortRecord} (missing : record.configuration = none) :
      record.configurationRendering = fun _ => text "absent" := by
    funext field
    rw [PortRecord.configurationRendering, missing]
  cases former : before.configuration with
  | none =>
      cases latter : after.configuration with
      | none =>
          rw [absent former, absent latter]
          rfl
      | some found =>
          rw [absent former, rendered latter]
          rfl
  | some old =>
      cases latter : after.configuration with
      | none =>
          rw [rendered former, absent latter]
          rfl
      | some found =>
          rw [← sortEntries_diffRendered, rendered former, rendered latter]
          rfl

/-- A record diff is the sorted list of the measurements that disagree. -/
theorem diffRecords_eq (before after : PortRecord) :
    diffRecords before after = sortEntries (differences diffMeasurements before after) := by
  rw [diffRecords, diffPresence_eq, diffRendered_eq]
  rw [addIfChanged_eq _ _ (fun record => record.lifecycle.toText), addIfChanged_eq,
    addIfChanged_eq _ _ (fun record => record.applied.toText),
    addIfChanged_eq _ _ (fun record => record.drift.toText),
    addIfChanged_eq _ _ (fun record => record.capability.generation.formatOrNone)]
  simp only [← differences_append, List.append_assoc]
  rfl

/-- A dimension is listed exactly when one of its renderings differs. -/
theorem mem_diffRecords_iff {before after : PortRecord} {field : DiffField} :
    field ∈ (diffRecords before after).map Entry.field ↔
      before.renderings field ≠ after.renderings field := by
  rw [diffRecords_eq, sortEntries, ((sorted_perm _).map Entry.field).mem_iff, mem_fields_iff]
  unfold PortRecord.renderings
  rw [ne_eq, List.map_inj_left]
  constructor
  · intro given agree
    rcases given with ⟨measure, listed, differs⟩
    exact differs (agree (field, measure) (List.mem_filter.mpr ⟨listed, decide_eq_true rfl⟩))
  · intro differ
    by_contra agree
    apply differ
    intro measurement member
    obtain ⟨listed, filed⟩ := List.mem_filter.mp member
    obtain rfl : measurement.1 = field := of_decide_eq_true filed
    by_contra differs
    exact agree ⟨measurement.2, listed, differs⟩

/-- Every dimension but the capability binding is rendered once. -/
theorem diffMeasurements_split :
    ∃ once : List (DiffField × (PortRecord → Text)), (once.map Prod.fst).Nodup ∧
      diffMeasurements = once ++
        [(.capabilityBinding, fun record => record.capability.generation.formatOrNone)] ∧
      ∀ measure, (DiffField.capabilityBinding, measure) ∈ once ↔
        measure = fun record => record.configurationRendering .capabilityBinding := by
  refine ⟨((configurationFields.filter fun field => !field.isRecordField).map fun field =>
    (field, fun record => record.configurationRendering field)) ++ recordMeasurements.dropLast,
    by decide, rfl, ?_⟩
  intro measure
  simp [configurationFields, DiffField.isRecordField, recordMeasurements]

/-- The dimensions listed are distinct unless both renderings of the capability differ. -/
theorem diffRecords_ascending_iff (before after : PortRecord) :
    ((diffRecords before after).map (DiffField.byte ∘ Entry.field)).Pairwise (· < ·) ↔
      before.configurationRendering .capabilityBinding =
          after.configurationRendering .capabilityBinding ∨
        before.capability.generation.formatOrNone = after.capability.generation.formatOrNone := by
  obtain ⟨once, apart, split, capability⟩ := diffMeasurements_split
  have distinct : ((differences once before after).map Entry.field).Nodup :=
    apart.sublist (fields_sublist once before after)
  have listed : DiffField.capabilityBinding ∈ (differences once before after).map Entry.field ↔
      before.configurationRendering .capabilityBinding ≠
        after.configurationRendering .capabilityBinding := by
    rw [mem_fields_iff]
    simp only [capability, exists_eq_left]
  rw [diffRecords_eq, sortEntries, sorted_ascending_iff DiffField.byte_injective, split,
    differences_append, differences_singleton, List.map_append]
  by_cases same : before.capability.generation.formatOrNone =
      after.capability.generation.formatOrNone
  · rw [if_pos same, List.map_nil, List.append_nil]
    exact iff_of_true distinct (.inr same)
  · rw [if_neg same, List.map_singleton, List.nodup_append_comm, List.singleton_append,
      List.nodup_cons, listed, not_not]
    simp only [distinct, same, and_true, or_false]

/-- The order of the entries is all that can fail. -/
theorem diffLaw_iff_ascending {before after : PortRecord} :
    DiffLaw before after ↔
      ((diffRecords before after).map (DiffField.byte ∘ Entry.field)).Pairwise (· < ·) := by
  constructor
  · exact DiffLaw.ascending
  · intro ascending
    refine ⟨ascending, fun field => mem_diffRecords_iff, ?_, ?_⟩
    · rw [List.eq_nil_iff_forall_not_mem]
      constructor
      · intro none field
        by_contra differs
        obtain ⟨entry, member, _⟩ := List.mem_map.mp (mem_diffRecords_iff.mpr differs)
        exact none entry member
      · intro agree entry member
        exact mem_diffRecords_iff.mp (List.mem_map_of_mem member) (agree entry.field)
    · rw [diffRecords_eq, diffRecords_eq, differences_swap, sortEntries, sorted_map_swap,
        sortEntries]

end Measurements

/-- What the engine says a proposal would change is an ordered set of dimensions. -/
theorem PortFabricEngine.diff_lawful {impl : EngineImpl} {port : PortId} {record : PortRecord}
    (found : impl.records[port]? = some record) (proposed : PortConfiguration) :
    ∃ candidate, diff impl port proposed = diffRecords record candidate ∧
      DiffLaw record candidate := by
  refine ⟨{ record with configuration := some proposed }, ?_, ?_⟩
  · rw [diff, found]
  · exact diffLaw_iff_ascending.mpr ((diffRecords_ascending_iff _ _).mpr (.inr rfl))

/-- The diff of two records is as described unless the capability changed twice over. -/
theorem diffs_lawful_iff (before after : PortRecord) :
    DiffLaw before after ↔
      before.configurationRendering .capabilityBinding =
          after.configurationRendering .capabilityBinding ∨
        before.capability.generation.formatOrNone =
          after.capability.generation.formatOrNone :=
  diffLaw_iff_ascending.trans (diffRecords_ascending_iff before after)

namespace Rebound

/-- The port as it is configured under evidence of the generation. -/
def record (generation : CapabilityBindingGeneration) : PortRecord where
  port := "sw1-p1"
  parentDevice := Fixture.device
  lifecycle := .configured
  configuration := some
    { Fixture.makeConfiguration "sw1-p1" with
      record := "cfg-sw1-p1-1"
      deviceGeneration := .first
      topologyGeneration := .first
      generation := .first
      provenance := { kind := .switchAgent, epoch := .first, attempt := "attempt-1" }
      capabilityGeneration := generation }
  capability := { Fixture.evidence with generation }

set_option maxRecDepth 100000 in
/-- Configured again after a rebind, the port lists the capability binding twice. -/
theorem capability_listed_twice :
    (record .first).validate = .ok () ∧ (record ⟨2, by decide⟩).validate = .ok () ∧
      ¬DiffLaw (record .first) (record ⟨2, by decide⟩) := by
  refine ⟨by decide +kernel, by decide +kernel, ?_⟩
  intro lawful
  have ascending := lawful.ascending
  revert ascending
  decide +kernel

end Rebound

end PortFabric
