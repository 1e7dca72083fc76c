import PortFabric.Engine.Request
import PortFabric.RenderingProperties

/-!
# Properties of payloads

What the payload of a mutation tells of the request, for each kind. Two free
text fields of a configuration are not escaped, so their bytes can pass for
other fields.
-/

set_option autoImplicit false

namespace PortFabric

open Delimited

namespace PortConfiguration

/-- The configuration a request asks for, without the fields of its bookkeeping. -/
def target (configuration : PortConfiguration) : PortConfiguration :=
  { configuration with provenance := {}, evidenceGeneration := .null }

/-- One field of a payload. -/
def segment (field : Text × Text) : Text :=
  field.1 ++ text "=" ++ field.2

/-- The fields before the role, as their rendering tells them. -/
@[mk_iff] structure FrontAlike (first second : PortConfiguration) : Prop where
  record : first.record = second.record
  port : first.port = second.port
  parentDevice : first.parentDevice = second.parentDevice
  deviceGeneration : first.deviceGeneration = second.deviceGeneration
  topologyGeneration : first.topologyGeneration = second.topologyGeneration
  generation : first.generation = second.generation
  administrative : first.administrative.toText = second.administrative.toText
  mode : first.mode.toText = second.mode.toText
  protocol : first.protocol.toText = second.protocol.toText
  selection : first.speed.selection.toText = second.speed.selection.toText
  rate : first.speed.rate = second.speed.rate
  duplex : first.duplex.toText = second.duplex.toText
  mtu : first.mtu = second.mtu
  lanes : first.lanes = second.lanes
  breakout : first.breakout.toText = second.breakout.toText
  autoneg : first.autoneg.toText = second.autoneg.toText
  fec : first.fec.toText = second.fec.toText
  pause : first.pause.toText = second.pause.toText
  aggregation : first.aggregation.Alike second.aggregation
  profile : first.profile.Alike second.profile

/-- The fields between the role and the provenance source, as their rendering tells them. -/
@[mk_iff] structure MiddleAlike (first second : PortConfiguration) : Prop where
  logicalIdentity : first.logicalIdentity = second.logicalIdentity
  derivedFrom : first.derivedFrom = second.derivedFrom
  childIndex : first.childIndex = second.childIndex
  capabilityGeneration : first.capabilityGeneration = second.capabilityGeneration
  provenanceKind : first.provenance.kind.toText = second.provenance.kind.toText

def frontSegments (configuration : PortConfiguration) : List Text :=
  (configuration.canonicalFields.take 20).map segment

def middleSegments (configuration : PortConfiguration) : List Text :=
  [ segment (text "logical_identity", configuration.logicalIdentity.value),
    segment (text "derived_from", configuration.derivedFrom.value),
    segment (text "child_index", formatU64 configuration.childIndex.toNat),
    segment (text "capability_generation", configuration.capabilityGeneration.formatOrEmpty),
    segment (text "provenance_kind", configuration.provenance.kind.toText) ]

/-- The bytes of a payload between the role and the provenance source. -/
def bridge (configuration : PortConfiguration) : Text :=
  joined 0x3b (configuration.middleSegments ++ [text "provenance_source="])

theorem cons_canonicalPayload (configuration : PortConfiguration) :
    0x3b :: canonicalPayload configuration =
      joined 0x3b configuration.frontSegments ++
        0x3b :: (text "role=" ++ (configuration.role ++
          (configuration.bridge ++ (configuration.provenance.source ++
            0x3b :: (text "provenance_publisher=" ++ configuration.provenance.publisher.value ++
              [0x3b]))))) := by
  have fields : canonicalPayload configuration =
      (configuration.frontSegments ++ segment (text "role", configuration.role) ::
        (configuration.middleSegments ++
          [segment (text "provenance_source", configuration.provenance.source),
            segment (text "provenance_publisher", configuration.provenance.publisher.value)])
        ).flatMap (· ++ [0x3b]) := rfl
  rw [fields, cons_terminated]
  simp only [joined_append, joined_cons, joined_nil, bridge, segment, List.append_assoc,
    List.cons_append, List.append_nil]
  rfl

theorem segment_free {name value : Text} (named : Plain name) (free : (0x3b : UInt8) ∉ value) :
    (0x3b : UInt8) ∉ segment (name, value) := by
  simp only [segment, List.mem_append, not_or]
  exact ⟨⟨named.not_mem (by decide), by decide⟩, free⟩

theorem frontSegments_free (configuration : PortConfiguration) :
    ∀ segment ∈ configuration.frontSegments, (0x3b : UInt8) ∉ segment := by
  have plain {name value : Text} (named : Plain name) (free : Plain value) :
      (0x3b : UInt8) ∉ segment (name, value) := segment_free named (free.not_mem (by decide))
  simp only [frontSegments, canonicalFields, List.take_succ_cons, List.take_zero, List.map_cons,
    List.map_nil, List.forall_mem_cons]
  exact ⟨plain (by decide) (by simp), plain (by decide) (by simp), plain (by decide) (by simp),
    plain (by decide) (by simp), plain (by decide) (by simp), plain (by decide) (by simp),
    plain (by decide) (by simp), plain (by decide) (by simp), plain (by decide) (by simp),
    plain (by decide) (by simp), plain (by decide) (by simp), plain (by decide) (by simp),
    plain (by decide) (by simp), segment_free (by decide) configuration.lanes.not_mem_toText,
    plain (by decide) (by simp), plain (by decide) (by simp), plain (by decide) (by simp),
    plain (by decide) (by simp),
    segment_free (by decide) configuration.aggregation.not_mem_toText,
    segment_free (by decide) configuration.profile.not_mem_toText, List.forall_mem_nil _⟩

theorem frontSegments_alike {first second : PortConfiguration} :
    first.frontSegments = second.frontSegments ↔ first.FrontAlike second := by
  simp only [frontSegments, canonicalFields, List.take_succ_cons, List.take_zero, List.map_cons,
    List.map_nil, segment, List.cons.injEq, List.append_cancel_left_eq, and_true,
    StrongId.value_inj, Generation.formatOrEmpty_inj, PortSpeed.rendered_inj, Mtu.rendered_inj,
    LaneConfiguration.toText_inj, AggregationMembership.toText_alike, ProfileBinding.toText_alike,
    frontAlike_iff]

theorem middleSegments_free (configuration : PortConfiguration) :
    ∀ segment ∈ configuration.middleSegments, (0x3b : UInt8) ∉ segment := by
  have plain {name value : Text} (named : Plain name) (free : Plain value) :
      (0x3b : UInt8) ∉ segment (name, value) := segment_free named (free.not_mem (by decide))
  simp only [middleSegments, List.forall_mem_cons]
  exact ⟨plain (by decide) (by simp), plain (by decide) (by simp), plain (by decide) (by simp),
    plain (by decide) (by simp), plain (by decide) (by simp), List.forall_mem_nil _⟩

theorem middleSegments_alike {first second : PortConfiguration} :
    first.middleSegments = second.middleSegments ↔ first.MiddleAlike second := by
  simp only [middleSegments, segment, List.cons.injEq, List.append_cancel_left_eq, and_true,
    StrongId.value_inj, Generation.formatOrEmpty_inj, formatU64_inj, UInt32.toNat_inj,
    middleAlike_iff]

/-- Two configurations agree on everything a payload tells of them, field by field. -/
structure RenderedAlike (first second : PortConfiguration) : Prop where
  front : first.FrontAlike second
  role : first.role = second.role
  middle : first.MiddleAlike second
  source : first.provenance.source = second.provenance.source
  publisher : first.provenance.publisher = second.provenance.publisher

/--
The role of the second configuration continues with the bytes of other fields
of the first, and the provenance source of the first ends with those of the second.
-/
structure Injects (first second : PortConfiguration) : Prop where
  front : first.FrontAlike second
  publisher : first.provenance.publisher = second.provenance.publisher
  overlap : ∃ rest, second.role = first.role ++ (first.bridge ++ rest) ∧
    first.provenance.source = rest ++ (second.bridge ++ second.provenance.source)

theorem bridge_eq (configuration : PortConfiguration) :
    configuration.bridge =
      joined 0x3b configuration.middleSegments ++ 0x3b :: text "provenance_source=" := by
  rw [bridge, joined_append, joined_cons, joined_nil, List.append_nil]

theorem bridge_congr {first second : PortConfiguration} (middle : first.MiddleAlike second) :
    first.bridge = second.bridge := by
  rw [bridge, bridge, middleSegments_alike.mpr middle]

/-- Only the first field between the free texts starts with `l`. -/
theorem not_led (configuration : PortConfiguration) {before after : List Text} {field : Text}
    (split : configuration.middleSegments ++ [text "provenance_source="] =
      before ++ field :: after) (later : before ≠ []) :
    ∃ byte rest, field = byte :: rest ∧ byte ≠ 0x6c := by
  cases before with
  | nil => exact absurd rfl later
  | cons _ others =>
      have member : field ∈ others ++ field :: after := List.mem_append_right _ List.mem_cons_self
      have rest : configuration.middleSegments.tail ++ [text "provenance_source="] =
          others ++ field :: after := (List.cons.inj split).2
      rw [← rest] at member
      simp only [middleSegments, List.tail_cons, List.cons_append, List.nil_append,
        List.mem_cons] at member
      rcases member with rfl | rfl | rfl | rfl | rfl | absent
      · exact ⟨_, _, rfl, by decide⟩
      · exact ⟨_, _, rfl, by decide⟩
      · exact ⟨_, _, rfl, by decide⟩
      · exact ⟨_, _, rfl, by decide⟩
      · exact ⟨_, _, rfl, by decide⟩
      · cases absent

theorem Injects.role_ne {first second : PortConfiguration} (injects : first.Injects second) :
    first.role ≠ second.role := by
  intro same
  obtain ⟨rest, role, _⟩ := injects.overlap
  rw [← same] at role
  have empty := List.append_right_eq_self.mp role.symm
  rw [bridge_eq] at empty
  simp at empty

/-- The bytes between the free texts do not overlap with themselves. -/
theorem bridge_append {first second : PortConfiguration} {front back rest : Text}
    (same : first.bridge ++ back = front ++ (second.bridge ++ rest)) :
    (front = [] ∧ first.MiddleAlike second ∧ back = rest) ∨
      ∃ between, front = first.bridge ++ between ∧ back = between ++ (second.bridge ++ rest) := by
  obtain ⟨between, beyond, left⟩ | ⟨inside, within, left⟩ := List.append_eq_append_iff.mp same
  · exact .inr ⟨between, beyond, left⟩
  cases inside with
  | nil =>
      rw [List.append_nil] at within
      exact .inr ⟨[], by rw [within, List.append_nil], left.symm⟩
  | cons byte inside =>
      have led : byte = 0x3b := (List.cons.inj left).1.symm
      subst led
      have free : ∀ segment ∈ first.middleSegments ++ [text "provenance_source="],
          (0x3b : UInt8) ∉ segment := by
        intro segment member
        rcases List.mem_append.mp member with middle | last
        · exact first.middleSegments_free segment middle
        · rw [List.mem_singleton.mp last]
          decide
      obtain ⟨before, field, after, split, rfl, rfl⟩ := joined_eq_append free within
      by_cases later : before = []
      · subst later
        rw [joined_nil, List.nil_append] at within
        rw [← within, bridge_eq, bridge_eq] at left
        simp only [List.append_assoc, List.cons_append] at left
        have aligned : second.middleSegments.length = first.middleSegments.length := rfl
        obtain ⟨middle, sources⟩ := joined_inj aligned second.middleSegments_free
          first.middleSegments_free left
        exact .inl ⟨rfl, middleSegments_alike.mp middle.symm,
          (List.append_cancel_left sources).symm⟩
      · obtain ⟨byte, others, rfl, other⟩ := first.not_led split later
        have second_byte := (List.cons.inj (List.cons.inj left).2).1
        exact absurd second_byte.symm other

/-- The free texts of two configurations and what stands between them run into the same bytes. -/
theorem freeTexts_eq_iff {first second : PortConfiguration} :
    first.role ++ (first.bridge ++ first.provenance.source) =
        second.role ++ (second.bridge ++ second.provenance.source) ↔
      (first.role = second.role ∧ first.MiddleAlike second ∧
        first.provenance.source = second.provenance.source) ∨
      (∃ rest, second.role = first.role ++ (first.bridge ++ rest) ∧
        first.provenance.source = rest ++ (second.bridge ++ second.provenance.source)) ∨
      ∃ rest, first.role = second.role ++ (second.bridge ++ rest) ∧
        second.provenance.source = rest ++ (first.bridge ++ first.provenance.source) := by
  constructor
  · intro same
    -- One role is a prefix of the other: the same role, or one that swallows a whole bridge.
    obtain ⟨front, longer, left⟩ | ⟨front, longer, left⟩ := List.append_eq_append_iff.mp same
    · obtain ⟨rfl, middle, sources⟩ | ⟨rest, rfl, sources⟩ := bridge_append left
      · exact .inl ⟨by rw [longer, List.append_nil], middle, sources⟩
      · exact .inr (.inl ⟨rest, longer, sources⟩)
    · obtain ⟨rfl, middle, sources⟩ | ⟨rest, rfl, sources⟩ := bridge_append left
      · refine .inl ⟨by rw [longer, List.append_nil], ?_, sources.symm⟩
        exact middleSegments_alike.mp (middleSegments_alike.mpr middle).symm
      · exact .inr (.inr ⟨rest, longer, sources⟩)
  · intro given
    rcases given with ⟨role, middle, source⟩ | ⟨rest, role, source⟩ | ⟨rest, role, source⟩
    · rw [role, bridge_congr middle, source]
    · rw [role, source]
      simp only [List.append_assoc]
    · rw [role, source]
      simp only [List.append_assoc]

/-- Two configurations have one payload exactly when they agree or one injects into the other. -/
theorem canonicalPayload_eq_iff {first second : PortConfiguration} :
    canonicalPayload first = canonicalPayload second ↔
      first.RenderedAlike second ∨ first.Injects second ∨ second.Injects first := by
  have around : canonicalPayload first = canonicalPayload second ↔
      first.FrontAlike second ∧ first.provenance.publisher = second.provenance.publisher ∧
        first.role ++ (first.bridge ++ first.provenance.source) =
          second.role ++ (second.bridge ++ second.provenance.source) := by
    have led (configuration : PortConfiguration) :
        0x3b :: canonicalPayload configuration =
          (joined 0x3b configuration.frontSegments ++ 0x3b :: (text "role=" ++
            (configuration.role ++ (configuration.bridge ++ configuration.provenance.source)))) ++
            0x3b :: (text "provenance_publisher=" ++
              configuration.provenance.publisher.value) ++ [0x3b] := by
      rw [cons_canonicalPayload]
      simp only [List.append_assoc, List.cons_append]
    have publisher (configuration : PortConfiguration) : (0x3b : UInt8) ∉
        text "provenance_publisher=" ++ configuration.provenance.publisher.value := by
      rw [List.mem_append, not_or]
      exact ⟨by decide, configuration.provenance.publisher.plain.not_mem (by decide)⟩
    constructor
    · intro same
      have cut := congrArg (0x3b :: ·) same
      simp only [led] at cut
      obtain ⟨front, publishers⟩ := last_split (publisher _) (publisher _)
        (List.append_cancel_right cut)
      have aligned : first.frontSegments.length = second.frontSegments.length := rfl
      obtain ⟨fields, texts⟩ := joined_inj aligned first.frontSegments_free
        second.frontSegments_free front
      exact ⟨frontSegments_alike.mp fields, StrongId.ext (List.append_cancel_left publishers),
        List.append_cancel_left texts⟩
    · intro given
      rcases given with ⟨front, publisher, texts⟩
      have cut := led first
      rw [frontSegments_alike.mpr front, publisher, texts, ← led second] at cut
      exact (List.cons.inj cut).2
  have flipped : first.FrontAlike second ↔ second.FrontAlike first := by
    rw [← frontSegments_alike, ← frontSegments_alike]
    exact eq_comm
  rw [around, freeTexts_eq_iff]
  constructor
  · intro given
    rcases given with ⟨front, publisher, ⟨role, middle, source⟩ | overlap | overlap⟩
    · exact .inl ⟨front, role, middle, source, publisher⟩
    · exact .inr (.inl ⟨front, publisher, overlap⟩)
    · exact .inr (.inr ⟨flipped.mp front, publisher.symm, overlap⟩)
  · intro given
    rcases given with alike | injects | injects
    · exact ⟨alike.front, alike.publisher, .inl ⟨alike.role, alike.middle, alike.source⟩⟩
    · exact ⟨injects.front, injects.publisher, .inr (.inl injects.overlap)⟩
    · exact ⟨flipped.mpr injects.front, injects.publisher.symm, .inr (.inr injects.overlap)⟩

end PortConfiguration

namespace PortConfiguration

/-- The payloads of the two configurations agree, as their fields tell. -/
def MistakenFor (first second : PortConfiguration) : Prop :=
  first.RenderedAlike second ∨ first.Injects second ∨ second.Injects first

end PortConfiguration

/-- The profile a request assigns, or its release. -/
def ProfileRequest.Alike (first second : ProfileRequest) : Prop :=
  first.release = second.release ∧
    (first.release = false → first.profile = second.profile ∧ first.generation = second.generation)

namespace Mutation

/-- The payloads of the two requests agree, field by field. -/
def PayloadAlike : Mutation → Mutation → Prop
  | configure first, configure second | configure first, reconfigure second
  | reconfigure first, configure second | reconfigure first, reconfigure second =>
      first.configuration.MistakenFor second.configuration
  | administrative first, administrative second => first.op.toText = second.op.toText
  | assignProfile first, assignProfile second => first.Alike second
  | bindCapabilities first, bindCapabilities second =>
      first.binding.generation = second.binding.generation ∧
        first.binding.capabilities.Alike second.binding.capabilities
  | reconcile first, reconcile second => first.detail = second.detail
  | supersede first, supersede second => first.detail = second.detail
  | retire first, retire second => first.detail = second.detail
  | claimOwnership first, claimOwnership second
  | transferOwnership first, transferOwnership second =>
      first.ownerKind.toText = second.ownerKind.toText ∧ first.owner = second.owner
  | releaseOwnership _, releaseOwnership _ => True
  | recordAppliedEvidence first, recordAppliedEvidence second =>
      first.evidence.outcome.toText = second.evidence.outcome.toText ∧
        first.evidence.generation = second.evidence.generation
  | observeExternalState first, observeExternalState second =>
      first.observed.toText = second.observed.toText ∧ first.detail = second.detail
  | _, _ => False

/-- The bytes every payload of a kind starts with. -/
def tag : PortMutationKind → Text
  | .configure | .reconfigure => "record"
  | .administrative => "ADMINI"
  | .assignProfile => "ASSIGN"
  | .bindCapabilities => "BIND_C"
  | .reconcile => "RECONC"
  | .supersede => "SUPERS"
  | .retire => "RETIRE"
  | .claimOwnership => "CLAIM_"
  | .transferOwnership => "TRANSF"
  | .releaseOwnership => "RELEAS"
  | .recordAppliedEvidence => "RECORD"
  | .observeExternalState => "OBSERV"
  | .bindPort => []

theorem take_payload (mutation : Mutation) : mutation.payload.take 6 = tag mutation.kind := by
  cases mutation <;> rfl

theorem PayloadAlike.tag_eq {first second : Mutation} (alike : first.PayloadAlike second) :
    tag first.kind = tag second.kind := by
  cases first <;> cases second <;> first
    | rfl
    | cases alike

theorem separated_inj {first second back rest : Text} (plain : Plain first) (other : Plain second) :
    first ++ (text "|" ++ back) = second ++ (text "|" ++ rest) ↔ first = second ∧ back = rest := by
  constructor
  · exact first_split (plain.not_mem (by decide)) (other.not_mem (by decide))
  · intro given
    rcases given with ⟨rfl, rfl⟩
    rfl

theorem assignProfile_payload_eq_iff {first second : ProfileRequest} :
    (assignProfile first).payload = (assignProfile second).payload ↔ first.Alike second := by
  simp only [payload, ProfileRequest.Alike, List.append_cancel_left_eq]
  cases first.release <;> cases second.release <;>
    simp only [if_true, if_false, Bool.false_eq_true, reduceCtorEq, false_and, true_and,
      true_implies, false_implies, iff_false]
  · exact reference_inj
  · exact reference_ne (by decide)
  · exact fun same => reference_ne (by decide) same.symm

/-- The payload of a mutation tells exactly the fields compared here. -/
theorem payload_eq_iff {first second : Mutation} :
    first.payload = second.payload ↔ first.PayloadAlike second := by
  by_cases tagged : tag first.kind = tag second.kind
  · cases first <;> cases second <;> first
      | exact absurd tagged (by simp only [kind]; decide)
      | exact PortConfiguration.canonicalPayload_eq_iff
      | exact assignProfile_payload_eq_iff
      | simp [payload, PayloadAlike, separated_inj, PortCapabilities.toText_alike]
  · refine iff_of_false (fun same => tagged ?_) (fun alike => tagged alike.tag_eq)
    rw [← take_payload, same, take_payload]

end Mutation

end PortFabric
