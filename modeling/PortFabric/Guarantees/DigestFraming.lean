import PortFabric.CodecProperties
import PortFabric.Library.PrefixCodes

/-!
# Digest framing

A digest is taken of named fields, each framed by the length of its name and the
length of its value. The frames split, so the bytes that are hashed determine
the sequence of fields: no content of a field imitates a boundary.
-/

set_option autoImplicit false

namespace PortFabric

open PrefixCodes

/-- The bytes that a field adds to a digest. -/
def digestFrame (field : Text × Text) : Text :=
  (littleEndian 4 field.1.length ++ field.1) ++ (littleEndian 8 field.2.length ++ field.2)

/-- The lengths of the name and of the value fit their prefixes. -/
def FrameFits (field : Text × Text) : Prop :=
  field.1.length < 2 ^ 32 ∧ field.2.length < 2 ^ 64

instance (field : Text × Text) : Decidable (FrameFits field) :=
  inferInstanceAs (Decidable (_ ∧ _))

theorem splits_littleEndian (width : Nat) :
    Splits (fun value : Nat => value < 256 ^ width) (littleEndian width) :=
  Splits.fixed (length_littleEndian width) littleEndian_inj

theorem splits_digestFrame : Splits FrameFits digestFrame :=
  Splits.pair (splits_littleEndian 4).counted (splits_littleEndian 8).counted

theorem digestFrame_ne_nil (field : Text × Text) : digestFrame field ≠ [] := by
  intro empty
  have none := congrArg List.length empty
  simp only [digestFrame, List.length_append, length_littleEndian, List.length_nil] at none
  omega

namespace DigestBuilder

theorem buffer_addField (builder : DigestBuilder) (name value : Text) :
    (builder.addField name value).buffer = builder.buffer ++ digestFrame (name, value) := by
  simp only [addField, digestFrame, List.append_assoc]

/-- The builder collects the frames in the order in which the fields are added. -/
theorem buffer_addFields (builder : DigestBuilder) (fields : List (Text × Text)) :
    (builder.addFields fields).buffer = builder.buffer ++ fields.flatMap digestFrame := by
  induction fields generalizing builder with
  | nil => exact (List.append_nil _).symm
  | cons field fields ih =>
      change ((builder.addField field.1 field.2).addFields fields).buffer = _
      rw [ih, buffer_addField, List.flatMap_cons, List.append_assoc]

end DigestBuilder

/-- Two sequences of fields feed the hash the same bytes only when they are the same. -/
theorem framing_injective (first second : List (Text × Text))
    (left : ∀ field ∈ first, FrameFits field) (right : ∀ field ∈ second, FrameFits field) :
    (DigestBuilder.addFields {} first).buffer = (DigestBuilder.addFields {} second).buffer ↔
      first = second := by
  rw [DigestBuilder.buffer_addFields, DigestBuilder.buffer_addFields, List.append_cancel_left_eq]
  exact splits_digestFrame.flatMap_inj digestFrame_ne_nil left right

/-- The name of a second field is told from the content of the first one. -/
theorem boundary_told :
    (DigestBuilder.addFields {} [(text "a", text "b"), (text "c", [])]).buffer ≠
      (DigestBuilder.addFields {} [(text "a", text "bc")]).buffer := by
  intro same
  have equal := (framing_injective _ _ (by decide) (by decide)).mp same
  revert equal
  decide

end PortFabric
