import PortFabric.Guarantees.ContainerCodec
import PortFabric.Protocol.FrameProperties

/-!
# Corruption detection

A container or a frame of which one byte was changed, the end was lost, or to
which bytes were added is refused by its decoder, wherever the damage is.
-/

set_option autoImplicit false

namespace PortFabric

open Sealing (Damage)

/-- What is not accepted is refused with an outcome. -/
theorem refused_of_not_accepted {α : Type} {decoded : Except Outcome α}
    (unaccepted : ∀ value, decoded ≠ .ok value) : ∃ outcome, decoded = .error outcome := by
  cases decoded with
  | error outcome => exact ⟨outcome, rfl⟩
  | ok value => exact absurd rfl (unaccepted value)

theorem not_damage_container {payload other : Text} (bounded : payload.length < 2 ^ 64)
    (below : other.length < 2 ^ 64) : ¬Damage (container payload) (container other) :=
  Sealing.not_damage detects_checksum
    (by rw [length_containerFront, length_containerFront])
    (length_of_containerFront bounded below)

theorem not_damage_frame {frame other : Frame} (sendable : frame.Sendable)
    (acceptable : other.Sendable) : ¬Damage frame.document other.document :=
  Sealing.not_damage detects_checksum (by rw [frame.length_front, other.length_front])
    (Frame.length_of_front sendable acceptable)

theorem container_damage_refused {state : PersistedState} {bytes damaged : Text}
    (encoded : encodePersistedState state = .ok bytes) (damage : Damage bytes damaged) :
    ∃ outcome, decodePersistedState damaged = .error outcome := by
  obtain ⟨_, payload, _, bounded, rfl⟩ := encodePersistedState_eq_ok.mp encoded
  refine refused_of_not_accepted fun found accepted => ?_
  obtain ⟨_, other, _, below, rfl⟩ := decodePersistedState_eq_ok.mp accepted
  exact not_damage_container (Nat.lt_of_le_of_lt bounded (by decide))
    (Nat.lt_of_le_of_lt below (by decide)) damage

theorem frame_damage_refused {frame : Frame} {bytes damaged : Text}
    (encoded : encodeFrame frame = .ok bytes) (damage : Damage bytes damaged) :
    ∃ outcome, decodeFrame damaged = .error outcome := by
  obtain ⟨sendable, rfl⟩ := encodeFrame_eq_ok.mp encoded
  refine refused_of_not_accepted fun found accepted => ?_
  obtain ⟨acceptable, rfl⟩ := decodeFrame_eq_ok.mp accepted
  exact not_damage_frame sendable acceptable damage

/-- Damage to a container or to a frame never goes unnoticed. -/
theorem damage_detected :
    (∀ (state : PersistedState) (bytes damaged : Text),
        encodePersistedState state = .ok bytes → Damage bytes damaged →
          ∃ outcome, decodePersistedState damaged = .error outcome) ∧
      ∀ (frame : Frame) (bytes damaged : Text),
        encodeFrame frame = .ok bytes → Damage bytes damaged →
          ∃ outcome, decodeFrame damaged = .error outcome :=
  ⟨fun _ _ _ => container_damage_refused, fun _ _ _ => frame_damage_refused⟩

/-- A query whose payload holds two bytes. -/
def queryFrame : Frame where
  type := .query
  sequence := 7
  payload := [1, 2]

/-- A container with a changed byte is refused, and a frame whose end is changed, lost or longer. -/
theorem transfer_damage_detected :
    (∃ front byte back, front.length = 300 ∧
        encodePersistedState StoredFabric.state = .ok (front ++ byte :: back) ∧
        ∃ outcome, decodePersistedState (front ++ (byte + 1) :: back) = .error outcome) ∧
      ∃ front, encodeFrame queryFrame = .ok (front ++ [1, 2]) ∧
        ∀ tail ∈ [[1, 3], [1], [1, 2, 2]],
          ∃ outcome, decodeFrame (front ++ tail) = .error outcome := by
  constructor
  · obtain ⟨bytes, decoded, long, bounded⟩ := StoredFabric.decoded
    have encoded := encodePersistedState_decoded decoded bounded
    rw [← List.take_append_drop 300 bytes, List.drop_eq_getElem_cons long] at encoded
    refine ⟨_, _, _, List.length_take_of_le (Nat.le_of_lt long), encoded, ?_⟩
    refine damage_detected.1 _ _ _ encoded (.changed ⟨_, _, _, _, ?_, rfl, rfl⟩)
    simp
  · obtain ⟨front, written⟩ : ∃ front, queryFrame.document = front ++ [1, 2] := ⟨_, rfl⟩
    have encoded : encodeFrame queryFrame = .ok (front ++ [1, 2]) :=
      encodeFrame_eq_ok.mpr ⟨⟨rfl, by decide⟩, written.symm⟩
    refine ⟨front, encoded, ?_⟩
    intro tail member
    refine damage_detected.2 _ _ _ encoded ?_
    simp only [List.mem_cons, List.not_mem_nil, or_false] at member
    rcases member with rfl | rfl | rfl
    · exact .changed ⟨front ++ [1], 2, 3, [], by decide, by simp, by simp⟩
    · exact .shortened [2] (by decide) (by simp)
    · exact .extended [2] (by decide) (by simp)

end PortFabric
