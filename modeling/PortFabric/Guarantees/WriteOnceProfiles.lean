import PortFabric.ProfileProperties

/-!
# Write-once profiles

A registry only ever grows: every accepted new definition is stored behind the
earlier generations of its identifier and keeps its content for good.
-/

set_option autoImplicit false

namespace PortFabric

open ProfileRegistry

theorem get_after_append {calls : List PortProfile} {id : PortProfileId}
    {generation : PortProfileGeneration} {profile : PortProfile}
    (found : (after calls).get id generation = some profile) (later : List PortProfile) :
    (after (calls ++ later)).get id generation = some profile := by
  have kept (registry : ProfileRegistry) (other : PortProfile)
      (found : registry.get id generation = some profile) :
      (registry.next other).get id generation = some profile := get_define found other
  rw [after, Runs.run_append]
  exact Runs.invariant kept found later

/--
After any sequence of definitions, the stored generations of each profile start
at 1 and strictly increase, there are as many as new definitions were accepted,
and a definition that is found is found unchanged after any later calls.
-/
theorem profiles_written_once (calls : List PortProfile) :
    OrderedMap.Every (fun _ generations => Numbered generations) (after calls) ∧
      (after calls).list.length = (newDefinitions ∅ calls).length ∧
      ∀ id generation profile, (after calls).get id generation = some profile →
        ∀ later, (after (calls ++ later)).get id generation = some profile := by
  refine ⟨(ordered_after calls).numbered, ?_, fun _ _ _ found => get_after_append found⟩
  have stored := (Ordered.empty.list_run calls).length_eq
  have none : (∅ : ProfileRegistry).list = [] := by simp [list]
  rw [none, List.nil_append] at stored
  exact stored

end PortFabric
