import PortFabric.Engine.RecordInvariants

/-!
# Unresolved applies

An apply whose outcome is unknown is never presented as an active port. The two
writers of that outcome fence the port, and every writer that makes a port live
settles its evidence with another outcome.
-/

set_option autoImplicit false

namespace PortFabric

/-- The outcome of the last apply is known. -/
def PortRecord.ApplyKnown (record : PortRecord) : Prop :=
  record.applied.outcome ≠ .outcomeUnknown

section Commits

variable {runtime : Runtime} {impl : EngineImpl} {mutation : Mutation} {answers : MutationAnswers}
  {snapshot final : PortRecord} {plan : MutationPlan}

theorem PortRecord.WhileLive.known_congr {record other : PortRecord}
    (known : record.WhileLive PortRecord.ApplyKnown)
    (lifecycle : other.lifecycle.isLive = true → record.lifecycle.isLive = true)
    (outcome : other.applied.outcome = record.applied.outcome) :
    other.WhileLive PortRecord.ApplyKnown := by
  intro live
  rw [ApplyKnown, outcome]
  exact known (lifecycle live)

/-- A plan that is not applied leaves no port live whose last apply is unresolved. -/
theorem Proposal.applyKnown {input : MutationBuildInput}
    (known : input.current.WhileLive PortRecord.ApplyKnown)
    (proposed : Proposal mutation input plan) (unapplied : plan.requiresApply = false) :
    plan.next.WhileLive PortRecord.ApplyKnown := by
  cases proposed with
  | configured _ _ _ _ planned =>
      subst planned
      cases unapplied
  | replaced _ _ _ _ _ planned =>
      subst planned
      cases unapplied
  | administered _ _ live _ _ next =>
      rw [next]
      exact known.known_congr (fun _ => live) rfl
  | @rebound request _ _ next =>
      obtain ⟨_, _, _, _, _, same, ⟨fenced, _⟩ | ⟨kept, _⟩⟩ :=
        (input.current.withEvidence request.binding).reexamined_eq request.binding
      · rw [next, same]
        exact .of_not_live (fenced ▸ rfl)
      · rw [next, same]
        exact known.known_congr (fun live => kept ▸ live) rfl
  | reconciled _ _ _ _ planned =>
      subst planned
      cases unapplied
  | @fenced lifecycle reason detail retire _ _ allowed result next =>
      obtain ⟨_, _, same⟩ := (input.current.fenced lifecycle reason detail).disowned_eq retire
      rw [next]
      dsimp only
      rw [same]
      refine .of_not_live (result ▸ fence_not_live ?_ allowed)
      cases retire
      · exact .inr (.inl rfl)
      · exact .inl rfl
  | reowned _ _ next =>
      rw [next]
      exact known.known_congr id rfl
  | @evidenced request _ _ _ _ next =>
      rw [next]
      by_cases unknown : request.evidence.outcome = .outcomeUnknown
      · exact .of_not_live (input.current.evidenced_not_live unknown)
      · obtain ⟨_, same⟩ := input.current.evidenced_applied request.evidence
        intro _
        rw [PortRecord.ApplyKnown, same]
        exact unknown
  | @observed request _ _ next =>
      have outcome : (input.current.drifted request.observed request.detail).applied.outcome =
          input.current.applied.outcome := by
        rw [PortRecord.drifted_applied]
        split
        · rfl
        · rfl
      obtain ⟨_, _, _, _, _, same, kept | ⟨_, fenced⟩ | ⟨allowed, conflicted⟩⟩ :=
        input.current.drifted_eq request.observed request.detail
      · rw [next]
        exact known.known_congr (fun live => by rwa [same, kept] at live) outcome
      · rw [next, same]
        exact .of_not_live (fenced ▸ rfl)
      · rw [next, same]
        exact .of_not_live (conflicted ▸ fence_not_live (.inr (.inr rfl)) allowed)

/-- A commit settles the evidence of an apply with a known outcome. -/
theorem Commits.applyKnown (known : snapshot.WhileLive PortRecord.ApplyKnown)
    (commits : Commits runtime mutation answers impl snapshot plan final) :
    final.WhileLive PortRecord.ApplyKnown := by
  obtain ⟨_, proposal, applied, _, _, proposed, _, _, rfl, settlement⟩ := commits.settlement
  by_cases required : proposal.requiresApply = true
  · exact fun _ => (settlement.decided required).known
  · have unapplied : proposal.requiresApply = false := by simpa using required
    obtain ⟨rfl, _⟩ := settlement.unapplied unapplied
    have standing : proposal.next.WhileLive PortRecord.ApplyKnown :=
      proposed.applyKnown known unapplied
    exact standing

end Commits

/-- In every reachable state, a record of an unresolved apply is not live. -/
theorem unresolved_not_live (runtime : Runtime) (operations : List Operation) :
    OrderedMap.Every
      (fun _ record => record.applied.outcome = .outcomeUnknown →
        record.lifecycle.isLive = false)
      (EngineImpl.after runtime operations).records := by
  have invariant : RecordInvariant fun _ record => record.WhileLive PortRecord.ApplyKnown :=
    whileLive_invariant fun _ _ _ known => known
  have known : OrderedMap.Every (fun _ record => record.WhileLive PortRecord.ApplyKnown)
      (EngineImpl.after runtime operations).records := by
    refine after_every invariant (fun impl operation every => ?_) operations
    cases operation with
    | mutate mutation answers =>
        exact fun _ _ _ commits =>
          commits.applyKnown (every _ _ commits.toPlanned.snapshot_found)
    | load container => exact fun state _ => restored_whileLive state.records
    | _ => trivial
  intro port record found unresolved
  by_contra live
  exact known port record found (by simpa using live) unresolved

end PortFabric
