import PortFabric.Library.Runs

/-!
# Histories

What the steps of a run yield in their order, the conditions some step of it has
met, and the rule that carries a statement about the history along the run.
-/

set_option autoImplicit false

namespace Runs

variable {σ ι ε : Type*} {step : σ → ι → σ}

/-- What the steps of a run yield, in their order. -/
def yields (step : σ → ι → σ) (yield : σ → ι → List ε) : σ → List ι → List ε
  | _, [] => []
  | state, label :: rest => yield state label ++ yields step yield (step state label) rest

/-- Some step of the run meets the condition, by its state before and its label. -/
def Passes (step : σ → ι → σ) (condition : σ → ι → Prop) (start : σ) (labels : List ι) : Prop :=
  ∃ front label back, labels = front ++ label :: back ∧ condition (run step start front) label

/-- The property holds in some state of the run, the first and the last included. -/
def Visits (step : σ → ι → σ) (holds : σ → Prop) (start : σ) (labels : List ι) : Prop :=
  ∃ earlier, earlier <+: labels ∧ holds (run step start earlier)

theorem yields_concat {yield : σ → ι → List ε} (start : σ) (labels : List ι) (label : ι) :
    yields step yield start (labels ++ [label]) =
      yields step yield start labels ++ yield (run step start labels) label := by
  induction labels generalizing start with
  | nil => simp [yields]
  | cons first rest ih =>
      rw [List.cons_append, yields, ih, yields, List.append_assoc]
      rfl

theorem Passes.concat {condition : σ → ι → Prop} {start : σ} {labels : List ι}
    (passes : Passes step condition start labels) (label : ι) :
    Passes step condition start (labels ++ [label]) := by
  obtain ⟨front, passed, back, rfl, holds⟩ := passes
  exact ⟨front, passed, back ++ [label], by simp, holds⟩

theorem Passes.last {condition : σ → ι → Prop} {start : σ} {labels : List ι} {label : ι}
    (holds : condition (run step start labels) label) :
    Passes step condition start (labels ++ [label]) :=
  ⟨labels, label, [], rfl, holds⟩

/-- A step that meets the condition is the last one, or it was made before. -/
theorem passes_concat {condition : σ → ι → Prop} {start : σ} {labels : List ι} {label : ι} :
    Passes step condition start (labels ++ [label]) ↔
      Passes step condition start labels ∨ condition (run step start labels) label := by
  constructor
  · intro given
    obtain ⟨front, passed, back, same, holds⟩ := given
    rcases List.eq_nil_or_concat back with rfl | ⟨rest, final, rfl⟩
    · obtain ⟨rfl, last⟩ := List.append_inj' same rfl
      cases last
      exact .inr holds
    · rw [List.concat_eq_append, ← List.cons_append, ← List.append_assoc] at same
      obtain ⟨rfl, last⟩ := List.append_inj' same rfl
      exact .inl ⟨front, passed, rest, rfl, holds⟩
  · intro given
    rcases given with before | now
    · exact before.concat label
    · exact .last now

theorem Visits.now {holds : σ → Prop} {start : σ} {labels : List ι}
    (held : holds (run step start labels)) : Visits step holds start labels :=
  ⟨labels, List.prefix_rfl, held⟩

theorem Visits.concat {holds : σ → Prop} {start : σ} {labels : List ι}
    (visits : Visits step holds start labels) (label : ι) :
    Visits step holds start (labels ++ [label]) := by
  obtain ⟨earlier, before, held⟩ := visits
  exact ⟨earlier, before.trans (List.prefix_append ..), held⟩

/-- What every allowed step keeps holds after a run of allowed steps. -/
theorem invariant_of_forall_mem {holds : σ → Prop} {allowed : ι → Prop}
    (preserved : ∀ state label, allowed label → holds state → holds (step state label))
    {start : σ} (initially : holds start) {labels : List ι}
    (every : ∀ label ∈ labels, allowed label) : holds (run step start labels) := by
  have reached : Reaches step allowed start (run step start labels) := ⟨labels, every, rfl⟩
  exact reached.keeps preserved initially

/-- What every step adds to the history of a run holds of the whole run. -/
theorem history (holds : List ι → σ → Prop) {start : σ} (initially : holds [] start)
    (preserved : ∀ labels label, holds labels (run step start labels) →
      holds (labels ++ [label]) (step (run step start labels) label))
    (labels : List ι) : holds labels (run step start labels) := by
  have later : ∀ front, holds front (run step start front) →
      holds (front ++ labels) (run step start (front ++ labels)) := by
    induction labels with
    | nil =>
        intro front held
        rwa [List.append_nil]
    | cons label rest ih =>
        intro front held
        have next := preserved front label held
        rw [List.append_cons]
        exact ih _ (by rwa [run_append])
  exact later [] initially

end Runs
