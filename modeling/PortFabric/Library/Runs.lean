import Mathlib.Data.List.Basic

/-!
# Runs

Runs of a deterministic step function over a list of labels, conditions on the
steps of a run, and the rules that carry an invariant along a run.
-/

set_option autoImplicit false

namespace Runs

variable {σ ι : Type*} (step : σ → ι → σ)

/-- The state after the steps with the given labels. -/
def run (start : σ) (labels : List ι) : σ :=
  labels.foldl step start

/-- A condition holds of every step of the run: of its state before and its label. -/
def Along (condition : σ → ι → Prop) : σ → List ι → Prop
  | _, [] => True
  | state, label :: rest => condition state label ∧ Along condition (step state label) rest

/-- A property holds in every state of the run, the first and the last included. -/
def Throughout (holds : σ → Prop) : σ → List ι → Prop
  | state, [] => holds state
  | state, label :: rest => holds state ∧ Throughout holds (step state label) rest

variable {step}

@[simp] theorem run_nil (start : σ) : run step start [] = start := rfl

@[simp] theorem run_cons (start : σ) (label : ι) (rest : List ι) :
    run step start (label :: rest) = run step (step start label) rest := rfl

theorem run_append (start : σ) (front back : List ι) :
    run step start (front ++ back) = run step (run step start front) back :=
  List.foldl_append ..

theorem along_append {condition : σ → ι → Prop} {start : σ} {front back : List ι} :
    Along step condition start (front ++ back) ↔
      Along step condition start front ∧ Along step condition (run step start front) back := by
  induction front generalizing start with
  | nil => simp [Along]
  | cons label rest ih => simp [Along, ih, and_assoc]

theorem Along.imp {weak strong : σ → ι → Prop} {start : σ} {labels : List ι}
    (weaken : ∀ state label, strong state label → weak state label)
    (along : Along step strong start labels) : Along step weak start labels := by
  induction labels generalizing start with
  | nil => trivial
  | cons label rest ih => exact ⟨weaken _ _ along.1, ih along.2⟩

theorem Along.and {first second : σ → ι → Prop} {start : σ} {labels : List ι}
    (left : Along step first start labels) (right : Along step second start labels) :
    Along step (fun state label => first state label ∧ second state label) start labels := by
  induction labels generalizing start with
  | nil => trivial
  | cons label rest ih => exact ⟨⟨left.1, right.1⟩, ih left.2 right.2⟩

/-- A condition on the labels alone holds along every run of such labels. -/
theorem along_of_forall {allowed : ι → Prop} {start : σ} {labels : List ι}
    (every : ∀ label ∈ labels, allowed label) :
    Along step (fun _ label => allowed label) start labels := by
  induction labels generalizing start with
  | nil => trivial
  | cons label rest ih =>
      exact ⟨every label List.mem_cons_self,
        ih fun other member => every other (List.mem_cons_of_mem _ member)⟩

/-- Two conditions that agree under an invariant hold along the same runs of allowed labels. -/
theorem along_congr {auxiliary : σ → Prop} {allowed : ι → Prop} {first second : σ → ι → Prop}
    (supported : ∀ state label, auxiliary state → allowed label → auxiliary (step state label))
    (exactly : ∀ state label, auxiliary state → (first state label ↔ second state label))
    {start : σ} (initially : auxiliary start) {labels : List ι}
    (every : ∀ label ∈ labels, allowed label) :
    Along step first start labels ↔ Along step second start labels := by
  induction labels generalizing start with
  | nil => exact Iff.rfl
  | cons label rest ih =>
      have later := ih (supported start label initially (every label List.mem_cons_self))
        fun other member => every other (List.mem_cons_of_mem _ member)
      exact and_congr (exactly start label initially) later

/-- A decidable condition can be checked along a run. -/
instance decidableAlong {condition : σ → ι → Prop}
    [∀ state label, Decidable (condition state label)] :
    (start : σ) → (labels : List ι) → Decidable (Along step condition start labels)
  | _, [] => inferInstanceAs (Decidable True)
  | start, label :: rest =>
      have : Decidable (Along step condition (step start label) rest) :=
        decidableAlong (step start label) rest
      inferInstanceAs (Decidable (condition start label ∧
        Along step condition (step start label) rest))

/-- An invariant of every step needs no condition. -/
theorem invariant {holds : σ → Prop}
    (preserved : ∀ state label, holds state → holds (step state label))
    {start : σ} (initially : holds start) (labels : List ι) : holds (run step start labels) := by
  induction labels generalizing start with
  | nil => exact initially
  | cons label rest ih => exact ih (preserved start label initially)

/-- An invariant along the run holds throughout it. -/
theorem throughout_along {holds : σ → Prop} {condition : σ → ι → Prop}
    (preserved : ∀ state label, holds state → condition state label → holds (step state label))
    {start : σ} (initially : holds start) {labels : List ι}
    (along : Along step condition start labels) : Throughout step holds start labels := by
  induction labels generalizing start with
  | nil => exact initially
  | cons label rest ih =>
      exact ⟨initially, ih (preserved start label initially along.1) along.2⟩

/-- A decidable property can be checked in every state of a run. -/
instance decidableThroughout {holds : σ → Prop} [DecidablePred holds] :
    (start : σ) → (labels : List ι) → Decidable (Throughout step holds start labels)
  | start, [] => inferInstanceAs (Decidable (holds start))
  | start, label :: rest =>
      have : Decidable (Throughout step holds (step start label) rest) :=
        decidableThroughout (step start label) rest
      inferInstanceAs (Decidable (holds start ∧ Throughout step holds (step start label) rest))

theorem Throughout.first {holds : σ → Prop} {start : σ} {labels : List ι}
    (throughout : Throughout step holds start labels) : holds start := by
  cases labels with
  | nil => exact throughout
  | cons label rest => exact throughout.1

theorem Throughout.last {holds : σ → Prop} {start : σ} {labels : List ι}
    (throughout : Throughout step holds start labels) : holds (run step start labels) := by
  induction labels generalizing start with
  | nil => exact throughout
  | cons label rest ih => exact ih throughout.2

theorem Throughout.imp {weak strong : σ → Prop} {start : σ} {labels : List ι}
    (weaken : ∀ state, strong state → weak state)
    (throughout : Throughout step strong start labels) : Throughout step weak start labels := by
  induction labels generalizing start with
  | nil => exact weaken _ throughout
  | cons label rest ih => exact ⟨weaken _ throughout.1, ih throughout.2⟩

/-- A property of every state and one of every label are a condition along the run. -/
theorem Throughout.along {holds : σ → Prop} {allowed : ι → Prop} {start : σ} {labels : List ι}
    (throughout : Throughout step holds start labels) (every : ∀ label ∈ labels, allowed label) :
    Along step (fun state label => holds state ∧ allowed label) start labels := by
  induction labels generalizing start with
  | nil => trivial
  | cons label rest ih =>
      exact ⟨⟨throughout.1, every label List.mem_cons_self⟩,
        ih throughout.2 fun other member => every other (List.mem_cons_of_mem _ member)⟩

theorem Throughout.concat {holds : σ → Prop} {start : σ} {labels : List ι} {label : ι}
    (throughout : Throughout step holds start labels)
    (last : holds (run step start (labels ++ [label]))) :
    Throughout step holds start (labels ++ [label]) := by
  induction labels generalizing start with
  | nil => exact ⟨throughout, last⟩
  | cons first rest ih => exact ⟨throughout.1, ih throughout.2 last⟩

/-- Something happened at a step of the run, and a property has held in every state since. -/
def Since (step : σ → ι → σ) (happened : σ → ι → Prop) (kept : σ → Prop) (start : σ)
    (labels : List ι) : Prop :=
  ∃ front label back, labels = front ++ label :: back ∧ happened (run step start front) label ∧
    Throughout step kept (step (run step start front) label) back

theorem Since.now {happened : σ → ι → Prop} {kept : σ → Prop} {start : σ} {labels : List ι}
    {label : ι} (happens : happened (run step start labels) label)
    (holds : kept (run step start (labels ++ [label]))) :
    Since step happened kept start (labels ++ [label]) := by
  refine ⟨labels, label, [], rfl, happens, ?_⟩
  rw [run_append] at holds
  exact holds

theorem Since.concat {happened : σ → ι → Prop} {kept : σ → Prop} {start : σ} {labels : List ι}
    {label : ι} (since : Since step happened kept start labels)
    (holds : kept (run step start (labels ++ [label]))) :
    Since step happened kept start (labels ++ [label]) := by
  obtain ⟨front, moment, back, rfl, happened, throughout⟩ := since
  refine ⟨front, moment, back ++ [label], by simp, happened, throughout.concat ?_⟩
  rw [List.append_assoc, run_append] at holds
  exact holds

/--
Exact run rule: under an auxiliary invariant, a property is kept by a step
exactly when the step meets the condition, so it holds throughout a run exactly
when every step of the run meets the condition.
-/
theorem throughout_iff_along {auxiliary holds : σ → Prop} {condition : σ → ι → Prop}
    (supported : ∀ state label, auxiliary state → holds state → condition state label →
      auxiliary (step state label))
    (exactly : ∀ state label, auxiliary state → holds state →
      (holds (step state label) ↔ condition state label))
    {start : σ} (initially : auxiliary start) (held : holds start) {labels : List ι} :
    Throughout step holds start labels ↔ Along step condition start labels := by
  induction labels generalizing start with
  | nil => simp [Throughout, Along, held]
  | cons label rest ih =>
      constructor
      · intro throughout
        have met := (exactly start label initially held).mp throughout.2.first
        exact ⟨met, (ih (supported start label initially held met) throughout.2.first).mp
          throughout.2⟩
      · intro along
        have kept := (exactly start label initially held).mpr along.1
        exact ⟨held, (ih (supported start label initially held along.1) kept).mpr along.2⟩

/-- The exact run rule for a property that needs no auxiliary invariant. -/
theorem throughout_iff_along_of_step {holds : σ → Prop} {condition : σ → ι → Prop}
    (exactly : ∀ state label, holds state → (holds (step state label) ↔ condition state label))
    {start : σ} (held : holds start) {labels : List ι} :
    Throughout step holds start labels ↔ Along step condition start labels := by
  have supported (state : σ) (label : ι) (_ : True) (_ : holds state)
      (_ : condition state label) : True := trivial
  exact throughout_iff_along supported (fun state label _ => exactly state label) trivial held

section Stamps

variable {κ : Type*} {stamp : σ → Nat} {contents : σ → κ} {condition : σ → ι → Prop}

/-- A run whose steps never take a stamp back ends no earlier than it starts. -/
theorem stamp_le_run
    (monotone : ∀ state label, condition state label → stamp state ≤ stamp (step state label))
    {start : σ} {labels : List ι} (along : Along step condition start labels) :
    stamp start ≤ stamp (run step start labels) := by
  induction labels generalizing start with
  | nil => exact Nat.le_refl _
  | cons label rest ih => exact Nat.le_trans (monotone start label along.1) (ih along.2)

/-- Where a step that keeps the stamp keeps the contents, a run does so too. -/
theorem contents_kept
    (monotone : ∀ state label, condition state label → stamp state ≤ stamp (step state label))
    (kept : ∀ state label, condition state label → stamp (step state label) = stamp state →
      contents (step state label) = contents state)
    {start : σ} {labels : List ι} (along : Along step condition start labels)
    (same : stamp (run step start labels) = stamp start) :
    contents (run step start labels) = contents start := by
  induction labels generalizing start with
  | nil => rfl
  | cons label rest ih =>
      have upper := stamp_le_run monotone along.2
      have lower := monotone start label along.1
      rw [run_cons] at same
      have first : stamp (step start label) = stamp start := by omega
      exact (ih along.2 (same.trans first.symm)).trans (kept start label along.1 first)

/-- Two states of one run that bear the same stamp have the same contents. -/
theorem contents_eq_of_stamp_eq (stamp : σ → Nat) (contents : σ → κ)
    (monotone : ∀ state label, condition state label → stamp state ≤ stamp (step state label))
    (kept : ∀ state label, condition state label → stamp (step state label) = stamp state →
      contents (step state label) = contents state)
    {start : σ} {labels first second : List ι} (along : Along step condition start labels)
    (former : first <+: labels) (latter : second <+: labels)
    (same : stamp (run step start first) = stamp (run step start second)) :
    contents (run step start first) = contents (run step start second) := by
  have ordered {front back : List ι} (within : back <+: labels) (earlier : front <+: back)
      (same : stamp (run step start back) = stamp (run step start front)) :
      contents (run step start back) = contents (run step start front) := by
    obtain ⟨middle, rfl⟩ := earlier
    obtain ⟨rest, rfl⟩ := within
    rw [run_append] at same ⊢
    exact contents_kept monotone kept (along_append.mp (along_append.mp along).1).2 same
  obtain earlier | later := List.prefix_or_prefix_of_prefix former latter
  · exact (ordered latter earlier same.symm).symm
  · exact ordered former later same

end Stamps

section Reachability

variable {allowed : ι → Prop} {start middle finish : σ}

/-- A run over allowed labels leads from the start to the finish. -/
def Reaches (step : σ → ι → σ) (allowed : ι → Prop) (start finish : σ) : Prop :=
  ∃ labels, (∀ label ∈ labels, allowed label) ∧ run step start labels = finish

theorem Reaches.refl (start : σ) : Reaches step allowed start start :=
  ⟨[], List.forall_mem_nil _, rfl⟩

theorem Reaches.single {label : ι} (permitted : allowed label) :
    Reaches step allowed start (step start label) :=
  ⟨[label], by simpa using permitted, rfl⟩

theorem Reaches.trans (front : Reaches step allowed start middle)
    (back : Reaches step allowed middle finish) : Reaches step allowed start finish := by
  obtain ⟨first, firstAllowed, rfl⟩ := front
  obtain ⟨second, secondAllowed, rfl⟩ := back
  exact ⟨first ++ second, List.forall_mem_append.mpr ⟨firstAllowed, secondAllowed⟩,
    run_append start first second⟩

/-- What every allowed step keeps holds wherever the runs lead. -/
theorem Reaches.keeps {holds : σ → Prop}
    (kept : ∀ state label, allowed label → holds state → holds (step state label))
    (reached : Reaches step allowed start finish) (held : holds start) : holds finish := by
  obtain ⟨labels, permitted, rfl⟩ := reached
  induction labels generalizing start with
  | nil => exact held
  | cons label rest ih =>
      exact ih (kept start label (permitted label List.mem_cons_self) held)
        fun other member => permitted other (List.mem_cons_of_mem _ member)

end Reachability

end Runs
