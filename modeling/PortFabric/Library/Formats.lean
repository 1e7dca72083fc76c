import Mathlib.Data.List.Basic
import Mathlib.Data.List.Pairwise

/-!
# Formats

A layout describes the document of a value piece by piece. A parser reads a
layout when it accepts exactly the documents of the legal values, each in front
of any rest: one equivalence that is both the round trip and canonicity.
-/

set_option autoImplicit false

namespace Formats

variable {ε δ σ α β : Type}

/-- A document in pieces; a missing piece cannot be written. -/
abbrev Layout (σ : Type) := List (Option (List σ))

namespace Layout

/-- The whole document, when every piece can be written. -/
def document : Layout σ → Option (List σ)
  | [] => some []
  | piece :: rest => piece.bind fun front => (document rest).map (front ++ ·)

@[simp] theorem document_nil : document ([] : Layout σ) = some [] := rfl

theorem document_cons {piece : Option (List σ)} {rest : Layout σ} {whole : List σ} :
    document (piece :: rest) = some whole ↔
      ∃ front back, piece = some front ∧ document rest = some back ∧ whole = front ++ back := by
  simp only [document, Option.bind_eq_some_iff, Option.map_eq_some_iff]
  constructor
  · intro given
    rcases given with ⟨front, rfl, back, written, rfl⟩
    exact ⟨front, back, rfl, written, rfl⟩
  · intro given
    rcases given with ⟨front, back, rfl, written, rfl⟩
    exact ⟨front, rfl, back, written, rfl⟩

theorem document_append {front back : Layout σ} {whole : List σ} :
    document (front ++ back) = some whole ↔
      ∃ head tail, document front = some head ∧ document back = some tail ∧
        whole = head ++ tail := by
  induction front generalizing whole with
  | nil => simp
  | cons piece front ih =>
      simp only [List.cons_append, document_cons, ih]
      constructor
      · intro given
        rcases given with ⟨first, _, rfl, ⟨head, tail, written, rest, rfl⟩, rfl⟩
        exact ⟨first ++ head, tail, ⟨first, head, rfl, written, rfl⟩, rest,
          (List.append_assoc ..).symm⟩
      · intro given
        rcases given with ⟨_, tail, ⟨first, head, rfl, written, rfl⟩, rest, rfl⟩
        exact ⟨first, head ++ tail, rfl, ⟨head, tail, written, rest, rfl⟩,
          List.append_assoc ..⟩

@[simp] theorem document_piece {piece : Option (List σ)} : document [piece] = piece := by
  cases piece with
  | none => rfl
  | some front => simp [document]

/-- Every piece can be written. -/
def Whole (layout : Layout σ) : Prop :=
  ∀ piece ∈ layout, piece.isSome = true

theorem whole_iff {layout : Layout σ} :
    Whole layout ↔ ∃ whole, document layout = some whole := by
  induction layout with
  | nil => simp [Whole]
  | cons piece rest ih =>
      rw [Whole, List.forall_mem_cons, ← Whole, ih]
      simp only [document_cons, Option.isSome_iff_exists]
      constructor
      · intro given
        rcases given with ⟨⟨front, written⟩, back, others⟩
        exact ⟨front ++ back, front, back, written, others, rfl⟩
      · intro given
        rcases given with ⟨_, front, back, written, others, _⟩
        exact ⟨⟨front, written⟩, back, others⟩

@[simp] theorem whole_nil : Whole ([] : Layout σ) := List.forall_mem_nil _

@[simp] theorem whole_append {front back : Layout σ} :
    Whole (front ++ back) ↔ Whole front ∧ Whole back :=
  List.forall_mem_append

@[simp] theorem whole_flatMap {values : List α} {layout : α → Layout σ} :
    Whole (values.flatMap layout) ↔ ∀ value ∈ values, Whole (layout value) := by
  induction values with
  | nil => simp
  | cons value values ih => simp [List.flatMap_cons, ih]

/-- The length of the document, when there is one. -/
def size : Layout σ → Nat
  | [] => 0
  | piece :: rest => piece.elim 0 List.length + size rest

@[simp] theorem size_nil : size ([] : Layout σ) = 0 := rfl

@[simp] theorem size_cons {piece : Option (List σ)} {rest : Layout σ} :
    size (piece :: rest) = piece.elim 0 List.length + size rest := rfl

@[simp] theorem size_append {front back : Layout σ} :
    size (front ++ back) = size front + size back := by
  induction front with
  | nil => simp
  | cons piece front ih => simp [ih, Nat.add_assoc]

theorem length_document {layout : Layout σ} {whole : List σ}
    (written : document layout = some whole) : whole.length = size layout := by
  induction layout generalizing whole with
  | nil =>
      cases written
      rfl
  | cons piece rest ih =>
      obtain ⟨front, back, rfl, tail, rfl⟩ := document_cons.mp written
      rw [List.length_append, ih tail]
      rfl

theorem le_size_flatMap {layout : α → Layout σ} {values : List α} {least : Nat}
    (each : ∀ value ∈ values, least ≤ size (layout value)) :
    least * values.length ≤ size (values.flatMap layout) := by
  induction values with
  | nil => exact Nat.zero_le _
  | cons value values ih =>
      obtain ⟨first, others⟩ := List.forall_mem_cons.mp each
      have rest := ih others
      rw [List.flatMap_cons, size_append, List.length_cons, Nat.mul_succ]
      omega

theorem size_flatMap_le {layout : α → Layout σ} {values : List α} {most : Nat}
    (each : ∀ value ∈ values, size (layout value) ≤ most) :
    size (values.flatMap layout) ≤ most * values.length := by
  induction values with
  | nil => exact Nat.zero_le _
  | cons value values ih =>
      obtain ⟨first, others⟩ := List.forall_mem_cons.mp each
      have rest := ih others
      rw [List.flatMap_cons, size_append, List.length_cons, Nat.mul_succ]
      omega

end Layout

/-- A parser returns what it read and the input it left, or an error. -/
abbrev Parser (ε σ : Type) := StateT (List σ) (Except ε)

namespace Parser

/-- Turns what is read into another value, when there is one for it. -/
def convert (parser : Parser ε σ α) (make : α → Option β) (error : ε) : Parser ε σ β := do
  match make (← parser) with
  | some made => pure made
  | none => throw error

/-- A flag says whether a value follows. -/
def optional (flag : Parser ε σ Bool) (parser : Parser ε σ α) : Parser ε σ (Option α) := do
  if ← flag then
    return some (← parser)
  else
    return none

/-- Any failure is reported as the given error. -/
def required (parser : Parser ε σ α) (error : δ) : Parser δ σ α :=
  fun input => (parser.run input).mapError fun _ => error

def times (parser : Parser ε σ α) : Nat → Parser ε σ (List α)
  | 0 => pure []
  | count + 1 => do
      let value ← parser
      return value :: (← times parser count)

/-- Reads values of which none clashes with an earlier one. -/
def distinct (parser : Parser ε σ α) (clash : α → α → Bool) (error : ε) :
    Nat → List α → Parser ε σ (List α)
  | 0, _ => pure []
  | count + 1, seen => do
      let value ← parser
      if seen.any fun earlier => clash earlier value then
        throw error
      else
        return value :: (← distinct parser clash error count (seen ++ [value]))

end Parser

/-- Among the values on the side, the parser reads the documents of the legal ones. -/
def Reads (side : α → Prop) (parser : Parser ε σ α) (layout : α → Layout σ)
    (legal : α → Prop) : Prop :=
  ∀ (input : List σ) (value : α) (rest : List σ), parser.run input = .ok (value, rest) ↔
    side value ∧ legal value ∧
      ∃ document, (layout value).document = some document ∧ input = document ++ rest

section Running

variable {first : Parser ε σ α} {input rest : List σ}

theorem run_bind_ok {next : α → Parser ε σ β} {value : β} :
    (first >>= next).run input = .ok (value, rest) ↔
      ∃ found middle, first.run input = .ok (found, middle) ∧
        (next found).run middle = .ok (value, rest) := by
  rw [StateT.run_bind]
  cases first.run input with
  | error error => simp [bind, Except.bind]
  | ok found =>
      obtain ⟨found, middle⟩ := found
      constructor
      · intro read
        exact ⟨found, middle, rfl, read⟩
      · intro given
        rcases given with ⟨_, _, same, read⟩
        cases same
        exact read

theorem run_pure_ok {given value : α} :
    (pure given : Parser ε σ α).run input = .ok (value, rest) ↔ given = value ∧ input = rest := by
  change Except.ok (given, input) = .ok (value, rest) ↔ _
  simp

theorem run_get_ok {found : List σ} :
    (get : Parser ε σ (List σ)).run input = .ok (found, rest) ↔ input = found ∧ input = rest := by
  change Except.ok (input, input) = .ok (found, rest) ↔ _
  simp

theorem run_throw {error : ε} : (throw error : Parser ε σ α).run input = .error error := rfl

theorem run_throw_ne_ok {error : ε} {result : α × List σ} :
    (throw error : Parser ε σ α).run input ≠ .ok result :=
  nofun

end Running

namespace Reads

/-- The same parser for another description of its documents and values. -/
theorem congr {side : α → Prop} {parser : Parser ε σ α} {layout same : α → Layout σ}
    {legal lawful : α → Prop} (reads : Reads side parser layout legal)
    (pieces : ∀ value, layout value = same value) (iff : ∀ value, legal value ↔ lawful value) :
    Reads side parser same lawful := by
  intro input value rest
  rw [reads, pieces, iff]

/-- What is legal may be stated in terms of the side condition. -/
theorem agree {side : α → Prop} {parser : Parser ε σ α} {layout : α → Layout σ}
    {legal lawful : α → Prop} (reads : Reads side parser layout legal)
    (iff : ∀ value, side value → (legal value ↔ lawful value)) :
    Reads side parser layout lawful := by
  intro input value rest
  rw [reads]
  exact and_congr_right fun kept => and_congr_left' (iff value kept)

section Fields

variable {side : β → Prop} {first : Parser ε σ α} {next : α → Parser ε σ β}
  {layout : α → Layout σ} {pieces : β → List (Layout σ)} {legal : α → Prop} {others : β → Prop}

/-- The next field of a value is read, and the rest of the value agrees with it. -/
theorem field (get : β → α) (reads : Reads (fun _ => True) first layout legal)
    (rest : ∀ found, Reads (fun value => side value ∧ get value = found) (next found)
      (fun value => (pieces value).flatten) others) :
    Reads side (first >>= next) (fun value => (layout (get value) :: pieces value).flatten)
      (fun value => legal (get value) ∧ others value) := by
  intro input value tail
  simp only [run_bind_ok, reads _ _ _, rest _ _ _ _, List.flatten_cons, Layout.document_append]
  constructor
  · intro given
    rcases given with ⟨_, _, ⟨_, accepted, head, written, rfl⟩, ⟨kept, rfl⟩, accepts, back,
      follows, rfl⟩
    exact ⟨kept, ⟨accepted, accepts⟩, head ++ back, ⟨head, back, written, follows, rfl⟩,
      (List.append_assoc ..).symm⟩
  · intro given
    rcases given with ⟨kept, ⟨accepted, accepts⟩, _, ⟨head, back, written, follows, rfl⟩, rfl⟩
    exact ⟨get value, back ++ tail, ⟨trivial, accepted, head, written, List.append_assoc ..⟩,
      ⟨kept, rfl⟩, accepts, back, follows, rfl⟩

/-- A field that is legal whenever the whole value is. -/
theorem implied (get : β → α) (reads : Reads (fun _ => True) first layout legal)
    (follows : ∀ value, others value → legal (get value))
    (rest : ∀ found, Reads (fun value => side value ∧ get value = found) (next found)
      (fun value => (pieces value).flatten) others) :
    Reads side (first >>= next) (fun value => (layout (get value) :: pieces value).flatten)
      others :=
  (field get reads rest).congr (fun _ => rfl) fun value => and_iff_right_of_imp (follows value)

/-- A field of which every value is legal. -/
theorem free (get : β → α) (reads : Reads (fun _ => True) first layout fun _ => True)
    (rest : ∀ found, Reads (fun value => side value ∧ get value = found) (next found)
      (fun value => (pieces value).flatten) others) :
    Reads side (first >>= next) (fun value => (layout (get value) :: pieces value).flatten)
      others :=
  implied get reads (fun _ _ => trivial) rest

/-- All fields are read. -/
theorem done {made : β} (same : ∀ value, side value ↔ made = value) :
    Reads side (pure made : Parser ε σ β) (fun _ => [].flatten) fun _ => True := by
  intro input value rest
  rw [run_pure_ok]
  simp [same]

/-- All fields are read, and the whole is made from them or refused. -/
theorem made {parser : Parser ε σ β}
    (spec : ∀ input value rest, parser.run input = .ok (value, rest) ↔
      side value ∧ others value ∧ input = rest) :
    Reads side parser (fun _ => [].flatten) others := by
  intro input value rest
  simp [spec]

end Fields

section Combinators

variable {parser : Parser ε σ α} {layout : α → Layout σ} {legal : α → Prop}

/-- A parser reads from one input only one value. -/
theorem unique (reads : Reads (fun _ => True) parser layout legal) {value other : α}
    {front back rest left : List σ} (accepted : legal value) (accepts : legal other)
    (written : (layout value).document = some front) (wrote : (layout other).document = some back)
    (same : front ++ rest = back ++ left) : value = other ∧ rest = left := by
  have read := (reads (front ++ rest) value rest).mpr ⟨trivial, accepted, front, written, rfl⟩
  have again := (reads (front ++ rest) other left).mpr ⟨trivial, accepts, back, wrote, same⟩
  rw [read] at again
  cases again
  exact ⟨rfl, rfl⟩

theorem convert {make : α → Option β} {error : ε} {back : β → α} {lawful : β → Prop}
    (reads : Reads (fun _ => True) parser layout legal)
    (inverse : ∀ found value, make found = some value ↔ lawful value ∧ back value = found) :
    Reads (fun _ => True) (parser.convert make error) (fun value => layout (back value))
      (fun value => lawful value ∧ legal (back value)) := by
  intro input value rest
  have step : ∀ found middle, (match make found with
      | some made => (pure made : Parser ε σ β)
      | none => throw error).run middle = .ok (value, rest) ↔
        make found = some value ∧ middle = rest := by
    intro found middle
    cases made : make found with
    | none =>
        rw [run_throw]
        simp
    | some result =>
        rw [run_pure_ok]
        simp
  simp only [Parser.convert, run_bind_ok, step, inverse, reads _ _ _]
  constructor
  · intro given
    rcases given with ⟨_, _, ⟨_, accepted, written⟩, ⟨made, rfl⟩, rfl⟩
    exact ⟨trivial, ⟨made, accepted⟩, written⟩
  · intro given
    rcases given with ⟨_, ⟨made, accepted⟩, written⟩
    exact ⟨back value, rest, ⟨trivial, accepted, written⟩, ⟨made, rfl⟩, rfl⟩

theorem optional {flag : Parser ε σ Bool} {mark : Bool → Layout σ}
    (flags : Reads (fun _ => True) flag mark fun _ => True)
    (reads : Reads (fun _ => True) parser layout legal) :
    Reads (fun _ => True) (flag.optional parser)
      (fun value => mark value.isSome ++ value.elim [] layout)
      (fun value => ∀ found, value = some found → legal found) := by
  intro input value rest
  rw [Parser.optional, run_bind_ok]
  cases value with
  | none =>
      simp only [flags _ _ _, Option.isSome_none, Option.elim_none, List.append_nil]
      constructor
      · intro given
        rcases given with ⟨present, middle, ⟨_, _, written⟩, read⟩
        cases present with
        | false =>
            obtain ⟨_, rfl⟩ := run_pure_ok.mp read
            exact ⟨trivial, nofun, written⟩
        | true =>
            obtain ⟨_, _, _, made⟩ := run_bind_ok.mp read
            cases (run_pure_ok.mp made).1
      · intro given
        rcases given with ⟨_, _, written⟩
        exact ⟨false, rest, ⟨trivial, trivial, written⟩, run_pure_ok.mpr ⟨rfl, rfl⟩⟩
  | some found =>
      simp only [flags _ _ _, Option.isSome_some, Option.elim_some, Layout.document_append]
      constructor
      · intro given
        rcases given with ⟨present, middle, ⟨_, _, front, marked, rfl⟩, read⟩
        cases present with
        | false => cases (run_pure_ok.mp read).1
        | true =>
            obtain ⟨value, left, content, made⟩ := run_bind_ok.mp read
            obtain ⟨same, rfl⟩ := run_pure_ok.mp made
            cases same
            obtain ⟨_, accepted, back, written, rfl⟩ := (reads _ _ _).mp content
            refine ⟨trivial, fun _ same => ?_, front ++ back, ⟨front, back, marked, written, rfl⟩,
              (List.append_assoc ..).symm⟩
            cases same
            exact accepted
      · intro given
        rcases given with ⟨_, accepted, _, ⟨front, back, marked, written, rfl⟩, rfl⟩
        refine ⟨true, back ++ rest, ⟨trivial, trivial, front, marked, List.append_assoc ..⟩, ?_⟩
        exact run_bind_ok.mpr ⟨found, rest,
          (reads _ _ _).mpr ⟨trivial, accepted found rfl, back, written, rfl⟩,
          run_pure_ok.mpr ⟨rfl, rfl⟩⟩

theorem required {error : δ} (reads : Reads (fun _ => True) parser layout legal) :
    Reads (fun _ => True) (parser.required error) layout legal := by
  intro input value rest
  rw [← reads]
  change (parser.run input).mapError _ = _ ↔ _
  cases parser.run input with
  | error error => simp [Except.mapError]
  | ok found => simp [Except.mapError]

theorem times (reads : Reads (fun _ => True) parser layout legal) (count : Nat) :
    Reads (fun values => values.length = count) (parser.times count)
      (fun values => values.flatMap layout) (fun values => ∀ value ∈ values, legal value) := by
  induction count with
  | zero =>
      intro input values rest
      rw [Parser.times, run_pure_ok]
      constructor
      · intro given
        rcases given with ⟨rfl, rfl⟩
        exact ⟨rfl, nofun, [], rfl, rfl⟩
      · intro given
        rcases given with ⟨none, _, _, written, rfl⟩
        obtain rfl := List.length_eq_zero_iff.mp none
        cases written
        exact ⟨rfl, rfl⟩
  | succ count ih =>
      intro input values rest
      simp only [Parser.times, run_bind_ok, run_pure_ok, reads _ _ _, ih _ _ _]
      constructor
      · intro given
        rcases given with ⟨value, _, ⟨_, accepted, front, written, rfl⟩, others, _, ⟨counted,
          accepts, back, follows, rfl⟩, rfl, rfl⟩
        refine ⟨congrArg (· + 1) counted, ?_, front ++ back, ?_, (List.append_assoc ..).symm⟩
        · intro other given
          rcases given with _ | ⟨_, member⟩
          · exact accepted
          · exact accepts other member
        · exact Layout.document_append.mpr ⟨front, back, written, follows, rfl⟩
      · intro given
        rcases given with ⟨counted, accepts, _, whole, rfl⟩
        cases values with
        | nil => cases counted
        | cons value others =>
            obtain ⟨front, back, written, follows, rfl⟩ := Layout.document_append.mp whole
            refine ⟨value, back ++ rest, ⟨trivial, accepts value (List.mem_cons_self ..), front,
              written, List.append_assoc ..⟩, others, rest, ⟨Nat.succ_inj.mp counted,
              fun other member => accepts other (List.mem_cons_of_mem _ member), back, follows,
              rfl⟩, rfl, rfl⟩

/-- No value clashes with one before it, whatever was seen earlier. -/
def Apart (clash : α → α → Bool) : List α → List α → Prop
  | _, [] => True
  | seen, value :: others =>
      (seen.any fun earlier => clash earlier value) = false ∧
        Apart clash (seen ++ [value]) others

theorem apart_iff_pairwise {clash : α → α → Bool} {seen values : List α} :
    Apart clash seen values ↔
      (∀ earlier ∈ seen, ∀ value ∈ values, clash earlier value = false) ∧
        values.Pairwise fun earlier value => clash earlier value = false := by
  induction values generalizing seen with
  | nil => simp [Apart]
  | cons value others ih =>
      simp only [Apart, ih, List.any_eq_false, List.pairwise_cons, List.mem_append,
        List.mem_cons, List.not_mem_nil, or_false, Bool.not_eq_true]
      constructor
      · intro given
        rcases given with ⟨unseen, before, later⟩
        refine ⟨fun earlier found => ?_, fun other found => before _ (.inr rfl) _ found, later⟩
        intro other given
        rcases given with rfl | member
        · exact unseen earlier found
        · exact before _ (.inl found) _ member
      · intro given
        rcases given with ⟨before, first, later⟩
        refine ⟨fun earlier found => before _ found _ (.inl rfl), ?_, later⟩
        intro earlier given other member
        rcases given with found | rfl
        · exact before _ found _ (.inr member)
        · exact first _ member

/-- Values that clash when they share a key are apart when the keys are. -/
theorem apart_iff_nodup {κ : Type} {clash : α → α → Bool} (key : α → κ)
    (same : ∀ earlier value, clash earlier value = true ↔ key earlier = key value)
    {values : List α} : Apart clash [] values ↔ (values.map key).Nodup := by
  simp only [apart_iff_pairwise, List.not_mem_nil, false_implies, implies_true, true_and,
    List.Nodup, List.pairwise_map, Bool.eq_false_iff, ne_eq, same]

theorem distinct {clash : α → α → Bool} {error : ε}
    (reads : Reads (fun _ => True) parser layout legal) (count : Nat) (seen : List α) :
    Reads (fun values => values.length = count) (parser.distinct clash error count seen)
      (fun values => values.flatMap layout)
      (fun values => (∀ value ∈ values, legal value) ∧ Apart clash seen values) := by
  induction count generalizing seen with
  | zero =>
      intro input values rest
      rw [Parser.distinct, run_pure_ok]
      constructor
      · intro given
        rcases given with ⟨rfl, rfl⟩
        exact ⟨rfl, ⟨nofun, trivial⟩, [], rfl, rfl⟩
      · intro given
        rcases given with ⟨none, _, _, written, rfl⟩
        obtain rfl := List.length_eq_zero_iff.mp none
        cases written
        exact ⟨rfl, rfl⟩
  | succ count ih =>
      intro input values rest
      have step : ∀ value middle, (if (seen.any fun earlier => clash earlier value) = true then
          (throw error : Parser ε σ (List α))
        else do
          return value :: (← parser.distinct clash error count (seen ++ [value]))).run middle =
            .ok (values, rest) ↔
          (seen.any fun earlier => clash earlier value) = false ∧
            ∃ others, (parser.distinct clash error count (seen ++ [value])).run middle =
              .ok (others, rest) ∧ value :: others = values := by
        intro value middle
        cases seen.any fun earlier => clash earlier value with
        | true =>
            rw [if_pos rfl, run_throw]
            simp
        | false =>
            rw [if_neg Bool.false_ne_true, run_bind_ok]
            constructor
            · intro given
              rcases given with ⟨others, _, read, made⟩
              obtain ⟨same, rfl⟩ := run_pure_ok.mp made
              exact ⟨rfl, others, read, same⟩
            · intro given
              rcases given with ⟨_, others, read, same⟩
              exact ⟨others, rest, read, run_pure_ok.mpr ⟨same, rfl⟩⟩
      simp only [Parser.distinct, run_bind_ok, step, reads _ _ _, ih _ _ _]
      constructor
      · intro given
        rcases given with ⟨value, _, ⟨_, accepted, front, written, rfl⟩, unseen, others, ⟨counted,
          ⟨accepts, apart⟩, back, follows, rfl⟩, rfl⟩
        refine ⟨congrArg (· + 1) counted, ⟨?_, unseen, apart⟩, front ++ back, ?_,
          (List.append_assoc ..).symm⟩
        · intro other given
          rcases given with _ | ⟨_, member⟩
          · exact accepted
          · exact accepts other member
        · exact Layout.document_append.mpr ⟨front, back, written, follows, rfl⟩
      · intro given
        rcases given with ⟨counted, ⟨accepts, apart⟩, _, whole, rfl⟩
        cases values with
        | nil => cases counted
        | cons value others =>
            obtain ⟨front, back, written, follows, rfl⟩ := Layout.document_append.mp whole
            refine ⟨value, back ++ rest, ⟨trivial, accepts value (List.mem_cons_self ..), front,
              written, List.append_assoc ..⟩, apart.1, others, ⟨Nat.succ_inj.mp counted,
              ⟨fun other member => accepts other (List.mem_cons_of_mem _ member), apart.2⟩, back,
              follows, rfl⟩, rfl⟩

end Combinators

section Counts

variable {parser : Parser ε σ α} {layout : α → Layout σ} {legal : α → Prop}
  {count : Parser ε σ Nat} {number : Nat → Layout σ} {bound : Nat}

/-- The counter accepts no count over the bound or over the input it leaves. -/
def Counts (count : Parser ε σ Nat) (number : Nat → Layout σ) (bound : Nat) : Prop :=
  ∀ input value rest, count.run input = .ok (value, rest) ↔
    (value ≤ bound ∧ value ≤ rest.length) ∧
      ∃ document, (number value).document = some document ∧ input = document ++ rest

/-- No legal value has the empty document. -/
def Substantial (layout : α → Layout σ) (legal : α → Prop) : Prop :=
  ∀ value document, legal value → (layout value).document = some document → document ≠ []

theorem Substantial.append {back : α → Layout σ} (substantial : Substantial layout legal) :
    Substantial (fun value => layout value ++ back value) legal := by
  intro value document accepted written empty
  obtain ⟨head, tail, front, _, rfl⟩ := Layout.document_append.mp written
  exact substantial value head accepted front (List.append_eq_nil_iff.mp empty).1

theorem Counts.required {error : δ} (counts : Counts count number bound) :
    Counts (count.required error) number bound := by
  intro input value rest
  rw [← counts]
  change (count.run input).mapError _ = _ ↔ _
  cases count.run input with
  | error error => simp [Except.mapError]
  | ok found => simp [Except.mapError]

theorem Substantial.length_le (substantial : Substantial layout legal) {values : List α}
    {document : List σ} (accepts : ∀ value ∈ values, legal value)
    (written : Layout.document (values.flatMap layout) = some document) :
    values.length ≤ document.length := by
  induction values generalizing document with
  | nil => exact Nat.zero_le _
  | cons value others ih =>
      obtain ⟨front, back, head, tail, rfl⟩ := Layout.document_append.mp written
      have shorter := ih (fun other member => accepts other (List.mem_cons_of_mem _ member)) tail
      have positive : 0 < front.length :=
        List.length_pos_iff.mpr
          (substantial value front (accepts value (List.mem_cons_self ..)) head)
      simp only [List.length_cons, List.length_append]
      omega

/-- A counted sequence of values is read behind its length. -/
theorem counted {many : Nat → Parser ε σ (List α)} {lawful : List α → Prop}
    (counts : Counts count number bound) (substantial : Substantial layout legal)
    (reads : ∀ length, Reads (fun values => values.length = length) (many length)
      (fun values => values.flatMap layout) lawful)
    (accepts : ∀ values, lawful values → ∀ value ∈ values, legal value) :
    Reads (fun _ => True) (count >>= many)
      (fun values => number values.length ++ values.flatMap layout)
      (fun values => values.length ≤ bound ∧ lawful values) := by
  intro input values rest
  simp only [run_bind_ok, counts _ _ _, reads _ _ _ _, Layout.document_append]
  constructor
  · intro given
    rcases given with ⟨_, _, ⟨⟨bounded, _⟩, front, marked, rfl⟩, rfl, accepted, back, written, rfl⟩
    exact ⟨trivial, ⟨bounded, accepted⟩, front ++ back, ⟨front, back, marked, written, rfl⟩,
      (List.append_assoc ..).symm⟩
  · intro given
    rcases given with ⟨_, ⟨bounded, accepted⟩, _, ⟨front, back, marked, written, rfl⟩, rfl⟩
    have fits : values.length ≤ back.length :=
      substantial.length_le (accepts values accepted) written
    refine ⟨values.length, back ++ rest, ⟨⟨bounded, ?_⟩, front, marked, List.append_assoc ..⟩,
      rfl, accepted, back, written, rfl⟩
    rw [List.length_append]
    omega

end Counts

end Reads

/-- The parser reads the documents of legal raw values, and returns their normal forms. -/
def ReadsAs (parser : Parser ε σ β) (layout : α → Layout σ) (legal : α → Prop)
    (norm : α → β) : Prop :=
  ∀ (input : List σ) (value : β) (rest : List σ), parser.run input = .ok (value, rest) ↔
    ∃ raw, legal raw ∧ norm raw = value ∧
      ∃ document, (layout raw).document = some document ∧ input = document ++ rest

namespace ReadsAs

variable {γ : Type} {layout : α → Layout σ} {legal : α → Prop} {norm : α → γ}

theorem of_reads {parser : Parser ε σ α} (reads : Reads (fun _ => True) parser layout legal) :
    ReadsAs (do return norm (← parser)) layout legal norm := by
  intro input value rest
  simp only [run_bind_ok, run_pure_ok, reads _ _ _]
  constructor
  · intro given
    rcases given with ⟨raw, _, ⟨_, accepted, written⟩, rfl, rfl⟩
    exact ⟨raw, accepted, rfl, written⟩
  · intro given
    rcases given with ⟨raw, accepted, same, written⟩
    exact ⟨raw, rest, ⟨trivial, accepted, written⟩, same, rfl⟩

theorem required {parser : Parser ε σ γ} {error : δ} (reads : ReadsAs parser layout legal norm) :
    ReadsAs (parser.required error) layout legal norm := by
  intro input value rest
  rw [← reads]
  change (parser.run input).mapError _ = _ ↔ _
  cases parser.run input with
  | error error => simp [Except.mapError]
  | ok found => simp [Except.mapError]

/-- A field read in a normal form stands for every raw value of that form. -/
theorem field {first : Parser ε σ γ} {next : γ → Parser ε σ β} {side : β → Prop}
    {pieces : β → List (Layout σ)} {others : β → Prop} {input tail : List σ} {value : β}
    (get : β → γ) (reads : ReadsAs first layout legal norm)
    (rest : ∀ found, Reads (fun value => side value ∧ get value = found) (next found)
      (fun value => (pieces value).flatten) others) :
    (first >>= next).run input = .ok (value, tail) ↔
      side value ∧ others value ∧ ∃ raw, legal raw ∧ norm raw = get value ∧
        ∃ document, Layout.document (layout raw ++ (pieces value).flatten) = some document ∧
          input = document ++ tail := by
  simp only [run_bind_ok, reads _ _ _, rest _ _ _ _, Layout.document_append]
  constructor
  · intro given
    rcases given with ⟨_, _, ⟨raw, accepted, rfl, head, written, rfl⟩, ⟨kept, same⟩, accepts, back,
      follows, rfl⟩
    exact ⟨kept, accepts, raw, accepted, same.symm, head ++ back,
      ⟨head, back, written, follows, rfl⟩, (List.append_assoc ..).symm⟩
  · intro given
    rcases given with ⟨kept, accepts, raw, accepted, same, _, ⟨head, back, written, follows, rfl⟩,
      rfl⟩
    exact ⟨get value, back ++ tail, ⟨raw, accepted, same, head, written, List.append_assoc ..⟩,
      ⟨kept, rfl⟩, accepts, back, follows, rfl⟩

end ReadsAs

section Telling

/--
The documents of two layouts tell a fact: where they begin one input, the fact
holds and they leave the same rest. Only documents below the bound are meant.
-/
def Tells (bound : Nat) (first second : Layout σ) (fact : Prop) : Prop :=
  ∀ front back rest left, first.document = some front → second.document = some back →
    front.length < bound → back.length < bound → front ++ rest = back ++ left →
      fact ∧ rest = left

namespace Tells

variable {bound : Nat} {first second : Layout σ} {fact : Prop}

theorem imp {other : Prop} (tells : Tells bound first second fact) (follows : fact → other) :
    Tells bound first second other := by
  intro front back rest left written wrote short shorter same
  exact (tells front back rest left written wrote short shorter same).imp_left follows

theorem nil : Tells bound ([] : Layout σ) [] True := by
  intro front back rest left written wrote _ _ same
  cases written
  cases wrote
  exact ⟨trivial, same⟩

/-- What the second parts tell may depend on the fact that the first ones tell. -/
theorem follow {third fourth : Layout σ} {other : Prop} (tells : Tells bound first second fact)
    (others : fact → Tells bound third fourth other) :
    Tells bound (first ++ third) (second ++ fourth) (fact ∧ other) := by
  intro front back rest left written wrote short shorter same
  obtain ⟨head, tail, begun, ended, rfl⟩ := Layout.document_append.mp written
  obtain ⟨start, stop, begins, ends, rfl⟩ := Layout.document_append.mp wrote
  rw [List.length_append] at short shorter
  rw [List.append_assoc, List.append_assoc] at same
  obtain ⟨holds, later⟩ := tells _ _ _ _ begun begins (by omega) (by omega) same
  obtain ⟨follows, last⟩ := others holds _ _ _ _ ended ends (by omega) (by omega) later
  exact ⟨⟨holds, follows⟩, last⟩

theorem append {third fourth : Layout σ} {other : Prop} (tells : Tells bound first second fact)
    (others : Tells bound third fourth other) :
    Tells bound (first ++ third) (second ++ fourth) (fact ∧ other) :=
  tells.follow fun _ => others

theorem cons {firsts seconds : List (Layout σ)} {other : Prop}
    (tells : Tells bound first second fact)
    (others : Tells bound firsts.flatten seconds.flatten other) :
    Tells bound (first :: firsts).flatten (second :: seconds).flatten (fact ∧ other) :=
  tells.append others

theorem flatMap {layout : α → Layout σ}
    (tells : ∀ value other, Tells bound (layout value) (layout other) (value = other))
    {values others : List α} (counted : values.length = others.length) :
    Tells bound (values.flatMap layout) (others.flatMap layout) (values = others) := by
  induction values generalizing others with
  | nil =>
      obtain rfl := List.length_eq_zero_iff.mp counted.symm
      exact nil.imp fun _ => rfl
  | cons value values ih =>
      cases others with
      | nil => cases counted
      | cons other others =>
          refine ((tells value other).append (ih (Nat.succ_inj.mp counted))).imp ?_
          intro given
          rcases given with ⟨rfl, rfl⟩
          rfl

/-- Layouts that cannot begin the same input tell apart whatever follows them. -/
theorem apart {third fourth : Layout σ} {other : Prop} (tells : Tells bound first second fact)
    (refuted : ¬fact) : Tells bound (first ++ third) (second ++ fourth) other := by
  intro front back rest left written wrote short shorter same
  obtain ⟨head, tail, begun, _, rfl⟩ := Layout.document_append.mp written
  obtain ⟨start, stop, begins, _, rfl⟩ := Layout.document_append.mp wrote
  rw [List.length_append] at short shorter
  rw [List.append_assoc, List.append_assoc] at same
  exact absurd (tells _ _ _ _ begun begins (by omega) (by omega) same).1 refuted

/-- A mark for the presence of a value tells whether there is one. -/
theorem optional {mark : Bool → Layout σ} {layout : α → Layout σ}
    (marks : ∀ present other, Tells bound (mark present) (mark other) (present = other))
    (tells : ∀ value other, Tells bound (layout value) (layout other) (value = other))
    (value other : Option α) :
    Tells bound (mark value.isSome ++ value.elim [] layout)
      (mark other.isSome ++ other.elim [] layout) (value = other) := by
  have told := marks value.isSome other.isSome
  cases value with
  | none =>
      cases other with
      | none => exact (told.append nil).imp fun _ => rfl
      | some carried => exact told.apart Bool.false_ne_true
  | some found =>
      cases other with
      | none => exact told.apart (Ne.symm Bool.false_ne_true)
      | some carried => exact (told.append (tells found carried)).imp fun same => same.2 ▸ rfl

end Tells

/-- What a parser reads whatever the value tells the value. -/
theorem Reads.tells {parser : Parser ε σ α} {layout : α → Layout σ}
    (reads : Reads (fun _ => True) parser layout fun _ => True) {bound : Nat} (value other : α) :
    Tells bound (layout value) (layout other) (value = other) :=
  fun _ _ _ _ written wrote _ _ same => reads.unique trivial trivial written wrote same

end Telling

end Formats
