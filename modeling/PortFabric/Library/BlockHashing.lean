import Mathlib.Data.List.Basic

/-!
# Block hashing

An iterated hash takes a sequence block by block: a compression folds every
complete block into a state, and the rest waits in a buffer. However the sequence
is cut into pieces, the state and the buffer are those of the whole.
-/

set_option autoImplicit false

namespace BlockHashing

variable {α σ : Type}

/-- The complete blocks of a sequence. -/
def blocks (size : Nat) (items : List α) : List (List α) :=
  (List.range (items.length / size)).map fun index => (items.drop (size * index)).take size

/-- What the complete blocks leave over. -/
def leftover (size : Nat) (items : List α) : List α :=
  items.drop (size * (items.length / size))

/-- A state with the items of the block that is not complete yet. -/
structure Buffered (α σ : Type) where
  state : σ
  buffer : List α

/-- The state that a whole sequence leads to. -/
def consumed (size : Nat) (compress : σ → List α → σ) (start : σ) (items : List α) :
    Buffered α σ :=
  ⟨(blocks size items).foldl compress start, leftover size items⟩

/-- Puts items into the buffer, and a buffer that is full into the state. -/
def join (size : Nat) (compress : σ → List α → σ) (hasher : Buffered α σ) (items : List α) :
    Buffered α σ :=
  let filled := hasher.buffer ++ items
  if filled.length = size then ⟨compress hasher.state filled, []⟩ else ⟨hasher.state, filled⟩

/-- Takes items as long as there are any, what there is room for in one turn. -/
def absorb (size : Nat) (compress : σ → List α → σ) : Nat → Buffered α σ → List α → Buffered α σ
  | 0, hasher, _ => hasher
  | fuel + 1, hasher, items =>
      if items.isEmpty then
        hasher
      else
        let room := size - hasher.buffer.length
        absorb size compress fuel (join size compress hasher (items.take room)) (items.drop room)

/-- Takes a filler until the buffer has a length. -/
def fill (size : Nat) (compress : σ → List α → σ) (filler : α) (target : Nat) :
    Nat → Buffered α σ → Buffered α σ
  | 0, hasher => hasher
  | fuel + 1, hasher =>
      if hasher.buffer.length = target then
        hasher
      else
        fill size compress filler target fuel (absorb size compress 1 hasher [filler])

section Blocks

variable {size : Nat} {items more : List α}

theorem length_leftover : (leftover size items).length = items.length % size := by
  rw [leftover, List.length_drop, Nat.mod_def]

/-- A sequence of whole blocks leaves nothing over. -/
theorem leftover_eq_nil (whole : size ∣ items.length) : leftover size items = [] := by
  rw [← List.length_eq_zero_iff, length_leftover, Nat.mod_eq_zero_of_dvd whole]

theorem length_of_mem_blocks {block : List α} (member : block ∈ blocks size items) :
    block.length = size := by
  obtain ⟨index, inside, rfl⟩ := List.mem_map.mp member
  have step : size * index + size ≤ items.length :=
    calc size * index + size = size * (index + 1) := (Nat.mul_succ ..).symm
      _ ≤ size * (items.length / size) := Nat.mul_le_mul_left _ (List.mem_range.mp inside)
      _ ≤ items.length := Nat.mul_div_le ..
  rw [List.length_take, List.length_drop]
  omega

/-- The first blocks do not see what is appended behind them. -/
theorem first_blocks_append {count : Nat} (within : size * count ≤ items.length) :
    ((List.range count).map fun index => ((items ++ more).drop (size * index)).take size) =
      (List.range count).map fun index => (items.drop (size * index)).take size := by
  apply List.map_congr_left
  intro index member
  have inside := List.mem_range.mp member
  have step : size * index + size ≤ items.length :=
    calc size * index + size = size * (index + 1) := (Nat.mul_succ ..).symm
      _ ≤ size * count := Nat.mul_le_mul_left _ inside
      _ ≤ items.length := within
  rw [List.drop_append_of_le_length (by omega), List.take_append_of_le_length]
  rw [List.length_drop]
  omega

/-- Items that do not complete a block wait with the others. -/
theorem consumed_keep {compress : σ → List α → σ} {start : σ}
    (short : (leftover size items ++ more).length < size) :
    consumed size compress start (items ++ more) =
      ⟨(consumed size compress start items).state, leftover size items ++ more⟩ := by
  rw [List.length_append, length_leftover] at short
  have whole := Nat.div_add_mod items.length size
  have same : (items ++ more).length / size = items.length / size := by
    rw [List.length_append]
    refine Nat.div_eq_of_lt_le ?_ ?_
    · rw [Nat.mul_comm]
      omega
    · rw [Nat.succ_mul, Nat.mul_comm]
      omega
  have within : size * (items.length / size) ≤ items.length := Nat.mul_div_le ..
  unfold consumed
  rw [blocks, leftover, same, first_blocks_append within, List.drop_append_of_le_length within]
  rfl

/-- Items that complete a block are compressed with the others. -/
theorem consumed_complete {compress : σ → List α → σ} {start : σ}
    (full : (leftover size items ++ more).length = size) (positive : 0 < size) :
    consumed size compress start (items ++ more) =
      ⟨compress (consumed size compress start items).state (leftover size items ++ more), []⟩ := by
  have counted := full
  rw [List.length_append, length_leftover] at counted
  have whole := Nat.div_add_mod items.length size
  have total : (items ++ more).length = size * (items.length / size + 1) := by
    rw [List.length_append, Nat.mul_succ]
    omega
  have same : (items ++ more).length / size = items.length / size + 1 := by
    rw [total, Nat.mul_div_cancel_left _ positive]
  have within : size * (items.length / size) ≤ items.length := Nat.mul_div_le ..
  have last : ((items ++ more).drop (size * (items.length / size))).take size =
      leftover size items ++ more := by
    rw [List.drop_append_of_le_length within, ← leftover]
    exact List.take_of_length_le (Nat.le_of_eq full)
  unfold consumed
  rw [leftover_eq_nil ⟨_, total⟩, blocks, same, List.range_succ, List.map_append,
    first_blocks_append within, List.foldl_append, List.map_cons, List.map_nil, List.foldl_cons,
    List.foldl_nil, last]
  rfl

end Blocks

section Pieces

variable {size : Nat} {compress : σ → List α → σ} {start : σ}

theorem length_leftover_lt (positive : 0 < size) (items : List α) :
    (leftover size items).length < size := by
  rw [length_leftover]
  exact Nat.mod_lt _ positive

theorem join_consumed (positive : 0 < size) {before more : List α}
    (fits : (leftover size before ++ more).length ≤ size) :
    join size compress (consumed size compress start before) more =
      consumed size compress start (before ++ more) := by
  unfold join
  dsimp only
  split
  · next full => exact (consumed_complete full positive).symm
  · next short => exact (consumed_keep (Nat.lt_of_le_of_ne fits short)).symm

/-- Absorbing a piece leads from the state of what came before to that of the whole. -/
theorem absorb_consumed (positive : 0 < size) {fuel : Nat} {before items : List α}
    (enough : items.length ≤ fuel) :
    absorb size compress fuel (consumed size compress start before) items =
      consumed size compress start (before ++ items) := by
  induction fuel generalizing before items with
  | zero =>
      rw [List.length_eq_zero_iff.mp (Nat.le_zero.mp enough), List.append_nil]
      rfl
  | succ fuel ih =>
      rw [absorb]
      split
      · next none =>
          rw [List.isEmpty_iff.mp none, List.append_nil]
      · next present =>
          have nonempty := List.length_pos_iff.mpr (mt List.isEmpty_iff.mpr present)
          have partly := length_leftover_lt positive before
          have fits : (leftover size before ++
              items.take (size - (leftover size before).length)).length ≤ size := by
            rw [List.length_append, List.length_take]
            omega
          have less : (items.drop (size - (leftover size before).length)).length ≤ fuel := by
            rw [List.length_drop]
            omega
          dsimp only
          rw [show (consumed size compress start before).buffer = leftover size before from rfl,
            join_consumed positive fits, ih less, List.append_assoc, List.take_append_drop]

/-- However a sequence is cut into pieces, the state is that of the whole. -/
theorem foldl_absorb_consumed (positive : 0 < size) (before : List α) (pieces : List (List α)) :
    pieces.foldl (fun hasher piece => absorb size compress piece.length hasher piece)
        (consumed size compress start before) =
      consumed size compress start (before ++ pieces.flatten) := by
  induction pieces generalizing before with
  | nil => rw [List.foldl_nil, List.flatten_nil, List.append_nil]
  | cons piece pieces ih =>
      rw [List.foldl_cons, absorb_consumed positive (Nat.le_refl _), ih, List.flatten_cons,
        List.append_assoc]

/-- Filling ends at the first length that leaves the target over. -/
theorem fill_consumed (positive : 0 < size) {filler : α} {target count fuel : Nat}
    {before : List α} (reaches : (before.length + count) % size = target)
    (first : ∀ earlier, earlier < count → (before.length + earlier) % size ≠ target)
    (enough : count < fuel) :
    fill size compress filler target fuel (consumed size compress start before) =
      consumed size compress start (before ++ List.replicate count filler) := by
  induction fuel generalizing before count with
  | zero => exact absurd enough (Nat.not_lt_zero _)
  | succ fuel ih =>
      have buffered : (consumed size compress start before).buffer.length =
          before.length % size := length_leftover
      rw [fill, buffered]
      cases count with
      | zero =>
          rw [Nat.add_zero] at reaches
          rw [if_pos reaches, List.replicate_zero, List.append_nil]
      | succ count =>
          have unfilled : before.length % size ≠ target := first 0 (Nat.succ_pos _)
          have longer : (before ++ [filler]).length = before.length + 1 := List.length_append
          have shift (earlier : Nat) : before.length + 1 + earlier =
              before.length + (earlier + 1) := by omega
          rw [if_neg unfilled, absorb_consumed positive (Nat.le_refl 1), @ih count]
          · rw [List.append_assoc, List.replicate_succ]
            rfl
          · rw [longer, shift]
            exact reaches
          · intro earlier less
            rw [longer, shift]
            exact first _ (Nat.succ_lt_succ less)
          · exact Nat.lt_of_succ_lt_succ enough

end Pieces

end BlockHashing
