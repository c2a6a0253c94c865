import CatalogSearch.Batcher.Timeline

/-!
# Batches of a batcher that is drained

Declarations that are flushed in order make chunks of the batch size, the last of which may be
smaller, unless the clock ticks in between. This module says what such chunks are, which batches
flushes take for the clock, and which answers an engine gives that gives them one after the other.
-/

namespace CatalogSearch.Batcher

/-! ## Chunks -/

/-- The chunks of so many declarations each that a list consists of; the last one may be smaller. -/
def chunks (n : Nat) (ds : List Declaration) : List (List Declaration) :=
  (List.range ((ds.length + n - 1) / n)).map fun i => (ds.drop (n * i)).take n

theorem chunks_nil (n : Nat) : chunks n [] = [] := by
  rcases n.eq_zero_or_pos with rfl | pos
  · rfl
  · have none : (0 + n - 1) / n = 0 := Nat.div_eq_of_lt (by omega)
    rw [chunks, List.length_nil, none]
    rfl

/-- A full chunk comes first. -/
theorem chunks_append {n : Nat} {batch : List Declaration} (pos : 0 < n) (full : batch.length = n)
    (ds : List Declaration) : chunks n (batch ++ ds) = batch :: chunks n ds := by
  have more : ((batch ++ ds).length + n - 1) / n = (ds.length + n - 1) / n + 1 := by
    rw [List.length_append, full, show n + ds.length + n - 1 = n + (ds.length + n - 1) by omega,
      Nat.add_div_left _ pos]
  rw [chunks, more, List.range_succ_eq_map, List.map_cons, List.map_map]
  refine List.cons_eq_cons.2 ⟨?_, List.map_congr_left fun i _ => ?_⟩
  · rw [Nat.mul_zero, List.drop_zero, List.take_left' full]
  · have skips : n * (i + 1) = batch.length + n * i := by rw [full, Nat.mul_succ, Nat.add_comm]
    rw [Function.comp_apply, Nat.succ_eq_add_one, skips, List.drop_append, ← List.drop_drop,
      List.drop_length, List.drop_nil, List.nil_append, Nat.add_sub_cancel_left]

/-- What makes no more than one chunk is one, if it is not empty. -/
theorem chunks_eq_singleton {n : Nat} {batch : List Declaration} (some : 0 < batch.length)
    (fits : batch.length ≤ n) : chunks n batch = [batch] := by
  have one : (batch.length + n - 1) / n = 1 := Nat.div_eq_of_lt_le (by omega) (by omega)
  rw [chunks, one, List.range_one, List.map_singleton, Nat.mul_zero, List.drop_zero,
    List.take_of_length_le fits]

/-! ## Batches by the clock -/

/-- The batch that a flush takes because the clock ticks. -/
def clocked (_ : State) (a : Action) (es : List Event) : List (List Declaration) :=
  match a with
  | .tick => taken es
  | _ => []

/-- The batches that flushes take because the clock ticks. -/
def ticked : Deployment → State → List Action → List (List Declaration) := observe clocked

/-! ## The engine's answers -/

/-- The answers are those that the engine gives, one after the other. -/
def Given (engine : Nat → Written) (answers : List Written) : Prop :=
  ∃ n, answers = (List.range n).map engine

/-! ## A given stock -/

/-- The batcher with other declarations in its buffer and its queue. -/
def State.holding (s : State) (buffer items : List Declaration) : State :=
  { s with buffer, queue := { s.queue with items } }

end CatalogSearch.Batcher
