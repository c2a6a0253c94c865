import CatalogSearch.Batcher.Drainage
import CatalogSearch.Proofs.Batcher.Conservation

/-!
# How batches are cut

A flush takes a full batch as soon as there is one, and a smaller one only for the clock or as the
last one of all (`Transition.cuts`). So without the clock the batches are chunks of the declarations
that the batcher has held and was given, whether the worker has collected them before the queue was
closed, or they were drained from it (`taken_eq_chunks`).
-/

namespace CatalogSearch.Batcher

variable {c : Deployment} {s s' : State} {a : Action} {as : List Action} {es new : List Event}

/-! ## Full batches -/

/-- Batches of `n` declarations each, the last of which may be smaller. -/
inductive Cut (n : Nat) : List (List Declaration) → Prop
  | none : Cut n []
  | last {batch : List Declaration} (some : 0 < batch.length) (fits : batch.length ≤ n) :
      Cut n [batch]
  | full {batch : List Declaration} {rest : List (List Declaration)} (size : batch.length = n)
      (more : Cut n rest) : Cut n (batch :: rest)

namespace Cut

variable {n : Nat} {full batches : List (List Declaration)}

/-- Full batches may stand before the others. -/
theorem append (sizes : ∀ batch ∈ full, batch.length = n) (h : Cut n batches) :
    Cut n (full ++ batches) := by
  induction full with
  | nil => exact h
  | cons batch full ih =>
    obtain ⟨size, sizes⟩ := List.forall_mem_cons.1 sizes
    exact .full size (ih sizes)

/-- Such batches are the chunks of what is in them. -/
theorem chunks_flatten (h : Cut n batches) (pos : 0 < n) : chunks n batches.flatten = batches := by
  induction h with
  | none => exact chunks_nil n
  | last some fits => simpa using chunks_eq_singleton some fits
  | full size _ ih => rw [List.flatten_cons, chunks_append pos size, ih]

end Cut

/-! ## One step -/

/-- Once the queue is drained, nothing is taken any more. -/
theorem Transition.drained_taken (t : Transition c s a s' new) (life : Lifecycle s)
    (drained : s.consumer.isDrained = true) :
    s'.consumer.isDrained = true ∧ taken new = [] := by
  cases t with
  | startRun _ running receiver | closeInline _ running _ receiver =>
    rw [life.parked running receiver] at drained
    cases drained
  | @cancel call =>
    refine ⟨?_, rfl⟩
    rcases consumer_cancelCall s call with ended | same
    · rw [ended]
      rfl
    · rwa [same]
  | collectFlush _ consumer goesOn =>
    rw [consumer, Resume.isDrained_consumer, Resume.isDrained_of_ne_finishing goesOn] at drained
    cases drained
  | pauseFlush consumer | retryFlush consumer =>
    rw [consumer] at drained
    exact ⟨drained, rfl⟩
  | endFlush consumer =>
    rw [consumer] at drained
    exact ⟨(Resume.isDrained_consumer _).trans drained, rfl⟩
  | startWorker consumer | desert consumer | idleTick consumer | flushTick consumer
  | signal consumer | shut consumer | flushLast consumer =>
    rw [consumer] at drained
    cases drained
  | crashRun | crashClose | die | drained | finishWorker | finishCaller => exact ⟨rfl, rfl⟩
  | _ => exact ⟨drained, rfl⟩

/-- Nothing enters a closed queue, which stays closed. -/
theorem Transition.of_closed_queue (t : Transition c s a s' new)
    (isClosed : s.queue.isOpen = false) : s'.queue.isOpen = false ∧ accepted new = [] := by
  cases t with
  | @cancel call =>
    refine ⟨?_, rfl⟩
    by_cases own : s.consumer.owner? = some (.caller call)
    · rw [cancelCall_of_drains own]
      rfl
    · rw [cancelCall_of_ne own]
      exact (Queue.isOpen_withdraw s.queue call).trans isClosed
  | enter _ isOpen => cases isOpen.symm.trans isClosed
  | collect takes | collectFlush takes =>
    obtain ⟨-, isOpen, -⟩ := Queue.of_take?_eq_some takes
    exact ⟨isOpen.trans isClosed, rfl⟩
  | crashRun | crashClose | die | shut => exact ⟨rfl, rfl⟩
  | _ => exact ⟨isClosed, rfl⟩

/-- A flush that is not made for the clock takes a full batch, or it is the last one. The buffer
never holds a full batch. -/
theorem Transition.cuts (t : Transition c s a s' new) (small : s.buffer.length < c.batchSize)
    (unclocked : clocked s a new = []) :
    s'.buffer.length < c.batchSize ∧ Cut c.batchSize (taken new) ∧
      (s'.consumer.isDrained = true ∨ ∀ batch ∈ taken new, batch.length = c.batchSize) := by
  have pos : 0 < c.batchSize := Nat.zero_lt_of_lt small
  cases t with
  | @cancel call =>
    refine ⟨?_, .none, .inr nofun⟩
    by_cases own : s.consumer.owner? = some (.caller call)
    · rwa [cancelCall_of_drains own]
    · rwa [cancelCall_of_ne own]
  | collect _ _ _ small => exact ⟨small, .none, .inr nofun⟩
  | @collectFlush d _ _ _ _ _ full =>
    have size : (s.buffer ++ [d]).length = c.batchSize := by
      simp only [List.length_append, List.length_singleton] at full ⊢
      omega
    exact ⟨pos, .full size .none, .inr (List.forall_mem_singleton.2 size)⟩
  | flushTick => cases unclocked
  | flushLast _ _ _ nonempty =>
    exact ⟨pos, .last (List.length_pos_iff.2 nonempty) (Nat.le_of_lt small), .inl rfl⟩
  | _ => exact ⟨small, .none, .inr nofun⟩

/-! ## Whole runs -/

theorem Reaches.of_closed_queue (h : Reaches c s s' es) (isClosed : s.queue.isOpen = false) :
    s'.queue.isOpen = false ∧ accepted es = [] := by
  induction h with
  | start => exact ⟨isClosed, rfl⟩
  | step _ next ih =>
    obtain ⟨isClosed, none⟩ := ih
    obtain ⟨isClosed', none'⟩ := (Transition.of_step next).of_closed_queue isClosed
    exact ⟨isClosed', accepted_append_eq_nil none none'⟩

/-- Without the clock all batches are full, and after a smaller one nothing is taken any more. -/
theorem run_cuts (h : run c s as = some (s', es)) (life : Lifecycle s)
    (small : s.buffer.length < c.batchSize) (unclocked : ticked c s as = []) :
    s'.buffer.length < c.batchSize ∧ Cut c.batchSize (taken es) ∧
      (s'.consumer.isDrained = true ∨ ∀ batch ∈ taken es, batch.length = c.batchSize) := by
  revert unclocked
  refine run_induction ?_ ?_ h
  · exact fun _ => ⟨small, .none, .inr nofun⟩
  · intro as t es a t' new ran next before unclocked
    rw [ticked, observe_concat ran next, List.append_eq_nil_iff] at unclocked
    obtain ⟨small, cut, stage⟩ := before unclocked.1
    have step := Transition.of_step next
    obtain ⟨small', cut', stage'⟩ := step.cuts small unclocked.2
    rw [taken_append]
    rcases stage with drained | full
    · obtain ⟨drained', nothing⟩ := step.drained_taken ((Reaches.of_run ran).lifecycle life) drained
      rw [nothing, List.append_nil]
      exact ⟨small', cut, .inl drained'⟩
    · refine ⟨small', cut'.append full, stage'.imp_right fun full' => ?_⟩
      exact List.forall_mem_append.2 ⟨full, full'⟩

/-- **There is one way to cut batches.** When the queue is drained, the batches that were taken,
none of them for the clock, are the chunks of what the batcher held before and what has entered
its queue; nothing is left in the buffer. -/
theorem taken_eq_chunks (h : run c s as = some (s', es)) (life : Lifecycle s) (stock : Stocked s)
    (small : s.buffer.length < c.batchSize) (unclocked : ticked c s as = [])
    (drained : s'.consumer.isDrained = true) (kept : ¬s'.Forsaken) :
    taken es = chunks c.batchSize
        (s.buffer ++ s.queue.items ++ (accepted es).map Offer.declaration) ∧
      s'.buffer = [] := by
  have reached := Reaches.of_run h
  have moves := (reached.moves life).resolve_left kept
  obtain ⟨-, cut, -⟩ := run_cuts h life small unclocked
  have stock' := reached.stocked life stock
  have empty : s'.buffer = [] := stock'.buffer (Consumer.holdsBuffer_of_isDrained drained)
  rw [empty, stock'.items drained, List.append_nil, List.append_nil] at moves
  rw [moves]
  exact ⟨(cut.chunks_flatten (Nat.zero_lt_of_lt small)).symm, empty⟩

end CatalogSearch.Batcher
