import CatalogSearch.Proofs.Batcher.Conservation

/-!
# Sizes and backpressure

The room in the queue that is used or granted is never more than there is, and nobody waits for room
while some of it is free: `Queue.Bounded`. The buffer is flushed as soon as it makes a full batch,
so that it always holds less (`Reaches.sized`), and a flush takes no more than a full batch
(`Reaches.taken_size`).

So when there is nothing to do, a call of enqueue still waits only for the room of a full queue.
-/

namespace CatalogSearch.Batcher

variable {c : Deployment} {s s' : State} {a : Action} {es new : List Event}

theorem Config.capacity_pos (c : Config) : 0 < c.capacity := Nat.le_max_right _ _

theorem Config.batchSize_le_capacity (c : Config) : c.batchSize ≤ c.capacity := Nat.le_max_left _ _

/-! ## Room in the queue -/

namespace Queue

/-- No more room is used and granted than there is. -/
def Fits (q : Queue) : Prop := q.items.length + q.granted.length ≤ q.capacity

/-- No more room is used and granted than there is, and as long as the queue is open nobody waits
while there is some left. -/
structure Bounded (q : Queue) : Prop where
  fits : q.Fits
  pressed : q.isOpen = true → q.waiting ≠ [] → q.items.length + q.granted.length = q.capacity

@[simp] theorem capacity_grant (q : Queue) : q.grant.capacity = q.capacity := by
  unfold grant; split <;> rfl

@[simp] theorem capacity_withdraw (q : Queue) (call : Nat) :
    (q.withdraw call).capacity = q.capacity := by
  simp [withdraw, without]

theorem capacity_of_take? {q q' : Queue} {d : Declaration} (h : q.take? = some (d, q')) :
    q'.capacity = q.capacity := by
  unfold take? at h
  split at h
  · cases h
  · obtain ⟨-, rfl⟩ := Prod.mk.inj (Option.some.inj h)
    rw [capacity_grant]

theorem Bounded.ofCapacity (n : Nat) : (Queue.ofCapacity n).Bounded :=
  ⟨Nat.zero_le n, fun _ waits => absurd rfl waits⟩

/-- Once the free room is granted, those who are left waiting find none. -/
theorem Fits.grant {q : Queue} (h : q.Fits) : q.grant.Bounded := by
  unfold Fits at h
  unfold Queue.grant
  split
  · refine ⟨?_, fun _ waits => ?_⟩
    · simp only [Fits, List.length_append, List.length_take, room]
      omega
    · have more : q.room < q.waiting.length := by
        simpa [List.drop_eq_nil_iff] using waits
      simp only [List.length_append, List.length_take]
      unfold room at more ⊢
      omega
  · next isClosed => exact ⟨h, fun isOpen => absurd isOpen isClosed⟩

theorem Fits.without {q : Queue} (h : q.Fits) (call : Nat) : (q.without call).Fits := by
  have fewer : (q.granted.filter fun o => o.call ≠ call).length ≤ q.granted.length :=
    List.length_filter_le _ _
  unfold Fits at h ⊢
  simp only [Queue.without]
  omega

theorem Fits.of_take? {q q' : Queue} {d : Declaration} (h : q.Fits)
    (takes : q.take? = some (d, q')) : q'.Bounded := by
  unfold take? at takes
  split at takes
  · cases takes
  · next items hitems =>
    obtain ⟨-, rfl⟩ := Prod.mk.inj (Option.some.inj takes)
    refine Fits.grant ?_
    unfold Fits at h ⊢
    rw [hitems, List.length_cons] at h
    show items.length + q.granted.length ≤ q.capacity
    omega

namespace Bounded

variable {q : Queue} {o : Offer}

theorem withdraw (h : q.Bounded) (call : Nat) : (q.withdraw call).Bounded :=
  (h.fits.without call).grant

/-- In a queue that is closed only the size counts. -/
theorem of_closed {q' : Queue} (h : q.Bounded) (isClosed : q'.isOpen = false)
    (items : q'.items.length ≤ q.items.length) (granted : q'.granted.length ≤ q.granted.length)
    (capacity : q'.capacity = q.capacity) : q'.Bounded := by
  refine ⟨?_, fun isOpen => ?_⟩
  · have fits := h.fits
    unfold Fits at fits ⊢
    omega
  · rw [isClosed] at isOpen
    cases isOpen

/-- What uses as much room as before, with nobody else waiting, is bounded as before. -/
theorem of_same_room {q' : Queue} (h : q.Bounded)
    (used : q'.items.length + q'.granted.length = q.items.length + q.granted.length)
    (capacity : q'.capacity = q.capacity) (isOpen : q'.isOpen = q.isOpen)
    (waits : q'.waiting ≠ [] → q.waiting ≠ []) : q'.Bounded := by
  refine ⟨?_, fun stillOpen stillWaits => ?_⟩
  · unfold Fits
    rw [used, capacity]
    exact h.fits
  · rw [used, capacity]
    exact h.pressed (isOpen ▸ stillOpen) (waits stillWaits)

/-- An offer that enters uses the room that it was granted; without a grant it enters only when
nobody waits. -/
theorem enter (h : q.Bounded) (nodup : (q.offers.map Offer.call).Nodup)
    (room : o ∈ q.granted ∨ o ∈ q.arriving ∧ 0 < q.room) : (q.enter o).Bounded := by
  have entered : (q.enter o).items.length = q.items.length + 1 := by simp
  have waits : (q.enter o).waiting ≠ [] → q.waiting ≠ [] :=
    fun some none => some (by simp [Queue.enter, Queue.without, none])
  rcases room with granted | ⟨-, free⟩
  · have nodup : (q.granted.map Offer.call).Nodup :=
      nodup.sublist ((List.sublist_append_right _ _).map _)
    have others : (q.enter o).granted.length + 1 = q.granted.length := by
      simpa [Queue.enter, Queue.without] using (map_filter_ne_perm nodup granted).length_eq
    exact h.of_same_room (by omega) rfl rfl waits
  · have others : (q.enter o).granted.length ≤ q.granted.length := List.length_filter_le _ _
    unfold Queue.room at free
    refine ⟨?_, fun isOpen some => ?_⟩
    · unfold Fits
      rw [entered]
      show q.items.length + 1 + (q.enter o).granted.length ≤ q.capacity
      omega
    · have full := h.pressed isOpen (waits some)
      omega

/-- An offer is left waiting only when there is no room. -/
theorem await (h : q.Bounded) (nodup : (q.offers.map Offer.call).Nodup) (arriving : o ∈ q.arriving)
    (full : q.room = 0) : (q.await o).Bounded := by
  have fits := h.fits
  unfold Fits at fits
  unfold Queue.room at full
  have apart : (q.granted.filter fun v => v.call ≠ o.call) = q.granted := by
    refine List.filter_eq_self.2 fun v mem => ?_
    rw [Queue.offers, List.append_assoc, List.map_append] at nodup
    have distinct := (List.nodup_append.1 nodup).2.2 o.call (List.mem_map_of_mem arriving) v.call
      (List.mem_map_of_mem (List.mem_append_right _ mem))
    simpa using distinct.symm
  have granted : (q.await o).granted = q.granted := apart
  refine ⟨?_, fun _ _ => ?_⟩
  · unfold Fits
    rw [items_await, granted]
    exact fits
  · rw [items_await, granted]
    show q.items.length + q.granted.length = q.capacity
    omega

end Bounded

/-- When no offer can get on, an offer that is left waits for room in an open queue that is full. -/
theorem Bounded.full_of_movable {q : Queue} (h : q.Bounded) (still : q.movable = [])
    (some : q.offers ≠ []) : q.isOpen = true ∧ q.items.length = q.capacity := by
  unfold movable at still
  split at still
  · next isOpen =>
    obtain ⟨granted, arriving⟩ := List.append_eq_nil_iff.1 still
    have waits : q.waiting ≠ [] := by simpa [offers, granted, arriving] using some
    have full := h.pressed isOpen waits
    rw [granted] at full
    exact ⟨isOpen, full⟩
  · exact absurd still some

end Queue

/-! ## Sizes -/

/-- The queue has the room that the configuration says, and the buffer holds less than a batch. -/
structure Sized (c : Deployment) (s : State) : Prop where
  capacity : s.queue.capacity = c.capacity
  queue : s.queue.Bounded
  buffer : s.buffer.length < c.capacity

namespace Sized

theorem initial (c : Deployment) : Sized c (.initial c) := ⟨rfl, .ofCapacity _, c.capacity_pos⟩

theorem cancelCall (h : Sized c s) (call : Nat) : Sized c (cancelCall s call) := by
  have withdrawn := h.queue.withdraw call
  have capacity := (Queue.capacity_withdraw s.queue call).trans h.capacity
  by_cases own : s.consumer.owner? = some (.caller call)
  · rw [cancelCall_of_drains own]
    exact ⟨capacity, withdrawn.of_closed rfl (Nat.zero_le _) (Nat.le_refl _) rfl, c.capacity_pos⟩
  · rw [cancelCall_of_ne own]
    exact ⟨capacity, withdrawn, h.buffer⟩

/-- A step keeps the queue and the buffer within their sizes. -/
theorem step (h : Sized c s) (nodup : s.calls.Nodup) (t : Transition c s a s' es) : Sized c s' := by
  obtain ⟨offers, -⟩ := State.nodup_parts nodup
  cases t with
  | arrive => exact ⟨h.capacity, ⟨h.queue.fits, h.queue.pressed⟩, h.buffer⟩
  | cancel => exact h.cancelCall _
  | enter _ _ room => exact ⟨h.capacity, h.queue.enter offers room, h.buffer⟩
  | wait _ _ arriving full => exact ⟨h.capacity, h.queue.await offers arriving full, h.buffer⟩
  | refuse _ isClosed =>
    refine ⟨h.capacity, h.queue.of_closed isClosed (Nat.le_refl _) ?_ rfl, h.buffer⟩
    exact List.length_filter_le _ _
  | crashRun | crashClose | die =>
    exact ⟨h.capacity, h.queue.of_closed rfl (Nat.zero_le _) (Nat.le_refl _) rfl, h.buffer⟩
  | shut =>
    exact ⟨h.capacity, h.queue.of_closed rfl (Nat.le_refl _) (Nat.le_refl _) rfl, h.buffer⟩
  | collect takes _ _ small =>
    have capacity := (Queue.capacity_of_take? takes).trans h.capacity
    exact ⟨capacity, h.queue.fits.of_take? takes, Nat.lt_of_lt_of_le small c.batchSize_le_capacity⟩
  | collectFlush takes =>
    have capacity := (Queue.capacity_of_take? takes).trans h.capacity
    exact ⟨capacity, h.queue.fits.of_take? takes, c.capacity_pos⟩
  | flushTick | flushLast => exact ⟨h.capacity, h.queue, c.capacity_pos⟩
  | _ => exact ⟨h.capacity, h.queue, h.buffer⟩

end Sized

theorem Reaches.sized (h : Reaches c (.initial c) s es) : Sized c s := by
  induction h with
  | start => exact .initial c
  | step reached next ih =>
    exact ih.step (reached.calls_nodup (.initial c) List.nodup_nil) (.of_step next)

/-- A batch that is taken is not empty, and not larger than a full one. -/
theorem Transition.taken_size (t : Transition c s a s' es) (h : Sized c s)
    {batch : List Declaration} (mem : batch ∈ taken es) :
    0 < batch.length ∧ batch.length ≤ c.capacity := by
  have buffer := h.buffer
  cases t with
  | collectFlush =>
    obtain rfl := List.mem_singleton.1 mem
    rw [List.length_append, List.length_singleton]
    omega
  | flushTick _ _ nonempty | flushLast _ _ _ nonempty =>
    obtain rfl := List.mem_singleton.1 mem
    exact ⟨List.length_pos_iff.2 nonempty, Nat.le_of_lt buffer⟩
  | _ => cases mem

theorem Reaches.taken_size (h : Reaches c (.initial c) s es) {batch : List Declaration}
    (mem : batch ∈ taken es) : 0 < batch.length ∧ batch.length ≤ c.capacity := by
  induction h with
  | start => cases mem
  | step reached next ih =>
    rw [taken, List.filterMap_append] at mem
    rcases List.mem_append.1 mem with old | new
    · exact ih old
    · exact (Transition.of_step next).taken_size reached.sized new

/-! ## Waiting -/

/-- A call of enqueue that has not ended is on its way into the queue. -/
theorem Reaches.mem_offers (h : Reaches c (.initial c) s es) (distinct : DistinctCalls es)
    {call : Nat} {d : Declaration} (begun : .begun call (.enqueue d) ∈ es)
    (waits : call ∉ endedCalls es) : ⟨call, d⟩ ∈ s.queue.offers := by
  have law := h.calls_perm (.initial c) List.nodup_nil
  have begins : call ∈ begunCalls es := List.mem_filterMap.2 ⟨_, begun, rfl⟩
  have active : call ∈ s.calls :=
    (List.mem_append.1 (law.mem_iff.2 begins)).resolve_right waits
  rcases State.mem_calls.1 active with offered | direct | closing | drains
  · obtain ⟨o, mem, rfl⟩ := List.mem_map.1 offered
    cases distinct.begun_unique begun (h.roles.offers o mem)
    exact mem
  · obtain ⟨w, mem, rfl⟩ := List.mem_map.1 direct
    obtain ⟨op, asked, writes⟩ := h.roles.direct w mem
    obtain rfl := distinct.begun_unique begun asked
    cases writes.isDirect w.call
  · cases distinct.begun_unique begun (h.roles.closing call closing)
  · cases distinct.begun_unique begun (h.roles.drains call drains)

/-- **Size bounds and backpressure.** Whatever happens to a batcher: the queue never holds more than
a full batch of declarations, the buffer always less, and a bulk request of a flush carries at least
one and at most a full batch. When there is nothing to do at this time, a call of enqueue still
waits only if the queue is open and full; so none waits once the batcher has closed, its worker has
died, or there was no room for a consumer. -/
theorem size_bounds (as : List Action) (h : run c (.initial c) as = some (s, es)) :
    s.queue.items.length ≤ max c.batchSize 1 ∧
      s.buffer.length + 1 ≤ max c.batchSize 1 ∧
      (∀ w, .asked .flush w ∈ es → ∃ batch, w = .bulk batch c.flushTimeout ∧
        1 ≤ batch.length ∧ batch.length ≤ max c.batchSize 1) ∧
      (DistinctCalls es → ready s = none → ∀ call d, .begun call (.enqueue d) ∈ es →
        call ∉ endedCalls es →
          s.queue.isOpen = true ∧ s.queue.items.length = max c.batchSize 1 ∧
            s.phase ≠ .closed ∧ s.consumer ≠ .died ∧ s.consumer ≠ .unmade) := by
  have reached := Reaches.of_run h
  have sized := reached.sized
  have stock := reached.stocked (.initial c) (.initial c)
  have life := reached.lifecycle (.initial c)
  have fits : s.queue.items.length + s.queue.granted.length ≤ s.queue.capacity := sized.queue.fits
  rw [sized.capacity] at fits
  refine ⟨Nat.le_trans (Nat.le_add_right _ _) fits, sized.buffer, fun w asked => ?_, ?_⟩
  · obtain ⟨batch, mem, same⟩ := reached.asked_iff_taken.1 asked
    exact ⟨batch, same, reached.taken_size mem⟩
  · intro distinct idle call d begun waits
    have mem := reached.mem_offers distinct begun waits
    obtain ⟨isOpen, full⟩ :=
      sized.queue.full_of_movable (movable_of_ready idle) (List.ne_nil_of_mem mem)
    have alive : ¬s.consumer.isGone = true := fun gone => by
      have shut := Consumer.keepsOpen_of_isDrained (Consumer.isDrained_of_gone gone)
      rw [← stock.isOpen, isOpen] at shut
      cases shut
    refine ⟨isOpen, full.trans sized.capacity, fun closed => ?_, fun died => ?_, fun unmade => ?_⟩
    · obtain ⟨-, -, -, gone⟩ := life.closed closed
      exact alive gone
    · exact alive (by rw [died]; rfl)
    · exact alive (by rw [unmade]; rfl)

/-- Without a batch size there is room for one declaration; a second one waits for it. -/
theorem size_bounds_of_waiting_offer :
    let c : Deployment := ⟨⟨0, 1000, 1000, 10⟩, .common, by decide⟩
    let offer (call : Nat) : List Action :=
      [.begin call (.enqueue (.delete "tracks" "" "1")), .send call]
    ∃ s es, run c (.initial c) (offer 0 ++ offer 1) = some (s, es) ∧ 1 ∉ endedCalls es ∧
      ready s = none ∧ s.queue.items.length = 1 ∧ s.buffer.length + 1 ≤ 1 := by
  intro c offer
  have ran : (run c (.initial c) (offer 0 ++ offer 1)).map (fun m =>
      decide (DistinctCalls m.2 ∧ .begun 1 (.enqueue (.delete "tracks" "" "1")) ∈ m.2 ∧
        1 ∉ endedCalls m.2) && (ready m.1).isNone) = some true := by decide +kernel
  obtain ⟨⟨s, es⟩, h, facts⟩ := Option.map_eq_some_iff.1 ran
  obtain ⟨facts, idle⟩ := (Bool.and_eq_true _ _).mp facts
  obtain ⟨distinct, begun, waits⟩ := of_decide_eq_true facts
  have idle : ready s = none := Option.isNone_iff_eq_none.1 idle
  obtain ⟨-, buffer, -, waiting⟩ := size_bounds _ h
  exact ⟨s, es, h, waits, idle, (waiting distinct idle 1 _ begun waits).2.1, buffer⟩

end CatalogSearch.Batcher
