import CatalogSearch.Proofs.Batcher.Calls
import CatalogSearch.Proofs.Batcher.Worker

/-!
# Conservation of declarations

What has entered the queue is, in the same order, what flushes have taken, then the buffer, then the
queue. A step moves declarations along this line and loses none of them (`Transition.moves`), unless
the consumer is lost or a call that drains the queue is given up: such a batcher is forsaken. Even
then no declaration is repeated or gets out of order (`Reaches.held_sublist`).

A declaration is on its way into the queue until it has entered it (`Transition.offers_subperm`); so
what a producer offers in turn enters in the same order.
-/

namespace CatalogSearch.Batcher

variable {c : Deployment} {s s' : State} {a : Action} {es new : List Event}

/-! ## The line of declarations -/

/-- Nobody will consume the queue any more, though the batcher was not closed by its consumer. -/
def State.Forsaken (s : State) : Prop :=
  s.consumer.isBroken = true ∨ s.consumer = .ended ∧ s.phase ≠ .closed

/-- What has entered the queue is what was taken, then the buffer, then the queue. -/
def Conserved (s : State) (es : List Event) : Prop :=
  (accepted es).map Offer.declaration = (taken es).flatten ++ s.buffer ++ s.queue.items

/-- A step moves declarations from the queue to the buffer and from there to a batch, in order. If
it loses some of them, the batcher is forsaken, and the others keep their order. -/
theorem Transition.moves (life : Lifecycle s) (t : Transition c s a s' es) :
    s'.Forsaken ∧ ((taken es).flatten ++ s'.buffer ++ s'.queue.items).Sublist
        (s.buffer ++ s.queue.items ++ (accepted es).map Offer.declaration) ∨
      s.buffer ++ s.queue.items ++ (accepted es).map Offer.declaration =
        (taken es).flatten ++ s'.buffer ++ s'.queue.items := by
  cases t with
  | crashRun | crashClose | die =>
    exact .inl ⟨.inl rfl, by simp [unmake, Batcher.die, Queue.discard]⟩
  | @cancel call =>
    by_cases own : s.consumer.owner? = some (.caller call)
    · rw [cancelCall_of_drains own]
      exact .inl ⟨.inr ⟨rfl, life.ne_closed (by simp [own])⟩, List.nil_sublist _⟩
    · rw [cancelCall_of_ne own]
      exact .inr (by simp [List.filterMap_cons])
  | collect takes | collectFlush takes =>
    obtain ⟨items, -, -⟩ := Queue.of_take?_eq_some takes
    exact .inr (by simp [List.filterMap_cons, items])
  | _ => exact .inr (by simp [List.filterMap_cons, markClosed, Queue.close])

theorem State.Forsaken.gone (h : s.Forsaken) : s.consumer.isGone = true :=
  Consumer.isGone_iff.2 (h.symm.imp_left And.left)

/-- A batcher that was closed by its consumer is not forsaken. -/
theorem State.not_forsaken_of_closed (ended : s.consumer = .ended) (closed : s.phase = .closed) :
    ¬s.Forsaken := by
  rintro (broken | ⟨-, unclosed⟩)
  · rw [ended] at broken
    cases broken
  · exact unclosed closed

theorem State.not_forsaken_of_finishing {owner : Owner}
    (finishing : s.consumer = .finishing owner) : ¬s.Forsaken := by
  rintro (broken | ⟨ended, -⟩)
  · rw [finishing] at broken
    cases broken
  · cases finishing.symm.trans ended

/-- A forsaken batcher stays forsaken: only a consumer that finishes closes the batcher, or a call
that sees that the consumer was lost. -/
theorem Transition.forsaken (life : Lifecycle s) (h : s.Forsaken) (t : Transition c s a s' es) :
    s'.Forsaken := by
  have gone := t.consumer_eq life h.gone
  rcases h with broken | ⟨ended, unclosed⟩
  · exact .inl (gone ▸ broken)
  · refine .inr ⟨gone.trans ended, ?_⟩
    cases t with
    | closeWorker | closeInline | crashClose | closeUnowned => exact nofun
    | cancel => simpa using unclosed
    | finishWorker consumer | finishCaller consumer | joinDied _ consumer | joinUnmade _ consumer =>
      cases ended.symm.trans consumer
    | _ => exact unclosed

/-- A step forsakes a batcher only if it loses the consumer, or if a call that drains the queue is
given up. -/
theorem Transition.of_forsaken (h : s'.Forsaken) (t : Transition c s a s' es) :
    s.Forsaken ∨ s'.consumer.isBroken = true ∨
      ∃ call, .cancelled call ∈ es ∧ s.consumer.owner? = some (.caller call) := by
  rcases h with broken | ⟨ended, unclosed⟩
  · exact .inr (.inl broken)
  · cases t with
    | @cancel call =>
      by_cases own : s.consumer.owner? = some (.caller call)
      · exact .inr (.inr ⟨call, List.mem_singleton.2 rfl, own⟩)
      · rw [cancelCall_of_ne own] at ended unclosed
        exact .inl (.inr ⟨ended, unclosed⟩)
    | closeWorker _ running | closeUnowned _ running =>
      exact .inl (.inr ⟨ended, by simp [running]⟩)
    | finishWorker | finishCaller | joinDied | joinUnmade => exact absurd rfl unclosed
    | startRun | crashRun | closeInline | crashClose | startWorker | die | collectFlush | desert
    | idleTick | flushTick | signal | shut | drained | flushLast | pauseFlush | retryFlush =>
      cases ended
    | @endFlush f =>
      have going := Resume.owner?_consumer f.resume
      rw [show f.resume.consumer = .ended from ended] at going
      cases going
    | _ => exact .inl (.inr ⟨ended, unclosed⟩)

/-- What a batcher holds and what enters its queue is, in the same order, what flushes take and what
it holds in the end, unless it is forsaken. -/
theorem Reaches.moves (h : Reaches c s s' es) (life : Lifecycle s) :
    s'.Forsaken ∨ s.buffer ++ s.queue.items ++ (accepted es).map Offer.declaration =
      (taken es).flatten ++ s'.buffer ++ s'.queue.items := by
  induction h with
  | start => exact .inr (by simp)
  | @step mid s' a es new reached next ih =>
    have t := Transition.of_step next
    have life' := reached.lifecycle life
    rcases ih with lost | kept
    · exact .inl (t.forsaken life' lost)
    · refine (t.moves life').imp And.left fun moves => ?_
      calc s.buffer ++ s.queue.items ++ (accepted (es ++ new)).map Offer.declaration
        _ = (taken es).flatten ++
            (mid.buffer ++ mid.queue.items ++ (accepted new).map Offer.declaration) := by
          rw [accepted, List.filterMap_append, List.map_append, ← List.append_assoc, kept]
          simp only [List.append_assoc]
        _ = (taken (es ++ new)).flatten ++ s'.buffer ++ s'.queue.items := by
          rw [moves, taken, taken, taken, List.filterMap_append, List.flatten_append]
          simp only [List.append_assoc]

/-- Every reachable batcher has kept its declarations in line, unless it is forsaken. -/
theorem Reaches.conserved (h : Reaches c (.initial c) s es) : s.Forsaken ∨ Conserved s es :=
  h.moves (.initial c)

theorem ClosesKept.of_append (h : ClosesKept (es ++ new)) : ClosesKept es := by
  intro call closer cancelled
  refine h call ?_ (List.mem_append_left _ cancelled)
  rw [closers, List.filterMap_append]
  exact List.mem_append_left _ closer

theorem mem_closers {call : Nat} : call ∈ closers es ↔ .begun call .close ∈ es := by
  rw [closers, List.mem_filterMap]
  constructor
  · rintro ⟨e, mem, reads⟩
    cases e with
    | begun call' op => cases op <;> simp_all
    | _ => cases reads
  · intro mem
    exact ⟨_, mem, rfl⟩

/-- A batcher whose machine has what is asked for, and whose calls of close are not given up, is not
forsaken. -/
theorem Reaches.not_forsaken (h : Reaches c (.initial c) s es) (works : c.Works)
    (kept : ClosesKept es) : ¬s.Forsaken := by
  induction h with
  | start => rintro (broken | ⟨ended, -⟩) <;> contradiction
  | @step _ _ _ _ new reached next ih =>
    intro forsaken
    have alive := ((reached.step next).lives works).1
    rcases (Transition.of_step next).of_forsaken forsaken with before | broken | ⟨call, given, own⟩
    · exact ih kept.of_append before
    · cases broken.symm.trans alive
    · have close := List.mem_append_left new (reached.roles.drains call own)
      exact kept call (mem_closers.2 close) (List.mem_append_right _ given)

/-- Where the machine has what is asked for, a batcher is closed by its consumer. -/
theorem Reaches.ended_of_works (h : Reaches c (.initial c) s es) (works : c.Works)
    (closed : s.phase = .closed) : s.consumer = .ended := by
  obtain ⟨-, -, -, gone⟩ := (h.lifecycle (.initial c)).closed closed
  exact (Consumer.isGone_iff.1 gone).resolve_right (by simp [(h.lives works).1])

/-- What was taken, then the buffer, then the queue stands in the order in which it has entered the
queue, even if some of it is lost. -/
theorem Reaches.held_sublist (h : Reaches c (.initial c) s es) :
    ((taken es).flatten ++ s.buffer ++ s.queue.items).Sublist
      ((accepted es).map Offer.declaration) := by
  induction h with
  | start => exact List.nil_sublist _
  | @step _ _ _ es new reached next ih =>
    have moves := (Transition.of_step next).moves (reached.lifecycle (.initial c))
    have moved := (moves.elim And.right fun kept => kept ▸ .refl _).append_left (taken es).flatten
    have held := ih.append_right ((accepted new).map Offer.declaration)
    simp only [taken, accepted, List.filterMap_append, List.flatten_append, List.map_append,
      List.append_assoc] at moved held ⊢
    exact moved.trans held

/-! ## Batches and requests -/

theorem Transition.flushing_taken (t : Transition c s a s' es) {f : Flush}
    (flushing : s'.consumer = .flushing f) :
    f.batch ∈ taken es ∨ ∃ f₀, s.consumer = .flushing f₀ ∧ f₀.batch = f.batch := by
  cases t with
  | collectFlush | flushTick | flushLast =>
    obtain rfl := Consumer.flushing.inj flushing
    exact .inl List.mem_cons_self
  | pauseFlush consumer | retryFlush consumer =>
    obtain rfl := Consumer.flushing.inj flushing
    exact .inr ⟨_, consumer, rfl⟩
  | @endFlush f' =>
    obtain ⟨batch, attempt, resume⟩ := f'
    cases resume <;> cases flushing
  | @cancel call =>
    rcases consumer_cancelCall s call with ended | same
    · cases ended.symm.trans flushing
    · exact .inr ⟨f, same.symm.trans flushing, rfl⟩
  | startRun | crashRun | closeInline | crashClose | startWorker | die | desert | idleTick | signal
  | shut | drained | finishWorker | finishCaller => cases flushing
  | _ => exact .inr ⟨f, flushing, rfl⟩

/-- The batch that is being flushed was taken. -/
theorem Reaches.flushing_taken (h : Reaches c (.initial c) s es) {f : Flush}
    (flushing : s.consumer = .flushing f) : f.batch ∈ taken es := by
  induction h generalizing f with
  | start => cases flushing
  | step _ next ih =>
    rw [taken, List.filterMap_append]
    refine List.mem_append.2 ?_
    rcases (Transition.of_step next).flushing_taken flushing with new | ⟨f₀, before, same⟩
    · exact .inr new
    · rw [← same]
      exact .inl (ih before)

theorem Transition.taken_asked (t : Transition c s a s' es) {batch : List Declaration}
    (mem : batch ∈ taken es) : .asked .flush (.bulk batch c.flushTimeout) ∈ es := by
  cases t with
  | collectFlush | flushTick | flushLast =>
    obtain rfl := List.mem_singleton.1 mem
    exact List.mem_cons_of_mem _ List.mem_cons_self
  | _ => cases mem

theorem Transition.asked_taken (t : Transition c s a s' es) {w : Write}
    (mem : .asked .flush w ∈ es) :
    ∃ batch, w = .bulk batch c.flushTimeout ∧
      (batch ∈ taken es ∨ ∃ f, s.consumer = .flushing f ∧ f.batch = batch) := by
  cases t with
  | collectFlush | flushTick | flushLast =>
    exact ⟨_, by simpa using mem, .inl List.mem_cons_self⟩
  | @retryFlush f flushing =>
    have same : w = .bulk f.batch c.flushTimeout := by simpa using mem
    exact ⟨f.batch, same, .inr ⟨f, flushing, rfl⟩⟩
  | _ => simp at mem

/-- The bulk requests of flushes are those of the batches taken. -/
theorem Reaches.asked_iff_taken (h : Reaches c (.initial c) s es) {w : Write} :
    .asked .flush w ∈ es ↔ ∃ batch ∈ taken es, w = .bulk batch c.flushTimeout := by
  induction h with
  | start => simp
  | @step _ _ _ es new reached next ih =>
    have t := Transition.of_step next
    rw [List.mem_append, taken, List.filterMap_append]
    constructor
    · rintro (old | asked)
      · obtain ⟨batch, mem, same⟩ := ih.1 old
        exact ⟨batch, List.mem_append_left _ mem, same⟩
      · obtain ⟨batch, same, mem | ⟨f, flushing, rfl⟩⟩ := t.asked_taken asked
        · exact ⟨batch, List.mem_append_right _ mem, same⟩
        · exact ⟨f.batch, List.mem_append_left _ (reached.flushing_taken flushing), same⟩
    · rintro ⟨batch, mem, rfl⟩
      rcases List.mem_append.1 mem with old | new
      · exact .inl (ih.2 ⟨batch, old, rfl⟩)
      · exact .inr (t.taken_asked new)

/-! ## On the way into the queue -/

/-- An offer that is made is on its way until it has entered the queue or is dropped. -/
theorem Transition.offers_subperm (t : Transition c s a s' es) :
    (accepted es ++ s'.queue.offers).Subperm (s.queue.offers ++ offered es) := by
  cases t with
  | @arrive call d =>
    have arrived := Queue.offers_arrive_perm s.queue ⟨call, d⟩
    exact (arrived.trans (List.perm_append_singleton _ _).symm).subperm
  | @cancel call =>
    have kept : (cancelCall s call).queue.offers.Subperm s.queue.offers := by
      have others : (s.queue.withdraw call).offers.Subperm s.queue.offers :=
        (Queue.offers_withdraw_perm s.queue call).subperm.trans List.filter_sublist.subperm
      by_cases own : s.consumer.owner? = some (.caller call)
      · rwa [cancelCall_of_drains own]
      · rwa [cancelCall_of_ne own]
    exact kept.trans (List.sublist_append_left _ _).subperm
  | @enter o mem =>
    rw [Queue.offers_enter]
    exact (cons_filter_subperm mem (by simp)).trans (List.sublist_append_left _ _).subperm
  | @wait o mem =>
    have stays := (Queue.offers_await_perm s.queue o).subperm
    exact (stays.trans (cons_filter_subperm mem (by simp))).trans
      (List.sublist_append_left _ _).subperm
  | @refuse o mem =>
    rw [Queue.offers_without]
    exact (List.filter_sublist.trans (List.sublist_append_left _ _)).subperm
  | collect takes | collectFlush takes =>
    obtain ⟨-, -, offers⟩ := Queue.of_take?_eq_some takes
    exact offers.subperm.trans (List.sublist_append_left _ _).subperm
  | _ => exact (List.sublist_append_left _ _).subperm

theorem sublist_of_subperm_of_length_le_one {α : Type} {l l' : List α} (h : l.Subperm l')
    (short : l'.length ≤ 1) : l.Sublist l' := by
  obtain ⟨k, perm, sub⟩ := h
  match l', short with
  | [], _ =>
    rw [List.sublist_nil.1 sub] at perm
    rw [List.nil_perm.1 perm]
  | [x], _ =>
    rcases List.sublist_singleton.1 sub with rfl | rfl
    · rw [List.nil_perm.1 perm]
      exact List.nil_sublist _
    · rw [List.singleton_perm.1 perm]

section InTurn

variable {producer : Nat → Nat}

theorem InTurn.of_append (h : InTurn producer (es ++ new)) : InTurn producer es := by
  intro i hi o mem o' mem' same
  have inside : i < (es ++ new).length := by
    rw [List.length_append]
    omega
  have result := h i inside o (by rwa [List.getElem?_append_left hi]) o'
  rw [List.take_append_of_le_length (Nat.le_of_lt hi)] at result
  exact result mem' same

/-- Whoever offers a declaration in turn has no other offer under way. -/
theorem InTurn.last {call : Nat} {d : Declaration} {rest : List Event}
    (h : InTurn producer (es ++ .begun call (.enqueue d) :: rest)) {o : Offer}
    (mem : o ∈ offered es) (same : producer o.call = producer call) : o.call ∈ endedCalls es := by
  have result := h es.length (by simp) ⟨call, d⟩ (by simp) o
  rw [List.take_left] at result
  exact result mem same

theorem Transition.offered_eq (t : Transition c s a s' es) :
    offered es = [] ∨
      ∃ call d rest, es = .begun call (.enqueue d) :: rest ∧ offered es = [⟨call, d⟩] := by
  cases t with
  | @immediate call op =>
    cases op with
    | enqueue d => exact .inr ⟨call, d, _, rfl, rfl⟩
    | _ => exact .inl rfl
  | @arrive call d => exact .inr ⟨call, d, _, rfl, rfl⟩
  | write _ _ writes =>
    rcases writes with ⟨d, rfl, -⟩ | ⟨ds, -, rfl, -⟩
    · exact .inl rfl
    · exact .inl rfl
  | _ => exact .inl rfl

/-- A producer that offers declarations in turn has one on its way at most, and they enter the queue
in the order in which they are offered. -/
theorem Reaches.inTurn (h : Reaches c (.initial c) s es) (distinct : DistinctCalls es)
    (turn : InTurn producer es) (p : Nat) :
    (s.queue.offers.filter fun o => producer o.call = p).length ≤ 1 ∧
      ((accepted es ++ s.queue.offers).filter fun o => producer o.call = p).Sublist
        ((offered es).filter fun o => producer o.call = p) := by
  induction h with
  | start => exact ⟨Nat.zero_le 1, List.nil_sublist _⟩
  | @step s s' _ es new reached next ih =>
    have t := Transition.of_step next
    obtain ⟨few, sub⟩ := ih distinct.of_append turn.of_append
    have moved := t.offers_subperm.filter fun o => decide (producer o.call = p)
    have short :
        ((s.queue.offers ++ offered new).filter fun o => producer o.call = p).length ≤ 1 := by
      rw [List.filter_append, List.length_append]
      rcases t.offered_eq with none | ⟨call, d, rest, rfl, one⟩
      · rw [none]
        exact few
      · rw [one]
        by_cases own : producer call = p
        · have none : (s.queue.offers.filter fun o => producer o.call = p) = [] := by
            refine List.filter_eq_nil_iff.2 fun o mem same => ?_
            have same : producer o.call = p := by simpa using same
            have earlier : o ∈ offered es :=
              List.mem_filterMap.2 ⟨_, reached.roles.offers o mem, rfl⟩
            have active : o.call ∈ s.calls := State.mem_calls.2 (.inl (List.mem_map_of_mem mem))
            have ended := turn.last earlier (same.trans own.symm)
            exact distinct.of_append.not_mem_ended reached active ended
          simp [none, own]
        · simpa [own] using few
    have moved := sublist_of_subperm_of_length_le_one moved short
    refine ⟨?_, ?_⟩
    · have fewer := moved.length_le
      rw [List.filter_append, List.length_append] at fewer
      omega
    · have entered := moved.append_left ((accepted es).filter fun o => producer o.call = p)
      have made := sub.append_right ((offered new).filter fun o => producer o.call = p)
      simp only [List.filter_append, List.append_assoc] at entered made
      simp only [accepted, offered, List.filterMap_append, List.filter_append, List.append_assoc]
      exact entered.trans made

end InTurn

/-! ## What an enqueue gets -/

theorem immediate?_enqueue_ne_ok {d : Declaration} {done : Done} :
    immediate? s (.enqueue d) ≠ some (.ok done) := by
  simp only [immediate?]
  cases validate d with
  | error e => simp [failure?]
  | ok => by_cases taken : s.phase = .running ∧ s.hasSender = true <;> simp [failure?, taken]

/-- A declaration that has entered the queue is reported at once. -/
theorem Transition.accepted_returned (t : Transition c s a s' es) {o : Offer}
    (mem : o ∈ accepted es) : .returned o.call (.ok .ok) ∈ es := by
  cases t with
  | enter =>
    obtain rfl := List.mem_singleton.1 mem
    exact List.mem_cons_of_mem _ List.mem_cons_self
  | _ => cases mem

/-- A call that is told that its declaration is queued has put it into the queue. -/
theorem Transition.returned_accepted (t : Transition c s a s' new) (roles : Roles c s es)
    (distinct : DistinctCalls (es ++ new)) {call : Nat} {d : Declaration} {done : Done}
    (begun : .begun call (.enqueue d) ∈ es ++ new) (ok : .returned call (.ok done) ∈ new) :
    ⟨call, d⟩ ∈ accepted new := by
  cases t with
  | @immediate call' op outcome _ answer =>
    obtain ⟨rfl, rfl⟩ : call = call' ∧ .ok done = outcome := by simpa using ok
    have same := distinct.begun_unique begun (List.mem_append_right _ List.mem_cons_self)
    rw [← same] at answer
    exact absurd answer immediate?_enqueue_ne_ok
  | @startRun call' =>
    obtain ⟨rfl, -⟩ : call = call' ∧ _ := by simpa using ok
    cases distinct.begun_unique begun (List.mem_append_right _ List.mem_cons_self)
  | @enter o mem =>
    obtain ⟨rfl, -⟩ : call = o.call ∧ _ := by simpa using ok
    cases distinct.begun_unique begun (List.mem_append_left _ (roles.offers o mem))
    exact List.mem_singleton.2 rfl
  | @finishCaller call' finishing =>
    obtain ⟨rfl, -⟩ : call = call' ∧ _ := by simpa using ok
    have close := roles.drains call (by rw [finishing]; rfl)
    cases distinct.begun_unique begun (List.mem_append_left _ close)
  | @joinEnded call' closing | @joinUnmade call' closing =>
    obtain ⟨rfl, -⟩ : call = call' ∧ _ := by simpa using ok
    cases distinct.begun_unique begun (List.mem_append_left _ (roles.closing call closing))
  | @endDirect w _ found =>
    obtain ⟨rfl, -⟩ : call = w.call ∧ _ := by simpa using ok
    obtain ⟨op, direct, writes⟩ := roles.direct w (List.mem_of_find?_eq_some found)
    obtain rfl := distinct.begun_unique begun (List.mem_append_left _ direct)
    cases writes.isDirect w.call
  | _ => simp at ok

theorem Reaches.accepted_returned (h : Reaches c (.initial c) s es) {o : Offer}
    (mem : o ∈ accepted es) : .returned o.call (.ok .ok) ∈ es := by
  induction h with
  | start => cases mem
  | step _ next ih =>
    rw [accepted, List.filterMap_append] at mem
    refine List.mem_append.2 ?_
    rcases List.mem_append.1 mem with old | new
    · exact .inl (ih old)
    · exact .inr ((Transition.of_step next).accepted_returned new)

theorem Reaches.returned_accepted (h : Reaches c (.initial c) s es) (distinct : DistinctCalls es)
    {call : Nat} {d : Declaration} {done : Done} (begun : .begun call (.enqueue d) ∈ es)
    (ok : .returned call (.ok done) ∈ es) : ⟨call, d⟩ ∈ accepted es := by
  induction h with
  | start => cases ok
  | step reached next ih =>
    rw [accepted, List.filterMap_append]
    refine List.mem_append.2 ?_
    rcases List.mem_append.1 ok with old | new
    · -- a call that has ended had begun before, and it begins once
      obtain ⟨op, earlier⟩ := reached.begun_of_ended (List.mem_filterMap.2 ⟨_, old, rfl⟩)
      obtain rfl := distinct.begun_unique begun (List.mem_append_left _ earlier)
      exact .inl (ih distinct.of_append earlier old)
    · exact .inr ((Transition.of_step next).returned_accepted reached.roles distinct begun new)

/-- What has entered the queue or is on its way was offered, and no offer enters it twice. -/
theorem Reaches.offers_subperm (h : Reaches c (.initial c) s es) :
    (accepted es ++ s.queue.offers).Subperm (offered es) := by
  induction h with
  | start => exact List.nil_subperm
  | @step _ _ _ es new _ next ih =>
    have moved := (Transition.of_step next).offers_subperm
    have entered := (List.subperm_append_left (accepted es)).2 moved
    have made := (List.subperm_append_right (offered new)).2 ih
    simp only [accepted, offered, List.filterMap_append, List.append_assoc] at entered made ⊢
    exact entered.trans made

/-- A call was given up, or it returned an error. -/
def Failed (call : Nat) (es : List Event) : Prop :=
  .cancelled call ∈ es ∨ ∃ e, .returned call (.error e) ∈ es

theorem Reaches.not_accepted_of_failed (h : Reaches c (.initial c) s es)
    (distinct : DistinctCalls es) {o : Offer} (failed : Failed o.call es) : o ∉ accepted es := by
  intro mem
  have ok := h.accepted_returned mem
  rcases failed with cancelled | ⟨e, error⟩
  · cases distinct.ended_unique h ok cancelled rfl rfl
  · cases distinct.ended_unique h ok error rfl rfl

/-! ## The queue path -/

/-- **No duplication and no reordering on the queue path, and no loss if the machine has what is
asked for.** Whatever happens to a batcher: what flushes have taken, then the buffer, then the queue
stand in the order in which they have entered the queue, and none of them more often. The engine is
asked for the batches taken, and only for those. An offer enters at most once, and not at all if it
fails; those that a producer makes in turn enter in this order. A closed batcher holds no
declarations.

Nothing that has entered the queue is lost, whatever happens while no call of close is given up, if
and only if the machine has what the configuration asks for. -/
theorem queue_conservation_iff (c : Deployment) :
    (∀ as s es, run c (.initial c) as = some (s, es) →
      ((taken es).flatten ++ s.buffer ++ s.queue.items).Sublist
          ((accepted es).map Offer.declaration) ∧
        (∀ w, .asked .flush w ∈ es ↔ ∃ batch ∈ taken es, w = .bulk batch c.flushTimeout) ∧
        (accepted es).Subperm (offered es) ∧
        (DistinctCalls es →
          (∀ o ∈ offered es, Failed o.call es → o ∉ accepted es) ∧
            (∀ d, (∀ o ∈ offered es, o.declaration = d → Failed o.call es) →
              d ∉ (taken es).flatten ++ s.buffer ++ s.queue.items) ∧
            ∀ producer, InTurn producer es → ∀ p,
              ((accepted es).filter fun o => producer o.call = p).Sublist
                ((offered es).filter fun o => producer o.call = p)) ∧
        (s.phase = .closed → s.buffer = [] ∧ s.queue.items = [])) ∧
      ((∀ as s es, run c (.initial c) as = some (s, es) → ClosesKept es →
          (accepted es).map Offer.declaration = (taken es).flatten ++ s.buffer ++ s.queue.items) ↔
        c.Works) := by
  refine ⟨fun as s es h => ?_, fun conserved => ?_, fun works as s es h kept => ?_⟩
  · have reached := Reaches.of_run h
    have offers : (accepted es).Subperm (offered es) :=
      (List.sublist_append_left _ _).subperm.trans reached.offers_subperm
    refine ⟨reached.held_sublist, fun w => reached.asked_iff_taken, offers,
      fun distinct => ⟨?_, ?_, ?_⟩, ?_⟩
    · intro o _ failed
      exact reached.not_accepted_of_failed distinct failed
    · intro d failed mem
      obtain ⟨o, entered, rfl⟩ := List.mem_map.1 (reached.held_sublist.subset mem)
      have failed := failed o (offers.subset entered) rfl
      exact reached.not_accepted_of_failed distinct failed entered
    · intro producer turn p
      have order := (reached.inTurn distinct turn p).2
      rw [List.filter_append] at order
      exact (List.sublist_append_left _ _).trans order
    · have stock := reached.stocked (.initial c) (.initial c)
      exact stock.empty_of_closed (reached.lifecycle (.initial c))
  · -- a declaration that is queued before the worker is started is lost with it
    by_contra lost
    let d := Declaration.delete "tracks" "" "1"
    obtain ⟨as, s, started, outcome, ran, starts, -, buffer, items⟩ :=
      run_lost lost (d := d) rfl
    have kept : ClosesKept ([.begun 0 (.enqueue d), .accepted ⟨0, d⟩, .returned 0 (.ok .ok),
        .begun 1 .run] ++ started ++ [.begun 2 .close, .returned 2 outcome]) := by
      intro call _
      rcases starts with rfl | rfl <;> simp
    have equal := conserved as s _ ran kept
    rw [buffer, items] at equal
    rcases starts with rfl | rfl <;> cases equal
  · have reached := Reaches.of_run h
    exact reached.conserved.resolve_left (reached.not_forsaken works kept)

/-- With more declarations in a batch than there can be room for, what is queued before the worker
is started is lost. -/
theorem queue_loses_with_large_batch :
    let c : Deployment := ⟨⟨0x1000000000000000, 10000, 300000, 1000⟩, .common, by decide⟩
    let d := Declaration.delete "tracks" "" "1"
    let as : List Action :=
      [.begin 0 (.enqueue d), .send 0, .begin 1 .run, .begin 2 .close, .join]
    ∃ s es, run c (.initial c) as = some (s, es) ∧ ClosesKept es ∧ s.phase = .closed ∧
      accepted es = [⟨0, d⟩] ∧ (taken es).flatten ++ s.buffer ++ s.queue.items = [] := by
  intro c d as
  have ran : (run c (.initial c) as).map (fun m =>
      decide (ClosesKept m.2 ∧ m.1.phase = .closed ∧ accepted m.2 = [⟨0, d⟩] ∧
        (taken m.2).flatten ++ m.1.buffer ++ m.1.queue.items = [])) = some true := by
    decide +kernel
  obtain ⟨⟨s, es⟩, h, facts⟩ := Option.map_eq_some_iff.1 ran
  obtain ⟨kept, closed, entered, none⟩ := of_decide_eq_true facts
  exact ⟨s, es, h, kept, closed, entered, none⟩

/-- Of two declarations, the second of which is given up while it waits for room, the first one is
all that is on the queue path. -/
theorem queue_conservation_of_cancelled_offer :
    let c : Deployment := ⟨⟨1, 10, 10, 10⟩, .common, by decide⟩
    let d := Declaration.delete "tracks" "" "1"
    let as : List Action :=
      [.begin 0 (.enqueue d), .send 0, .begin 1 (.enqueue (.delete "tracks" "" "2")), .send 1,
        .cancel 1, .begin 2 .run, .start, .receive]
    ∃ s es, run c (.initial c) as = some (s, es) ∧
      [d] = (taken es).flatten ++ s.buffer ++ s.queue.items := by
  intro c d as
  have ran : (run c (.initial c) as).map (fun m =>
      decide (ClosesKept m.2 ∧ accepted m.2 = [⟨0, d⟩])) = some true := by decide +kernel
  obtain ⟨⟨s, es⟩, h, facts⟩ := Option.map_eq_some_iff.1 ran
  obtain ⟨kept, entered⟩ := of_decide_eq_true facts
  have law := (queue_conservation_iff c).2.2 (by decide) as s es h kept
  rw [entered] at law
  exact ⟨s, es, h, law⟩

end CatalogSearch.Batcher
