import CatalogSearch.Batcher.Drainage
import CatalogSearch.Batcher.Separation
import CatalogSearch.Proofs.Batcher.Attempts

/-!
# Drains come to their end

Whatever the engine answers, a flush comes to its end (`flush_proceeds`), the consumer can take one
declaration after the other out of the queue (`takes_proceeds`), and what is left of a closed queue
can be drained (`drain_proceeds`). So the drain of a worker or of a call of close comes to its end
(`worker_proceeds`, `shut_proceeds`). The engine gives its answers one after the other, so that
those to a later flush are the ones that are left.
-/

namespace CatalogSearch.Batcher

variable {c : Deployment} {s s' t : State} {a : Action} {as bs : List Action} {es : List Event}

/-! ## How the consumer proceeds -/

/-- The consumer proceeds from one batcher to another one without the clock, while nothing enters
the queue: it takes the given declarations out of it, and its flushes get the given answers. -/
structure Proceeds (c : Deployment) (s : State) (as : List Action) (s' : State)
    (received : List Declaration) (replies : List Written) : Prop where
  ran : ∃ es, run c s as = some (s', es) ∧ accepted es = []
  received : (receipts c s as).map Prod.snd = received
  replies : answers .flush c s as = replies
  unclocked : .tick ∉ as

theorem Given.nil (engine : Nat → Written) : Given engine [] := ⟨0, rfl⟩

/-- After so many answers the engine gives those that are left. -/
theorem Given.append {engine : Nat → Written} {replies more : List Written}
    (h : Given engine replies) (rest : Given (fun i => engine (replies.length + i)) more) :
    Given engine (replies ++ more) := by
  obtain ⟨n, rfl⟩ := h
  obtain ⟨m, rfl⟩ := rest
  refine ⟨n + m, ?_⟩
  rw [List.range_add, List.map_append, List.map_map, List.length_map, List.length_range]
  rfl

namespace Proceeds

variable {received received' : List Declaration} {replies replies' : List Written}

theorem nothing (c : Deployment) (s : State) : Proceeds c s [] s [] [] :=
  ⟨⟨[], rfl, rfl⟩, rfl, rfl, nofun⟩

/-- One step: what is asked is no answer. -/
theorem one (next : step c s a = some (s', es)) (nothing : accepted es = [])
    (unclocked : a ≠ .tick) :
    Proceeds c s [a] s' ((receipt s a es).map Prod.snd)
      ((a.answerTo? .flush s.now).toList.filterMap Exchange.written?) where
  ran := ⟨es, (run_singleton c s a).trans next, nothing⟩
  received := by simp [receipts, observe, next]
  replies := by
    have silent :
        (es.filterMap (Event.askedBy? .flush s.now)).filterMap Exchange.written? = [] := by
      rw [List.filterMap_filterMap]
      refine List.filterMap_eq_nil_iff.2 fun e _ => ?_
      cases e with
      | asked who => by_cases own : who = .flush <;> simp [own]
      | _ => rfl
    simp [answers, dialogue, observe, next, exchange, List.filterMap_append, silent]
  unclocked := by simpa using unclocked.symm

theorem trans (h : Proceeds c s as t received replies)
    (h' : Proceeds c t bs s' received' replies') :
    Proceeds c s (as ++ bs) s' (received ++ received') (replies ++ replies') := by
  obtain ⟨⟨before, ran, none⟩, rfl, rfl, unclocked⟩ := h
  obtain ⟨⟨after, ran', none'⟩, rfl, rfl, unclocked'⟩ := h'
  refine ⟨⟨_, run_append.2 ⟨t, before, after, ran, ran', rfl⟩, accepted_append_eq_nil none none'⟩,
    ?_, ?_, ?_⟩
  · rw [receipts, observe_append ran, List.map_append]
  · rw [answers, dialogue, observe_append ran, List.filterMap_append]
    rfl
  · rw [List.mem_append, not_or]
    exact ⟨unclocked, unclocked'⟩

end Proceeds

/-! ## A flush -/

variable {batch : List Declaration} {resume : Resume} {engine : Nat → Written}

/-- The pause before a second attempt can pass. -/
theorem wake_proceeds {wake : Nat}
    (flushing : s.consumer = .flushing ⟨batch, .pausing wake, resume⟩) :
    ∃ as time, Proceeds c s as
      { s with now := time, consumer := .flushing ⟨batch, .second, resume⟩ } [] [] := by
  have wakes {s : State} (flushing : s.consumer = .flushing ⟨batch, .pausing wake, resume⟩)
      (due : wake ≤ s.now) : Proceeds c s [.wake .flush]
        { s with consumer := .flushing ⟨batch, .second, resume⟩ } [] [] := by
    have next : step c s (.wake .flush) =
        some ({ s with consumer := .flushing ⟨batch, .second, resume⟩ },
          [.asked .flush (.bulk batch c.flushTimeout)]) := by
      simp [step, consume, flushing, Attempt.isDue, Attempt.wake?, due, retryFlush]
    exact .one next rfl (by simp)
  by_cases due : wake ≤ s.now
  · exact ⟨_, s.now, wakes flushing due⟩
  · have next : step c s (.advance wake) = some ({ s with now := wake }, []) := by
      simp [step, Nat.lt_of_not_le due]
    have waits : Proceeds c s [.advance wake] { s with now := wake } [] [] :=
      .one next rfl (by simp)
    exact ⟨_, wake, waits.trans (wakes flushing (Nat.le_refl wake))⟩

/-- A flush comes to its end, after one answer or two. -/
theorem flush_proceeds (flushing : s.consumer = .flushing ⟨batch, .first, resume⟩)
    (engine : Nat → Written) :
    ∃ as time replies, Given engine replies ∧
      Proceeds c s as { s with now := time, consumer := resume.consumer } [] replies := by
  have answered {s : State} {attempt : Attempt}
      (flushing : s.consumer = .flushing ⟨batch, attempt, resume⟩)
      (awaits : attempt.awaits = true) (written : Written) :
      Proceeds c s [.answer .flush written]
        (answerFlush c s ⟨batch, attempt, resume⟩ written).1 [] [written] := by
    have next : step c s (.answer .flush written) =
        some (answerFlush c s ⟨batch, attempt, resume⟩ written) := by
      simp [step, consume, flushing, awaits]
    have nothing : accepted (answerFlush c s ⟨batch, attempt, resume⟩ written).2 = [] := by
      unfold answerFlush
      split <;> rfl
    exact .one next nothing (by simp)
  have first := answered flushing rfl (engine 0)
  cases again : Attempt.first.after s.now c.retryDelay (engine 0) with
  | none =>
    rw [answerFlush, again] at first
    exact ⟨_, s.now, _, ⟨1, rfl⟩, first⟩
  | some attempt =>
    obtain ⟨-, -, rfl⟩ := Attempt.after_eq_some.1 again
    rw [answerFlush, again] at first
    obtain ⟨waiting, time, waits⟩ := wake_proceeds (c := c)
      (s := { s with consumer := .flushing ⟨batch, .pausing (s.now + c.retryDelay), resume⟩ }) rfl
    have second := answered (s := { s with
      now := time, consumer := .flushing ⟨batch, .second, resume⟩ }) rfl rfl (engine 1)
    exact ⟨_, time, _, ⟨2, rfl⟩, (first.trans waits).trans second⟩

/-! ## Taking declarations -/

/-- The consumer takes the next declaration out of the queue. -/
theorem take_proceeds {d : Declaration} {rest : List Declaration} {after : Resume}
    (consumer : s.consumer = after.consumer) (goesOn : ∀ owner, after ≠ .finishing owner)
    (items : s.queue.items = d :: rest) (engine : Nat → Written) :
    ∃ as s' replies, Given engine replies ∧ Proceeds c s as s' [d] replies ∧
      s'.consumer = after.consumer ∧ s'.queue.items = rest ∧
      s'.queue.isOpen = s.queue.isOpen ∧ s'.shutdown = s.shutdown := by
  obtain ⟨queue, takes, left, isOpen⟩ : ∃ queue, s.queue.take? = some (d, queue) ∧
      queue.items = rest ∧ queue.isOpen = s.queue.isOpen :=
    ⟨{ s.queue with items := rest }.grant, by simp [Queue.take?, items], by simp, by simp⟩
  have next : step c s after.takes = some (collect c s d queue after) := by
    cases after with
    | selecting | draining =>
      simp [Resume.takes, step, consume, consumer, Resume.consumer, receive, drain, takes]
    | finishing owner => exact absurd rfl (goesOn owner)
  have one {s' : State} {es : List Event} (next : step c s after.takes = some (s', es))
      (nothing : accepted es = []) : Proceeds c s [after.takes] s' [d] [] := by
    have received : (receipt s after.takes es).map Prod.snd = [d] := by
      cases after <;> simp [Resume.takes, receipt, items]
    have proceeds := Proceeds.one next nothing (by cases after <;> simp [Resume.takes])
    rwa [received, answerTo?_takes] at proceeds
  by_cases small : (s.buffer ++ [d]).length < c.batchSize
  · rw [collect_of_small small] at next
    exact ⟨_, _, _, .nil engine, one next rfl, rfl, left, isOpen, rfl⟩
  · rw [collect_of_full (Nat.le_of_not_lt small)] at next
    obtain ⟨flushing, time, replies, given, flushes⟩ := flush_proceeds (c := c)
      (s := { s with
        queue, buffer := [], consumer := .flushing ⟨s.buffer ++ [d], .first, after⟩ }) rfl engine
    exact ⟨_, _, _, given, (one next rfl).trans flushes, rfl, left, isOpen, rfl⟩

/-- The consumer takes any number of declarations out of the queue, and goes on as before. -/
theorem takes_proceeds {received rest : List Declaration} {after : Resume}
    (consumer : s.consumer = after.consumer) (goesOn : ∀ owner, after ≠ .finishing owner)
    (items : s.queue.items = received ++ rest) (engine : Nat → Written) :
    ∃ as s' replies, Given engine replies ∧ Proceeds c s as s' received replies ∧
      s'.consumer = after.consumer ∧ s'.queue.items = rest ∧
      s'.queue.isOpen = s.queue.isOpen ∧ s'.shutdown = s.shutdown := by
  induction received generalizing s engine with
  | nil => exact ⟨[], s, [], .nil engine, .nothing c s, consumer, items, rfl, rfl⟩
  | cons d received ih =>
    obtain ⟨as, t, replies, given, takes, consumer, items, isOpen, shutdown⟩ :=
      take_proceeds (c := c) consumer goesOn items engine
    obtain ⟨bs, s', replies', given', takes', consumer', items', isOpen', shutdown'⟩ :=
      ih consumer items fun i => engine (replies.length + i)
    exact ⟨as ++ bs, s', replies ++ replies', given.append given', takes.trans takes', consumer',
      items', isOpen'.trans isOpen, shutdown'.trans shutdown⟩

/-! ## The end of a drain -/

/-- An offer in a closed queue is refused. -/
theorem refusal_proceeds {o : Offer} (mem : o ∈ s.queue.offers)
    (isClosed : s.queue.isOpen = false) :
    Proceeds c s [.send o.call] { s with queue := s.queue.without o.call } [] [] := by
  obtain ⟨v, found⟩ : ∃ v, s.queue.offers.find? (fun v => v.call = o.call) = some v :=
    Option.isSome_iff_exists.1 (List.find?_isSome.2 ⟨o, mem, decide_eq_true rfl⟩)
  have same : v.call = o.call := by simpa using List.find?_some found
  have next : step c s (.send o.call) =
      some ({ s with queue := s.queue.without o.call }, Passage.refused.events v) := by
    simp [step, send, found, Queue.proceed?, isClosed, same]
  exact .one next rfl (by simp)

/-- The room that was granted in a closed queue is given back. -/
theorem refusals_proceed (isClosed : s.queue.isOpen = false) :
    ∃ as queue, Proceeds c s as { s with queue } [] [] ∧ queue.items = s.queue.items ∧
      queue.granted = [] := by
  induction size : s.queue.granted.length using Nat.strongRecOn generalizing s with
  | _ size ih =>
    cases granted : s.queue.granted with
    | nil => exact ⟨[], s.queue, .nothing c s, rfl, granted⟩
    | cons o granted' =>
      have mem : o ∈ s.queue.granted := by
        rw [granted]
        exact List.mem_cons_self
      have refused := refusal_proceeds (c := c) (List.mem_append_right _ mem) isClosed
      have fewer : (s.queue.without o.call).granted.length < s.queue.granted.length :=
        List.length_filter_lt_length_iff_exists.2 ⟨o, mem, by simp⟩
      rw [size] at fewer
      obtain ⟨as, queue, proceeds, items, none⟩ := ih _ fewer
        (s := { s with queue := s.queue.without o.call }) isClosed rfl
      exact ⟨_, queue, refused.trans proceeds, items, none⟩

/-- The last flush comes to its end, or there is nothing to flush. -/
theorem last_proceeds {owner : Owner} (draining : s.consumer = .draining owner)
    (items : s.queue.items = []) (granted : s.queue.granted = []) (engine : Nat → Written) :
    ∃ as s' replies, Given engine replies ∧ Proceeds c s as s' [] replies ∧
      s'.consumer = .finishing owner := by
  have next : step c s .drain = some (flush c s (.finishing owner)) := by
    simp [step, consume, draining, drain, Queue.take?_eq_none.2 items, granted]
  have one {s' : State} {es : List Event} (next : step c s .drain = some (s', es))
      (nothing : accepted es = []) : Proceeds c s [.drain] s' [] [] := by
    simpa [receipt, items] using Proceeds.one next nothing (by simp)
  by_cases empty : s.buffer = []
  · rw [flush_of_empty empty] at next
    exact ⟨_, _, _, .nil engine, one next rfl, rfl⟩
  · rw [flush_of_nonempty empty] at next
    obtain ⟨flushing, time, replies, given, flushes⟩ := flush_proceeds (c := c)
      (s := { s with buffer := [], consumer := .flushing ⟨s.buffer, .first, .finishing owner⟩ })
      rfl engine
    exact ⟨_, _, _, given, (one next rfl).trans flushes, rfl⟩

/-- What is left of a closed queue can be drained. -/
theorem drain_proceeds {owner : Owner} (draining : s.consumer = .draining owner)
    (isClosed : s.queue.isOpen = false) (engine : Nat → Written) :
    ∃ as s' replies, Given engine replies ∧ Proceeds c s as s' s.queue.items replies ∧
      s'.consumer = .finishing owner := by
  have goesOn : ∀ owner', Resume.draining owner ≠ .finishing owner' := by simp
  obtain ⟨taking, t, replies, given, takes, draining', items, isOpen, -⟩ :=
    takes_proceeds (c := c) draining goesOn (List.append_nil _).symm engine
  obtain ⟨refusing, queue, refused, items', granted⟩ :=
    refusals_proceed (c := c) (isOpen.trans isClosed)
  obtain ⟨finishing, s', replies', given', last, finished⟩ :=
    last_proceeds (c := c) (s := { t with queue }) draining' (items'.trans items) granted
      fun i => engine (replies.length + i)
  have proceeds := (takes.trans refused).trans last
  simp only [List.append_nil] at proceeds
  exact ⟨_, s', _, given.append given', proceeds, finished⟩

/-! ## The ways to the end -/

theorem step_shut {owner : Owner} (shutting : s.consumer = .shutting owner) :
    step c s .shut = some ({ s with queue := s.queue.close, consumer := .draining owner }, []) := by
  simp [step, consume, shutting]

/-- Whoever closes the queue can drain it. -/
theorem shut_proceeds {owner : Owner} (shutting : s.consumer = .shutting owner)
    (engine : Nat → Written) :
    ∃ as s' replies, Given engine replies ∧ Proceeds c s (.shut :: as) s' s.queue.items replies ∧
      s'.consumer = .finishing owner := by
  have closes : Proceeds c s [.shut]
      { s with queue := s.queue.close, consumer := .draining owner } [] [] :=
    .one (step_shut shutting) rfl (by simp)
  obtain ⟨as, s', replies, given, drains, finishing⟩ := drain_proceeds (c := c)
    (s := { s with queue := s.queue.close, consumer := .draining owner }) rfl rfl engine
  exact ⟨as, s', replies, given, closes.trans drains, finishing⟩

/-- A worker that was told to shut down can take any part of the queue before it sees that, and
drain the rest. -/
theorem worker_proceeds {nextTick : Nat} {first rest : List Declaration}
    (selecting : s.consumer = .selecting nextTick) (shutdown : s.shutdown = true)
    (items : s.queue.items = first ++ rest) (engine : Nat → Written) :
    ∃ as t replies as' s' replies', Given engine (replies ++ replies') ∧
      Proceeds c s as t first replies ∧ t.consumer = .selecting nextTick ∧ t.queue.items = rest ∧
      Proceeds c t (.signal :: .shut :: as') s' rest replies' ∧
      s'.consumer = .finishing .worker := by
  have goesOn : ∀ owner, Resume.selecting nextTick ≠ .finishing owner := by simp
  obtain ⟨as, t, replies, given, takes, selecting', rfl, -, shutdown'⟩ :=
    takes_proceeds (c := c) selecting goesOn items engine
  have next : step c t .signal = some ({ t with consumer := .shutting .worker }, []) := by
    simp [step, consume, selecting', Resume.consumer, shutdown'.trans shutdown]
  have sees : Proceeds c t [.signal] { t with consumer := .shutting .worker } [] [] :=
    .one next rfl (by simp)
  obtain ⟨as', s', replies', given', drains, finishing⟩ := shut_proceeds (c := c)
    (s := { t with consumer := .shutting .worker }) rfl fun i => engine (replies.length + i)
  exact ⟨as, t, replies, as', s', replies', given.append given', takes, selecting', rfl,
    sees.trans drains, finishing⟩

end CatalogSearch.Batcher
