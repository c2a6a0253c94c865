import CatalogSearch.Proofs.Batcher.Batching
import CatalogSearch.Proofs.Batcher.Completion
import CatalogSearch.Proofs.Batcher.Cutting
import CatalogSearch.Proofs.Batcher.Dialogue
import CatalogSearch.Proofs.Batcher.Promptness

/-!
# Draining a batcher

A queue is drained by the worker, which may have collected any part of it before, or by the call of
close. Both cut the same batches (`drained_in_chunks`), and for the same answers of the engine they
make the same bulk requests, since these follow from the batches and the answers alone
(`run_requestsFor`).
-/

namespace CatalogSearch.Batcher

variable {c : Deployment} {s s' : State} {as as₀ : List Action} {es es₀ : List Event}
  {engine : Nat → Written}

/-! ## Requests for batches -/

/-- Whether the engine is asked once more after an answer to the first attempt. -/
def isRetried : Written → Bool
  | .error e => e.isEngineError
  | .ok _ => false

/-- What flushes of the batches ask an engine for that gives its answers one after the other. -/
def requestsFor (timeout : Nat) : List (List Declaration) → (Nat → Written) → List Write
  | [], _ => []
  | batch :: batches, engine =>
    if isRetried (engine 0) then
      .bulk batch timeout :: .bulk batch timeout ::
        requestsFor timeout batches fun i => engine (i + 2)
    else .bulk batch timeout :: requestsFor timeout batches fun i => engine (i + 1)

theorem Given.of_cons {written : Written} {answers : List Written}
    (h : Given engine (written :: answers)) :
    engine 0 = written ∧ Given (fun i => engine (i + 1)) answers := by
  obtain ⟨n, same⟩ := h
  cases n with
  | zero => cases same
  | succ n =>
    rw [List.range_succ_eq_map, List.map_cons, List.map_map] at same
    obtain ⟨first, rest⟩ := List.cons.inj same
    exact ⟨first.symm, n, rest⟩

/-- The requests for batches whose flush has ended follow from the batches and the answers. -/
theorem FlushesAttempted.requests {punctual : Prop}
    {results : List (List Declaration × Written)} {parts : List (List Exchange)}
    (h : FlushesAttempted c punctual results parts)
    (given : Given engine (parts.flatten.filterMap Exchange.written?)) :
    parts.flatten.filterMap Exchange.write? =
      requestsFor c.flushTimeout (results.map Prod.fst) engine := by
  induction h generalizing engine with
  | nil => rfl
  | @cons result part results parts attempted _ ih =>
    obtain ⟨batch, last⟩ := result
    rw [List.flatten_cons, List.filterMap_append] at given ⊢
    cases attempted with
    | once final =>
      obtain ⟨rfl, rest⟩ := given.of_cons
      have ends : isRetried (engine 0) = false := by
        cases answer : engine 0 with
        | ok => rfl
        | error e =>
          exact eq_false_of_ne_true fun again =>
            not_or.2 (isEngineError_iff.1 again) (final e answer)
      rw [ih rest]
      simp [requestsFor, ends, List.filterMap_cons]
    | @twice _ _ _ _ e _ engineError _ =>
      obtain ⟨first, more⟩ := given.of_cons
      obtain ⟨-, rest⟩ := more.of_cons
      have again : isRetried (engine 0) = true := by
        rw [first]
        exact isEngineError_iff.2 engineError
      rw [ih rest]
      simp [requestsFor, again, List.filterMap_cons]

theorem flushed_eq_map_flushResults (es : List Event) :
    flushed es = (flushResults es).map Prod.fst := by
  rw [flushed, flushResults, List.map_filterMap]
  refine List.filterMap_congr fun e _ => ?_
  cases e <;> rfl

/-- Before the consumer begins, nothing is said to the engine. -/
theorem dialogue_of_parked (h : run c (.initial c) as = some (s, es))
    (parked : s.consumer = .parked) : dialogue .flush c (.initial c) as = [] := by
  obtain ⟨parts, rest, unended, said, attempted, took, stage⟩ :=
    run_flushes h fun p : False => p.elim
  have none := (Reaches.of_run h).taken_eq_nil (by rw [parked]; rfl)
  rw [none] at took
  obtain ⟨results, nothing⟩ := List.append_eq_nil_iff.1 took.symm
  rw [List.map_eq_nil_iff.1 results] at attempted
  obtain rfl := List.forall₂_nil_left_iff.1 attempted
  cases stage with
  | none => exact said
  | flushing | abandoned => cases nothing

/-- What flushes ask for from the start of the consumer to its end follows from the batches and the
engine's answers. -/
theorem run_requestsFor (before : run c (.initial c) as₀ = some (s, es₀))
    (parked : s.consumer = .parked) (h : run c s as = some (s', es)) (ended : s'.consumer = .ended)
    (closed : s'.phase = .closed) (given : Given engine (answers .flush c s as)) :
    asks .flush c s as = requestsFor c.flushTimeout (taken es) engine := by
  have whole := run_append.2 ⟨s, es₀, es, before, h, rfl⟩
  have reached := Reaches.of_run whole
  obtain ⟨parts, rest, unended, said, attempted, took, stage⟩ :=
    run_flushes whole fun p : False => p.elim
  have said : dialogue .flush c s as = parts.flatten ++ rest := by
    rw [← said, dialogue, observe_append before, ← dialogue, dialogue_of_parked before parked]
    rfl
  have kept := State.not_forsaken_of_closed ended closed
  have flushes := reached.taken_eq_flushed.resolve_left kept
  rw [ended, flushed_eq_map_flushResults, took, List.append_cancel_left_eq] at flushes
  obtain rfl : unended = [] := flushes
  have batches : taken es = (flushResults (es₀ ++ es)).map Prod.fst := by
    have none : taken es₀ = [] := (Reaches.of_run before).taken_eq_nil (by rw [parked]; rfl)
    rw [← List.append_nil (List.map _ _), ← took, taken_append, none, List.nil_append]
  cases stage with
  | none =>
    rw [List.append_nil] at said
    rw [answers, said] at given
    rw [asks, said, batches]
    exact attempted.requests given

/-! ## A given stock -/

theorem Lifecycle.holding (h : Lifecycle s) (buffer items : List Declaration) :
    Lifecycle (s.holding buffer items) := ⟨h.running, h.draining, h.closed⟩

/-- At a stage at which there may be declarations in the buffer and the queue, any may be there. -/
theorem Stocked.holding (h : Stocked s) (buffer items : List Declaration)
    (holds : s.consumer.holdsBuffer = true) : Stocked (s.holding buffer items) where
  isOpen := h.isOpen
  buffer unused := by cases holds.symm.trans unused
  items drained := by cases holds.symm.trans (Consumer.holdsBuffer_of_isDrained drained)

/-- Where the clock does not tick, nothing is flushed for it. -/
theorem ticked_eq_nil (h : .tick ∉ as) : ticked c s as = [] := by
  induction as generalizing s with
  | nil => rfl
  | cons a as ih =>
    obtain ⟨other, rest⟩ := not_or.1 (List.mem_cons.not.1 h)
    cases next : step c s a with
    | none => simp [ticked, observe, next]
    | some m =>
      have none : clocked s a m.2 = [] := by
        cases a with
        | tick => exact absurd rfl other
        | _ => rfl
      have rest := ih (s := m.1) rest
      simp only [ticked, observe, next, none] at rest ⊢
      exact rest

/-- What the consumer holds when it closes the queue, it cuts into chunks. -/
theorem run_shut {owner : Owner} (life : Lifecycle s) (stock : Stocked s)
    (shutting : s.consumer = .shutting owner) (small : s.buffer.length < c.batchSize)
    (h : run c s (.shut :: as) = some (s', es)) (finishing : s'.consumer = .finishing owner) :
    taken es = chunks c.batchSize (s.buffer ++ s.queue.items) ∧ s'.buffer = [] := by
  have draining := life.isDraining (by rw [shutting]; exact nofun) (by rw [shutting]; rfl)
  obtain ⟨t, new, after, next, ran, rfl⟩ := run_cons.1 h
  have life' := life.step (.of_step next)
  have unclocked : ticked c s (.shut :: as) = ticked c t as := by
    simp [ticked, observe, next, clocked]
  obtain ⟨rfl, rfl⟩ := Prod.mk.inj (Option.some.inj ((step_shut shutting).symm.trans next))
  have past := ticked_of_past ran life' (by simp [draining]) rfl
  obtain ⟨-, none⟩ := (Reaches.of_run ran).of_closed_queue rfl
  have law := taken_eq_chunks h life stock small (unclocked.trans past) (by rw [finishing]; rfl)
    (State.not_forsaken_of_finishing finishing)
  rwa [List.nil_append, none, List.map_nil, List.append_nil] at law

/-- A worker that was told to shut down can take any part of the queue before it sees that; it takes
the same batches. -/
theorem run_worker {nextTick : Nat} {first rest : List Declaration} (life : Lifecycle s)
    (stock : Stocked s) (selecting : s.consumer = .selecting nextTick)
    (small : s.buffer.length < c.batchSize) (shutdown : s.shutdown = true)
    (items : s.queue.items = first ++ rest) (engine : Nat → Written) :
    ∃ as t es as' s' es', run c s as = some (t, es) ∧ .tick ∉ as ∧
      (receipts c s as).map Prod.snd = first ∧ t.consumer = .selecting nextTick ∧
      t.queue.items = rest ∧ run c t (.signal :: .shut :: as') = some (s', es') ∧
      s'.consumer = .finishing .worker ∧
      taken (es ++ es') = chunks c.batchSize (s.buffer ++ s.queue.items) ∧
      Given engine (answers .flush c s (as ++ .signal :: .shut :: as')) := by
  obtain ⟨as, t, answers, as', s', answers', given, takes, selecting', left, drains, finishing⟩ :=
    worker_proceeds (c := c) selecting shutdown items engine
  have both := takes.trans drains
  obtain ⟨es, ran, none⟩ := takes.ran
  obtain ⟨es', ran', none'⟩ := drains.ran
  have whole := run_append.2 ⟨t, es, es', ran, ran', rfl⟩
  have cut := (taken_eq_chunks whole life stock small (ticked_eq_nil both.unclocked)
    (by rw [finishing]; rfl) (State.not_forsaken_of_finishing finishing)).1
  rw [accepted_append_eq_nil none none', List.map_nil, List.append_nil] at cut
  exact ⟨as, t, es, as', s', es', ran, takes.unclocked, takes.received, selecting', left, ran',
    finishing, cut, both.replies ▸ given⟩

/-! ## With a worker and without one -/

/-- A batcher without a worker is closed, or a worker is started and the batcher closed by it. For
the same declarations the batches are the same, and for the same answers the requests. -/
theorem closed_alike {call starter : Nat} {as₁ as₂ : List Action} {s₁ s₂ : State}
    {es₁ es₂ : List Event} (size : 0 < c.batchSize) (ticks : c.Ticks)
    (before : run c (.initial c) as₀ = some (s, es₀)) (running : s.phase = .running)
    (receiver : s.hasReceiver = true)
    (h₁ : run c s (.begin call .close :: as₁) = some (s₁, es₁)) (closed₁ : s₁.phase = .closed)
    (h₂ : run c s (.begin starter .run :: as₂) = some (s₂, es₂)) (closed₂ : s₂.phase = .closed)
    (alike : accepted es₁ = accepted es₂ ∧ ticked c s (.begin starter .run :: as₂) = [] ∨
      s.queue.offers = [] ∧ Punctual c s (.begin starter .run :: as₂) ∧
        ∃ closer rest, as₂ = .begin closer .close :: rest) :
    taken es₁ = chunks c.batchSize (s.queue.items ++ (accepted es₁).map Offer.declaration) ∧
      taken es₂ = taken es₁ ∧
      ∀ engine, Given engine (answers .flush c s (.begin call .close :: as₁)) →
        Given engine (answers .flush c s (.begin starter .run :: as₂)) →
          asks .flush c s (.begin starter .run :: as₂) =
            asks .flush c s (.begin call .close :: as₁) := by
  have reached := Reaches.of_run before
  have life := reached.lifecycle (.initial c)
  have stock := reached.stocked (.initial c) (.initial c)
  have room : c.Fits := by
    by_contra large
    cases closed₁.symm.trans (run_close_of_large life running receiver large h₁)
  have ended₁ := (reached.trans (.of_run h₁)).ended_of_works ⟨ticks, room⟩ closed₁
  have ended₂ := (reached.trans (.of_run h₂)).ended_of_works ⟨ticks, room⟩ closed₂
  have parked := life.parked running receiver
  have empty : s.buffer = [] := stock.buffer (by rw [parked]; rfl)
  have fits : s.queue.items.length ≤ c.batchSize := by
    have sized := reached.sized
    have fits : s.queue.items.length + s.queue.granted.length ≤ s.queue.capacity := sized.queue.fits
    rw [sized.capacity, Config.capacity] at fits
    omega
  have cut {as : List Action} {s' : State} {es : List Event} (h : run c s as = some (s', es))
      (closed : s'.phase = .closed) (ended : s'.consumer = .ended)
      (unclocked : ticked c s as = []) :
      taken es = chunks c.batchSize (s.queue.items ++ (accepted es).map Offer.declaration) := by
    have law := (taken_eq_chunks h life stock (by rwa [empty]) unclocked (by rw [ended]; rfl)
      (State.not_forsaken_of_closed ended closed)).1
    rwa [empty, List.nil_append] at law
  obtain ⟨unclocked₁, entered₁⟩ := run_close_inline life running receiver room h₁
  obtain ⟨entered, unclocked₂⟩ :
      accepted es₁ = accepted es₂ ∧ ticked c s (.begin starter .run :: as₂) = [] := by
    rcases alike with alike | ⟨nobody, punctual, closer, rest, rfl⟩
    · exact alike
    · obtain ⟨unclocked₂, entered₂⟩ :=
        run_close_at_once life stock running receiver nobody fits room h₂ punctual
      exact ⟨(entered₁ nobody).trans entered₂.symm, unclocked₂⟩
  have cut₁ := cut h₁ closed₁ ended₁ unclocked₁
  have cut₂ := cut h₂ closed₂ ended₂ unclocked₂
  have batches : taken es₂ = taken es₁ := by rw [cut₁, cut₂, entered]
  refine ⟨cut₁, batches, fun engine given₁ given₂ => ?_⟩
  rw [run_requestsFor before parked h₁ ended₁ closed₁ given₁,
    run_requestsFor before parked h₂ ended₂ closed₂ given₂, batches]

/-! ## One way to cut batches -/

/-- **Draining cuts batches in one way only.** Whatever a consumer holds when it closes the queue,
and whatever the engine answers: it takes the chunks of that as batches, in order, and leaves
the buffer empty; and it comes to the end. A worker that takes any part of the queue before it sees
that it should shut down, without a flush for the clock, takes the same batches, and with any part
it comes to the end.

So a batcher whose worker was never started takes the same batches when it is closed as if its
worker had been started before, wherever the worker sees that it should shut down, if its clock can
tick, the same declarations enter the queue and nothing is flushed for the clock; this is so on a
virtual clock when the worker is told to shut down right after its start and nobody is on the way
into the queue. As far as the engine gives the same answers one after the other, the same bulk
requests are made. -/
theorem drained_in_chunks (size : 0 < c.batchSize) :
    (∀ as₀ s es₀ owner buffer items, run c (.initial c) as₀ = some (s, es₀) →
      s.consumer = .shutting owner → buffer.length < c.batchSize →
        (∀ as s' es, run c (s.holding buffer items) (.shut :: as) = some (s', es) →
          s'.consumer = .finishing owner →
            taken es = chunks c.batchSize (buffer ++ items) ∧ s'.buffer = []) ∧
        ∀ engine, ∃ as s' es, run c (s.holding buffer items) (.shut :: as) = some (s', es) ∧
          s'.consumer = .finishing owner ∧
          Given engine (answers .flush c (s.holding buffer items) (.shut :: as))) ∧
    (∀ as₀ s es₀ nextTick buffer items, run c (.initial c) as₀ = some (s, es₀) →
      s.consumer = .selecting nextTick → buffer.length < c.batchSize →
        (∀ as s' es, run c (s.holding buffer items) as = some (s', es) →
          ticked c (s.holding buffer items) as = [] → s'.consumer = .finishing .worker →
            taken es = chunks c.batchSize
                (buffer ++ items ++ (accepted es).map Offer.declaration) ∧
              s'.buffer = []) ∧
        ∀ engine first rest, items = first ++ rest → s.shutdown = true →
          ∃ as t es as' s' es', run c (s.holding buffer items) as = some (t, es) ∧ .tick ∉ as ∧
            (receipts c (s.holding buffer items) as).map Prod.snd = first ∧
            t.consumer = .selecting nextTick ∧ t.queue.items = rest ∧
            run c t (.signal :: .shut :: as') = some (s', es') ∧
            s'.consumer = .finishing .worker ∧
            taken (es ++ es') = chunks c.batchSize (buffer ++ items) ∧
            Given engine
              (answers .flush c (s.holding buffer items) (as ++ .signal :: .shut :: as'))) ∧
    ∀ as₀ s es₀ call as₁ s₁ es₁ starter as₂ s₂ es₂, run c (.initial c) as₀ = some (s, es₀) →
      c.Ticks → s.phase = .running → s.hasReceiver = true →
      run c s (.begin call .close :: as₁) = some (s₁, es₁) → s₁.phase = .closed →
      run c s (.begin starter .run :: as₂) = some (s₂, es₂) → s₂.phase = .closed →
      (accepted es₁ = accepted es₂ ∧ ticked c s (.begin starter .run :: as₂) = [] ∨
        s.queue.offers = [] ∧ Punctual c s (.begin starter .run :: as₂) ∧
          ∃ closer rest, as₂ = .begin closer .close :: rest) →
        taken es₁ = chunks c.batchSize
            (s.queue.items ++ (accepted es₁).map Offer.declaration) ∧
          taken es₂ = taken es₁ ∧
          ∀ engine, Given engine (answers .flush c s (.begin call .close :: as₁)) →
            Given engine (answers .flush c s (.begin starter .run :: as₂)) →
              asks .flush c s (.begin starter .run :: as₂) =
                asks .flush c s (.begin call .close :: as₁) := by
  refine ⟨fun as₀ s es₀ owner buffer items before shutting small => ?_,
    fun as₀ s es₀ nextTick buffer items before selecting small => ?_, ?_⟩
  · have life := ((Reaches.of_run before).lifecycle (.initial c)).holding buffer items
    have stock := ((Reaches.of_run before).stocked (.initial c) (.initial c)).holding buffer items
      (by rw [shutting]; rfl)
    refine ⟨fun as s' es h finishing => run_shut life stock shutting small h finishing,
      fun engine => ?_⟩
    obtain ⟨as, s', answers, given, drains, finishing⟩ :=
      shut_proceeds (c := c) (s := s.holding buffer items) shutting engine
    obtain ⟨es, ran, -⟩ := drains.ran
    exact ⟨as, s', es, ran, finishing, drains.replies ▸ given⟩
  · have life := ((Reaches.of_run before).lifecycle (.initial c)).holding buffer items
    have stock := ((Reaches.of_run before).stocked (.initial c) (.initial c)).holding buffer items
      (by rw [selecting]; rfl)
    refine ⟨fun as s' es h unclocked finishing => ?_, fun engine first rest parts shutdown => ?_⟩
    · exact taken_eq_chunks h life stock small unclocked (by rw [finishing]; rfl)
        (State.not_forsaken_of_finishing finishing)
    · exact run_worker life stock selecting small shutdown parts engine
  · intro as₀ s es₀ call as₁ s₁ es₁ starter as₂ s₂ es₂ before ticks running receiver h₁ closed₁ h₂
      closed₂ alike
    exact closed_alike size ticks before running receiver h₁ closed₁ h₂ closed₂ alike

/-- One declaration in the buffer and two in the queue are drained as two batches. Two declarations
in the queue are one batch whether a call of close drains them, or a worker that takes the first one
before it sees that it should shut down; the engine fails once. -/
theorem drained_in_chunks_of_two_and_one :
    let c : Deployment := ⟨⟨2, 1000, 1000, 10⟩, .common, by decide⟩
    let d (id : String) := Declaration.delete "tracks" "" id
    let reset : Written := .error (.reported .connection "reset")
    let done : Written := .ok (.allSucceeded 2)
    let queued : List Action :=
      [.begin 0 (.enqueue (d "1")), .send 0, .begin 1 (.enqueue (d "2")), .send 1]
    let flushed : List Action :=
      [.answer .flush reset, .advance 10, .wake .flush, .answer .flush done, .drain, .finish]
    let inline : List Action := [.begin 2 .close, .shut, .drain, .drain] ++ flushed
    let started : List Action :=
      [.begin 2 .run, .begin 3 .close, .start, .receive, .signal, .shut, .drain] ++ flushed
    (∃ s es as s' es', run c (.initial c) [.begin 0 .close] = some (s, es) ∧
      run c (s.holding [d "1"] [d "2", d "3"]) (.shut :: as) = some (s', es') ∧
      taken es' = [[d "1", d "2"], [d "3"]] ∧ s'.buffer = []) ∧
      ∃ s es s₁ es₁ s₂ es₂, run c (.initial c) queued = some (s, es) ∧
        run c s inline = some (s₁, es₁) ∧ run c s started = some (s₂, es₂) ∧
        taken es₁ = [[d "1", d "2"]] ∧ taken es₂ = taken es₁ ∧
        asks .flush c s started = asks .flush c s inline := by
  intro c d reset done queued flushed inline started
  obtain ⟨drains, -, closes⟩ := drained_in_chunks (c := c) (by decide)
  constructor
  · have ran : (run c (.initial c) [.begin 0 .close]).map (fun m => m.1.consumer) =
        some (.shutting (.caller 0)) := by decide +kernel
    obtain ⟨⟨s, es⟩, before, shutting⟩ := Option.map_eq_some_iff.1 ran
    obtain ⟨cuts, ends⟩ :=
      drains _ s es (.caller 0) [d "1"] [d "2", d "3"] before shutting (by decide)
    obtain ⟨as, s', es', h, finishing, -⟩ := ends fun _ => done
    have batches : chunks c.batchSize ([d "1"] ++ [d "2", d "3"]) =
        [[d "1", d "2"], [d "3"]] := by decide +kernel
    exact ⟨s, es, as, s', es', before, h, batches ▸ cuts as s' es' h finishing⟩
  · have ran : ((run c (.initial c) queued).bind fun m =>
        (run c m.1 inline).bind fun m₁ => (run c m.1 started).map fun m₂ =>
          decide (m.1.phase = .running ∧ m.1.hasReceiver = true ∧ m.1.queue.offers = [] ∧
            m.1.queue.items = [d "1", d "2"] ∧ accepted m₁.2 = [] ∧
            m₁.1.phase = .closed ∧ m₂.1.phase = .closed ∧ Punctual c m.1 started ∧
            answers .flush c m.1 inline = [reset, done] ∧
            answers .flush c m.1 started = [reset, done])) = some true := by decide +kernel
    obtain ⟨⟨s, es⟩, before, ran⟩ := Option.bind_eq_some_iff.1 ran
    obtain ⟨⟨s₁, es₁⟩, h₁, ran⟩ := Option.bind_eq_some_iff.1 ran
    obtain ⟨⟨s₂, es₂⟩, h₂, facts⟩ := Option.map_eq_some_iff.1 ran
    obtain ⟨running, receiver, nobody, items, none, closed₁, closed₂, punctual, answers₁,
      answers₂⟩ := of_decide_eq_true facts
    obtain ⟨cut, batches, requests⟩ := closes _ s es 2 _ s₁ es₁ 2 _ s₂ es₂ before (by decide)
      running receiver h₁ closed₁ h₂ closed₂ (.inr ⟨nobody, punctual, 3, _, rfl⟩)
    have given {answers : List Written} (same : answers = [reset, done]) :
        Given (fun i => if i = 0 then reset else done) answers := ⟨2, same⟩
    refine ⟨s, es, s₁, es₁, s₂, es₂, before, h₁, h₂, ?_, batches,
      requests _ (given answers₁) (given answers₂)⟩
    rw [cut, items, none]
    exact chunks_eq_singleton (by decide) (by decide)

/-- Without time between two ticks the worker dies when it begins. Two declarations in the queue
make a batch when a call of close drains them, and none when the worker is started and the batcher
closed at once. -/
theorem closed_unlike_of_no_interval :
    let c : Deployment := ⟨⟨3, 0, 1000, 10⟩, .common, by decide⟩
    let d (id : String) := Declaration.delete "tracks" "" id
    let queued : List Action :=
      [.begin 0 (.enqueue (d "1")), .send 0, .begin 1 (.enqueue (d "2")), .send 1]
    let inline : List Action :=
      [.begin 2 .close, .shut, .drain, .drain, .drain, .answer .flush (.ok (.allSucceeded 2)),
        .finish]
    let started : List Action := [.begin 2 .run, .begin 3 .close, .start, .join]
    ∃ s es s₁ es₁ s₂ es₂, run c (.initial c) queued = some (s, es) ∧ s.queue.offers = [] ∧
      run c s inline = some (s₁, es₁) ∧ s₁.phase = .closed ∧
      run c s started = some (s₂, es₂) ∧ s₂.phase = .closed ∧ Punctual c s started ∧
      taken es₁ = [[d "1", d "2"]] ∧ taken es₂ = [] := by
  intro c d queued inline started
  have ran : ((run c (.initial c) queued).bind fun m =>
      (run c m.1 inline).bind fun m₁ => (run c m.1 started).map fun m₂ =>
        decide (m.1.queue.offers = [] ∧ m₁.1.phase = .closed ∧ m₂.1.phase = .closed ∧
          Punctual c m.1 started ∧ taken m₁.2 = [[d "1", d "2"]] ∧ taken m₂.2 = [])) =
      some true := by decide +kernel
  obtain ⟨⟨s, es⟩, before, ran⟩ := Option.bind_eq_some_iff.1 ran
  obtain ⟨⟨s₁, es₁⟩, h₁, ran⟩ := Option.bind_eq_some_iff.1 ran
  obtain ⟨⟨s₂, es₂⟩, h₂, facts⟩ := Option.map_eq_some_iff.1 ran
  obtain ⟨nobody, closed₁, closed₂, punctual, one, none⟩ := of_decide_eq_true facts
  exact ⟨s, es, s₁, es₁, s₂, es₂, before, nobody, h₁, closed₁, h₂, closed₂, punctual, one, none⟩

end CatalogSearch.Batcher
