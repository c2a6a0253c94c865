import CatalogSearch.Proofs.Batcher.Conservation

/-!
# What a successful close says

A call of close that returns without an error either ends at once, because the batcher was told to
close before, or is the one that told it, and has waited for the end. `successful_close_iff` says
when the batcher is closed at that moment and everything in the queue was asked for.
-/

namespace CatalogSearch.Batcher

variable {c : Deployment} {s s' : State} {a : Action} {es new : List Event}

/-! ## How a call of close ends -/

/-- A call of close that returns ends at once in a batcher that was told to close before, or sees
that the batcher is closed. -/
theorem Transition.close_returned (t : Transition c s a s' new) (life : Lifecycle s)
    (roles : Roles c s es) (distinct : DistinctCalls (es ++ new)) {call : Nat} {outcome : Outcome}
    (begun : .begun call .close ∈ es ++ new) (returned : .returned call outcome ∈ new) :
    (a = .begin call .close ∧ s.phase ≠ .running ∧ s' = s) ∨
      (a ≠ .begin call .close ∧ s'.phase = .closed) := by
  cases t with
  | @immediate call' op outcome _ answer =>
    obtain ⟨rfl, -⟩ : call = call' ∧ _ := by simpa using returned
    obtain rfl := distinct.begun_unique begun (List.mem_append_right _ List.mem_cons_self)
    refine .inl ⟨rfl, fun running => ?_, rfl⟩
    rw [immediate?_close.2 running] at answer
    cases answer
  | @startRun call' =>
    obtain ⟨rfl, -⟩ : call = call' ∧ _ := by simpa using returned
    cases distinct.begun_unique begun (List.mem_append_right _ List.mem_cons_self)
  | @enter o mem | @refuse o mem =>
    obtain ⟨rfl, -⟩ : call = o.call ∧ _ := by simpa using returned
    cases distinct.begun_unique begun (List.mem_append_left _ (roles.offers o mem))
  | finishCaller | joinDied | joinUnmade => exact .inr ⟨nofun, rfl⟩
  | joinEnded closing ended =>
    refine .inr ⟨nofun, ?_⟩
    show s.phase = .closed
    cases phase : s.phase with
    | running => exact absurd phase (life.ne_running_of_closing closing)
    | draining =>
      obtain ⟨-, -, -, -, waits⟩ := life.draining phase
      have waits := waits (by rw [closing]; rfl)
      simp [ended, Consumer.owner?] at waits
    | closed => rfl
  | @endDirect w _ found =>
    obtain ⟨rfl, -⟩ : call = w.call ∧ _ := by simpa using returned
    obtain ⟨op, direct, writes⟩ := roles.direct w (List.mem_of_find?_eq_some found)
    obtain rfl := distinct.begun_unique begun (List.mem_append_left _ direct)
    cases writes.isDirect w.call
  | _ => simp at returned

/-! ## When everything was asked for -/

/-- Nothing is taken before the consumer has begun, nor if it was lost at the beginning. -/
def Consumer.isIdle : Consumer → Bool
  | .parked | .starting | .died | .unmade => true
  | _ => false

theorem Transition.taken_eq_nil (t : Transition c s a s' es) (life : Lifecycle s)
    (idle : s'.consumer.isIdle = true) : taken es = [] ∧ s.consumer.isIdle = true := by
  cases t with
  | startRun _ running receiver | crashRun _ running receiver | crashClose _ running _ receiver =>
    exact ⟨rfl, by rw [life.parked running receiver]; rfl⟩
  | die consumer => exact ⟨rfl, by rw [consumer]; rfl⟩
  | @cancel call =>
    rcases consumer_cancelCall s call with ended | same
    · rw [ended] at idle
      cases idle
    · exact ⟨rfl, same ▸ idle⟩
  | closeInline | startWorker | collectFlush | desert | idleTick | flushTick | signal | shut
  | drained | flushLast | finishWorker | finishCaller | pauseFlush | retryFlush => cases idle
  | @endFlush f =>
    obtain ⟨batch, attempt, resume⟩ := f
    cases resume <;> cases idle
  | _ => exact ⟨rfl, idle⟩

theorem Reaches.taken_eq_nil (h : Reaches c (.initial c) s es)
    (idle : s.consumer.isIdle = true) : taken es = [] := by
  induction h with
  | start => rfl
  | step reached next ih =>
    have life := reached.lifecycle (.initial c)
    obtain ⟨none, before⟩ := (Transition.of_step next).taken_eq_nil life idle
    rw [taken_append, ih before, none, List.append_nil]

theorem Consumer.isIdle_of_isBroken {k : Consumer} (h : k.isBroken = true) : k.isIdle = true := by
  cases k with
  | died | unmade => rfl
  | _ => cases h

/-- In a closed batcher everything that has entered the queue was asked for, unless it was lost with
the consumer. -/
theorem Reaches.allAttempted_iff (h : Reaches c (.initial c) s es) (closed : s.phase = .closed) :
    AllAttempted c es ↔ ¬(s.consumer.isBroken = true ∧ accepted es ≠ []) := by
  have life := h.lifecycle (.initial c)
  obtain ⟨buffer, items⟩ := (h.stocked (.initial c) (.initial c)).empty_of_closed life closed
  have asked : ∀ batch ∈ taken es, .asked .flush (.bulk batch c.flushTimeout) ∈ es :=
    fun batch mem => h.asked_iff_taken.2 ⟨batch, mem, rfl⟩
  obtain ⟨-, -, -, gone⟩ := life.closed closed
  rcases Consumer.isGone_iff.1 gone with ended | broken
  · have conserved : Conserved s es :=
      h.conserved.resolve_left (State.not_forsaken_of_closed ended closed)
    rw [Conserved, buffer, items, List.append_nil, List.append_nil] at conserved
    refine iff_of_true ⟨conserved, asked⟩ fun ⟨broken, _⟩ => ?_
    rw [ended] at broken
    cases broken
  · have none := h.taken_eq_nil (Consumer.isIdle_of_isBroken broken)
    constructor
    · rintro ⟨all, -⟩ ⟨-, some⟩
      rw [none] at all
      exact some (List.map_eq_nil_iff.1 all)
    · intro safe
      have empty : accepted es = [] := by
        by_contra some
        exact safe ⟨broken, some⟩
      refine ⟨?_, asked⟩
      rw [empty, none]
      rfl

/-- **When a successful close means closed.** A call of close returns without an error. At this
moment the batcher is closed, and everything that has entered the queue was asked for, if and only
if the call was not one that ended at once while the queue was being drained, and the consumer was
not lost with declarations that had entered the queue, be it that the worker has died or that there
was no room for a consumer. -/
theorem successful_close_iff (as : List Action) (h : run c (.initial c) as = some (s, es))
    (next : step c s a = some (s', new)) (distinct : DistinctCalls (es ++ new)) {call : Nat}
    (begun : .begun call .close ∈ es ++ new) (ok : .returned call (.ok .ok) ∈ new) :
    s'.phase = .closed ∧ AllAttempted c (es ++ new) ↔
      ¬(a = .begin call .close ∧ s.phase = .draining) ∧
        ¬(s'.consumer.isBroken = true ∧ accepted (es ++ new) ≠ []) := by
  have reached := Reaches.of_run h
  have reached' := reached.step next
  have life := reached.lifecycle (.initial c)
  have t := Transition.of_step next
  rcases t.close_returned life reached.roles distinct begun ok with
    ⟨rfl, stopped, rfl⟩ | ⟨waited, closed⟩
  · cases phase : s'.phase with
    | running => exact absurd phase stopped
    | draining => simp
    | closed => simpa using reached'.allAttempted_iff phase
  · rw [reached'.allAttempted_iff closed]
    simp [closed, waited]

/-- A call of close drains the queue itself and returns when what was in it is written. -/
theorem successful_close_of_drained :
    let c : Deployment := .default
    let as : List Action :=
      [.begin 0 (.enqueue (.delete "tracks" "" "1")), .send 0, .begin 1 .close, .shut, .drain,
        .drain, .answer .flush (.ok (.allSucceeded 1))]
    ∃ s es s' new, run c (.initial c) as = some (s, es) ∧ step c s .finish = some (s', new) ∧
      s'.phase = .closed ∧ AllAttempted c (es ++ new) := by
  intro c as
  have ran : ((run c (.initial c) as).bind fun m => (step c m.1 .finish).map fun n =>
      decide (DistinctCalls (m.2 ++ n.2) ∧ .begun 1 .close ∈ m.2 ++ n.2 ∧
        .returned 1 (.ok .ok) ∈ n.2 ∧ n.1.consumer = .ended)) = some true := by decide +kernel
  obtain ⟨⟨s, es⟩, h, ran⟩ := Option.bind_eq_some_iff.1 ran
  obtain ⟨⟨s', new⟩, next, facts⟩ := Option.map_eq_some_iff.1 ran
  obtain ⟨distinct, begun, ok, ended⟩ := of_decide_eq_true facts
  refine ⟨s, es, s', new, h, next, ?_⟩
  refine (successful_close_iff as h next distinct begun ok).2 ⟨nofun, fun ⟨broken, _⟩ => ?_⟩
  rw [ended] at broken
  cases broken

/-- While the worker flushes a full batch and another declaration waits in the queue, one call of
close tells the batcher to close, and a second one returns at once, without an error. -/
theorem successful_close_while_draining :
    let c : Deployment := ⟨⟨2, 1000, 1000, 10⟩, .common, by decide⟩
    let offer (call : Nat) : List Action :=
      [.begin call (.enqueue (.delete "tracks" "" "1")), .send call]
    let as : List Action :=
      [.begin 0 .run, .start] ++ offer 1 ++ offer 2 ++ [.receive, .receive] ++ offer 3 ++
        [.begin 4 .close]
    ∃ s es s' new, run c (.initial c) as = some (s, es) ∧
      step c s (.begin 5 .close) = some (s', new) ∧ DistinctCalls (es ++ new) ∧
      new = [.begun 5 .close, .returned 5 (.ok .ok)] ∧ s'.phase = .draining ∧
      ¬AllAttempted c (es ++ new) := by
  intro c offer as
  have ran : ((run c (.initial c) as).bind fun m => (step c m.1 (.begin 5 .close)).map fun n =>
      decide (DistinctCalls (m.2 ++ n.2) ∧ n.2 = [.begun 5 .close, .returned 5 (.ok .ok)] ∧
        n.1.phase = .draining ∧ (accepted (m.2 ++ n.2)).map Offer.declaration ≠
          (taken (m.2 ++ n.2)).flatten)) = some true := by decide +kernel
  obtain ⟨⟨s, es⟩, h, ran⟩ := Option.bind_eq_some_iff.1 ran
  obtain ⟨⟨s', new⟩, next, facts⟩ := Option.map_eq_some_iff.1 ran
  obtain ⟨distinct, ends, draining, missing⟩ := of_decide_eq_true facts
  exact ⟨s, es, s', new, h, next, distinct, ends, draining, fun all => missing all.1⟩

end CatalogSearch.Batcher
