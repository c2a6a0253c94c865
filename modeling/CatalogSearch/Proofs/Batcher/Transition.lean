import CatalogSearch.Batcher.History

/-!
# What a step of a batcher can do

`Transition` lists what a step can do: for each case when it happens, what becomes of the batcher
and what is seen. `Transition.of_step` says that these are all the cases; whatever holds of every
reachable batcher is proved by going through them.
-/

namespace CatalogSearch.Batcher

/-- The action by which the consumer takes a declaration and goes on as given. -/
def Resume.takes : Resume → Action
  | .selecting _ => .receive
  | .draining _ | .finishing _ => .drain

/-- Whether a write is what a call asks the engine for. -/
def Operation.Writes (c : Deployment) (op : Operation) (w : Write) : Prop :=
  (∃ d, op = .apply d ∧ w = .single d) ∨
    ∃ ds, ds ≠ [] ∧ op = .applyBatch ds ∧ w = .bulk ds c.flushTimeout

theorem Operation.Writes.isDirect {c : Deployment} {op : Operation} {w : Write} (h : op.Writes c w)
    (call : Nat) : (Event.begun call op).isDirect = true := by
  rcases h with ⟨d, rfl, -⟩ | ⟨ds, -, rfl, -⟩
  · rfl
  · rfl

/-- What a step can do: the action, the batcher after it, and what is seen. -/
inductive Transition (c : Deployment) (s : State) : Action → State → List Event → Prop
  | immediate {call : Nat} {op : Operation} {outcome : Outcome} (fresh : call ∉ s.calls)
      (h : immediate? s op = some outcome) :
      Transition c s (.begin call op) s [.begun call op, .returned call outcome]
  | startRun {call : Nat} (fresh : call ∉ s.calls) (running : s.phase = .running)
      (receiver : s.hasReceiver = true) (fits : c.Fits) :
      Transition c s (.begin call .run)
        { s with hasReceiver := false, hasWorker := true, consumer := .starting }
        [.begun call .run, .started, .returned call (.ok .ok)]
  | crashRun {call : Nat} (fresh : call ∉ s.calls) (running : s.phase = .running)
      (receiver : s.hasReceiver = true) (large : ¬c.Fits) :
      Transition c s (.begin call .run) (unmake s) [.begun call .run, .crashed call]
  | arrive {call : Nat} {d : Declaration} (fresh : call ∉ s.calls) (running : s.phase = .running)
      (valid : d.missingField = none) :
      Transition c s (.begin call (.enqueue d)) { s with queue := s.queue.arrive ⟨call, d⟩ }
        [.begun call (.enqueue d)]
  | write {call : Nat} {op : Operation} {w : Write} (fresh : call ∉ s.calls)
      (unclosed : s.phase ≠ .closed) (writes : op.Writes c w)
      (valid : ∀ d ∈ w.declarations, d.missingField = none) :
      Transition c s (.begin call op) { s with direct := s.direct ++ [⟨call, w, .first⟩] }
        [.begun call op, .asked (.call call) w]
  | closeWorker {call : Nat} (fresh : call ∉ s.calls) (running : s.phase = .running)
      (worker : s.hasWorker = true) :
      Transition c s (.begin call .close)
        { s with phase := .draining, hasWorker := false, hasReceiver := false, shutdown := true,
                 closing := some call }
        [.begun call .close]
  | closeInline {call : Nat} (fresh : call ∉ s.calls) (running : s.phase = .running)
      (worker : s.hasWorker = false) (receiver : s.hasReceiver = true) (fits : c.Fits) :
      Transition c s (.begin call .close)
        { s with phase := .draining, hasWorker := false, hasReceiver := false,
                 consumer := .shutting (.caller call) }
        [.begun call .close]
  | crashClose {call : Nat} (fresh : call ∉ s.calls) (running : s.phase = .running)
      (worker : s.hasWorker = false) (receiver : s.hasReceiver = true) (large : ¬c.Fits) :
      Transition c s (.begin call .close)
        (unmake { s with phase := .draining, hasWorker := false, hasReceiver := false })
        [.begun call .close, .crashed call]
  | closeUnowned {call : Nat} (fresh : call ∉ s.calls) (running : s.phase = .running)
      (worker : s.hasWorker = false) (receiver : s.hasReceiver = false) :
      Transition c s (.begin call .close)
        { s with phase := .draining, hasWorker := false, hasReceiver := false,
                 closing := some call }
        [.begun call .close]
  | cancel {call : Nat} (active : call ∈ s.calls) :
      Transition c s (.cancel call) (cancelCall s call) [.cancelled call]
  | enter {o : Offer} (mem : o ∈ s.queue.offers) (isOpen : s.queue.isOpen = true)
      (room : o ∈ s.queue.granted ∨ o ∈ s.queue.arriving ∧ 0 < s.queue.room) :
      Transition c s (.send o.call) { s with queue := s.queue.enter o }
        [.accepted o, .returned o.call (.ok .ok)]
  | wait {o : Offer} (mem : o ∈ s.queue.offers) (isOpen : s.queue.isOpen = true)
      (arriving : o ∈ s.queue.arriving) (full : s.queue.room = 0) :
      Transition c s (.send o.call) { s with queue := s.queue.await o } []
  | refuse {o : Offer} (mem : o ∈ s.queue.offers) (isClosed : s.queue.isOpen = false) :
      Transition c s (.send o.call) { s with queue := s.queue.without o.call }
        [.returned o.call (.error .closed)]
  | startWorker (starting : s.consumer = .starting) (ticks : c.Ticks) :
      Transition c s .start { s with consumer := .selecting (s.now + c.flushInterval) } []
  | die (starting : s.consumer = .starting) (stuck : ¬c.Ticks) :
      Transition c s .start (die s) []
  | collect {d : Declaration} {queue : Queue} {after : Resume}
      (takes : s.queue.take? = some (d, queue)) (consumer : s.consumer = after.consumer)
      (goesOn : ∀ owner, after ≠ .finishing owner)
      (small : (s.buffer ++ [d]).length < c.batchSize) :
      Transition c s after.takes { s with queue, buffer := s.buffer ++ [d] } []
  | collectFlush {d : Declaration} {queue : Queue} {after : Resume}
      (takes : s.queue.take? = some (d, queue)) (consumer : s.consumer = after.consumer)
      (goesOn : ∀ owner, after ≠ .finishing owner)
      (full : c.batchSize ≤ (s.buffer ++ [d]).length) :
      Transition c s after.takes
        { s with queue, buffer := [], consumer := .flushing ⟨s.buffer ++ [d], .first, after⟩ }
        [.taken (s.buffer ++ [d]), .asked .flush (.bulk (s.buffer ++ [d]) c.flushTimeout)]
  | desert {nextTick : Nat} (selecting : s.consumer = .selecting nextTick)
      (empty : s.queue.items = []) (deserted : s.isDeserted = true) :
      Transition c s .receive { s with consumer := .shutting .worker } []
  | idleTick {nextTick : Nat} (selecting : s.consumer = .selecting nextTick)
      (due : nextTick ≤ s.now) (empty : s.buffer = []) :
      Transition c s .tick { s with consumer := .selecting (tickAfter c nextTick s.now) } []
  | flushTick {nextTick : Nat} (selecting : s.consumer = .selecting nextTick)
      (due : nextTick ≤ s.now) (nonempty : s.buffer ≠ []) :
      Transition c s .tick
        { s with
          buffer := []
          consumer := .flushing ⟨s.buffer, .first, .selecting (tickAfter c nextTick s.now)⟩ }
        [.taken s.buffer, .asked .flush (.bulk s.buffer c.flushTimeout)]
  | signal {nextTick : Nat} (selecting : s.consumer = .selecting nextTick)
      (shutdown : s.shutdown = true) :
      Transition c s .signal { s with consumer := .shutting .worker } []
  | shut {owner : Owner} (shutting : s.consumer = .shutting owner) :
      Transition c s .shut { s with queue := s.queue.close, consumer := .draining owner } []
  | drained {owner : Owner} (draining : s.consumer = .draining owner)
      (items : s.queue.items = []) (granted : s.queue.granted = []) (empty : s.buffer = []) :
      Transition c s .drain { s with consumer := .finishing owner } []
  | flushLast {owner : Owner} (draining : s.consumer = .draining owner)
      (items : s.queue.items = []) (granted : s.queue.granted = []) (nonempty : s.buffer ≠ []) :
      Transition c s .drain
        { s with buffer := [], consumer := .flushing ⟨s.buffer, .first, .finishing owner⟩ }
        [.taken s.buffer, .asked .flush (.bulk s.buffer c.flushTimeout)]
  | finishWorker (finishing : s.consumer = .finishing .worker) :
      Transition c s .finish { markClosed s with consumer := .ended } []
  | finishCaller {call : Nat} (finishing : s.consumer = .finishing (.caller call)) :
      Transition c s .finish { markClosed s with consumer := .ended }
        [.returned call (.ok .ok)]
  | joinEnded {call : Nat} (closing : s.closing = some call) (ended : s.consumer = .ended) :
      Transition c s .join { s with closing := none } [.returned call (.ok .ok)]
  | joinDied {call : Nat} (closing : s.closing = some call) (died : s.consumer = .died) :
      Transition c s .join { markClosed s with closing := none }
        [.returned call (.error (.worker "the worker has died"))]
  | joinUnmade {call : Nat} (closing : s.closing = some call) (unmade : s.consumer = .unmade) :
      Transition c s .join { markClosed s with closing := none } [.returned call (.ok .ok)]
  | pauseFlush {f : Flush} {e : SearchError} (flushing : s.consumer = .flushing f)
      (first : f.attempt = .first) (engine : e.isEngineError = true) :
      Transition c s (.answer .flush (.error e))
        { s with consumer := .flushing { f with attempt := .pausing (s.now + c.retryDelay) } } []
  | endFlush {f : Flush} {written : Written} (flushing : s.consumer = .flushing f)
      (awaits : f.attempt.awaits = true)
      (last : f.attempt.after s.now c.retryDelay written = none) :
      Transition c s (.answer .flush written) { s with consumer := f.resume.consumer }
        [.flushed f.batch written]
  | retryFlush {f : Flush} (flushing : s.consumer = .flushing f)
      (due : f.attempt.isDue s.now = true) :
      Transition c s (.wake .flush)
        { s with consumer := .flushing { f with attempt := .second } }
        [.asked .flush (.bulk f.batch c.flushTimeout)]
  | pauseDirect {w : Direct} {e : SearchError} (direct : s.direct? w.call = some w)
      (first : w.attempt = .first) (engine : e.isEngineError = true) :
      Transition c s (.answer (.call w.call) (.error e))
        { s with direct := setAttempt w.call (.pausing (s.now + c.retryDelay)) s.direct } []
  | endDirect {w : Direct} {written : Written} (direct : s.direct? w.call = some w)
      (awaits : w.attempt.awaits = true)
      (last : w.attempt.after s.now c.retryDelay written = none) :
      Transition c s (.answer (.call w.call) written)
        { s with direct := s.direct.filter fun v => v.call ≠ w.call }
        [.returned w.call (directOutcome w.write written)]
  | retryDirect {w : Direct} (direct : s.direct? w.call = some w)
      (due : w.attempt.isDue s.now = true) :
      Transition c s (.wake (.call w.call))
        { s with direct := setAttempt w.call .second s.direct }
        [.asked (.call w.call) w.write]
  | advance {time : Nat} (later : s.now < time) :
      Transition c s (.advance time) { s with now := time } []

namespace Transition

variable {c : Deployment} {s s' : State} {a : Action} {es : List Event}

/-! ## These are all the cases -/

theorem of_launch {call : Nat} {op : Operation} (fresh : call ∉ s.calls)
    (h : immediate? s op = none) :
    Transition c s (.begin call op) (launch c s call op).1
      (.begun call op :: (launch c s call op).2) := by
  cases op with
  | run =>
    obtain ⟨running, receiver⟩ := immediate?_run.1 h
    simp only [launch, launchRun]
    split
    · next fits => exact startRun fresh running receiver fits
    · next large => exact crashRun fresh running receiver large
  | enqueue d =>
    obtain ⟨valid, running, -⟩ := immediate?_enqueue.1 h
    exact arrive fresh running valid
  | apply d =>
    obtain ⟨unclosed, valid⟩ := immediate?_apply.1 h
    exact write fresh unclosed (.inl ⟨d, rfl, rfl⟩) (by simpa using valid)
  | applyBatch ds =>
    obtain ⟨unclosed, nonempty, valid⟩ := immediate?_applyBatch.1 h
    exact write fresh unclosed (.inr ⟨ds, nonempty, rfl, rfl⟩) valid
  | close =>
    have running := immediate?_close.1 h
    simp only [launch, launchClose]
    split
    · next worker => exact closeWorker fresh running worker
    · next worker =>
      have worker := eq_false_of_ne_true worker
      split
      · next receiver =>
        split
        · next fits => exact closeInline fresh running worker receiver fits
        · next large => exact crashClose fresh running worker receiver large
      · next receiver =>
        exact closeUnowned fresh running worker (eq_false_of_ne_true receiver)

theorem of_begin {call : Nat} {op : Operation} (h : step c s (.begin call op) = some (s', es)) :
    Transition c s (.begin call op) s' es := by
  simp only [step, beginCall] at h
  split at h
  · cases h
  · next fresh =>
    split at h
    · next answered =>
      cases h
      exact immediate fresh answered
    · next launched =>
      cases h
      exact of_launch fresh launched

theorem of_send {call : Nat} (h : send s call = some (s', es)) :
    Transition c s (.send call) s' es := by
  unfold send at h
  split at h
  · next o found =>
    have mem := List.mem_of_find?_eq_some found
    obtain rfl : o.call = call := by simpa using List.find?_some found
    unfold Queue.proceed? at h
    split at h
    · next isClosed =>
      cases h
      exact refuse mem (by simpa using isClosed)
    · next isOpen =>
      have isOpen : s.queue.isOpen = true := by simpa using isOpen
      split at h
      · next room =>
        cases h
        exact enter mem isOpen room
      · next noRoom =>
        split at h
        · next arriving =>
          cases h
          refine wait mem isOpen arriving ?_
          simpa [arriving] using (not_or.1 noRoom).2
        · cases h
  · cases h

theorem of_join (h : join s = some (s', es)) : Transition c s .join s' es := by
  unfold join at h
  split at h
  · next closing ended =>
    cases h
    exact joinEnded closing ended
  · next closing died =>
    cases h
    exact joinDied closing died
  · next closing unmade =>
    cases h
    exact joinUnmade closing unmade
  · cases h

theorem of_receive {nextTick : Nat} (selecting : s.consumer = .selecting nextTick)
    (h : receive c s nextTick = some (s', es)) : Transition c s .receive s' es := by
  unfold receive at h
  split at h
  · next d queue takes =>
    by_cases small : (s.buffer ++ [d]).length < c.batchSize
    · rw [collect_of_small small] at h
      cases h
      rw [show Resume.consumer (.selecting nextTick) = s.consumer from selecting.symm]
      exact @collect _ _ _ _ (.selecting nextTick) takes selecting (by simp) small
    · have full := Nat.le_of_not_lt small
      rw [collect_of_full full] at h
      cases h
      exact @collectFlush _ _ _ _ (.selecting nextTick) takes selecting (by simp) full
  · next empty =>
    split at h
    · next deserted =>
      cases h
      exact desert selecting (Queue.take?_eq_none.1 empty) deserted
    · cases h

theorem of_tick {nextTick : Nat} (selecting : s.consumer = .selecting nextTick)
    (due : nextTick ≤ s.now)
    (h : flush c s (.selecting (tickAfter c nextTick s.now)) = (s', es)) :
    Transition c s .tick s' es := by
  by_cases empty : s.buffer = []
  · rw [flush_of_empty empty] at h
    cases h
    exact idleTick selecting due empty
  · rw [flush_of_nonempty empty] at h
    cases h
    exact flushTick selecting due empty

theorem of_drain {owner : Owner} (draining : s.consumer = .draining owner)
    (h : drain c s owner = some (s', es)) : Transition c s .drain s' es := by
  unfold drain at h
  split at h
  · next d queue takes =>
    by_cases small : (s.buffer ++ [d]).length < c.batchSize
    · rw [collect_of_small small] at h
      cases h
      rw [show Resume.consumer (.draining owner) = s.consumer from draining.symm]
      exact @collect _ _ _ _ (.draining owner) takes draining (by simp) small
    · have full := Nat.le_of_not_lt small
      rw [collect_of_full full] at h
      cases h
      exact @collectFlush _ _ _ _ (.draining owner) takes draining (by simp) full
  · next empty =>
    have items := Queue.take?_eq_none.1 empty
    split at h
    · next granted =>
      have granted : s.queue.granted = [] := by simpa using granted
      by_cases empty : s.buffer = []
      · rw [flush_of_empty empty] at h
        cases h
        exact drained draining items granted empty
      · rw [flush_of_nonempty empty] at h
        cases h
        exact flushLast draining items granted empty
    · cases h

theorem of_answerFlush {f : Flush} {written : Written} (flushing : s.consumer = .flushing f)
    (awaits : f.attempt.awaits = true) (h : answerFlush c s f written = (s', es)) :
    Transition c s (.answer .flush written) s' es := by
  unfold answerFlush at h
  split at h
  · next answered =>
    obtain ⟨first, ⟨e, rfl, engine⟩, rfl⟩ := Attempt.after_eq_some.1 answered
    cases h
    exact pauseFlush flushing first engine
  · next last =>
    cases h
    exact endFlush flushing awaits last

theorem of_answerDirect {w : Direct} {written : Written} (direct : s.direct? w.call = some w)
    (awaits : w.attempt.awaits = true) (h : answerDirect c s w written = (s', es)) :
    Transition c s (.answer (.call w.call) written) s' es := by
  unfold answerDirect at h
  split at h
  · next answered =>
    obtain ⟨first, ⟨e, rfl, engine⟩, rfl⟩ := Attempt.after_eq_some.1 answered
    cases h
    exact pauseDirect direct first engine
  · next last =>
    cases h
    exact endDirect direct awaits last

theorem of_consume (h : consume c s a = some (s', es)) : Transition c s a s' es := by
  unfold consume at h
  split at h
  · -- the worker begins
    split at h
    · next starting =>
      cases h
      unfold Batcher.startWorker
      split
      · next ticks => exact startWorker starting ticks
      · next stuck => exact die starting stuck
    · cases h
  · split at h
    · next selecting => exact of_receive selecting h
    · cases h
  · split at h
    · next selecting =>
      split at h
      · next due => exact of_tick selecting due (Option.some.inj h)
      · cases h
    · cases h
  · split at h
    · next selecting =>
      split at h
      · next shutdown =>
        cases h
        exact signal selecting shutdown
      · cases h
    · cases h
  · split at h
    · next shutting =>
      cases h
      exact shut shutting
    · cases h
  · split at h
    · next draining => exact of_drain draining h
    · cases h
  · split at h
    · next owner finishing =>
      cases h
      cases owner with
      | worker => exact finishWorker finishing
      | caller call => exact finishCaller finishing
    · cases h
  · split at h
    · next flushing =>
      split at h
      · next awaits => exact of_answerFlush flushing awaits (Option.some.inj h)
      · cases h
    · cases h
  · split at h
    · next flushing =>
      split at h
      · next due =>
        cases h
        exact retryFlush flushing due
      · cases h
    · cases h
  · cases h

/-- Whatever a step does is one of the cases. -/
theorem of_step (h : step c s a = some (s', es)) : Transition c s a s' es := by
  have found {call : Nat} {w : Direct} (direct : s.direct? call = some w) : w.call = call := by
    simpa using List.find?_some direct
  unfold step at h
  split at h
  · exact of_begin h
  · split at h
    · next active =>
      cases h
      exact cancel active
    · cases h
  · exact of_send h
  · exact of_join h
  · split at h
    · next direct =>
      obtain rfl := found direct
      split at h
      · next awaits => exact of_answerDirect direct awaits (Option.some.inj h)
      · cases h
    · cases h
  · split at h
    · next direct =>
      obtain rfl := found direct
      split at h
      · next due =>
        cases h
        exact retryDirect direct due
      · cases h
    · cases h
  · split at h
    · next later =>
      cases h
      exact advance later
    · cases h
  · exact of_consume h

/-! ## Time -/

/-- Time passes only by itself. -/
theorem now (t : Transition c s a s' es) :
    s'.now = s.now ∨ ∃ time, a = .advance time ∧ s.now < time ∧ s' = { s with now := time } := by
  cases t with
  | advance later => exact .inr ⟨_, rfl, later, rfl⟩
  | @cancel call =>
    left
    by_cases own : s.consumer.owner? = some (.caller call)
    · rw [cancelCall_of_drains own]
    · rw [cancelCall_of_ne own]
  | _ => exact .inl rfl

/-- Time does not go back. -/
theorem now_le (t : Transition c s a s' es) : s.now ≤ s'.now := by
  rcases t.now with same | ⟨time, -, later, rfl⟩
  · exact Nat.le_of_eq same.symm
  · exact Nat.le_of_lt later

end Transition

end CatalogSearch.Batcher
