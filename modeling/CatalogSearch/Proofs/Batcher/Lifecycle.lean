import CatalogSearch.Proofs.Batcher.Run

/-!
# The stages of a batcher's life

While a batcher is running, either its receiver waits for a worker or a worker was started and
collects declarations or has died, unless there was no room for one. While it is draining, neither
is left to take. Once it is closed its consumer is gone.

`Reaches.lifecycle` says that every reachable batcher is in one of these stages, and
`Reaches.stocked` what the stage of the consumer says of the queue and the buffer.
-/

namespace CatalogSearch.Batcher

/-! ## Stages of the consumer -/

/-- Whether the worker has not yet seen that it should shut down. -/
def Resume.isCollecting : Resume → Bool
  | .selecting _ => true
  | .draining _ | .finishing _ => false

/-- Whether the consumer is a worker that has not yet seen that it should shut down. -/
def Consumer.isCollecting : Consumer → Bool
  | .starting | .selecting _ => true
  | .flushing f => f.resume.isCollecting
  | _ => false

/-- Whether the queue is open at a stage of its consumer. -/
def Consumer.keepsOpen (k : Consumer) : Bool :=
  k.isCollecting || match k with
    | .parked | .shutting _ => true
    | _ => false

/-- Whether there may be declarations in the buffer at a stage of the consumer. -/
def Consumer.holdsBuffer : Consumer → Bool
  | .selecting _ | .shutting _ | .draining _ => true
  | _ => false

/-- Whether the queue is empty for good. -/
def Resume.isDrained : Resume → Bool
  | .finishing _ => true
  | .selecting _ | .draining _ => false

/-- Whether the queue is empty for good at a stage of its consumer. -/
def Consumer.isDrained : Consumer → Bool
  | .flushing f => f.resume.isDrained
  | .finishing _ | .ended | .died | .unmade => true
  | _ => false

/-- Whether nobody consumes the queue, and nobody will. -/
def Consumer.isGone : Consumer → Bool
  | .ended | .died | .unmade => true
  | _ => false

/-- Whether the consumer was lost before it has begun: the worker has died, or there was no room for
a consumer. -/
def Consumer.isBroken : Consumer → Bool
  | .died | .unmade => true
  | _ => false

@[simp] theorem Resume.owner?_consumer (r : Resume) : r.consumer.owner? = some r.owner := by
  cases r <;> rfl

@[simp] theorem Consumer.owner?_flushing (f : Flush) :
    (Consumer.flushing f).owner? = some f.resume.owner := rfl

@[simp] theorem Resume.isCollecting_consumer (r : Resume) :
    r.consumer.isCollecting = r.isCollecting := by
  cases r <;> rfl

@[simp] theorem Resume.keepsOpen_consumer (r : Resume) :
    r.consumer.keepsOpen = r.isCollecting := by
  cases r <;> rfl

@[simp] theorem Resume.isDrained_consumer (r : Resume) : r.consumer.isDrained = r.isDrained := by
  cases r <;> rfl

@[simp] theorem Consumer.keepsOpen_flushing (f : Flush) :
    (Consumer.flushing f).keepsOpen = f.resume.isCollecting := by
  simp [keepsOpen, isCollecting]

theorem Resume.holdsBuffer_consumer {r : Resume} (h : ∀ owner, r ≠ .finishing owner) :
    r.consumer.holdsBuffer = true := by
  cases r with
  | selecting | draining => rfl
  | finishing owner => exact absurd rfl (h owner)

theorem Resume.isDrained_of_ne_finishing {r : Resume} (h : ∀ owner, r ≠ .finishing owner) :
    r.isDrained = false := by
  cases r with
  | selecting | draining => rfl
  | finishing owner => exact absurd rfl (h owner)

theorem Consumer.owner?_of_isCollecting {k : Consumer} (h : k.isCollecting = true) :
    k.owner? = some .worker := by
  cases k with
  | starting | selecting => rfl
  | flushing f =>
    obtain ⟨batch, attempt, resume⟩ := f
    cases resume with
    | selecting => rfl
    | draining | finishing => cases h
  | _ => cases h

theorem Consumer.owner?_of_gone {k : Consumer} (h : k.isGone = true) : k.owner? = none := by
  cases k with
  | ended | died | unmade => rfl
  | _ => cases h

theorem Consumer.isDrained_of_gone {k : Consumer} (h : k.isGone = true) : k.isDrained = true := by
  cases k with
  | ended | died | unmade => rfl
  | _ => cases h

theorem Consumer.isGone_iff {k : Consumer} : k.isGone = true ↔ k = .ended ∨ k.isBroken = true := by
  cases k <;> simp [isGone, isBroken]

@[simp] theorem Resume.isBroken_consumer (r : Resume) : r.consumer.isBroken = false := by
  cases r <;> rfl

/-- Once the queue is empty for good, nothing is collected any more. -/
theorem Consumer.holdsBuffer_of_isDrained {k : Consumer} (h : k.isDrained = true) :
    k.holdsBuffer = false := by
  cases k with
  | flushing | finishing | ended | died | unmade => rfl
  | _ => cases h

/-- What is empty for good is closed. -/
theorem Consumer.keepsOpen_of_isDrained {k : Consumer} (h : k.isDrained = true) :
    k.keepsOpen = false := by
  cases k with
  | flushing f =>
    obtain ⟨batch, attempt, resume⟩ := f
    cases resume with
    | finishing => rfl
    | selecting | draining => cases h
  | finishing | ended | died | unmade => rfl
  | _ => cases h

/-! ## Stages of the batcher -/

/-- The batcher is in one of the stages of its life. -/
structure Lifecycle (s : State) : Prop where
  running : s.phase = .running →
    s.hasSender = true ∧ s.shutdown = false ∧ s.closing = none ∧
      (s.hasReceiver = true ∧ s.hasWorker = false ∧ s.consumer = .parked ∨
        s.hasReceiver = false ∧ s.hasWorker = true ∧
            (s.consumer.isCollecting = true ∨ s.consumer = .died) ∨
        s.hasReceiver = false ∧ s.hasWorker = false ∧ s.consumer = .unmade)
  draining : s.phase = .draining →
    s.hasSender = true ∧ s.hasReceiver = false ∧ s.hasWorker = false ∧ s.consumer ≠ .parked ∧
      (s.closing.isSome = true →
        s.consumer.owner? = some .worker ∨ s.consumer = .died ∨ s.consumer = .unmade)
  closed : s.phase = .closed →
    s.hasSender = false ∧ s.hasReceiver = false ∧ s.hasWorker = false ∧ s.consumer.isGone = true

namespace Lifecycle

variable {c : Deployment} {s s' : State} {a : Action} {es : List Event}

theorem initial (c : Deployment) : Lifecycle (.initial c) where
  running _ := ⟨rfl, rfl, rfl, .inl ⟨rfl, rfl, rfl⟩⟩
  draining h := by cases h
  closed h := by cases h

theorem ne_closed (h : Lifecycle s) (busy : s.consumer.owner? ≠ none) : s.phase ≠ .closed := by
  intro closed
  obtain ⟨-, -, -, gone⟩ := h.closed closed
  exact busy (Consumer.owner?_of_gone gone)

/-- A consumer at work goes on to a stage of the same task; while the batcher is running it goes on
collecting. -/
theorem goOn (h : Lifecycle s) {k : Consumer} (busy : s.consumer.owner? ≠ none)
    (same : k.owner? = s.consumer.owner?)
    (collects : s.phase = .running → k.isCollecting = true) (queue : Queue)
    (buffer : List Declaration) : Lifecycle { s with queue, buffer, consumer := k } where
  running phase := by
    obtain ⟨sender, shutdown, closing, parked | ⟨receiver, worker, -⟩ | unmade⟩ := h.running phase
    · exact absurd (by rw [parked.2.2]; rfl) busy
    · exact ⟨sender, shutdown, closing, .inr (.inl ⟨receiver, worker, .inl (collects phase)⟩)⟩
    · exact absurd (by rw [unmade.2.2]; rfl) busy
  draining phase := by
    obtain ⟨sender, receiver, worker, -, closing⟩ := h.draining phase
    refine ⟨sender, receiver, worker, ?_, fun waits => ?_⟩
    · intro parked
      have parked : k = .parked := parked
      exact busy (by rw [← same, parked]; rfl)
    · rcases closing waits with owner | died | unmade
      · exact .inl (same.trans owner)
      · exact absurd (by rw [died]; rfl) busy
      · exact absurd (by rw [unmade]; rfl) busy
  closed phase := absurd phase (h.ne_closed busy)

/-- A worker at work while the batcher is running is collecting. -/
theorem isCollecting (h : Lifecycle s) (busy : s.consumer.owner? ≠ none)
    (phase : s.phase = .running) : s.consumer.isCollecting = true := by
  obtain ⟨-, -, -, parked | ⟨-, -, collecting | died⟩ | unmade⟩ := h.running phase
  · exact absurd (by rw [parked.2.2]; rfl) busy
  · exact collecting
  · exact absurd (by rw [died]; rfl) busy
  · exact absurd (by rw [unmade.2.2]; rfl) busy

/-- Nobody deserts the queue of a batcher that is running, and nobody tells its worker to shut
down: a consumer at another stage than collecting is at work only once the batcher is draining. -/
theorem ne_running (h : Lifecycle s) (busy : s.consumer.owner? ≠ none)
    (later : s.consumer.isCollecting = false) : s.phase ≠ .running := by
  intro running
  have collecting := h.isCollecting busy running
  rw [later] at collecting
  cases collecting

/-- The consumer is past collecting only while the batcher is draining. -/
theorem isDraining (h : Lifecycle s) (busy : s.consumer.owner? ≠ none)
    (later : s.consumer.isCollecting = false) : s.phase = .draining := by
  have notRunning := h.ne_running busy later
  have notClosed := h.ne_closed busy
  cases phase : s.phase with
  | running => exact absurd phase notRunning
  | draining => rfl
  | closed => exact absurd phase notClosed

/-- While the batcher is running, either its receiver waits for a worker or there is one, unless
there was no room for it. -/
theorem receiver_ne_worker_iff (h : Lifecycle s) (running : s.phase = .running) :
    s.hasReceiver ≠ s.hasWorker ↔ s.consumer ≠ .unmade := by
  obtain ⟨-, -, -, ⟨receiver, worker, parked⟩ | ⟨receiver, worker, collecting | died⟩ |
    ⟨receiver, worker, unmade⟩⟩ := h.running running
  · simp [receiver, worker, parked]
  · refine iff_of_true (by simp [receiver, worker]) fun unmade => ?_
    rw [unmade] at collecting
    cases collecting
  · simp [receiver, worker, died]
  · simp [receiver, worker, unmade]

theorem unmade (h : Lifecycle s) (running : s.phase = .running) (worker : s.hasWorker = false)
    (receiver : s.hasReceiver = false) : s.consumer = .unmade := by
  by_contra made
  exact (h.receiver_ne_worker_iff running).2 made (receiver.trans worker.symm)

theorem hasWorker_of_receiver (h : Lifecycle s) (running : s.phase = .running)
    (receiver : s.hasReceiver = true) : s.hasWorker = false := by
  obtain ⟨-, -, -, parked | worker | unmade⟩ := h.running running
  · exact parked.2.1
  · rw [worker.1] at receiver
    cases receiver
  · exact unmade.2.1

/-- While the receiver waits for a worker there is no consumer. -/
theorem parked (h : Lifecycle s) (running : s.phase = .running) (receiver : s.hasReceiver = true) :
    s.consumer = .parked := by
  obtain ⟨-, -, -, parked | started | unmade⟩ := h.running running
  · exact parked.2.2
  · rw [started.1] at receiver
    cases receiver
  · rw [unmade.1] at receiver
    cases receiver

/-- A worker that dies leaves the stage of the batcher as it is. -/
theorem die (h : Lifecycle s) (starting : s.consumer = .starting) : Lifecycle (die s) where
  running phase := by
    obtain ⟨sender, shutdown, closing, parked | ⟨receiver, worker, -⟩ | unmade⟩ := h.running phase
    · rw [starting] at parked
      cases parked.2.2
    · exact ⟨sender, shutdown, closing, .inr (.inl ⟨receiver, worker, .inr rfl⟩)⟩
    · rw [starting] at unmade
      cases unmade.2.2
  draining phase := by
    obtain ⟨sender, receiver, worker, -, -⟩ := h.draining phase
    exact ⟨sender, receiver, worker, nofun, fun _ => .inr (.inl rfl)⟩
  closed phase := absurd phase (h.ne_closed (by simp [starting, Consumer.owner?]))

/-- A call that drains the queue is given up; nobody waits for it. -/
theorem abandon (h : Lifecycle s) {call : Nat} (own : s.consumer.owner? = some (.caller call))
    (queue : Queue) (buffer : List Declaration) :
    Lifecycle { s with queue, buffer, consumer := .ended } where
  running phase := by
    refine absurd phase (h.ne_running (by simp [own]) (eq_false_of_ne_true fun collecting => ?_))
    rw [Consumer.owner?_of_isCollecting collecting] at own
    cases own
  draining phase := by
    obtain ⟨sender, receiver, worker, -, closing⟩ := h.draining phase
    refine ⟨sender, receiver, worker, nofun, fun waits => ?_⟩
    rcases closing waits with owner | died | unmade
    · rw [own] at owner
      cases owner
    · rw [died] at own
      cases own
    · rw [unmade] at own
      cases own
  closed phase := absurd phase (h.ne_closed (by simp [own]))

theorem cancelCall (h : Lifecycle s) (call : Nat) : Lifecycle (cancelCall s call) := by
  have given : Lifecycle
      { s with
        queue := s.queue.withdraw call
        direct := s.direct.filter fun w => w.call ≠ call
        closing := s.closing.filter (· ≠ call) } :=
    { running := fun phase => by
        obtain ⟨sender, shutdown, closing, stage⟩ := h.running phase
        exact ⟨sender, shutdown, by simp [closing], stage⟩
      draining := fun phase => by
        obtain ⟨sender, receiver, worker, stage, closing⟩ := h.draining phase
        refine ⟨sender, receiver, worker, stage, fun waits => closing ?_⟩
        obtain ⟨call', waits⟩ := Option.isSome_iff_exists.1 waits
        rw [(Option.filter_eq_some_iff.1 waits).1]
        rfl
      closed := h.closed }
  by_cases own : s.consumer.owner? = some (.caller call)
  · rw [cancelCall_of_drains own]
    exact given.abandon own _ _
  · rw [cancelCall_of_ne own]
    exact given

/-- A worker that was started while the batcher is running collects declarations or has died. -/
theorem staffed (h : Lifecycle s) (running : s.phase = .running) (worker : s.hasWorker = true) :
    s.consumer.isCollecting = true ∨ s.consumer = .died := by
  obtain ⟨-, -, -, parked | started | unmade⟩ := h.running running
  · rw [parked.2.1] at worker
    cases worker
  · exact started.2.2
  · rw [unmade.2.1] at worker
    cases worker

/-- The batcher is told to close while it is running. A call that waits then waits for the worker,
or there is no room for a consumer. -/
theorem close (h : Lifecycle s) (running : s.phase = .running) {k : Consumer} {queue : Queue}
    {shutdown : Bool} {closing : Option Nat} (taken : k ≠ .parked)
    (waits : closing.isSome = true → k.owner? = some .worker ∨ k = .died ∨ k = .unmade) :
    Lifecycle
      { s with phase := .draining, hasWorker := false, hasReceiver := false, queue, shutdown,
               closing, consumer := k } where
  running phase := by cases phase
  draining _ := ⟨(h.running running).1, rfl, rfl, taken, waits⟩
  closed phase := by cases phase

/-- The batcher is closed when its consumer is gone. -/
theorem markClosed (h : Lifecycle s) (later : s.phase ≠ .running) {k : Consumer}
    (gone : k.isGone = true) (closing : Option Nat) :
    Lifecycle { markClosed s with closing, consumer := k } where
  running phase := by cases phase
  draining phase := by cases phase
  closed _ := by
    cases phase : s.phase with
    | running => exact absurd phase later
    | draining =>
      obtain ⟨-, receiver, worker, -⟩ := h.draining phase
      exact ⟨rfl, receiver, worker, gone⟩
    | closed =>
      obtain ⟨-, receiver, worker, -⟩ := h.closed phase
      exact ⟨rfl, receiver, worker, gone⟩

/-- A batcher for whose worker somebody waits was told to close. -/
theorem ne_running_of_closing (h : Lifecycle s) {call : Nat} (closing : s.closing = some call) :
    s.phase ≠ .running := by
  intro running
  obtain ⟨-, -, unclaimed, -⟩ := h.running running
  rw [closing] at unclaimed
  cases unclaimed

/-- A step keeps a batcher in one of the stages. -/
theorem step (h : Lifecycle s) (t : Transition c s a s' es) : Lifecycle s' := by
  cases t with
  | immediate => exact h
  | arrive | write | enter | wait | refuse | collect | pauseDirect | endDirect | retryDirect
  | advance => exact ⟨h.running, h.draining, h.closed⟩
  | startRun _ running receiver =>
    obtain ⟨sender, shutdown, closing, -⟩ := h.running running
    refine ⟨fun _ => ?_, fun phase => ?_, fun phase => ?_⟩
    · exact ⟨sender, shutdown, closing, .inr (.inl ⟨rfl, rfl, .inl rfl⟩)⟩
    · exact absurd (running.symm.trans phase) nofun
    · exact absurd (running.symm.trans phase) nofun
  | crashRun _ running receiver =>
    obtain ⟨sender, shutdown, closing, -⟩ := h.running running
    have worker := h.hasWorker_of_receiver running receiver
    refine ⟨fun _ => ?_, fun phase => ?_, fun phase => ?_⟩
    · exact ⟨sender, shutdown, closing, .inr (.inr ⟨rfl, worker, rfl⟩)⟩
    · exact absurd (running.symm.trans phase) nofun
    · exact absurd (running.symm.trans phase) nofun
  | closeWorker _ running worker =>
    have staffed := h.staffed running worker
    refine h.close running (fun parked => ?_) fun _ =>
      staffed.imp Consumer.owner?_of_isCollecting .inl
    rw [parked] at staffed
    simp [Consumer.isCollecting] at staffed
  | closeInline _ running =>
    obtain ⟨-, -, unclaimed, -⟩ := h.running running
    exact h.close running nofun fun waits => by simp [unclaimed] at waits
  | crashClose _ running => exact h.close running nofun fun _ => .inr (.inr rfl)
  | closeUnowned _ running worker receiver =>
    have unmade := h.unmade running worker receiver
    exact h.close running (by simp [unmade]) fun _ => .inr (.inr unmade)
  | cancel => exact h.cancelCall _
  | startWorker starting =>
    exact h.goOn (by simp [starting, Consumer.owner?]) (by rw [starting]; rfl) (fun _ => rfl) _ _
  | die starting => exact h.die starting
  | collectFlush _ consumer =>
    refine h.goOn (by simp [consumer]) (by simp [consumer]) ?_ _ _
    intro phase
    have collecting := h.isCollecting (by simp [consumer]) phase
    rwa [consumer, Resume.isCollecting_consumer] at collecting
  | desert selecting _ deserted =>
    have busy : s.consumer.owner? ≠ none := by simp [selecting, Consumer.owner?]
    refine h.goOn busy (by rw [selecting]; rfl) (fun phase => ?_) _ _
    obtain ⟨sender, -⟩ := h.running phase
    simp [State.isDeserted, sender] at deserted
  | idleTick selecting | flushTick selecting =>
    exact h.goOn (by simp [selecting, Consumer.owner?]) (by rw [selecting]; rfl)
      (fun _ => rfl) _ _
  | signal selecting shutdown =>
    have busy : s.consumer.owner? ≠ none := by simp [selecting, Consumer.owner?]
    refine h.goOn busy (by rw [selecting]; rfl) (fun phase => ?_) _ _
    obtain ⟨-, unset, -⟩ := h.running phase
    rw [shutdown] at unset
    cases unset
  | shut consumer | drained consumer | flushLast consumer =>
    have busy : s.consumer.owner? ≠ none := by simp [consumer, Consumer.owner?]
    have later := h.ne_running busy (by rw [consumer]; rfl)
    exact h.goOn busy (by rw [consumer]; rfl) (fun phase => absurd phase later) _ _
  | finishWorker consumer | finishCaller consumer =>
    have later := h.ne_running (by simp [consumer, Consumer.owner?]) (by rw [consumer]; rfl)
    exact h.markClosed later rfl _
  | joinEnded closing ended =>
    have later := h.ne_running_of_closing closing
    refine ⟨fun phase => absurd phase later, fun phase => ?_, h.closed⟩
    obtain ⟨sender, receiver, worker, parked, -⟩ := h.draining phase
    exact ⟨sender, receiver, worker, parked, nofun⟩
  | joinDied closing died =>
    have gone : s.consumer.isGone = true := by rw [died]; rfl
    exact h.markClosed (h.ne_running_of_closing closing) gone none
  | joinUnmade closing unmade =>
    have gone : s.consumer.isGone = true := by rw [unmade]; rfl
    exact h.markClosed (h.ne_running_of_closing closing) gone none
  | pauseFlush consumer | retryFlush consumer =>
    refine h.goOn (by simp [consumer, Consumer.owner?]) (by rw [consumer]; rfl) ?_ _ _
    intro phase
    have collecting := h.isCollecting (by simp [consumer, Consumer.owner?]) phase
    rwa [consumer] at collecting
  | endFlush consumer =>
    refine h.goOn (by simp [consumer]) (by simp [consumer]) ?_ _ _
    intro phase
    have collecting := h.isCollecting (by simp [consumer, Consumer.owner?]) phase
    rw [consumer] at collecting
    rwa [Resume.isCollecting_consumer]

end Lifecycle

/-- A reachable batcher is in one of the stages of its life. -/
theorem Reaches.lifecycle {c : Deployment} {s s' : State} {es : List Event} (h : Reaches c s s' es)
    (before : Lifecycle s) : Lifecycle s' := by
  induction h with
  | start => exact before
  | step _ next ih => exact ih.step (.of_step next)

/-- A consumer that is gone is not replaced. -/
theorem Transition.consumer_eq {c : Deployment} {s s' : State} {a : Action} {es : List Event}
    (t : Transition c s a s' es) (life : Lifecycle s)
    (gone : s.consumer.isGone = true) : s'.consumer = s.consumer := by
  have idle := Consumer.owner?_of_gone gone
  cases t with
  | startRun _ running receiver | crashRun _ running receiver | closeInline _ running _ receiver
  | crashClose _ running _ receiver =>
    have parked := life.parked running receiver
    rw [parked] at gone
    cases gone
  | cancel => rw [cancelCall_of_ne (by simp [idle])]
  | startWorker consumer | die consumer | desert consumer | idleTick consumer | flushTick consumer
  | signal consumer | shut consumer | drained consumer | flushLast consumer | finishWorker consumer
  | finishCaller consumer | pauseFlush consumer | endFlush consumer | retryFlush consumer =>
    simp [consumer, Consumer.owner?] at idle
  | collectFlush _ consumer => simp [consumer] at idle
  | _ => rfl

/-! ## The queue and the buffer at the stages -/

/-- The queue is open, and the buffer is in use, at the stages of the consumer where they should
be. -/
structure Stocked (s : State) : Prop where
  isOpen : s.queue.isOpen = s.consumer.keepsOpen
  buffer : s.consumer.holdsBuffer = false → s.buffer = []
  items : s.consumer.isDrained = true → s.queue.items = []

namespace Stocked

variable {c : Deployment} {s s' : State} {a : Action} {es : List Event}

theorem initial (c : Deployment) : Stocked (.initial c) := ⟨rfl, fun _ => rfl, nofun⟩

/-- What happens on the way into the queue changes nothing, if nothing enters a closed queue. -/
theorem queue (h : Stocked s) {queue : Queue} (isOpen : queue.isOpen = s.queue.isOpen)
    (items : s.queue.isOpen = false → queue.items = s.queue.items) :
    Stocked { s with queue } where
  isOpen := isOpen.trans h.isOpen
  buffer := h.buffer
  items drained := by
    have shut : s.queue.isOpen = false := h.isOpen.trans (Consumer.keepsOpen_of_isDrained drained)
    exact (items shut).trans (h.items drained)

/-- The consumer goes on to a stage at which the queue is still open or still closed. -/
theorem goOn (h : Stocked s) {k : Consumer} (keepsOpen : k.keepsOpen = s.consumer.keepsOpen)
    {buffer : List Declaration} (empty : k.holdsBuffer = false → buffer = [])
    (drained : k.isDrained = true → s.queue.items = []) :
    Stocked { s with buffer, consumer := k } where
  isOpen := h.isOpen.trans keepsOpen.symm
  buffer := empty
  items := drained

theorem cancelCall (h : Stocked s) (call : Nat) : Stocked (cancelCall s call) := by
  by_cases own : s.consumer.owner? = some (.caller call)
  · rw [cancelCall_of_drains own]
    exact ⟨rfl, fun _ => rfl, fun _ => rfl⟩
  · rw [cancelCall_of_ne own]
    have withdrawn := h.queue (Queue.isOpen_withdraw s.queue call) fun _ => Queue.items_withdraw _ _
    exact ⟨withdrawn.isOpen, withdrawn.buffer, withdrawn.items⟩

/-- A step keeps the queue and the buffer so. -/
theorem step (h : Stocked s) (life : Lifecycle s) (t : Transition c s a s' es) : Stocked s' := by
  cases t with
  | immediate => exact h
  | write | closeWorker | closeUnowned | pauseDirect | endDirect | retryDirect | advance
  | joinEnded | joinDied | joinUnmade => exact ⟨h.isOpen, h.buffer, h.items⟩
  | startRun _ running receiver =>
    have parked := life.parked running receiver
    refine ⟨h.isOpen.trans (by rw [parked]; rfl), fun _ => h.buffer ?_, nofun⟩
    rw [parked]
    rfl
  | closeInline _ running _ receiver =>
    have parked := life.parked running receiver
    exact ⟨h.isOpen.trans (by rw [parked]; rfl), nofun, nofun⟩
  | crashRun _ running receiver | crashClose _ running _ receiver =>
    have parked := life.parked running receiver
    exact ⟨rfl, fun _ => h.buffer (by rw [parked]; rfl), fun _ => rfl⟩
  | arrive => exact h.queue rfl fun _ => rfl
  | cancel => exact h.cancelCall _
  | enter _ isOpen =>
    refine h.queue rfl fun shut => ?_
    rw [isOpen] at shut
    cases shut
  | wait | refuse => exact h.queue rfl fun _ => rfl
  | startWorker starting => exact h.goOn (by rw [starting]; rfl) nofun nofun
  | die starting =>
    exact ⟨rfl, fun _ => h.buffer (by rw [starting]; rfl), fun _ => rfl⟩
  | collect takes consumer goesOn =>
    obtain ⟨-, isOpen, -⟩ := Queue.of_take?_eq_some takes
    refine ⟨isOpen.trans h.isOpen, fun unused => ?_, fun drained => ?_⟩
    · have used := Resume.holdsBuffer_consumer goesOn
      rw [← consumer] at used
      cases used.symm.trans unused
    · have drained : s.consumer.isDrained = true := drained
      rw [consumer, Resume.isDrained_consumer, Resume.isDrained_of_ne_finishing goesOn] at drained
      cases drained
  | collectFlush takes consumer goesOn =>
    obtain ⟨-, isOpen, -⟩ := Queue.of_take?_eq_some takes
    refine ⟨(isOpen.trans h.isOpen).trans ?_, fun _ => rfl, fun drained => ?_⟩
    · rw [consumer, Resume.keepsOpen_consumer, Consumer.keepsOpen_flushing]
    · cases (Resume.isDrained_of_ne_finishing goesOn).symm.trans drained
  | desert selecting | signal selecting | idleTick selecting =>
    exact h.goOn (by rw [selecting]; rfl) nofun nofun
  | flushTick selecting => exact h.goOn (by rw [selecting]; rfl) (fun _ => rfl) nofun
  | shut => exact ⟨rfl, nofun, nofun⟩
  | drained draining items granted empty =>
    exact h.goOn (by rw [draining]; rfl) (fun _ => empty) fun _ => items
  | flushLast draining items =>
    exact h.goOn (by rw [draining]; rfl) (fun _ => rfl) fun _ => items
  | finishWorker finishing | finishCaller finishing =>
    exact ⟨h.isOpen.trans (by rw [finishing]; rfl), fun _ => h.buffer (by rw [finishing]; rfl),
      fun _ => h.items (by rw [finishing]; rfl)⟩
  | pauseFlush flushing | retryFlush flushing =>
    refine h.goOn (by rw [flushing]; rfl) (fun _ => h.buffer (by rw [flushing]; rfl)) ?_
    exact fun drained => h.items (by rw [flushing]; exact drained)
  | endFlush flushing =>
    refine h.goOn ?_ (fun _ => h.buffer (by rw [flushing]; rfl)) fun drained => h.items ?_
    · rw [flushing, Resume.keepsOpen_consumer, Consumer.keepsOpen_flushing]
    · rw [flushing]
      exact (Resume.isDrained_consumer _).symm.trans drained

/-- A closed batcher holds no declarations. -/
theorem empty_of_closed (h : Stocked s) (life : Lifecycle s) (closed : s.phase = .closed) :
    s.buffer = [] ∧ s.queue.items = [] := by
  obtain ⟨-, -, -, gone⟩ := life.closed closed
  have drained := Consumer.isDrained_of_gone gone
  exact ⟨h.buffer (Consumer.holdsBuffer_of_isDrained drained), h.items drained⟩

end Stocked

theorem Reaches.stocked {c : Deployment} {s s' : State} {es : List Event} (h : Reaches c s s' es)
    (life : Lifecycle s) (before : Stocked s) : Stocked s' := by
  induction h with
  | start => exact before
  | step reached next ih => exact ih.step (reached.lifecycle life) (.of_step next)

end CatalogSearch.Batcher
