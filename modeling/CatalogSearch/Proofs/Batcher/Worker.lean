import CatalogSearch.Proofs.Batcher.Lifecycle

/-!
# The life of the consumer

A batcher whose machine has what its configuration asks for finds a consumer whenever it needs one,
and its worker never dies (`Reaches.lives`). Where the machine has not, the consumer is lost when
the worker is started: there is no room for its buffer, and the call that starts it crashes; or its
clock cannot tell when the first tick is due, and the worker dies when it begins (`run_breaks`).
-/

namespace CatalogSearch.Batcher

variable {c : Deployment} {s s' : State} {a : Action} {es new : List Event}

/-! ## A machine that has what is asked for -/

/-- The consumer was not lost, no call has crashed, and none was told that the worker has died. -/
def Lives (s : State) (es : List Event) : Prop :=
  s.consumer.isBroken = false ∧
    ∀ call, .crashed call ∉ es ∧ ∀ detail, .returned call (.error (.worker detail)) ∉ es

/-- A list of declarations is refused for what it asks for. -/
theorem validateAll_ne_worker (ds : List Declaration) (detail : String) :
    validateAll ds ≠ .error (.worker detail) := by
  induction ds with
  | nil => simp [validateAll]
  | cons d ds ih => cases missing : d.missingField <;> simp [validateAll, validate, missing, ih]

/-- A call that ends at once says nothing of the worker's death. -/
theorem immediate?_ne_worker {op : Operation} (detail : String) :
    immediate? s op ≠ some (.error (.worker detail)) := by
  cases op with
  | run =>
    by_cases running : s.phase = .running <;> cases receiver : s.hasReceiver <;>
      simp [immediate?, running, receiver]
  | enqueue d =>
    by_cases open? : s.phase = .running ∧ s.hasSender = true <;>
      cases missing : d.missingField <;> simp [immediate?, validate, failure?, missing, open?]
  | apply d =>
    by_cases closed : s.phase = .closed <;> cases missing : d.missingField <;>
      simp [immediate?, validate, failure?, missing, closed]
  | applyBatch ds =>
    have refused := validateAll_ne_worker ds detail
    by_cases closed : s.phase = .closed <;> by_cases none : ds = [] <;>
      cases check : validateAll ds <;> simp_all [immediate?, failure?]
  | close => by_cases running : s.phase = .running <;> simp [immediate?, running]

theorem directOutcome_ne_worker (w : Write) (written : Written) (detail : String) :
    directOutcome w written ≠ .error (.worker detail) := by
  cases written <;> cases w <;> simp [directOutcome]

/-- The worker dies only if its clock cannot tell when the first tick is due, and only without room
for a batch is there no consumer. -/
theorem Transition.of_broken (t : Transition c s a s' es) (broken : s'.consumer.isBroken = true) :
    s'.consumer = s.consumer ∨
      s'.consumer = .died ∧ ¬c.Ticks ∨ s'.consumer = .unmade ∧ ¬c.Fits := by
  cases t with
  | die _ stuck => exact .inr (.inl ⟨rfl, stuck⟩)
  | crashRun _ _ _ large | crashClose _ _ _ _ large => exact .inr (.inr ⟨rfl, large⟩)
  | @cancel call =>
    rcases consumer_cancelCall s call with ended | same
    · rw [ended] at broken
      cases broken
    · exact .inl same
  | endFlush =>
    rw [Resume.isBroken_consumer] at broken
    cases broken
  | startRun | closeInline | startWorker | collectFlush | desert | idleTick | flushTick | signal
  | shut | drained | flushLast | finishWorker | finishCaller | pauseFlush | retryFlush =>
    cases broken
  | _ => exact .inl rfl

theorem Reaches.of_broken (h : Reaches c (.initial c) s es) (broken : s.consumer.isBroken = true) :
    s.consumer = .died ∧ ¬c.Ticks ∨ s.consumer = .unmade ∧ ¬c.Fits := by
  induction h with
  | start => cases broken
  | step _ next ih =>
    rcases (Transition.of_step next).of_broken broken with same | now
    · rw [same] at broken ⊢
      exact ih broken
    · exact now

/-- While the consumer is not lost, no call crashes, and none is told that the worker has died. -/
theorem Transition.untold (t : Transition c s a s' es) (alive : s'.consumer.isBroken = false)
    (call : Nat) :
    .crashed call ∉ es ∧ ∀ detail, .returned call (.error (.worker detail)) ∉ es := by
  cases t with
  | immediate _ answer =>
    refine ⟨by simp, fun detail mem => ?_⟩
    obtain ⟨-, rfl⟩ : call = _ ∧ _ := by simpa using mem
    exact immediate?_ne_worker detail answer
  | crashRun | crashClose => cases alive
  | joinDied _ died =>
    have alive : s.consumer.isBroken = false := alive
    rw [died] at alive
    cases alive
  | endDirect =>
    refine ⟨by simp, fun detail mem => ?_⟩
    obtain ⟨-, same⟩ : call = _ ∧ _ := by simpa using mem
    exact directOutcome_ne_worker _ _ detail same.symm
  | _ => simp

/-- Where the machine has what is asked for, the consumer is never lost. -/
theorem Reaches.lives (h : Reaches c (.initial c) s es) (works : c.Works) : Lives s es := by
  have alive {s : State} {es : List Event} (h : Reaches c (.initial c) s es) :
      s.consumer.isBroken = false := by
    refine eq_false_of_ne_true fun broken => ?_
    rcases h.of_broken broken with ⟨-, stuck⟩ | ⟨-, large⟩
    · exact stuck works.ticks
    · exact large works.fits
  refine ⟨alive h, ?_⟩
  induction h with
  | start => simp
  | step reached next ih =>
    intro call
    have now := (Transition.of_step next).untold (alive (reached.step next)) call
    refine ⟨fun mem => ?_, fun detail mem => ?_⟩
    · exact (List.mem_append.1 mem).elim (ih call).1 now.1
    · exact (List.mem_append.1 mem).elim ((ih call).2 detail) (now.2 detail)

/-! ## A machine that has not -/

section Start

variable {call : Nat}

/-- What a call makes of a batcher that waits for its worker to be started, and what is seen. -/
theorem step_run (fresh : call ∉ s.calls) (running : s.phase = .running)
    (receiver : s.hasReceiver = true) :
    step c s (.begin call .run) =
      some ((launchRun c s call).1, .begun call .run :: (launchRun c s call).2) := by
  have launched : immediate? s .run = none := immediate?_run.2 ⟨running, receiver⟩
  simp only [step, if_neg fresh, beginCall, launched, launch]

/-- Without room for a batch, the call that starts the worker crashes. -/
theorem step_run_of_large (fresh : call ∉ s.calls) (running : s.phase = .running)
    (receiver : s.hasReceiver = true) (large : ¬c.Fits) :
    step c s (.begin call .run) = some (unmake s, [.begun call .run, .crashed call]) := by
  rw [step_run fresh running receiver, launchRun, if_neg large]

theorem step_run_of_fits (fresh : call ∉ s.calls) (running : s.phase = .running)
    (receiver : s.hasReceiver = true) (fits : c.Fits) :
    step c s (.begin call .run) =
      some ({ s with hasReceiver := false, hasWorker := true, consumer := .starting },
        [.begun call .run, .started, .returned call (.ok .ok)]) := by
  rw [step_run fresh running receiver, launchRun, if_pos fits]

/-- The worker is started without fail if and only if there is room for a batch. -/
theorem started_iff :
    (∃ s', step c (.initial c) (.begin call .run) =
        some (s', [.begun call .run, .started, .returned call (.ok .ok)])) ↔ c.Fits := by
  have fresh : call ∉ (State.initial c).calls := nofun
  constructor
  · rintro ⟨s', starts⟩
    by_contra large
    rw [step_run_of_large fresh rfl rfl large] at starts
    cases starts
  · intro fits
    exact ⟨_, step_run_of_fits fresh rfl rfl fits⟩

/-- A worker whose clock cannot tell when the first tick is due dies when it begins. -/
theorem step_start_of_stuck (starting : s.consumer = .starting) (stuck : ¬c.Ticks) :
    step c s .start = some (die s, []) := by
  simp only [step, consume, if_pos starting, startWorker, if_neg stuck]

/-- Where the machine has not what is asked for, the start of the worker loses the consumer, and
with it what is queued. -/
theorem run_breaks (lost : ¬c.Works) (fresh : call ∉ s.calls) (running : s.phase = .running)
    (receiver : s.hasReceiver = true) :
    ∃ as started hasWorker consumer,
      run c s (.begin call .run :: as) =
        some ({ s with hasReceiver := false, hasWorker, queue := s.queue.discard, consumer },
          .begun call .run :: started) ∧
      consumer.isBroken = true ∧
      (started = [.crashed call] ∨ started = [.started, .returned call (.ok .ok)]) ∧
      ∀ who written, .answer who written ∉ as := by
  by_cases fits : c.Fits
  · have stuck : ¬c.Ticks := fun ticks => lost ⟨ticks, fits⟩
    have starts := step_run_of_fits fresh running receiver fits
    have dies := step_start_of_stuck (c := c) (s := { s with
      hasReceiver := false, hasWorker := true, consumer := .starting }) rfl stuck
    exact ⟨[.start], _, true, .died,
      run_cons.2 ⟨_, _, _, starts, (run_singleton _ _ _).trans dies, rfl⟩, rfl, .inr rfl, by simp⟩
  · have crashes := step_run_of_large fresh running receiver fits
    exact ⟨[], _, s.hasWorker, .unmade, (run_singleton _ _ _).trans crashes, rfl, .inl rfl, by simp⟩

end Start

/-- The consumer is never lost after the worker was started if and only if the machine has what is
asked for. -/
theorem lives_iff :
    (∀ call as s es, run c (.initial c) (.begin call .run :: as) = some (s, es) → Lives s es) ↔
      c.Works := by
  constructor
  · intro lives
    by_contra lost
    have fresh : 0 ∉ (State.initial c).calls := nofun
    obtain ⟨as, started, hasWorker, consumer, breaks, broken, -⟩ := run_breaks lost fresh rfl rfl
    have alive := (lives 0 as _ _ breaks).1
    cases broken.symm.trans alive
  · intro works call as s es ran
    exact (Reaches.of_run ran).lives works

/-- A declaration enters the empty queue. -/
theorem run_offer (c : Deployment) {d : Declaration} (valid : d.missingField = none) :
    ∃ queue : Queue, queue.offers = [] ∧
      run c (.initial c) [.begin 0 (.enqueue d), .send 0] =
        some ({ State.initial c with queue },
          [.begun 0 (.enqueue d), .accepted ⟨0, d⟩, .returned 0 (.ok .ok)]) := by
  have launched : immediate? (.initial c) (.enqueue d) = none :=
    immediate?_enqueue.2 ⟨valid, rfl, rfl⟩
  have room : 0 < c.capacity := by unfold Config.capacity; omega
  let o : Offer := ⟨0, d⟩
  let arrived : Queue := (State.initial c).queue.arrive o
  have begins : step c (.initial c) (.begin 0 (.enqueue d)) =
      some ({ State.initial c with queue := arrived }, [.begun 0 (.enqueue d)]) := by
    have fresh : 0 ∉ (State.initial c).calls := nofun
    simp only [step, if_neg fresh, beginCall, launched, launch]
    rfl
  have sends : step c { State.initial c with queue := arrived } (.send 0) =
      some ({ State.initial c with queue := arrived.enter o },
        [.accepted o, .returned 0 (.ok .ok)]) := by
    have enters : arrived.proceed? o = some (arrived.enter o, .entered) := by
      simp [Queue.proceed?, arrived, Queue.arrive, State.initial, Queue.ofCapacity, Queue.room,
        room]
    have found : arrived.offers.find? (fun o' => o'.call = 0) = some o := rfl
    simp only [step, send, found, enters]
    rfl
  refine ⟨arrived.enter o, rfl, ?_⟩
  simp only [run, begins, sends]
  rfl

/-- A call of close that waits for a consumer that was lost ends. -/
theorem join_of_broken {call : Nat} (closing : s.closing = some call)
    (broken : s.consumer.isBroken = true) :
    ∃ outcome, join s = some ({ markClosed s with closing := none }, [.returned call outcome]) := by
  unfold join
  cases consumer : s.consumer with
  | died | unmade =>
    rw [closing]
    exact ⟨_, rfl⟩
  | _ => simp [consumer, Consumer.isBroken] at broken

/-- A batcher whose consumer was lost is closed, though what was queued is not written. -/
theorem run_close_of_broken {call : Nat} (fresh : call ∉ s.calls) (running : s.phase = .running)
    (receiver : s.hasReceiver = false) (broken : s.consumer.isBroken = true) :
    ∃ s' outcome, run c s [.begin call .close, .join] =
        some (s', [.begun call .close, .returned call outcome]) ∧
      s'.buffer = s.buffer ∧ s'.queue = s.queue := by
  obtain ⟨shutdown, launched⟩ : ∃ shutdown, launchClose c s call =
      ({ s with phase := .draining, hasWorker := false, hasReceiver := false, shutdown,
                closing := some call }, []) := by
    unfold launchClose
    cases s.hasWorker with
    | true => exact ⟨true, rfl⟩
    | false => exact ⟨s.shutdown, by simp [receiver]⟩
  have begins : step c s (.begin call .close) =
      some ({ s with phase := .draining, hasWorker := false, hasReceiver := false, shutdown,
                     closing := some call }, [.begun call .close]) := by
    simp only [step, if_neg fresh, beginCall, immediate?_close.2 running, launch, launched]
  obtain ⟨outcome, joins⟩ := join_of_broken (s := { s with
    phase := .draining, hasWorker := false, hasReceiver := false, shutdown,
    closing := some call }) rfl broken
  exact ⟨_, outcome, run_cons.2 ⟨_, _, _, begins, (run_singleton _ _ _).trans joins, rfl⟩, rfl, rfl⟩

/-- Where the machine has not what is asked for, a declaration that has entered the queue before the
worker is started is lost: it is in no batch, though the batcher is closed in the end. -/
theorem run_lost (lost : ¬c.Works) {d : Declaration} (valid : d.missingField = none) :
    ∃ as s started outcome,
      run c (.initial c) as =
        some (s, [.begun 0 (.enqueue d), .accepted ⟨0, d⟩, .returned 0 (.ok .ok), .begun 1 .run] ++
          started ++ [.begun 2 .close, .returned 2 outcome]) ∧
      (started = [.crashed 1] ∨ started = [.started, .returned 1 (.ok .ok)]) ∧
      (∀ who written, .answer who written ∉ as) ∧ s.buffer = [] ∧ s.queue.items = [] := by
  obtain ⟨queue, nobody, offers⟩ := run_offer c valid
  have fresh : 1 ∉ ({ State.initial c with queue } : State).calls := by
    simp [State.calls, nobody, State.initial, Consumer.owner?]
  obtain ⟨as, started, hasWorker, consumer, breaks, broken, starts, silent⟩ :=
    run_breaks lost fresh rfl rfl
  let s : State :=
    { State.initial c with hasReceiver := false, hasWorker, queue := queue.discard, consumer }
  have idle := Consumer.owner?_of_gone (Consumer.isGone_iff.2 (.inr broken))
  have fresh : 2 ∉ s.calls := by simp [s, State.calls, nobody, State.initial, idle]
  obtain ⟨s', outcome, closes, buffer, items⟩ :=
    run_close_of_broken (c := c) (s := s) fresh rfl rfl broken
  have ran := run_append.2 ⟨_, _, _, run_append.2 ⟨_, _, _, offers, breaks, rfl⟩, closes, rfl⟩
  refine ⟨_, s', started, outcome, ran.trans (by simp), starts, ?_, buffer, by rw [items]; rfl⟩
  simpa using silent

end CatalogSearch.Batcher
