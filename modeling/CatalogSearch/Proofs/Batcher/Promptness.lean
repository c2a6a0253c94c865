import CatalogSearch.Batcher.Drainage
import CatalogSearch.Proofs.Batcher.Capacity
import CatalogSearch.Proofs.Batcher.Closed

/-!
# Closing before the clock ticks

A call of close that drains the queue itself knows no clock (`ticked_of_inline`). A worker that is
told to close right after its start flushes nothing for the clock, if nobody else is on the way into
the queue: on a virtual clock no time passes before it has seen all there is (`ticked_of_prompt`).
-/

namespace CatalogSearch.Batcher

variable {c : Deployment} {s s' : State} {a : Action} {as : List Action} {es new : List Event}

/-! ## Nobody on the way into the queue -/

theorem Transition.ne_running (t : Transition c s a s' new) (life : Lifecycle s)
    (stopped : s.phase ≠ .running) : s'.phase ≠ .running := by
  rcases t.follows life with same | ⟨running, -⟩ | ⟨-, closed⟩
  · rwa [same]
  · exact absurd running stopped
  · simp [closed]

/-- A batcher that was told to close takes no offers but those on the way. -/
theorem Transition.unoffered (t : Transition c s a s' new) (stopped : s.phase ≠ .running)
    (nobody : s.queue.offers = []) : s'.queue.offers = [] ∧ accepted new = [] := by
  rcases t.offered_eq with none | ⟨call, d, rest, rfl, -⟩
  · have moved := t.offers_subperm
    rw [nobody, none] at moved
    exact (List.append_eq_nil_iff.1 (List.subperm_nil.1 moved)).symm
  · cases t with
    | immediate => exact ⟨nobody, rfl⟩
    | arrive _ running => exact absurd running stopped
    | write _ _ writes => rcases writes with ⟨_, same, -⟩ | ⟨_, -, same, -⟩ <;> cases same

theorem Lifecycle.ne_running_of_shutdown (h : Lifecycle s) (shutdown : s.shutdown = true) :
    s.phase ≠ .running := by
  intro running
  obtain ⟨-, unset, -⟩ := h.running running
  rw [shutdown] at unset
  cases unset

/-- A batcher that was told to close stays so, and nothing enters its queue when nobody is on the
way. -/
theorem Reaches.unoffered (h : Reaches c s s' es) (life : Lifecycle s)
    (stopped : s.phase ≠ .running) (nobody : s.queue.offers = []) :
    s'.phase ≠ .running ∧ s'.queue.offers = [] ∧ accepted es = [] := by
  induction h with
  | start => exact ⟨stopped, nobody, rfl⟩
  | @step t t' a es new reached next ih =>
    obtain ⟨stopped, nobody, none⟩ := ih
    have step := Transition.of_step next
    obtain ⟨nobody', none'⟩ := step.unoffered stopped nobody
    exact ⟨step.ne_running (reached.lifecycle life) stopped, nobody',
      accepted_append_eq_nil none none'⟩

/-- What a call makes of a batcher when it does not end at once. -/
theorem step_begin_of_launched {call : Nat} {op : Operation}
    (next : step c s (.begin call op) = some (s', new)) (launched : immediate? s op = none) :
    s' = (launch c s call op).1 ∧ new = .begun call op :: (launch c s call op).2 := by
  simp only [step, beginCall, launched] at next
  split at next
  · cases next
  · cases next
    exact ⟨rfl, rfl⟩

/-! ## Without a worker -/

/-- A consumer that does not collect before the queue is closed never does. -/
theorem Transition.past_collecting (t : Transition c s a s' new) (stopped : s.phase ≠ .running)
    (past : s.consumer.isCollecting = false) :
    s'.consumer.isCollecting = false ∧ clocked s a new = [] := by
  cases t with
  | startRun _ running | crashRun _ running | closeWorker _ running | closeInline _ running
  | crashClose _ running | closeUnowned _ running => exact absurd running stopped
  | startWorker consumer | die consumer | idleTick consumer | flushTick consumer =>
    rw [consumer] at past
    cases past
  | @cancel call =>
    refine ⟨?_, rfl⟩
    rcases consumer_cancelCall s call with ended | same
    · rw [ended]
      rfl
    · rwa [same]
  | @collect _ _ after => exact ⟨past, by cases after <;> rfl⟩
  | @collectFlush _ _ after _ consumer =>
    rw [consumer, Resume.isCollecting_consumer] at past
    exact ⟨past, by cases after <;> rfl⟩
  | pauseFlush consumer | retryFlush consumer =>
    rw [consumer] at past
    exact ⟨past, rfl⟩
  | endFlush consumer =>
    rw [consumer] at past
    exact ⟨(Resume.isCollecting_consumer _).trans past, rfl⟩
  | desert | signal | shut | drained | flushLast | finishWorker | finishCaller => exact ⟨rfl, rfl⟩
  | _ => exact ⟨past, rfl⟩

/-- When the queue is drained without a worker, nothing is flushed for the clock. -/
theorem ticked_of_past (h : run c s as = some (s', es)) (life : Lifecycle s)
    (stopped : s.phase ≠ .running) (past : s.consumer.isCollecting = false) :
    ticked c s as = [] := by
  suffices s'.phase ≠ .running ∧ s'.consumer.isCollecting = false ∧ ticked c s as = [] from
    this.2.2
  refine run_induction ?_ ?_ h
  · exact ⟨stopped, past, rfl⟩
  · rintro as t es a t' new ran next ⟨stopped, past, none⟩
    have step := Transition.of_step next
    obtain ⟨past', none'⟩ := step.past_collecting stopped past
    refine ⟨step.ne_running ((Reaches.of_run ran).lifecycle life) stopped, past', ?_⟩
    rw [ticked, observe_concat ran next, none', List.append_nil]
    exact none

/-- A batcher without a worker that is closed drains its queue by the call of close. -/
theorem run_close_inline {call : Nat} (life : Lifecycle s) (running : s.phase = .running)
    (receiver : s.hasReceiver = true) (room : c.Fits)
    (h : run c s (.begin call .close :: as) = some (s', es)) :
    ticked c s (.begin call .close :: as) = [] ∧ (s.queue.offers = [] → accepted es = []) := by
  obtain ⟨t, new, after, next, ran, rfl⟩ := run_cons.1 h
  have life' := life.step (.of_step next)
  have none : ticked c s (.begin call .close :: as) = ticked c t as := by
    simp [ticked, observe, next, clocked]
  have worker := life.hasWorker_of_receiver running receiver
  have closes := step_begin_of_launched next (immediate?_close.2 running)
  simp only [launch, launchClose, worker, receiver, room, Bool.false_eq_true, if_false, if_true]
    at closes
  obtain ⟨rfl, rfl⟩ := closes
  have stopped : Phase.draining ≠ .running := by decide
  refine ⟨none.trans (ticked_of_past ran life' stopped rfl), fun nobody => ?_⟩
  exact ((Reaches.of_run ran).unoffered life' stopped nobody).2.2

/-- The batcher was told to close, and there was no room for a consumer of which somebody could see
the end. -/
structure Stranded (s : State) : Prop where
  draining : s.phase = .draining
  unmade : s.consumer = .unmade
  alone : s.closing = none

/-- A batcher that is stranded stays so. -/
theorem Transition.stranded (t : Transition c s a s' new) (life : Lifecycle s) (h : Stranded s) :
    Stranded s' := by
  obtain ⟨draining, unmade, alone⟩ := h
  have gone := (t.consumer_eq life (by rw [unmade]; rfl)).trans unmade
  cases t with
  | closeWorker _ running | closeInline _ running | crashClose _ running | closeUnowned _ running =>
    cases draining.symm.trans running
  | cancel =>
    refine ⟨(phase_cancelCall s _).trans draining, gone, ?_⟩
    rw [cancelCall_of_ne (by simp [unmade, Consumer.owner?])]
    simp [alone]
  | finishWorker | finishCaller => cases gone
  | joinEnded closing | joinDied closing | joinUnmade closing => cases alone.symm.trans closing
  | _ => exact ⟨draining, gone, alone⟩

theorem Reaches.stranded (h : Reaches c s s' es) (life : Lifecycle s) (before : Stranded s) :
    Stranded s' := by
  induction h with
  | start => exact before
  | step reached next ih => exact (Transition.of_step next).stranded (reached.lifecycle life) ih

/-- Without room for a batch, a batcher whose worker was not started is never closed once it was
told to close. -/
theorem run_close_of_large {call : Nat} (life : Lifecycle s) (running : s.phase = .running)
    (receiver : s.hasReceiver = true) (large : ¬c.Fits)
    (h : run c s (.begin call .close :: as) = some (s', es)) : s'.phase = .draining := by
  obtain ⟨t, new, after, next, ran, rfl⟩ := run_cons.1 h
  have life' := life.step (.of_step next)
  have worker := life.hasWorker_of_receiver running receiver
  obtain ⟨-, -, unclaimed, -⟩ := life.running running
  have closes := step_begin_of_launched next (immediate?_close.2 running)
  simp only [launch, launchClose, worker, receiver, large, Bool.false_eq_true, if_false, if_true]
    at closes
  obtain ⟨rfl, rfl⟩ := closes
  exact ((Reaches.of_run ran).stranded life' ⟨rfl, rfl, unclaimed⟩).draining

/-! ## A worker that is told to close at once -/

/-- The worker was told to close, and what there is makes one batch at most, none of which waits for
a tick that is due. -/
structure Prompt (c : Deployment) (s : State) : Prop where
  shutdown : s.shutdown = true
  fits : s.buffer.length + s.queue.items.length ≤ c.batchSize
  early : ∀ nextTick, s.consumer = .selecting nextTick →
    s.now < nextTick ∨ s.buffer = [] ∧ s.queue.items = []
  flushed : ∀ f, s.consumer = .flushing f → f.resume.isCollecting = true → s.queue.items = []

namespace Prompt

/-- A consumer that does not collect any more has nothing to do with the clock. -/
theorem of_past (past : s.consumer.isCollecting = false) (shutdown : s.shutdown = true)
    (fits : s.buffer.length + s.queue.items.length ≤ c.batchSize) : Prompt c s where
  shutdown := shutdown
  fits := fits
  early nextTick selecting := by
    rw [selecting] at past
    cases past
  flushed f flushing collecting := by
    rw [flushing] at past
    cases collecting.symm.trans past

theorem cancelCall (h : Prompt c s) (call : Nat) : Prompt c (cancelCall s call) := by
  by_cases own : s.consumer.owner? = some (.caller call)
  · rw [cancelCall_of_drains own]
    exact .of_past rfl h.shutdown (Nat.zero_le _)
  · rw [cancelCall_of_ne own]
    have items := Queue.items_withdraw s.queue call
    exact ⟨h.shutdown, by rw [items]; exact h.fits, by rw [items]; exact h.early,
      by rw [items]; exact h.flushed⟩

/-- A step on a virtual clock keeps it so while nobody is on the way into the queue, and flushes
nothing for the clock. -/
theorem step (h : Prompt c s) (life : Lifecycle s) (stock : Stocked s)
    (nobody : s.queue.offers = []) (t : Transition c s a s' new)
    (punctual : a.isPunctual s = true) : Prompt c s' ∧ clocked s a new = [] := by
  have stopped : s.phase ≠ .running := life.ne_running_of_shutdown h.shutdown
  cases t with
  | startRun _ running | crashRun _ running | closeWorker _ running | closeInline _ running
  | crashClose _ running | closeUnowned _ running => exact absurd running stopped
  | cancel => exact ⟨h.cancelCall _, rfl⟩
  | enter mem =>
    rw [nobody] at mem
    cases mem
  | startWorker _ ticks =>
    refine ⟨⟨h.shutdown, h.fits, fun nextTick selecting => ?_, nofun⟩, rfl⟩
    obtain rfl := Consumer.selecting.inj selecting
    exact .inl (Nat.lt_add_of_pos_right ticks.1)
  | die => exact ⟨.of_past rfl h.shutdown (Nat.le_trans (Nat.le_add_right _ _) h.fits), rfl⟩
  | @collect d queue after takes consumer =>
    obtain ⟨items, -, -⟩ := Queue.of_take?_eq_some takes
    have fits := h.fits
    rw [items, List.length_cons] at fits
    refine ⟨⟨h.shutdown, ?_, fun nextTick selecting => .inl ?_, fun f flushing => ?_⟩,
      by cases after <;> rfl⟩
    · simp only [List.length_append, List.length_singleton]
      omega
    · exact (h.early nextTick selecting).resolve_right (by simp [items])
    · have flushing : s.consumer = .flushing f := flushing
      rw [consumer] at flushing
      cases after <;> cases flushing
  | @collectFlush d queue after takes _ _ full =>
    obtain ⟨items, -, -⟩ := Queue.of_take?_eq_some takes
    have fits := h.fits
    rw [items, List.length_cons] at fits
    rw [List.length_append, List.length_singleton] at full
    have empty : queue.items = [] := List.eq_nil_of_length_eq_zero (by omega)
    exact ⟨⟨h.shutdown, by simp [empty], nofun, fun _ _ _ => empty⟩, by cases after <;> rfl⟩
  | idleTick selecting due =>
    have empty := (h.early _ selecting).resolve_left (Nat.not_lt_of_le due)
    exact ⟨⟨h.shutdown, h.fits, fun _ _ => .inr empty, nofun⟩, rfl⟩
  | flushTick selecting due nonempty =>
    exact absurd ((h.early _ selecting).resolve_left (Nat.not_lt_of_le due)).1 nonempty
  | pauseFlush flushing | retryFlush flushing =>
    refine ⟨⟨h.shutdown, h.fits, nofun, fun f same collecting => ?_⟩, rfl⟩
    obtain rfl := Consumer.flushing.inj same
    exact h.flushed _ flushing collecting
  | @endFlush f _ flushing =>
    have buffer : s.buffer = [] := stock.buffer (by rw [flushing]; rfl)
    refine ⟨⟨h.shutdown, h.fits, fun nextTick selecting => .inr ⟨buffer, ?_⟩, fun f' same => ?_⟩,
      rfl⟩
    · have selecting : f.resume.consumer = .selecting nextTick := selecting
      refine h.flushed f flushing ?_
      rw [← Resume.isCollecting_consumer, selecting]
      rfl
    · cases resume : f.resume <;> simp [resume, Resume.consumer] at same
  | desert | signal | shut | drained | finishWorker | finishCaller =>
    exact ⟨.of_past rfl h.shutdown h.fits, rfl⟩
  | flushLast _ items => exact ⟨.of_past rfl h.shutdown (by simp [items]), rfl⟩
  | advance =>
    refine ⟨⟨h.shutdown, h.fits, fun nextTick selecting => ?_, h.flushed⟩, rfl⟩
    -- the worker sees the signal to shut down before any time passes
    obtain ⟨idle, -⟩ := (Bool.and_eq_true _ _).mp punctual
    obtain ⟨-, nothing, -⟩ := ready_eq_none.1 (Option.isNone_iff_eq_none.1 idle)
    have selecting : s.consumer = .selecting nextTick := selecting
    simp [consumerTask, selecting, h.shutdown] at nothing
  | _ => exact ⟨⟨h.shutdown, h.fits, h.early, h.flushed⟩, rfl⟩

end Prompt

/-- A worker that was told to close, with no more than a batch to flush, flushes nothing for the
virtual clock. -/
theorem ticked_of_prompt (h : run c s as = some (s', es)) (life : Lifecycle s) (stock : Stocked s)
    (prompt : Prompt c s) (nobody : s.queue.offers = []) (punctual : Punctual c s as) :
    ticked c s as = [] := by
  have stopped := life.ne_running_of_shutdown prompt.shutdown
  suffices Punctual c s as → Prompt c s' ∧ ticked c s as = [] from (this punctual).2
  refine run_induction ?_ ?_ h
  · exact fun _ => ⟨prompt, rfl⟩
  · intro as t es a t' new ran next before punctual
    obtain ⟨earlier, now⟩ := (punctual_concat ran next).1 punctual
    obtain ⟨prompt, none⟩ := before earlier
    have reached := Reaches.of_run ran
    obtain ⟨-, nobody, -⟩ := reached.unoffered life stopped nobody
    obtain ⟨prompt', none'⟩ := prompt.step (reached.lifecycle life) (reached.stocked life stock)
      nobody (.of_step next) now
    refine ⟨prompt', ?_⟩
    rw [ticked, observe_concat ran next, none', List.append_nil]
    exact none

/-- A worker that is told to close right after its start, when nobody is on the way into the queue,
flushes nothing for the virtual clock, and nothing enters the queue any more. -/
theorem run_close_at_once {starter closer : Nat} (life : Lifecycle s) (stock : Stocked s)
    (running : s.phase = .running) (receiver : s.hasReceiver = true)
    (nobody : s.queue.offers = []) (fits : s.queue.items.length ≤ c.batchSize) (room : c.Fits)
    (h : run c s (.begin starter .run :: .begin closer .close :: as) = some (s', es))
    (punctual : Punctual c s (.begin starter .run :: .begin closer .close :: as)) :
    ticked c s (.begin starter .run :: .begin closer .close :: as) = [] ∧ accepted es = [] := by
  obtain ⟨t, new, after, next, ran, rfl⟩ := run_cons.1 h
  obtain ⟨t', new', after', next', ran', rfl⟩ := run_cons.1 ran
  have life₁ := life.step (.of_step next)
  have life₂ := life₁.step (.of_step next')
  have stock₂ := (stock.step life (.of_step next)).step life₁ (.of_step next')
  have none : ticked c s (.begin starter .run :: .begin closer .close :: as) = ticked c t' as := by
    simp [ticked, observe, next, next', clocked]
  have punctual' : Punctual c t' as := by
    simp only [Punctual, observe, next, next', List.forall_mem_append] at punctual
    exact punctual.2.2
  have empty : s.buffer = [] := stock.buffer (by rw [life.parked running receiver]; rfl)
  have starts := step_begin_of_launched next (immediate?_run.2 ⟨running, receiver⟩)
  simp only [launch, launchRun, room, if_true] at starts
  obtain ⟨rfl, rfl⟩ := starts
  have closes := step_begin_of_launched next' (immediate?_close.2 running)
  simp only [launch, launchClose, if_true] at closes
  obtain ⟨rfl, rfl⟩ := closes
  have stopped : Phase.draining ≠ .running := by decide
  have entered := ((Reaches.of_run ran').unoffered life₂ stopped nobody).2.2
  refine ⟨none.trans (ticked_of_prompt ran' life₂ stock₂ ?_ nobody punctual'), entered⟩
  exact ⟨rfl, by simpa [empty] using fits, by simp, by simp⟩

end CatalogSearch.Batcher
