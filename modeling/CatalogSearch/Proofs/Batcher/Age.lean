import CatalogSearch.Proofs.Batcher.Capacity
import CatalogSearch.Proofs.Batcher.Closed

/-!
# The age of pending declarations

A declaration that the consumer has taken out of the queue waits in the buffer until a flush takes
it: `Transition.buffered` says how declarations come and go, `Aged` since when those in the buffer
have waited, and that the worker's next tick comes at most one interval after that.

On a virtual clock time does not pass a tick that the worker waits for. So no declaration waits
longer than an interval (`run_aged`).
-/

namespace CatalogSearch.Batcher

variable {c : Deployment} {s s' : State} {a : Action} {as : List Action} {es new : List Event}

/-! ## The clock of the worker -/

/-- The tick that the worker will wait for after a flush. -/
def Resume.nextTick? : Resume → Option Nat
  | .selecting nextTick => some nextTick
  | .draining _ | .finishing _ => none

/-- The tick that the worker waits for, or will wait for after the flush. -/
def Consumer.nextTick? : Consumer → Option Nat
  | .selecting nextTick => some nextTick
  | .flushing f => f.resume.nextTick?
  | _ => none

@[simp] theorem Consumer.nextTick?_flushing (f : Flush) :
    (Consumer.flushing f).nextTick? = f.resume.nextTick? := rfl

@[simp] theorem Resume.nextTick?_consumer (r : Resume) : r.consumer.nextTick? = r.nextTick? := by
  cases r <;> rfl

/-- The tick after one that has come is at most an interval ahead. -/
theorem tickAfter_le {due now : Nat} (h : due ≤ now) :
    tickAfter c due now ≤ now + c.flushInterval := by
  unfold tickAfter
  split
  · exact Nat.le_refl _
  · exact Nat.add_le_add_right h _

/-- A tick that was not waited for before is at most an interval ahead, and the buffer is empty. -/
theorem Transition.nextTick (t : Transition c s a s' new) (stock : Stocked s) {nextTick : Nat}
    (waits : s'.consumer.nextTick? = some nextTick) :
    s.consumer.nextTick? = some nextTick ∨
      nextTick ≤ s.now + c.flushInterval ∧ s'.buffer = [] := by
  cases t with
  | startRun | crashRun | closeInline | crashClose | die | desert | signal | shut | drained
  | flushLast | finishWorker | finishCaller => cases waits
  | @cancel call =>
    rcases consumer_cancelCall s call with ended | same
    · rw [ended] at waits
      cases waits
    · exact .inl (same ▸ waits)
  | startWorker starting =>
    obtain rfl := Option.some.inj waits
    exact .inr ⟨Nat.le_refl _, stock.buffer (by rw [starting]; rfl)⟩
  | idleTick _ due empty =>
    obtain rfl := Option.some.inj waits
    exact .inr ⟨tickAfter_le due, empty⟩
  | flushTick _ due =>
    obtain rfl := Option.some.inj waits
    exact .inr ⟨tickAfter_le due, rfl⟩
  | collectFlush _ consumer =>
    rw [consumer, Resume.nextTick?_consumer]
    exact .inl waits
  | pauseFlush consumer | retryFlush consumer =>
    rw [consumer]
    exact .inl waits
  | endFlush consumer =>
    rw [consumer, Consumer.nextTick?_flushing, ← Resume.nextTick?_consumer]
    exact .inl waits
  | _ => exact .inl waits

/-- When there is nothing to do, a worker that waits for a tick has an empty queue, and the tick is
still to come. -/
theorem of_selecting_of_ready {nextTick : Nat} (selecting : s.consumer = .selecting nextTick)
    (idle : ready s = none) : s.queue.items = [] ∧ s.now < nextTick := by
  obtain ⟨-, consumer, -⟩ := ready_eq_none.1 idle
  simp only [consumerTask, selecting] at consumer
  split at consumer
  · cases consumer
  · split at consumer
    · cases consumer
    · next still =>
      split at consumer
      · cases consumer
      · next early =>
        have items : s.queue.items = [] := by
          by_contra some
          simp [some] at still
        exact ⟨items, Nat.lt_of_not_le early⟩

/-- When there is nothing to do, a consumer whose buffer is not empty waits for a tick. -/
theorem selecting_of_ready (stock : Stocked s) (idle : ready s = none) (nonempty : s.buffer ≠ []) :
    ∃ nextTick, s.consumer = .selecting nextTick := by
  have holds : s.consumer.holdsBuffer = true := by
    by_contra unused
    exact nonempty (stock.buffer (eq_false_of_ne_true unused))
  have still := movable_of_ready idle
  obtain ⟨-, task, -⟩ := ready_eq_none.1 idle
  cases consumer : s.consumer with
  | selecting nextTick => exact ⟨nextTick, rfl⟩
  | shutting owner => simp [consumerTask, consumer] at task
  | draining owner =>
    -- the consumer could only wait for those who were granted room, but the queue is closed
    have isClosed : s.queue.isOpen = false := stock.isOpen.trans (by rw [consumer]; rfl)
    have granted : s.queue.granted = [] := by simp_all [Queue.movable, Queue.offers]
    simp [consumerTask, consumer, granted] at task
  | _ =>
    rw [consumer] at holds
    cases holds

/-! ## Coming and going -/

/-- A consumer that is a call of close is one without a worker. -/
theorem Transition.owned (t : Transition c s a s' new) {call : Nat}
    (own : s'.consumer.owner? = some (.caller call)) :
    s.consumer.owner? = some (.caller call) ∨
      s.hasReceiver = true ∧ starts new + s'.hasReceiver.toNat = 0 := by
  cases t with
  | closeInline _ _ _ receiver => exact .inr ⟨receiver, rfl⟩
  | startRun | crashRun | crashClose | startWorker | die | desert | idleTick | flushTick | signal
  | finishWorker | finishCaller => cases own
  | @cancel call' =>
    by_cases drains : s.consumer.owner? = some (.caller call')
    · rw [cancelCall_of_drains drains] at own
      cases own
    · rw [cancelCall_of_ne drains] at own
      exact .inl own
  | collectFlush _ consumer =>
    rw [consumer, Resume.owner?_consumer]
    exact .inl own
  | shut consumer | drained consumer | flushLast consumer | pauseFlush consumer
  | retryFlush consumer =>
    rw [consumer]
    exact .inl own
  | endFlush consumer =>
    rw [consumer, Consumer.owner?_flushing, ← Resume.owner?_consumer]
    exact .inl own
  | _ => exact .inl own

/-- Where a call of close drains the queue itself, no worker was started and none will be. -/
theorem Reaches.starts_eq_zero (h : Reaches c (.initial c) s es) {call : Nat}
    (own : s.consumer.owner? = some (.caller call)) : starts es + s.hasReceiver.toNat = 0 := by
  induction h with
  | start => cases own
  | step reached next ih =>
    have t := Transition.of_step next
    have before := reached.starts_le
    have now := t.starts_le
    rw [starts, List.countP_append]
    rcases t.owned own with owned | ⟨receiver, none⟩
    · have none := ih owned
      simp only [starts] at none now ⊢
      omega
    · rw [receiver] at before
      simp only [starts, State.initial, Bool.toNat_true] at before none ⊢
      omega

theorem time_receipt {r : Nat × Declaration} (mem : r ∈ receipt s a new) : r.1 = s.now := by
  unfold receipt at mem
  split at mem
  all_goals simp_all [Option.map_eq_some_iff]
  all_goals
    obtain ⟨d, -, rfl⟩ := mem
    rfl

/-- What the consumer takes out of the queue goes into the buffer, and from there it goes with a
flush, as a whole; unless the consumer is a call that is given up. -/
theorem Transition.buffered (t : Transition c s a s' new) :
    departure s a new = [] ∧ s'.buffer = s.buffer ++ (receipt s a new).map Prod.snd ∨
      s'.buffer = [] ∧
        (departure s a new =
            (s.buffer ++ (receipt s a new).map Prod.snd).map (fun d => (s.now, d)) ∨
          ∃ call, s.consumer.owner? = some (.caller call)) := by
  have head {d : Declaration} {queue : Queue} {after : Resume}
      (takes : s.queue.take? = some (d, queue)) (es : List Event) :
      receipt s after.takes es = [(s.now, d)] := by
    obtain ⟨items, -, -⟩ := Queue.of_take?_eq_some takes
    cases after <;> simp [Resume.takes, receipt, items]
  cases t with
  | @cancel call =>
    by_cases own : s.consumer.owner? = some (.caller call)
    · rw [cancelCall_of_drains own]
      exact .inr ⟨rfl, .inr ⟨call, own⟩⟩
    · rw [cancelCall_of_ne own]
      exact .inl ⟨rfl, (List.append_nil _).symm⟩
  | collect takes =>
    rw [head takes]
    exact .inl ⟨rfl, rfl⟩
  | collectFlush takes =>
    rw [head takes]
    exact .inr ⟨rfl, .inl rfl⟩
  | flushTick => exact .inr ⟨rfl, .inl (by simp [departure, receipt, Write.declarations])⟩
  | flushLast _ items =>
    exact .inr ⟨rfl, .inl (by simp [departure, receipt, Write.declarations, items])⟩
  | desert _ items => exact .inl ⟨rfl, by simp [receipt, items]⟩
  | drained _ items => exact .inl ⟨rfl, by simp [receipt, items]⟩
  | immediate => exact .inl ⟨rfl, by simp [receipt]⟩
  | _ => exact .inl ⟨rfl, by simp [receipt, markClosed, Batcher.die, unmake]⟩

/-! ## Since when declarations wait -/

/-- The declarations in the buffer are those that were taken out of the queue at the given times,
and the next tick comes at most an interval later. -/
structure Aged (c : Deployment) (s : State) (pending : List (Nat × Declaration)) : Prop where
  buffer : pending.map Prod.snd = s.buffer
  past : ∀ r ∈ pending, r.1 ≤ s.now
  ahead : ∀ nextTick, s.consumer.nextTick? = some nextTick → nextTick ≤ s.now + c.flushInterval
  covered : ∀ nextTick, s.consumer.nextTick? = some nextTick →
    ∀ r ∈ pending, nextTick ≤ r.1 + c.flushInterval

/-- Nothing that is pending has waited longer than an interval. -/
def InTime (c : Deployment) (s : State) (pending : List (Nat × Declaration)) : Prop :=
  ∀ r ∈ pending, s.now ≤ r.1 + c.flushInterval

/-- A declaration that was taken out of the queue goes with a flush at most an interval later. -/
def GoesInTime (c : Deployment) (r d : Nat × Declaration) : Prop :=
  d.2 = r.2 ∧ r.1 ≤ d.1 ∧ d.1 ≤ r.1 + c.flushInterval

namespace Aged

variable {pending pending' : List (Nat × Declaration)}

theorem initial (c : Deployment) : Aged c (.initial c) [] := ⟨rfl, nofun, nofun, nofun⟩

/-- What has just been taken out of the queue has not waited. -/
theorem receive (h : Aged c s pending) (a : Action) (new : List Event) :
    (∀ r ∈ pending ++ receipt s a new, r.1 ≤ s.now) ∧
      ∀ nextTick, s.consumer.nextTick? = some nextTick →
        ∀ r ∈ pending ++ receipt s a new, nextTick ≤ r.1 + c.flushInterval := by
  refine ⟨fun r mem => ?_, fun nextTick waits r mem => ?_⟩
  · rcases List.mem_append.1 mem with old | now
    · exact h.past r old
    · exact Nat.le_of_eq (time_receipt now)
  · rcases List.mem_append.1 mem with old | now
    · exact h.covered nextTick waits r old
    · rw [time_receipt now]
      exact h.ahead nextTick waits

/-- After a step the declarations in the buffer are those that were there, and what was taken out of
the queue, or none of them. -/
theorem goOn (h : Aged c s pending) (stock : Stocked s) (t : Transition c s a s' new)
    (sub : pending' ⊆ pending ++ receipt s a new) (buffer : pending'.map Prod.snd = s'.buffer) :
    Aged c s' pending' := by
  obtain ⟨past, covered⟩ := h.receive a new
  have later := t.now_le
  refine ⟨buffer, fun r mem => Nat.le_trans (past r (sub mem)) later, ?_, ?_⟩
  · intro nextTick waits
    rcases t.nextTick stock waits with before | ⟨ahead, -⟩
    · exact Nat.le_trans (h.ahead nextTick before) (Nat.add_le_add_right later _)
    · exact Nat.le_trans ahead (Nat.add_le_add_right later _)
  · intro nextTick waits r mem
    rcases t.nextTick stock waits with before | ⟨-, empty⟩
    · exact covered nextTick before r (sub mem)
    · rw [← buffer, List.map_eq_nil_iff] at empty
      rw [empty] at mem
      cases mem

/-- In a step the declarations in the buffer stay there, or go with a flush; a call that drains the
queue may also forsake them. -/
theorem step (h : Aged c s pending) (stock : Stocked s) (t : Transition c s a s' new) :
    ∃ gone stay, pending ++ receipt s a new = gone ++ stay ∧ Aged c s' stay ∧
      (departure s a new = gone.map (fun r => (s.now, r.2)) ∨
        ∃ call, s.consumer.owner? = some (.caller call)) := by
  have all : (s.buffer ++ (receipt s a new).map Prod.snd) =
      (pending ++ receipt s a new).map Prod.snd := by
    rw [List.map_append, h.buffer]
  rcases t.buffered with ⟨none, buffer⟩ | ⟨empty, goes⟩
  · refine ⟨[], _, rfl, h.goOn stock t (List.Subset.refl _) ?_, .inl none⟩
    rw [buffer]
    exact all.symm
  · refine ⟨_, [], (List.append_nil _).symm, h.goOn stock t (List.nil_subset _) empty.symm, ?_⟩
    refine goes.imp_left fun departs => ?_
    rw [departs, all, List.map_map]
    rfl

/-- On a virtual clock nothing gets to wait longer than an interval: time does not pass the tick
that the worker waits for. -/
theorem inTime (h : Aged c s pending) (stock : Stocked s) (t : Transition c s a s' new)
    (punctual : a.isPunctual s = true) (before : InTime c s pending)
    (sub : pending' ⊆ pending ++ receipt s a new) : InTime c s' pending' := by
  intro r mem
  rcases t.now with same | ⟨time, rfl, -, rfl⟩
  · rw [same]
    rcases List.mem_append.1 (sub mem) with old | now
    · exact before r old
    · rw [time_receipt now]
      exact Nat.le_add_right _ _
  · have mem : r ∈ pending := by simpa [receipt] using sub mem
    obtain ⟨idle, timers⟩ := (Bool.and_eq_true _ _).mp punctual
    have nonempty : s.buffer ≠ [] := by
      rw [← h.buffer]
      exact List.ne_nil_of_mem (List.mem_map_of_mem mem)
    obtain ⟨nextTick, selecting⟩ :=
      selecting_of_ready stock (Option.isNone_iff_eq_none.1 idle) nonempty
    have early : time ≤ nextTick := by
      refine of_decide_eq_true (List.all_eq_true.1 timers nextTick ?_)
      simp [Batcher.timers, selecting]
    exact Nat.le_trans early (h.covered nextTick (by rw [selecting]; rfl) r mem)

/-- What goes with a flush on a virtual clock goes in time. -/
theorem goes (h : Aged c s pending) (before : InTime c s pending) {gone : List (Nat × Declaration)}
    (sub : gone ⊆ pending ++ receipt s a new) :
    List.Forall₂ (GoesInTime c) gone (gone.map fun r => (s.now, r.2)) := by
  obtain ⟨past, -⟩ := h.receive a new
  refine List.forall₂_map_right_iff.2 (List.forall₂_same.2 fun r mem => ⟨rfl, past r (sub mem), ?_⟩)
  rcases List.mem_append.1 (sub mem) with old | now
  · exact before r old
  · rw [time_receipt now]
    exact Nat.le_add_right _ _

end Aged

/-- What the consumer takes out of the queue goes with a flush or waits in the buffer. On a virtual
clock none of it waits longer than an interval, if a worker was started. -/
theorem run_aged (h : run c (.initial c) as = some (s, es)) :
    ∃ settled pending, receipts c (.initial c) as = settled ++ pending ∧ Aged c s pending ∧
      (Punctual c (.initial c) as → InTime c s pending ∧
        (starts es + s.hasReceiver.toNat = 0 ∨
          List.Forall₂ (GoesInTime c) settled (departures c (.initial c) as))) := by
  refine run_induction ?_ ?_ h
  · exact ⟨[], [], rfl, .initial c, fun _ => ⟨nofun, .inr .nil⟩⟩
  · rintro as s es a s' new ran next ⟨settled, pending, line, aged, inTime⟩
    have reached := Reaches.of_run ran
    have stock := reached.stocked (.initial c) (.initial c)
    have t := Transition.of_step next
    obtain ⟨gone, stay, moves, aged', goes⟩ := aged.step stock t
    have stays : stay ⊆ pending ++ receipt s a new := by
      rw [moves]
      exact List.subset_append_right _ _
    have leaves : gone ⊆ pending ++ receipt s a new := by
      rw [moves]
      exact List.subset_append_left _ _
    refine ⟨settled ++ gone, stay, ?_, aged', fun punctual => ?_⟩
    · rw [receipts, observe_concat ran next, ← receipts, line, List.append_assoc, moves,
        ← List.append_assoc]
    · obtain ⟨earlier, now⟩ := (punctual_concat ran next).1 punctual
      obtain ⟨before, onTime⟩ := inTime earlier
      refine ⟨aged.inTime stock t now before stays, ?_⟩
      -- the worker was not started, and will not be
      have inline (none : starts es + s.hasReceiver.toNat = 0) :
          starts (es ++ new) + s'.hasReceiver.toNat = 0 := by
        have more := t.starts_le
        rw [starts, List.countP_append]
        simp only [starts] at none more ⊢
        omega
      rcases onTime with none | onTime
      · exact .inl (inline none)
      · rcases goes with departs | ⟨call, own⟩
        · right
          rw [departures, observe_concat ran next, ← departures, departs]
          exact List.rel_append onTime (aged.goes before leaves)
        · exact .inl (inline (reached.starts_eq_zero own))

/-- **Age bound of pending writes.** Whatever happens to a batcher: when there is nothing to do
while the worker waits, the queue is empty, the buffer holds less than a full batch, the next tick
is still to come and at most an interval ahead, and each declaration in the buffer was taken out of
the queue no earlier than an interval before that tick.

So on a virtual clock, where a worker was started, each declaration that it takes out of the queue
is asked for at most an interval later, in the same order; those that wait in the buffer have not
waited longer either. -/
theorem age_bound (as : List Action) (h : run c (.initial c) as = some (s, es)) :
    (∀ nextTick, s.consumer = .selecting nextTick → ready s = none →
      s.queue.items = [] ∧ s.buffer.length < max c.batchSize 1 ∧
        s.now < nextTick ∧ nextTick ≤ s.now + c.flushInterval ∧
        ∃ pending, pending <:+ receipts c (.initial c) as ∧ pending.map Prod.snd = s.buffer ∧
          ∀ r ∈ pending, nextTick ≤ r.1 + c.flushInterval) ∧
      (Punctual c (.initial c) as → .started ∈ es →
        ∃ settled pending, receipts c (.initial c) as = settled ++ pending ∧
          pending.map Prod.snd = s.buffer ∧ (∀ r ∈ pending, s.now ≤ r.1 + c.flushInterval) ∧
          List.Forall₂
            (fun r d => d.2 = r.2 ∧ r.1 ≤ d.1 ∧ d.1 ≤ r.1 + c.flushInterval)
            settled (departures c (.initial c) as)) := by
  obtain ⟨settled, pending, line, aged, inTime⟩ := run_aged h
  refine ⟨fun nextTick selecting idle => ?_, fun punctual started => ?_⟩
  · obtain ⟨items, early⟩ := of_selecting_of_ready selecting idle
    have waits : s.consumer.nextTick? = some nextTick := by rw [selecting]; rfl
    exact ⟨items, (Reaches.of_run h).sized.buffer, early, aged.ahead nextTick waits, pending,
      ⟨settled, line.symm⟩, aged.buffer, aged.covered nextTick waits⟩
  · obtain ⟨pendingInTime, none | goes⟩ := inTime punctual
    · have some : 0 < starts es := List.countP_pos_iff.2 ⟨_, started, rfl⟩
      omega
    · exact ⟨settled, pending, line, aged.buffer, pendingInTime, goes⟩

/-- Of four declarations the first two are flushed when they make a full batch. The third one is
taken out of the queue when this flush has ended, long after a tick was due, and goes at once. The
fourth one waits for the tick after that. -/
theorem age_bound_of_slow_flush :
    let c : Deployment := ⟨⟨2, 100, 1000, 10⟩, .common, by decide⟩
    let offer (call : Nat) : List Action :=
      [.begin call (.enqueue (.delete "tracks" "" "1")), .send call]
    let as : List Action :=
      [.begin 0 .run, .start, .advance 60] ++ offer 1 ++ [.receive, .advance 90] ++ offer 2 ++
        [.receive] ++ offer 3 ++
        [.advance 250, .answer .flush (.ok (.allSucceeded 2)), .receive, .tick,
          .answer .flush (.ok (.allSucceeded 1))] ++ offer 4 ++ [.receive]
    ∃ s es, run c (.initial c) as = some (s, es) ∧ s.buffer.length = 1 ∧
      s.now < 350 ∧ 350 ≤ s.now + 100 ∧
      ∃ settled pending, receipts c (.initial c) as = settled ++ pending ∧
        pending.map Prod.snd = s.buffer ∧
        List.Forall₂ (fun r d => d.2 = r.2 ∧ r.1 ≤ d.1 ∧ d.1 ≤ r.1 + 100)
          settled (departures c (.initial c) as) := by
  intro c offer as
  have ran : (run c (.initial c) as).map (fun m =>
      decide (m.1.buffer.length = 1 ∧ m.1.consumer = .selecting 350 ∧ .started ∈ m.2) &&
        (ready m.1).isNone) = some true := by decide +kernel
  have punctual : Punctual c (.initial c) as := by decide +kernel
  obtain ⟨⟨s, es⟩, h, facts⟩ := Option.map_eq_some_iff.1 ran
  obtain ⟨facts, idle⟩ := (Bool.and_eq_true _ _).mp facts
  obtain ⟨one, selecting, started⟩ := of_decide_eq_true facts
  have idle : ready s = none := Option.isNone_iff_eq_none.1 idle
  obtain ⟨waiting, goes⟩ := age_bound as h
  obtain ⟨-, -, early, ahead, -⟩ := waiting 350 selecting idle
  obtain ⟨settled, pending, line, buffer, -, inTime⟩ := goes punctual started
  exact ⟨s, es, h, one, early, ahead, settled, pending, line, buffer, inTime⟩

end CatalogSearch.Batcher
