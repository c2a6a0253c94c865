import CatalogSearch.Batcher.Separation
import CatalogSearch.Proofs.Batcher.Capacity

/-!
# The queue does not see direct writes
-/

namespace CatalogSearch.Batcher

variable {c : Deployment} {s s' : State} {a : Action} {as : List Action} {es new : List Event}

/-! ## A step without direct writes -/

@[simp] theorem queue_alone (s : State) : s.alone.queue = s.queue := rfl

@[simp] theorem consumer_alone (s : State) : s.alone.consumer = s.consumer := rfl

theorem flush_alone (c : Deployment) (s : State) (after : Resume) :
    flush c s.alone after = Move.alone (flush c s after) := by
  by_cases empty : s.buffer = []
  · rw [flush_of_empty empty, flush_of_empty (s := s.alone) empty]
    rfl
  · rw [flush_of_nonempty empty, flush_of_nonempty (s := s.alone) empty]
    rfl

theorem collect_alone (c : Deployment) (s : State) (d : Declaration) (queue : Queue)
    (after : Resume) :
    collect c s.alone d queue after = Move.alone (collect c s d queue after) := by
  by_cases full : c.batchSize ≤ (s.buffer ++ [d]).length
  · rw [collect_of_full full, collect_of_full (s := s.alone) full]
    rfl
  · have small := Nat.lt_of_not_le full
    rw [collect_of_small small, collect_of_small (s := s.alone) small]
    rfl

theorem receive_alone (c : Deployment) (s : State) (nextTick : Nat) :
    receive c s.alone nextTick = (receive c s nextTick).map Move.alone := by
  unfold receive
  rw [queue_alone, show s.alone.isDeserted = s.isDeserted from rfl]
  cases s.queue.take? with
  | none => cases s.isDeserted <;> rfl
  | some taken => exact congrArg some (collect_alone c s _ _ _)

theorem drain_alone (c : Deployment) (s : State) (owner : Owner) :
    drain c s.alone owner = (drain c s owner).map Move.alone := by
  unfold drain
  rw [queue_alone]
  cases s.queue.take? with
  | none =>
    rw [flush_alone]
    cases s.queue.granted.isEmpty <;> rfl
  | some taken => exact congrArg some (collect_alone c s _ _ _)

theorem answerFlush_alone (c : Deployment) (s : State) (f : Flush) (written : Written) :
    answerFlush c s.alone f written = Move.alone (answerFlush c s f written) := by
  unfold answerFlush
  rw [show s.alone.now = s.now from rfl]
  cases f.attempt.after s.now c.retryDelay written <;> rfl

theorem startWorker_alone (c : Deployment) (s : State) :
    startWorker c s.alone = (startWorker c s).alone := by
  unfold startWorker
  split <;> rfl

theorem consume_alone (c : Deployment) (s : State) (a : Action) :
    consume c s.alone a = (consume c s a).map Move.alone := by
  unfold consume
  rw [consumer_alone, show s.alone.now = s.now from rfl,
    show s.alone.shutdown = s.shutdown from rfl]
  split
  · rw [startWorker_alone]
    split <;> rfl
  · split
    · exact receive_alone ..
    · rfl
  · split
    · rw [flush_alone]
      split <;> rfl
    · rfl
  · split
    · split <;> rfl
    · rfl
  · split <;> rfl
  · split
    · exact drain_alone ..
    · rfl
  · split <;> rfl
  · split
    · rw [answerFlush_alone]
      split <;> rfl
    · rfl
  · split
    · split <;> rfl
    · rfl
  · rfl

theorem send_alone (s : State) (call : Nat) :
    send s.alone call = (send s call).map Move.alone := by
  unfold send
  rw [queue_alone]
  split
  · next o _ => cases s.queue.proceed? o <;> rfl
  · rfl

theorem join_alone (s : State) : join s.alone = (join s).map Move.alone := by
  unfold join
  rw [consumer_alone, show s.alone.closing = s.closing from rfl]
  split <;> rfl

theorem launchRun_alone (c : Deployment) (s : State) (call : Nat) :
    launchRun c s.alone call = Move.alone (launchRun c s call) := by
  unfold launchRun
  split <;> rfl

theorem launchClose_alone (c : Deployment) (s : State) (call : Nat) :
    launchClose c s.alone call = Move.alone (launchClose c s call) := by
  unfold launchClose
  rw [show s.alone.hasWorker = s.hasWorker from rfl,
    show s.alone.hasReceiver = s.hasReceiver from rfl]
  dsimp only
  split
  · rfl
  · split
    · split <;> rfl
    · rfl

theorem beginCall_alone {op : Operation} (queued : op.isDirect = false) (c : Deployment) (s : State)
    (call : Nat) : beginCall c s.alone call op = Move.alone (beginCall c s call op) := by
  unfold beginCall
  rw [show immediate? s.alone op = immediate? s op by cases op <;> rfl]
  split
  · rfl
  · cases op with
    | run => exact launchRun_alone c s call
    | enqueue => rfl
    | close => exact launchClose_alone c s call
    | apply | applyBatch => cases queued

theorem mem_calls_alone {call : Nat} (other : call ∉ s.direct.map Direct.call) :
    call ∈ s.alone.calls ↔ call ∈ s.calls := by
  simp only [State.mem_calls, other, false_or]
  exact or_congr_right (by simp [State.alone])

theorem direct?_isSome {call : Nat} :
    (s.direct? call).isSome = true ↔ call ∈ s.direct.map Direct.call := by
  simp [State.direct?, List.find?_isSome]

theorem cancelCall_alone (s : State) (call : Nat) :
    cancelCall s.alone call = (cancelCall s call).alone := by
  by_cases own : s.consumer.owner? = some (.caller call)
  · rw [cancelCall_of_drains own, cancelCall_of_drains (s := s.alone) own]
    rfl
  · rw [cancelCall_of_ne own, cancelCall_of_ne (s := s.alone) own]
    rfl

/-- What is not done for a direct write is done in the same way without direct writes. Only the
number of a new call must not be that of a direct one. -/
theorem step_alone (queued : a.isDirect s = false)
    (other : ∀ call op, a = .begin call op → call ∉ s.direct.map Direct.call) :
    step c s.alone a = (step c s a).map Move.alone := by
  cases a with
  | begin call op =>
    have fresh := mem_calls_alone (other call op rfl)
    simp only [step, fresh, beginCall_alone queued]
    split <;> rfl
  | cancel call =>
    have other : call ∉ s.direct.map Direct.call := fun mem => by
      rw [← direct?_isSome] at mem
      cases queued.symm.trans mem
    simp only [step, mem_calls_alone other, cancelCall_alone]
    split <;> rfl
  | send call => exact send_alone s call
  | join => exact join_alone s
  | answer who written =>
    cases who with
    | flush => exact consume_alone c s (.answer .flush written)
    | call call => cases queued
  | wake who =>
    cases who with
    | flush => exact consume_alone c s (.wake .flush)
    | call call => cases queued
  | advance time =>
    simp only [step, show s.alone.now = s.now from rfl]
    split <;> rfl
  | start | receive | tick | signal | shut | drain | finish =>
    simp only [step]
    exact consume_alone c s _

/-! ## A step of a direct write -/

/-- Where nobody waits for free room there is none to grant. -/
theorem Queue.Bounded.grant_eq {q : Queue} (h : q.Bounded) : q.grant = q := by
  unfold grant
  split
  · next isOpen =>
    have stay : q.waiting.drop q.room = q.waiting ∧ q.waiting.take q.room = [] := by
      by_cases none : q.waiting = []
      · simp [none]
      · have full : q.room = 0 := by
          have pressed := h.pressed isOpen none
          unfold room
          omega
        simp [full]
    rw [stay.1, stay.2, List.append_nil]
  · rfl

theorem Queue.without_eq_self {q : Queue} {call : Nat} (absent : call ∉ q.offers.map Offer.call) :
    q.without call = q := by
  have others {l : List Offer} (sub : l ⊆ q.offers) : (l.filter fun o => o.call ≠ call) = l := by
    refine List.filter_eq_self.2 fun o mem => decide_eq_true fun same => ?_
    exact absent (same ▸ List.mem_map_of_mem (sub mem))
  unfold without
  rw [others (l := q.arriving) fun o mem => by simp [offers, mem],
    others (l := q.waiting) fun o mem => by simp [offers, mem],
    others (l := q.granted) fun o mem => by simp [offers, mem]]

/-- A direct call is under way at no other place. -/
theorem State.direct_only {call : Nat} (nodup : s.calls.Nodup)
    (mem : call ∈ s.direct.map Direct.call) :
    call ∉ s.queue.offers.map Offer.call ∧ s.closing ≠ some call ∧
      s.consumer.owner? ≠ some (.caller call) := by
  obtain ⟨nodup, -, owner⟩ := List.nodup_append.1 nodup
  obtain ⟨nodup, -, closing⟩ := List.nodup_append.1 nodup
  obtain ⟨-, -, offers⟩ := List.nodup_append.1 nodup
  refine ⟨fun offered => offers call offered call mem rfl, fun waits => ?_, fun drains => ?_⟩
  · exact closing call (List.mem_append_right _ mem) call (Option.mem_toList.2 waits) rfl
  · exact owner call (List.mem_append_left _ (List.mem_append_right _ mem)) call
      (Option.mem_toList.2 (bind_call?_eq_some.2 drains)) rfl

/-- A direct call that is given up leaves the rest as it is. -/
theorem cancelCall_of_direct {call : Nat} (nodup : s.calls.Nodup) (bounded : s.queue.Bounded)
    (mem : call ∈ s.direct.map Direct.call) :
    cancelCall s call = { s with direct := s.direct.filter fun w => w.call ≠ call } := by
  obtain ⟨absent, closing, owner⟩ := State.direct_only nodup mem
  have queue : s.queue.withdraw call = s.queue := by
    rw [Queue.withdraw, Queue.without_eq_self absent, bounded.grant_eq]
  have closing : s.closing.filter (· ≠ call) = s.closing := by
    cases waits : s.closing with
    | none => rfl
    | some other =>
      rw [waits] at closing
      simpa using closing
  rw [cancelCall_of_ne owner, queue, closing]

/-- What is done for a direct write changes the direct writes and nothing else. -/
theorem Transition.touches (t : Transition c s a s' new) (nodup : s.calls.Nodup)
    (bounded : s.queue.Bounded) (direct : a.isDirect s = true) :
    s' = { s with direct := s'.direct } := by
  cases t with
  | cancel => rw [cancelCall_of_direct nodup bounded (direct?_isSome.1 direct)]
  | immediate | write | pauseDirect | endDirect | retryDirect => rfl
  | @collect _ _ after | @collectFlush _ _ after => cases after <;> cases direct
  | _ => cases direct

/-- The step that is not done for a direct write, without direct writes. -/
theorem step_alone_of_step (next : step c s a = some (s', new)) (queued : a.isDirect s = false) :
    step c s.alone a = some (s'.alone, new) := by
  rw [step_alone queued, next]
  · rfl
  · rintro call op rfl mem
    exact not_mem_calls_of_begin next (State.mem_calls.2 (.inr (.inl mem)))

/-! ## Views of a run -/

/-- A view that sees nothing of direct writes, and nothing when only time passes. -/
structure Overlooks (c : Deployment) {α : Type} (view : State → Action → List Event → List α) :
    Prop where
  direct : ∀ {s s' a new}, Transition c s a s' new → a.isDirect s = true → view s a new = []
  advance : ∀ s time, view s (.advance time) [] = []
  alone : ∀ s a new, a.isDirect s = false → view s.alone a new = view s a new

/-- In a step for a direct write no batch is taken, and nothing is said about one. -/
theorem Transition.unseen (t : Transition c s a s' new) (direct : a.isDirect s = true) :
    taken new = [] ∧ exchange .flush s a new = [] ∧ departure s a new = [] := by
  cases t with
  | immediate | write | cancel | pauseDirect | endDirect | retryDirect => exact ⟨rfl, rfl, rfl⟩
  | @collect _ _ after | @collectFlush _ _ after => cases after <;> cases direct
  | _ => cases direct

theorem overlooks_taken (c : Deployment) : Overlooks c fun _ _ new => taken new :=
  ⟨fun t direct => (t.unseen direct).1, fun _ _ => rfl, fun _ _ _ _ => rfl⟩

theorem overlooks_exchange (c : Deployment) : Overlooks c (exchange .flush) :=
  ⟨fun t direct => (t.unseen direct).2.1, fun _ _ => rfl, fun _ _ _ _ => rfl⟩

theorem overlooks_departure (c : Deployment) : Overlooks c departure :=
  ⟨fun t direct => (t.unseen direct).2.2, fun _ _ => rfl, fun _ _ _ _ => rfl⟩

theorem isDirect_alone (queued : a.isDirect s = false) : a.isDirect s.alone = false := by
  cases a with
  | cancel => rfl
  | answer who | wake who => cases who <;> exact queued
  | _ => exact queued

theorem overlooks_schedule (c : Deployment) :
    Overlooks c fun s a _ => if a.isDirect s || a.isAdvance then [] else [(s.now, a)] where
  direct _ direct := by rw [direct, Bool.true_or, if_pos rfl]
  advance _ _ := rfl
  alone s a _ queued := by
    rw [isDirect_alone queued, queued]
    rfl

/-- What has been taken is what is seen of it step by step. -/
theorem taken_eq_observe (h : run c s as = some (s', es)) :
    taken es = observe (fun _ _ new => taken new) c s as := by
  refine run_induction rfl ?_ h
  intro as t es a t' new ran next ih
  rw [observe_concat ran next, ← ih, taken, List.filterMap_append]

/-! ## A run without direct writes -/

section Run

variable {α : Type} {view : State → Action → List Event → List α}

theorem Reaches.touches (h : Reaches c (.initial c) s es)
    (next : Batcher.step c s a = some (s', new)) (direct : a.isDirect s = true) :
    s' = { s with direct := s'.direct } :=
  (Transition.of_step next).touches (h.calls_nodup (.initial c) List.nodup_nil) h.sized.queue direct

theorem Reaches.alone_eq (h : Reaches c (.initial c) s es)
    (next : Batcher.step c s a = some (s', new)) (direct : a.isDirect s = true) :
    s'.alone = s.alone := by
  rw [h.touches next direct]
  rfl

theorem Transition.eq_begin (t : Transition c s a s' new) {call : Nat} {op : Operation}
    (begun : .begun call op ∈ new) : a = .begin call op := by
  cases t with
  | @immediate call' op' | @write call' op' =>
    obtain ⟨rfl, rfl⟩ : call = call' ∧ op = op' := by simpa using begun
    rfl
  | @startRun call' | @crashRun call' | @arrive call' | @closeWorker call' | @closeInline call'
  | @crashClose call' | @closeUnowned call' =>
    obtain ⟨rfl, rfl⟩ : call = call' ∧ _ := by simpa using begun
    rfl
  | _ => simp at begun

/-- A step that is not one of a direct write begins none. -/
theorem Transition.begins_none (t : Transition c s a s' new) (queued : a.isDirect s = false) :
    NoDirectWrites new := by
  intro e mem
  cases e with
  | begun call op =>
    obtain rfl := t.eq_begin mem
    cases op with
    | apply | applyBatch => cases queued
    | _ => rfl
  | _ => rfl

theorem withoutDirect_concat (h : run c s as = some (s', es)) {t : State}
    (next : step c s' a = some (t, new)) :
    withoutDirect c s (as ++ [a]) =
      withoutDirect c s as ++ if a.isDirect s' then [] else [a] :=
  observe_concat h next

/-- A run without the actions of direct writes is a run. It leads to the batcher without direct
writes. -/
theorem run_withoutDirect (h : run c (.initial c) as = some (s, es)) :
    ∃ fs, run c (.initial c) (withoutDirect c (.initial c) as) = some (s.alone, fs) ∧
      NoDirectWrites fs := by
  refine run_induction ⟨[], rfl, nofun⟩ ?_ h
  rintro as s es a s' new ran next ⟨fs, before, none⟩
  rw [withoutDirect_concat ran next]
  cases direct : a.isDirect s with
  | true =>
    rw [if_pos rfl, List.append_nil, (Reaches.of_run ran).alone_eq next direct]
    exact ⟨fs, before, none⟩
  | false =>
    rw [if_neg Bool.false_ne_true]
    have goesOn := step_alone_of_step next direct
    refine ⟨fs ++ new, run_concat.2 ⟨_, _, _, before, goesOn, rfl⟩, ?_⟩
    exact List.forall_mem_append.2 ⟨none, (Transition.of_step next).begins_none direct⟩

/-- What overlooks direct writes is seen in the same way without them. -/
theorem Overlooks.observe_withoutDirect (v : Overlooks c view)
    (h : run c (.initial c) as = some (s, es)) :
    observe view c (.initial c) (withoutDirect c (.initial c) as) =
      observe view c (.initial c) as := by
  refine run_induction rfl ?_ h
  intro as s es a s' new ran next ih
  obtain ⟨fs, before, -⟩ := run_withoutDirect ran
  rw [withoutDirect_concat ran next, observe_concat ran next]
  cases direct : a.isDirect s with
  | true => rw [if_pos rfl, List.append_nil, ih, v.direct (.of_step next) direct, List.append_nil]
  | false =>
    rw [if_neg Bool.false_ne_true, observe_concat before (step_alone_of_step next direct), ih,
      v.alone s a new direct]

/-- Without direct writes there is less to wait for. -/
theorem mayPass_alone {time : Nat} (h : mayPass s time = true) : mayPass s.alone time = true := by
  obtain ⟨idle, timers⟩ := (Bool.and_eq_true _ _).mp h
  obtain ⟨sender, consumer, -⟩ := ready_eq_none.1 (Option.isNone_iff_eq_none.1 idle)
  have idle : ready s.alone = none := ready_eq_none.2 ⟨sender, consumer, rfl⟩
  refine (Bool.and_eq_true _ _).mpr ⟨Option.isNone_iff_eq_none.2 idle, ?_⟩
  refine List.all_eq_true.2 fun due mem => List.all_eq_true.1 timers due ?_
  exact List.mem_append_left _ ((List.mem_append.1 mem).resolve_right nofun)

/-- Without direct writes time passes as on a virtual clock, too. -/
theorem punctual_withoutDirect (h : run c (.initial c) as = some (s, es)) :
    Punctual c (.initial c) as → Punctual c (.initial c) (withoutDirect c (.initial c) as) := by
  refine run_induction id ?_ h
  intro as s es a s' new ran next ih punctual
  obtain ⟨earlier, now⟩ := (punctual_concat ran next).1 punctual
  obtain ⟨fs, before, -⟩ := run_withoutDirect ran
  rw [withoutDirect_concat ran next]
  cases direct : a.isDirect s with
  | true => simpa using ih earlier
  | false =>
    rw [if_neg Bool.false_ne_true, punctual_concat before (step_alone_of_step next direct)]
    refine ⟨ih earlier, ?_⟩
    cases a with
    | advance time => exact mayPass_alone now
    | _ => rfl

end Run

/-! ## Runs with the same schedule -/

section Schedule

variable {α : Type} {view : State → Action → List Event → List α}

/-- What one action of a schedule makes of a batcher without direct writes, and what is seen. -/
def followed (view : State → Action → List Event → List α) (c : Deployment)
    (seen : Option (State × List α)) (x : Nat × Action) : Option (State × List α) :=
  seen.bind fun (s, l) =>
    (step c { s with now := x.1 } x.2).map fun m =>
      (m.1.timeless, l ++ view { s with now := x.1 } x.2 m.2)

/-- What overlooks direct writes is made by the schedule. -/
theorem Overlooks.foldl_schedule (v : Overlooks c view) (h : run c (.initial c) as = some (s, es)) :
    (schedule c (.initial c) as).foldl (followed view c) (some ((State.initial c).timeless, [])) =
      some (s.timeless, observe view c (.initial c) as) := by
  refine run_induction rfl ?_ h
  intro as s es a s' new ran next ih
  have more : schedule c (.initial c) (as ++ [a]) = schedule c (.initial c) as ++
      if a.isDirect s || a.isAdvance then [] else [(s.now, a)] := observe_concat ran next
  rw [more, List.foldl_append, ih, observe_concat ran next]
  have t := Transition.of_step next
  -- what is not in the schedule changes only the direct writes or the time, and is not seen
  cases direct : a.isDirect s with
  | true =>
    have rest : s'.timeless = s.timeless := by
      rw [(Reaches.of_run ran).touches next direct]
      rfl
    rw [Bool.true_or, if_pos rfl, v.direct t direct, List.append_nil, rest]
    rfl
  | false =>
    cases passes : a.isAdvance with
    | true =>
      rw [Bool.or_true, if_pos rfl]
      cases t with
      | advance => rw [v.advance, List.append_nil]; rfl
      | @collect _ _ after | @collectFlush _ _ after => cases after <;> cases passes
      | _ => cases passes
    | false =>
      have goesOn : step c { s.timeless with now := s.now } a = some (s'.alone, new) :=
        step_alone_of_step next direct
      rw [Bool.or_false, if_neg Bool.false_ne_true, List.foldl_cons, List.foldl_nil]
      simp only [followed, Option.bind_some, goesOn, Option.map_some]
      show some (s'.timeless, _ ++ view s.alone a new) = _
      rw [v.alone s a new direct]

/-- Runs with the same schedule lead to the same batcher, apart from its direct writes and the time,
and what overlooks direct writes is seen in the same way. -/
theorem Overlooks.eq_of_schedule (v : Overlooks c view) {bs : List Action} {t : State}
    {fs : List Event} (h : run c (.initial c) as = some (s, es))
    (h' : run c (.initial c) bs = some (t, fs))
    (same : schedule c (.initial c) as = schedule c (.initial c) bs) :
    s.timeless = t.timeless ∧ observe view c (.initial c) as = observe view c (.initial c) bs := by
  have first := v.foldl_schedule h
  rw [same, v.foldl_schedule h'] at first
  exact Prod.mk.inj (Option.some.inj first.symm)

end Schedule

end CatalogSearch.Batcher
