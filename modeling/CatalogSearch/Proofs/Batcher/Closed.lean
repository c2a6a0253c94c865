import Mathlib.Data.List.Destutter
import CatalogSearch.Proofs.Batcher.Calls
import CatalogSearch.Proofs.Batcher.Worker

/-!
# The way to closing, and what is closed stays closed

A batcher moves from one phase to the next one and never back, and starts one worker at most.
After it has closed nothing enters its queue any more, and the engine is asked only by direct calls
that were under way and make their second attempt: `Reaches.closed`.

Until it is told to close there is a worker, or the receiver waits for one, if there is room for a
batch: `Reaches.receiver_ne_worker`.
-/

namespace CatalogSearch.Batcher

variable {c : Deployment} {s s' : State} {a : Action} {es : List Event}

/-! ## Phases -/

/-- The phases that lie ahead, the present one first. -/
def Phase.onward : Phase → List Phase
  | .running => [.running, .draining, .closed]
  | .draining => [.draining, .closed]
  | .closed => [.closed]

/-- A phase is the same as before or the next one. -/
def Phase.Follows (p p' : Phase) : Prop :=
  p' = p ∨ p = .running ∧ p' = .draining ∨ p = .draining ∧ p' = .closed

theorem Transition.follows (life : Lifecycle s) (t : Transition c s a s' es) :
    s.phase.Follows s'.phase := by
  cases t with
  | closeWorker _ running | closeInline _ running | crashClose _ running | closeUnowned _ running =>
    exact .inr (.inl ⟨running, rfl⟩)
  | cancel => exact .inl (phase_cancelCall s _)
  | finishWorker consumer | finishCaller consumer =>
    have busy : s.consumer.owner? ≠ none := by simp [consumer, Consumer.owner?]
    exact .inr (.inr ⟨life.isDraining busy (by rw [consumer]; rfl), rfl⟩)
  | joinDied closing | joinUnmade closing =>
    have later := life.ne_running_of_closing closing
    cases phase : s.phase with
    | running => exact absurd phase later
    | draining => exact .inr (.inr ⟨rfl, rfl⟩)
    | closed => exact .inl rfl
  | _ => exact .inl rfl

theorem head?_visited (c : Deployment) (s : State) (as : List Action) :
    (visited c s as).head? = some s := by
  cases as with
  | nil => rfl
  | cons a as =>
    rw [visited]
    split <;> rfl

theorem isChain_visited (life : Lifecycle s) (as : List Action) :
    ((visited c s as).map State.phase).IsChain Phase.Follows := by
  induction as generalizing s with
  | nil => exact .singleton _
  | cons a as ih =>
    rw [visited]
    split
    · exact .singleton _
    · next s' es next =>
      have t := Transition.of_step next
      refine List.isChain_cons.2 ⟨fun p head => ?_, ih (life.step t)⟩
      rw [List.head?_map, head?_visited] at head
      obtain rfl := Option.some.inj head
      exact t.follows life

/-- Phases that follow each other are, without repetitions, the first ones that lie ahead. -/
theorem destutter_isPrefix {p : Phase} {ps : List Phase}
    (h : (p :: ps).IsChain Phase.Follows) :
    (p :: ps).destutter (· ≠ ·) <+: p.onward := by
  rw [List.destutter_cons']
  induction ps generalizing p with
  | nil => cases p <;> simp [Phase.onward]
  | cons q qs ih =>
    obtain ⟨follows, rest⟩ := List.isChain_cons_cons.1 h
    have ih := ih rest
    rcases follows with rfl | ⟨rfl, rfl⟩ | ⟨rfl, rfl⟩
    · rwa [List.destutter'_cons_neg _ (by simp)]
    · rw [List.destutter'_cons_pos _ (by simp)]
      exact List.cons_prefix_cons.2 ⟨rfl, ih⟩
    · rw [List.destutter'_cons_pos _ (by simp)]
      exact List.cons_prefix_cons.2 ⟨rfl, ih⟩

theorem destutter_visited (life : Lifecycle s) (as : List Action) :
    ((visited c s as).map State.phase).destutter (· ≠ ·) <+: s.phase.onward := by
  have chain := isChain_visited (c := c) life as
  have head := congrArg (Option.map State.phase) (head?_visited c s as)
  rw [← List.head?_map] at head
  obtain ⟨phases, starts⟩ := List.head?_eq_some_iff.1 head
  rw [starts] at chain ⊢
  exact destutter_isPrefix chain

/-! ## The worker -/

/-- The worker is started when the receiver is taken, which stays away. -/
theorem Transition.starts_le (t : Transition c s a s' es) :
    starts es + s'.hasReceiver.toNat ≤ s.hasReceiver.toNat := by
  cases t with
  | startRun _ _ receiver => simp [receiver, List.countP_cons]
  | cancel => simp
  | _ => simp [markClosed, Batcher.die, unmake]

theorem Reaches.starts_le (h : Reaches c s s' es) :
    starts es + s'.hasReceiver.toNat ≤ s.hasReceiver.toNat := by
  induction h with
  | start => simp
  | step _ next ih =>
    have one := (Transition.of_step next).starts_le
    simp only [starts, List.countP_append] at ih one ⊢
    omega

/-! ## After closing -/

/-- What a direct write asks the engine for. -/
def Direct.request (w : Direct) : Asker × Write := (.call w.call, w.write)

/-- The requests that may still be made by the direct calls under way, each one of which makes no
more than two. -/
def State.retries (s : State) : List (Asker × Write) :=
  (s.direct.filter fun w => w.attempt ≠ .second).map Direct.request

/-- What a call of a closed batcher gets. -/
def Operation.whenClosed : Operation → Outcome
  | .run | .enqueue _ | .apply _ | .applyBatch _ => .error .closed
  | .close => .ok .ok

theorem immediate?_of_closed {op : Operation} (closed : s.phase = .closed)
    (valid : ∀ d, op = .enqueue d → d.missingField = none) :
    immediate? s op = some op.whenClosed := by
  cases op with
  | enqueue d =>
    have valid := validate_eq_ok.2 (valid d rfl)
    simp [immediate?, valid, failure?, closed, Operation.whenClosed]
  | _ => simp [immediate?, closed, Operation.whenClosed]

/-- Setting an attempt changes no request, only whether it may still be made. -/
theorem map_request_setAttempt (call : Nat) (attempt : Attempt) (ws : List Direct) :
    ((setAttempt call attempt ws).filter fun w => w.attempt ≠ .second).map Direct.request =
      (ws.filter fun w =>
        if w.call = call then attempt ≠ .second else w.attempt ≠ .second).map Direct.request := by
  unfold setAttempt
  rw [List.filter_map, List.map_map]
  refine (congrArg _ (List.filter_congr fun w _ => ?_)).trans (List.map_congr_left fun w _ => ?_)
  · rw [Function.comp_apply]
    split <;> rfl
  · rw [Function.comp_apply]
    split <;> rfl

/-- Nothing enters the queue of a closed batcher, and the engine is asked only for what direct calls
may still ask for. -/
theorem Transition.closed (life : Lifecycle s) (stock : Stocked s) (nodup : s.calls.Nodup)
    (closed : s.phase = .closed) (t : Transition c s a s' es) :
    s'.phase = .closed ∧ accepted es = [] ∧ (requests es ++ s'.retries).Subperm s.retries := by
  obtain ⟨-, -, -, gone⟩ := life.closed closed
  have idle := Consumer.owner?_of_gone gone
  have shut : s.queue.isOpen = false :=
    stock.isOpen.trans (Consumer.keepsOpen_of_isDrained (Consumer.isDrained_of_gone gone))
  cases t with
  | immediate | refuse | joinEnded | advance => exact ⟨closed, rfl, List.Subperm.refl _⟩
  | joinDied | joinUnmade => exact ⟨rfl, rfl, List.Subperm.refl _⟩
  | startRun _ running | crashRun _ running | arrive _ running | closeWorker _ running
  | closeInline _ running | crashClose _ running | closeUnowned _ running =>
    rw [closed] at running
    cases running
  | write _ unclosed => exact absurd closed unclosed
  | cancel =>
    refine ⟨(phase_cancelCall s _).trans closed, rfl, List.Sublist.subperm ?_⟩
    unfold State.retries
    rw [direct_cancelCall]
    exact (List.filter_sublist.filter _).map _
  | enter _ isOpen | wait _ isOpen =>
    rw [shut] at isOpen
    cases isOpen
  | @pauseDirect w e found first =>
    obtain ⟨-, nodup⟩ := State.nodup_parts nodup
    have mem := List.mem_of_find?_eq_some found
    refine ⟨closed, rfl, List.Perm.subperm (.of_eq ?_)⟩
    refine (map_request_setAttempt _ _ _).trans (congrArg _ (List.filter_congr fun v other => ?_))
    split
    · next same =>
      obtain rfl := List.inj_on_of_nodup_map nodup other mem same
      simp [first]
    · rfl
  | endDirect found =>
    exact ⟨closed, rfl, ((List.filter_sublist.filter _).map _).subperm⟩
  | @retryDirect w found due =>
    have mem := List.mem_of_find?_eq_some found
    have unfinished : w.attempt ≠ .second := by
      intro second
      rw [second] at due
      cases due
    have mem : w ∈ s.direct.filter fun v => v.attempt ≠ .second :=
      List.mem_filter.2 ⟨mem, by simpa using unfinished⟩
    have others : (s.direct.filter fun v =>
          if v.call = w.call then Attempt.second ≠ .second else v.attempt ≠ .second) =
        (s.direct.filter fun v => v.attempt ≠ .second).filter fun v => v.call ≠ w.call := by
      rw [List.filter_filter]
      refine List.filter_congr fun v _ => ?_
      split
      · next same => simp [same]
      · next other => simp [other]
    obtain ⟨part, perm, sub⟩ := cons_filter_subperm (p := fun v => v.call ≠ w.call) mem (by simp)
    refine ⟨closed, rfl, ?_⟩
    have retries := map_request_setAttempt w.call .second s.direct
    rw [others] at retries
    rw [show requests [.asked (.call w.call) w.write] = [w.request] from rfl]
    rw [State.retries, retries, List.singleton_append]
    exact ⟨part.map Direct.request, perm.map _, sub.map _⟩
  | startWorker consumer | die consumer | desert consumer | idleTick consumer | flushTick consumer
  | signal consumer | shut consumer | drained consumer | flushLast consumer | finishWorker consumer
  | finishCaller consumer | pauseFlush consumer | endFlush consumer | retryFlush consumer =>
    simp [consumer, Consumer.owner?] at idle
  | collect _ consumer | collectFlush _ consumer => simp [consumer] at idle

/-- A closed batcher stays closed, takes no declaration, and asks the engine only for what direct
calls may still ask for. -/
theorem Reaches.closed (h : Reaches c s s' es) (life : Lifecycle s) (stock : Stocked s)
    (nodup : s.calls.Nodup) (closed : s.phase = .closed) :
    s'.phase = .closed ∧ accepted es = [] ∧ (requests es ++ s'.retries).Subperm s.retries := by
  induction h with
  | start => exact ⟨closed, rfl, (List.Perm.refl _).subperm⟩
  | @step t t' a es new reached next ih =>
    obtain ⟨closed, none, asks⟩ := ih
    obtain ⟨closed', none', asks'⟩ := (Transition.of_step next).closed (reached.lifecycle life)
      (reached.stocked life stock) (reached.calls_nodup life nodup) closed
    refine ⟨closed', accepted_append_eq_nil none none', ?_⟩
    simp only [requests, List.filterMap_append, List.append_assoc]
    exact ((List.subperm_append_left _).2 asks').trans asks

theorem step_of_closed {call : Nat} {op : Operation} (closed : s.phase = .closed)
    (fresh : call ∉ s.calls) (valid : ∀ d, op = .enqueue d → d.missingField = none) :
    step c s (.begin call op) = some (s, [.begun call op, .returned call op.whenClosed]) := by
  simp only [step, if_neg fresh, beginCall, immediate?_of_closed closed valid]

/-- While a batcher is running that has room for a batch, its receiver waits for a worker, or there
is one. -/
theorem Reaches.receiver_ne_worker (h : Reaches c (.initial c) s es) (fits : c.Fits)
    (running : s.phase = .running) : s.hasReceiver ≠ s.hasWorker := by
  refine ((h.lifecycle (.initial c)).receiver_ne_worker_iff running).2 fun unmade => ?_
  rcases h.of_broken (by rw [unmade]; rfl) with ⟨died, -⟩ | ⟨-, large⟩
  · cases unmade.symm.trans died
  · exact large fits

/-- **Lifecycle safety.** What happens to a batcher, in whatever order, leads it from running
through draining to closed. It starts one worker at most, and while it is running declarations can
be sent. From the moment it is closed nothing enters the queue, every call ends at once without a
request, with the error that the batcher is closed or, if it is a call of close, without one; and
the engine is asked for nothing but the second attempts of direct writes that were under way, never
by a flush.

While it is running either the receiver waits for a worker or there is one, so that a call of close
never finds neither, if and only if there is room for a batch: without it the call that is to start
the worker crashes when it has taken the receiver. -/
theorem lifecycle_safety_iff (c : Deployment) :
    (∀ as s es, run c (.initial c) as = some (s, es) →
      ((visited c (.initial c) as).map State.phase).destutter (· ≠ ·) <+:
          [.running, .draining, .closed] ∧
        starts es ≤ 1 ∧
        (s.phase = .running → s.hasSender = true) ∧
        (s.phase = .closed → ∀ bs s' es', run c s bs = some (s', es') →
          s'.phase = .closed ∧ accepted es' = [] ∧ (requests es').Subperm s.retries ∧
            (∀ w, (.flush, w) ∉ requests es') ∧
            ∀ call op, call ∉ s'.calls → (∀ d, op = .enqueue d → d.missingField = none) →
              step c s' (.begin call op) =
                some (s', [.begun call op, .returned call op.whenClosed]))) ∧
      ((∀ as s es, run c (.initial c) as = some (s, es) → s.phase = .running →
          s.hasReceiver ≠ s.hasWorker) ↔
        c.Fits) := by
  refine ⟨fun as s es h => ?_, fun neither => ?_, fun fits as s es h running => ?_⟩
  · have reached := Reaches.of_run h
    have life := reached.lifecycle (.initial c)
    have stock := reached.stocked (.initial c) (.initial c)
    have nodup := reached.calls_nodup (.initial c) List.nodup_nil
    refine ⟨destutter_visited (.initial c) as, ?_, fun running => (life.running running).1,
      fun closed bs s' es' rest => ?_⟩
    · have worker := reached.starts_le
      exact Nat.le_trans (Nat.le_add_right _ _) worker
    · obtain ⟨closed', none, asks⟩ := (Reaches.of_run rest).closed life stock nodup closed
      have asks : (requests es').Subperm s.retries :=
        (List.sublist_append_left _ _).subperm.trans asks
      refine ⟨closed', none, asks, fun w flushes => ?_, fun call op fresh valid => ?_⟩
      · obtain ⟨v, -, request⟩ := List.mem_map.1 (asks.subset flushes)
        cases request
      · exact step_of_closed closed' fresh valid
  · by_contra large
    have fresh : 0 ∉ (State.initial c).calls := nofun
    have crashes := step_run_of_large fresh rfl rfl large
    exact neither [.begin 0 .run] _ _ ((run_singleton _ _ _).trans crashes) rfl rfl
  · exact (Reaches.of_run h).receiver_ne_worker fits running

/-- With more declarations in a batch than there can be room for, the call that is to start the
worker leaves neither a receiver nor a worker. The call of close that finds neither returns without
an error and without a request, though a declaration has entered the queue. -/
theorem lifecycle_unsafe_of_large_batch :
    let c : Deployment := ⟨⟨0x1000000000000000, 10000, 300000, 1000⟩, .common, by decide⟩
    let as : List Action := [.begin 0 (.enqueue (.delete "tracks" "" "1")), .send 0, .begin 1 .run]
    ∃ s es s' new, run c (.initial c) as = some (s, es) ∧ s.phase = .running ∧
      s.hasReceiver = false ∧ s.hasWorker = false ∧
      run c s [.begin 2 .close, .join] = some (s', new) ∧ s'.phase = .closed ∧
      new = [.begun 2 .close, .returned 2 (.ok .ok)] := by
  intro c as
  have ran : ((run c (.initial c) as).bind fun m =>
      (run c m.1 [.begin 2 .close, .join]).map fun n =>
        decide (m.1.phase = .running ∧ m.1.hasReceiver = false ∧ m.1.hasWorker = false ∧
          n.1.phase = .closed ∧ n.2 = [.begun 2 .close, .returned 2 (.ok .ok)])) = some true := by
    decide +kernel
  obtain ⟨⟨s, es⟩, h, ran⟩ := Option.bind_eq_some_iff.1 ran
  obtain ⟨⟨s', new⟩, h', facts⟩ := Option.map_eq_some_iff.1 ran
  obtain ⟨running, receiver, worker, closed, returned⟩ := of_decide_eq_true facts
  exact ⟨s, es, s', new, h, running, receiver, worker, h', closed, returned⟩

/-- Once a batcher has closed under a direct write whose first attempt failed, the second attempt is
all that the engine may still be asked for. -/
theorem lifecycle_safety_of_late_retry :
    let d := Declaration.delete "tracks" "" "1"
    let as : List Action :=
      [.begin 0 .run, .start, .begin 1 (.apply d),
        .answer (.call 1) (.error (.reported .connection "reset")), .begin 2 .close, .signal, .shut,
        .drain, .finish, .join]
    ∃ s es, run .default (.initial .default) as = some (s, es) ∧ s.phase = .closed ∧
      starts es ≤ 1 ∧ ∀ bs s' es', run .default s bs = some (s', es') →
        (requests es').Subperm [(.call 1, .delete d)] := by
  intro d as
  have ran : (run .default (.initial .default) as).map (fun m => (m.1.phase, m.1.retries)) =
      some (.closed, [(.call 1, .delete d)]) := rfl
  obtain ⟨⟨s, es⟩, h, facts⟩ := Option.map_eq_some_iff.1 ran
  obtain ⟨closed, retries⟩ := Prod.mk.inj facts
  obtain ⟨-, once, -, safe⟩ := (lifecycle_safety_iff .default).1 as s es h
  refine ⟨s, es, h, closed, once, fun bs s' es' rest => ?_⟩
  rw [← retries]
  exact (safe closed bs s' es' rest).2.2.1

end CatalogSearch.Batcher
