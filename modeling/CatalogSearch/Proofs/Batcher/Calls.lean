import Mathlib.Data.List.Pairwise
import Mathlib.Data.List.Perm.Subperm
import CatalogSearch.Proofs.Batcher.Lifecycle

/-!
# The calls of a batcher

Every call that has begun is under way until it ends, and it ends once: `Reaches.calls_perm` is the
law that the calls under way and those that have ended are together the calls that have begun. From
it follows that a call under way is under way in one place only, and has not ended.

`Reaches.roles` says what the calls under way were asked for.
-/

namespace CatalogSearch.Batcher

deriving instance DecidableEq for Event

instance (es : List Event) : Decidable (ClosesKept es) :=
  inferInstanceAs (Decidable (∀ call ∈ closers es, .cancelled call ∉ es))

/-! ## The calls under way -/

theorem State.count_calls (s : State) (n : Nat) :
    s.calls.count n =
      (s.queue.offers.map Offer.call).count n + (s.direct.map Direct.call).count n +
        s.closing.toList.count n + (s.consumer.owner?.bind Owner.call?).toList.count n := by
  simp only [State.calls, List.count_append]

theorem bind_call?_eq_some {owner : Option Owner} {n : Nat} :
    owner.bind Owner.call? = some n ↔ owner = some (.caller n) := by
  rcases owner with _ | _ | call
  · simp
  · simp [Owner.call?]
  · simp [Owner.call?]

theorem State.mem_calls {s : State} {n : Nat} :
    n ∈ s.calls ↔ n ∈ s.queue.offers.map Offer.call ∨ n ∈ s.direct.map Direct.call ∨
      s.closing = some n ∨ s.consumer.owner? = some (.caller n) := by
  simp only [State.calls, List.mem_append, Option.mem_toList, bind_call?_eq_some, or_assoc]

@[simp] theorem map_call_setAttempt (call : Nat) (attempt : Attempt) (ws : List Direct) :
    (setAttempt call attempt ws).map Direct.call = ws.map Direct.call := by
  unfold setAttempt
  rw [List.map_map]
  refine List.map_congr_left fun w _ => ?_
  simp only [Function.comp_apply]
  split <;> rfl

theorem mem_setAttempt {call : Nat} {attempt : Attempt} {ws : List Direct} :
    ∀ w' ∈ setAttempt call attempt ws, ∃ w ∈ ws, w.call = w'.call ∧ w.write = w'.write := by
  intro w' mem
  obtain ⟨w, old, rfl⟩ := List.mem_map.1 mem
  refine ⟨w, old, ?_⟩
  split <;> exact ⟨rfl, rfl⟩

/-- Without repetitions, filtering out the number of an entry takes it out once. -/
theorem map_filter_ne_perm {α : Type} {f : α → Nat} {l : List α} {x : α} (nodup : (l.map f).Nodup)
    (mem : x ∈ l) : (f x :: (l.filter fun y => f y ≠ f x).map f).Perm (l.map f) := by
  have erased : (l.filter fun y => f y ≠ f x).map f = (l.map f).erase (f x) := by
    rw [nodup.erase_eq_filter, List.filter_map]
    congr 1
    refine List.filter_congr fun y _ => ?_
    rw [Bool.eq_iff_iff]
    simp
  rw [erased]
  exact (List.perm_cons_erase (List.mem_map_of_mem mem)).symm

theorem cons_filter_subperm {α : Type} {l : List α} {x : α} {p : α → Bool} (mem : x ∈ l)
    (excluded : p x = false) : (x :: l.filter p).Subperm l := by
  have one : [x].Sublist (l.filter fun y => !p y) :=
    List.singleton_sublist.2 (List.mem_filter.2 ⟨mem, by simp [excluded]⟩)
  have parts : (l.filter p ++ [x]).Subperm l :=
    (one.append_left _).subperm.trans (List.filter_append_perm p l).subperm
  exact List.perm_append_comm.subperm.trans parts

theorem calls_cancelCall_perm (s : State) (call : Nat) :
    (cancelCall s call).calls.Perm (s.calls.filter (· ≠ call)) := by
  have offers : ((s.queue.withdraw call).offers.map Offer.call).Perm
      ((s.queue.offers.map Offer.call).filter (· ≠ call)) := by
    rw [List.filter_map]
    exact (Queue.offers_withdraw_perm s.queue call).map Offer.call
  have direct : (s.direct.filter fun w => w.call ≠ call).map Direct.call =
      (s.direct.map Direct.call).filter (· ≠ call) := by
    rw [List.filter_map]
    rfl
  have closing : (s.closing.filter (· ≠ call)).toList = s.closing.toList.filter (· ≠ call) :=
    Option.toList_filter
  by_cases own : s.consumer.owner? = some (.caller call)
  · rw [cancelCall_of_drains own]
    have owner : (s.consumer.owner?.bind Owner.call?).toList.filter (· ≠ call) = [] := by
      simp [own, Owner.call?]
    simp only [State.calls, List.filter_append, owner, direct, closing]
    exact (((offers.append_right _).append_right _).append_right _)
  · rw [cancelCall_of_ne own]
    have owner : (s.consumer.owner?.bind Owner.call?).toList.filter (· ≠ call) =
        (s.consumer.owner?.bind Owner.call?).toList := by
      refine List.filter_eq_self.2 fun n mem => ?_
      have drains := bind_call?_eq_some.1 (Option.mem_toList.1 mem)
      have distinct : n ≠ call := by
        rintro rfl
        exact own drains
      simpa using distinct
    simp only [State.calls, List.filter_append, owner, direct, closing]
    exact (((offers.append_right _).append_right _).append_right _)

/-! ## The law of calls -/

/-- The entries of the calls that are under way at one place do not repeat a call. -/
theorem State.nodup_parts {s : State} (h : s.calls.Nodup) :
    (s.queue.offers.map Offer.call).Nodup ∧ (s.direct.map Direct.call).Nodup := by
  unfold State.calls at h
  obtain ⟨h, -, -⟩ := List.nodup_append.1 h
  obtain ⟨h, -, -⟩ := List.nodup_append.1 h
  obtain ⟨offers, direct, -⟩ := List.nodup_append.1 h
  exact ⟨offers, direct⟩

/-- In one step as many calls end as stop being under way, apart from those that begin. -/
theorem Transition.calls_perm {c : Deployment} {s s' : State} {a : Action} {es : List Event}
    (life : Lifecycle s) (nodup : s.calls.Nodup) (t : Transition c s a s' es) :
    (s'.calls ++ endedCalls es).Perm (s.calls ++ begunCalls es) := by
  obtain ⟨offersNodup, directNodup⟩ := State.nodup_parts nodup
  refine List.perm_iff_count.2 fun n => ?_
  simp only [List.count_append]
  cases t with
  | immediate => simp [List.filterMap_cons]
  | startRun _ running receiver =>
    have parked := life.parked running receiver
    simp [State.count_calls, List.filterMap_cons, parked, Consumer.owner?, Owner.call?]
  | @arrive call d =>
    have arrived := ((Queue.offers_arrive_perm s.queue ⟨call, d⟩).map Offer.call).count_eq n
    simp [State.count_calls, List.filterMap_cons, List.count_cons, arrived]
    omega
  | write =>
    simp [State.count_calls, List.filterMap_cons, List.count_cons]
    omega
  | crashRun _ running receiver | crashClose _ running _ receiver =>
    have parked := life.parked running receiver
    simp [State.count_calls, List.filterMap_cons, unmake, parked, Consumer.owner?]
  | closeWorker _ running | closeUnowned _ running =>
    obtain ⟨-, -, unclaimed, -⟩ := life.running running
    simp [State.count_calls, List.filterMap_cons, List.count_cons, unclaimed]
    omega
  | closeInline _ running _ receiver =>
    have parked := life.parked running receiver
    simp [State.count_calls, List.filterMap_cons, parked, Consumer.owner?, Owner.call?]
  | @cancel call active =>
    have kept := (calls_cancelCall_perm s call).count_eq n
    have gone := (map_filter_ne_perm (f := id) (by simpa using nodup) active).count_eq n
    simp [List.filterMap_cons, List.count_cons] at kept gone ⊢
    omega
  | enter mem =>
    have gone := (map_filter_ne_perm offersNodup mem).count_eq n
    simp [State.count_calls, List.filterMap_cons, List.count_cons] at gone ⊢
    omega
  | @wait o mem =>
    have stays := ((Queue.offers_await_perm s.queue o).map Offer.call).count_eq n
    have gone := (map_filter_ne_perm offersNodup mem).count_eq n
    simp [State.count_calls, List.count_cons] at stays gone ⊢
    omega
  | refuse mem =>
    have gone := (map_filter_ne_perm offersNodup mem).count_eq n
    simp [State.count_calls, List.filterMap_cons, List.count_cons] at gone ⊢
    omega
  | startWorker starting => simp [State.count_calls, starting, Consumer.owner?, Owner.call?]
  | die starting => simp [State.count_calls, Batcher.die, starting, Consumer.owner?, Owner.call?]
  | collect takes =>
    obtain ⟨-, -, offers⟩ := Queue.of_take?_eq_some takes
    simp [State.count_calls, (offers.map Offer.call).count_eq n]
  | collectFlush takes consumer =>
    obtain ⟨-, -, offers⟩ := Queue.of_take?_eq_some takes
    simp [State.count_calls, List.filterMap_cons, (offers.map Offer.call).count_eq n, consumer]
  | desert consumer | signal consumer | idleTick consumer | flushTick consumer | shut consumer
  | drained consumer | flushLast consumer =>
    simp [State.count_calls, List.filterMap_cons, consumer, Consumer.owner?, Resume.owner]
  | finishWorker consumer | finishCaller consumer =>
    simp [State.count_calls, List.filterMap_cons, markClosed, consumer, Consumer.owner?,
      Owner.call?]
  | joinEnded closing | joinDied closing | joinUnmade closing =>
    simp [State.count_calls, List.filterMap_cons, markClosed, closing]
    omega
  | pauseFlush consumer | retryFlush consumer | endFlush consumer =>
    simp [State.count_calls, List.filterMap_cons, consumer, Consumer.owner?_flushing]
  | pauseDirect | retryDirect => simp [State.count_calls, List.filterMap_cons]
  | endDirect found =>
    have gone := (map_filter_ne_perm directNodup (List.mem_of_find?_eq_some found)).count_eq n
    simp [State.count_calls, List.filterMap_cons, List.count_cons] at gone ⊢
    omega
  | advance => rfl

/-- A call that begins was not under way. -/
theorem Transition.begun {c : Deployment} {s s' : State} {a : Action} {es : List Event}
    (t : Transition c s a s' es) :
    begunCalls es = [] ∨ ∃ call, call ∉ s.calls ∧ begunCalls es = [call] := by
  cases t with
  | immediate fresh | startRun fresh | crashRun fresh | arrive fresh | write fresh
  | closeWorker fresh | closeInline fresh | crashClose fresh | closeUnowned fresh =>
    exact .inr ⟨_, fresh, rfl⟩
  | _ => exact .inl rfl

/-- A call that begins is not under way. -/
theorem not_mem_calls_of_begin {c : Deployment} {s : State} {call : Nat} {op : Operation} {m : Move}
    (next : Batcher.step c s (.begin call op) = some m) : call ∉ s.calls := by
  intro active
  simp [Batcher.step, active] at next

theorem Transition.begun_mem {c : Deployment} {s s' : State} {a : Action} {es : List Event}
    (t : Transition c s a s' es) {call : Nat} {op : Operation} (h : a = .begin call op) :
    .begun call op ∈ es := by
  cases t with
  | immediate | startRun | crashRun | arrive | write | closeWorker | closeInline | crashClose
  | closeUnowned =>
    cases h
    exact List.mem_cons_self
  | @collect _ _ after | @collectFlush _ _ after => cases after <;> cases h
  | _ => cases h

/-- The calls under way do not repeat. -/
theorem Transition.calls_nodup {c : Deployment} {s s' : State} {a : Action} {es : List Event}
    (life : Lifecycle s) (nodup : s.calls.Nodup) (t : Transition c s a s' es) :
    s'.calls.Nodup := by
  have begun : (s.calls ++ begunCalls es).Nodup := by
    rcases t.begun with none | ⟨call, fresh, one⟩
    · rwa [none, List.append_nil]
    · rw [one]
      have apart : ∀ n ∈ s.calls, n ≠ call := fun n mem => ne_of_mem_of_not_mem mem fresh
      exact List.nodup_append.2 ⟨nodup, by simp, by simpa using apart⟩
  exact (List.nodup_append.1 ((t.calls_perm life nodup).nodup_iff.2 begun)).1

variable {c : Deployment} {s s' : State} {es new : List Event}

theorem Reaches.calls_nodup (h : Reaches c s s' es) (life : Lifecycle s) (nodup : s.calls.Nodup) :
    s'.calls.Nodup := by
  induction h with
  | start => exact nodup
  | step reached next ih => exact (Transition.of_step next).calls_nodup (reached.lifecycle life) ih

/-- The law of calls: those under way and those that have ended are together those that were under
way at first and those that have begun. -/
theorem Reaches.calls_perm (h : Reaches c s s' es) (life : Lifecycle s) (nodup : s.calls.Nodup) :
    (s'.calls ++ endedCalls es).Perm (s.calls ++ begunCalls es) := by
  induction h with
  | start => rfl
  | @step t t' a es new reached next ih =>
    have one := (Transition.of_step next).calls_perm (reached.lifecycle life)
      (reached.calls_nodup life nodup)
    refine List.perm_iff_count.2 fun n => ?_
    have ih := ih.count_eq n
    have one := one.count_eq n
    simp only [endedCalls, begunCalls, List.count_append, List.filterMap_append] at ih one ⊢
    omega

/-! ## Different calls -/

/-- Entries that are read as the same are the same, if nothing is read twice. -/
theorem eq_of_nodup_filterMap {α β : Type} {f : α → Option β} {l : List α} {x y : α} {b : β}
    (nodup : (l.filterMap f).Nodup) (hx : x ∈ l) (hy : y ∈ l) (fx : f x = some b)
    (fy : f y = some b) : x = y := by
  by_contra distinct
  have apart := List.pairwise_filterMap.1 nodup
  have symm : Std.Symm fun x y : α => ∀ b, f x = some b → ∀ b', f y = some b' → b ≠ b' :=
    ⟨fun x y h b hb b' hb' => (h b' hb' b hb).symm⟩
  exact apart.forall hx hy distinct b fx b fy rfl

/-- A call begins once. -/
theorem DistinctCalls.begun_unique (h : DistinctCalls es) {call : Nat} {op op' : Operation}
    (mem : .begun call op ∈ es) (mem' : .begun call op' ∈ es) : op = op' := by
  have same := eq_of_nodup_filterMap h mem mem' (b := call) rfl rfl
  exact (Event.begun.inj same).2

theorem DistinctCalls.of_append (h : DistinctCalls (es ++ new)) : DistinctCalls es := by
  unfold DistinctCalls begunCalls at h
  rw [List.filterMap_append] at h
  exact (List.nodup_append.1 h).1

theorem DistinctCalls.not_begun_again (h : DistinctCalls (es ++ new)) {call : Nat} {op : Operation}
    (mem : .begun call op ∈ es) : .begun call op ∉ new := by
  unfold DistinctCalls begunCalls at h
  rw [List.filterMap_append] at h
  intro again
  have old : call ∈ es.filterMap Event.begun? := List.mem_filterMap.2 ⟨_, mem, rfl⟩
  have now : call ∈ new.filterMap Event.begun? := List.mem_filterMap.2 ⟨_, again, rfl⟩
  exact (List.nodup_append.1 h).2.2 call old call now rfl

/-- The calls under way have not ended, and a call ends once. -/
theorem DistinctCalls.nodup_calls (h : DistinctCalls es) (reached : Reaches c (.initial c) s es) :
    (s.calls ++ endedCalls es).Nodup := by
  have law := reached.calls_perm (.initial c) List.nodup_nil
  exact law.nodup_iff.2 h

theorem DistinctCalls.not_mem_ended (h : DistinctCalls es)
    (reached : Reaches c (.initial c) s es) {call : Nat} (active : call ∈ s.calls) :
    call ∉ endedCalls es := by
  intro ended
  exact (List.nodup_append.1 (h.nodup_calls reached)).2.2 call active call ended rfl

/-- What has ended had begun. -/
theorem Reaches.begun_of_ended (h : Reaches c (.initial c) s es) {call : Nat}
    (ended : call ∈ endedCalls es) : ∃ op, .begun call op ∈ es := by
  have law := h.calls_perm (.initial c) List.nodup_nil
  have begun := law.mem_iff.1 (List.mem_append_right _ ended)
  obtain ⟨e, mem, reads⟩ := List.mem_filterMap.1 begun
  cases e with
  | begun call' op =>
    obtain rfl := Option.some.inj reads
    exact ⟨op, mem⟩
  | _ => cases reads

theorem DistinctCalls.ended_unique (h : DistinctCalls es)
    (reached : Reaches c (.initial c) s es) {e e' : Event} {call : Nat} (mem : e ∈ es)
    (mem' : e' ∈ es) (ends : e.ended? = some call) (ends' : e'.ended? = some call) : e = e' :=
  eq_of_nodup_filterMap (List.nodup_append.1 (h.nodup_calls reached)).2.1 mem mem' ends ends'

/-- A call crashes only when it takes over the queue. -/
theorem Reaches.begun_of_crashed (h : Reaches c (.initial c) s es) {call : Nat}
    (crashed : .crashed call ∈ es) : .begun call .run ∈ es ∨ .begun call .close ∈ es := by
  induction h with
  | start => cases crashed
  | step _ next ih =>
    rcases List.mem_append.1 crashed with old | now
    · exact (ih old).imp (List.mem_append_left _) (List.mem_append_left _)
    · cases Transition.of_step next with
      | @crashRun call' | @crashClose call' =>
        obtain rfl : call = call' := by simpa using now
        simp
      | _ => simp at now

/-! ## What calls were asked for -/

/-- The calls under way were asked for what they do. -/
structure Roles (c : Deployment) (s : State) (es : List Event) : Prop where
  offers : ∀ o ∈ s.queue.offers, .begun o.call (.enqueue o.declaration) ∈ es
  direct : ∀ w ∈ s.direct, ∃ op, .begun w.call op ∈ es ∧ op.Writes c w.write
  closing : ∀ call, s.closing = some call → .begun call .close ∈ es
  drains : ∀ call, s.consumer.owner? = some (.caller call) → .begun call .close ∈ es

namespace Roles

theorem initial (c : Deployment) : Roles c (.initial c) [] where
  offers := nofun
  direct := nofun
  closing := nofun
  drains := nofun

/-- Calls keep their roles, and those that begin get one. -/
theorem grow (h : Roles c s es)
    (offers : ∀ o ∈ s'.queue.offers,
      o ∈ s.queue.offers ∨ .begun o.call (.enqueue o.declaration) ∈ new)
    (direct : ∀ w' ∈ s'.direct, (∃ w ∈ s.direct, w.call = w'.call ∧ w.write = w'.write) ∨
      ∃ op, .begun w'.call op ∈ new ∧ op.Writes c w'.write)
    (closing : ∀ call, s'.closing = some call →
      s.closing = some call ∨ .begun call .close ∈ new)
    (drains : ∀ call, s'.consumer.owner? = some (.caller call) →
      s.consumer.owner? = some (.caller call) ∨ .begun call .close ∈ new) :
    Roles c s' (es ++ new) where
  offers o mem := List.mem_append.2 ((offers o mem).imp_left (h.offers o))
  direct w' mem := by
    rcases direct w' mem with ⟨w, old, call, write⟩ | ⟨op, begun, writes⟩
    · obtain ⟨op, begun, writes⟩ := h.direct w old
      rw [call] at begun
      rw [write] at writes
      exact ⟨op, List.mem_append_left _ begun, writes⟩
    · exact ⟨op, List.mem_append_right _ begun, writes⟩
  closing call waits := List.mem_append.2 ((closing call waits).imp_left (h.closing call))
  drains call own := List.mem_append.2 ((drains call own).imp_left (h.drains call))

/-- Of the calls under way some may end and the rest goes on. -/
theorem shrink (h : Roles c s es) (offers : s'.queue.offers ⊆ s.queue.offers)
    (direct : ∀ w' ∈ s'.direct, ∃ w ∈ s.direct, w.call = w'.call ∧ w.write = w'.write)
    (closing : ∀ call, s'.closing = some call → s.closing = some call)
    (drains : ∀ call, s'.consumer.owner? = some (.caller call) →
      s.consumer.owner? = some (.caller call)) : Roles c s' (es ++ new) :=
  h.grow (fun _ mem => .inl (offers mem)) (fun w mem => .inl (direct w mem))
    (fun call waits => .inl (closing call waits)) fun call own => .inl (drains call own)

/-- The consumer goes on, and nothing else happens to the calls under way. -/
theorem goOn (h : Roles c s es) {k : Consumer} (owner : k.owner? = s.consumer.owner? ∨
      k.owner? = some .worker ∨ k.owner? = none)
    {queue : Queue} (offers : queue.offers ⊆ s.queue.offers) (buffer : List Declaration) :
    Roles c { s with queue, buffer, consumer := k } (es ++ new) := by
  refine h.shrink offers (fun w mem => ⟨w, mem, rfl, rfl⟩) (fun _ => id) fun call own => ?_
  have own : k.owner? = some (.caller call) := own
  rcases owner with same | worker | none
  · rwa [← same]
  · rw [worker] at own
    cases own
  · rw [none] at own
    cases own

/-- A direct write gets on or ends, and nothing else happens to the calls under way. -/
theorem writes (h : Roles c s es) {direct : List Direct}
    (sub : ∀ w' ∈ direct, ∃ w ∈ s.direct, w.call = w'.call ∧ w.write = w'.write) :
    Roles c { s with direct } (es ++ new) :=
  h.shrink (fun _ => id) sub (fun _ => id) fun _ => id

theorem cancelCall (h : Roles c s es) (call : Nat) : Roles c (cancelCall s call) (es ++ new) := by
  have offers : (s.queue.withdraw call).offers ⊆ s.queue.offers := fun o mem =>
    (List.mem_filter.1 ((Queue.offers_withdraw_perm s.queue call).mem_iff.1 mem)).1
  have direct : ∀ w' ∈ s.direct.filter fun w => w.call ≠ call,
      ∃ w ∈ s.direct, w.call = w'.call ∧ w.write = w'.write := fun w mem =>
    ⟨w, (List.mem_filter.1 mem).1, rfl, rfl⟩
  have closing : ∀ call', s.closing.filter (· ≠ call) = some call' → s.closing = some call' :=
    fun _ waits => (Option.filter_eq_some_iff.1 waits).1
  by_cases own : s.consumer.owner? = some (.caller call)
  · rw [cancelCall_of_drains own]
    exact h.shrink offers direct closing nofun
  · rw [cancelCall_of_ne own]
    exact h.shrink offers direct closing fun _ => id

theorem step {a : Action} (h : Roles c s es) (t : Transition c s a s' new) :
    Roles c s' (es ++ new) := by
  cases t with
  | immediate | advance =>
    exact h.shrink (fun _ => id) (fun w mem => ⟨w, mem, rfl, rfl⟩) (fun _ => id) fun _ => id
  | startRun | crashRun | crashClose | finishWorker | finishCaller =>
    exact h.shrink (fun _ => id) (fun w mem => ⟨w, mem, rfl, rfl⟩) (fun _ => id) nofun
  | @arrive call d =>
    refine h.grow (fun o mem => ?_) (fun w mem => .inl ⟨w, mem, rfl, rfl⟩) (fun _ => .inl)
      fun _ => .inl
    rcases List.mem_cons.1 ((Queue.offers_arrive_perm s.queue ⟨call, d⟩).mem_iff.1 mem) with
      rfl | old
    · exact .inr (List.mem_singleton.2 rfl)
    · exact .inl old
  | @write call op w _ _ writes =>
    refine h.grow (fun _ => .inl) (fun w' mem => ?_) (fun _ => .inl) fun _ => .inl
    rcases List.mem_append.1 mem with old | new
    · exact .inl ⟨w', old, rfl, rfl⟩
    · obtain rfl := List.mem_singleton.1 new
      exact .inr ⟨op, List.mem_cons_self, writes⟩
  | closeWorker | closeUnowned =>
    refine h.grow (fun _ => .inl) (fun w mem => .inl ⟨w, mem, rfl, rfl⟩) (fun call' waits => ?_)
      fun _ => .inl
    obtain rfl := Option.some.inj waits
    exact .inr List.mem_cons_self
  | closeInline =>
    refine h.grow (fun _ => .inl) (fun w mem => .inl ⟨w, mem, rfl, rfl⟩) (fun _ => .inl)
      fun call' own => ?_
    obtain rfl := Owner.caller.inj (Option.some.inj own)
    exact .inr List.mem_cons_self
  | cancel => exact h.cancelCall _
  | enter | refuse =>
    refine h.shrink (fun o mem => ?_) (fun w mem => ⟨w, mem, rfl, rfl⟩) (fun _ => id) fun _ => id
    simp only [Queue.offers_enter, Queue.offers_without] at mem
    exact (List.mem_filter.1 mem).1
  | @wait o mem =>
    refine h.shrink (fun o' mem' => ?_) (fun w mem => ⟨w, mem, rfl, rfl⟩) (fun _ => id)
      fun _ => id
    rcases List.mem_cons.1 ((Queue.offers_await_perm s.queue o).mem_iff.1 mem') with rfl | others
    · exact mem
    · exact (List.mem_filter.1 others).1
  | startWorker => exact h.goOn (.inr (.inl rfl)) (fun _ => id) _
  | die =>
    exact h.shrink (fun _ => id) (fun w mem => ⟨w, mem, rfl, rfl⟩) (fun _ => id) nofun
  | collect takes =>
    obtain ⟨-, -, offers⟩ := Queue.of_take?_eq_some takes
    exact h.goOn (.inl rfl) offers.subset _
  | collectFlush takes consumer =>
    obtain ⟨-, -, offers⟩ := Queue.of_take?_eq_some takes
    exact h.goOn (.inl (by simp [consumer])) offers.subset _
  | desert consumer | signal consumer | idleTick consumer | flushTick consumer | shut consumer
  | drained consumer | flushLast consumer =>
    refine h.shrink (fun _ => id) (fun w mem => ⟨w, mem, rfl, rfl⟩) (fun _ => id) fun call own => ?_
    rw [consumer]
    exact own
  | joinEnded | joinDied | joinUnmade =>
    exact h.shrink (fun _ => id) (fun w mem => ⟨w, mem, rfl, rfl⟩) nofun fun _ => id
  | pauseFlush consumer | retryFlush consumer | endFlush consumer =>
    exact h.goOn (.inl (by simp [consumer])) (fun _ => id) _
  | pauseDirect | retryDirect => exact h.writes mem_setAttempt
  | endDirect => exact h.writes fun w mem => ⟨w, (List.mem_filter.1 mem).1, rfl, rfl⟩

end Roles

theorem Reaches.roles (h : Reaches c (.initial c) s es) : Roles c s es := by
  induction h with
  | start => exact .initial c
  | step _ next ih => exact ih.step (.of_step next)

end CatalogSearch.Batcher
