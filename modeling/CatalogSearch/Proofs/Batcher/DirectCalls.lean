import CatalogSearch.Proofs.Batcher.Dialogue
import CatalogSearch.Proofs.Batcher.Separation

/-!
# Direct calls do not see the queue

A direct call that finds the batcher not closed is decided by its declarations and by what the
engine answers to it: it is refused, or has nothing to do, at once and without a word to the engine
(`run_unasked`), or it asks the engine, once or twice, as the answers make it
(`Attempted.determined`). What the batcher does otherwise makes no difference.

Together with the fact that the queue does not see direct writes, this says that the two do not
interfere (`paths_do_not_interfere`).
-/

namespace CatalogSearch.Batcher

variable {c : Deployment} {s s' t : State} {a : Action} {as : List Action} {es new : List Event}
  {call : Nat} {op : Operation} {w : Write}

/-! ## One write -/

/-- What is asked for a write and its last answer are determined by the answers. -/
theorem Attempted.determined {p p' : Prop} {said said' : List Exchange} {written written' : Written}
    (h : Attempted c p w said written) (h' : Attempted c p' w said' written')
    (same : said.filterMap Exchange.written? = said'.filterMap Exchange.written?) :
    written = written' ∧
      said.filterMap Exchange.write? = said'.filterMap Exchange.write? := by
  cases h with
  | once =>
    cases h' with
    | once => exact ⟨by simpa [List.filterMap_cons] using same, rfl⟩
    | twice => simp [List.filterMap_cons] at same
  | twice =>
    cases h' with
    | once => simp [List.filterMap_cons] at same
    | twice =>
      obtain ⟨-, last⟩ : _ ∧ written = written' := by simpa [List.filterMap_cons] using same
      exact ⟨last, rfl⟩

/-- A write that has got its last answer has not been answered as one that is underway. -/
theorem Attempted.not_underway {p p' : Prop} {said said' : List Exchange} {written : Written}
    {attempt : Attempt} (h : Attempted c p w said written) (h' : Underway c p' w attempt said') :
    said.filterMap Exchange.written? ≠ said'.filterMap Exchange.written? := by
  intro same
  cases h with
  | once final =>
    cases h' with
    | first => simp [List.filterMap_cons] at same
    | @pausing _ _ e engine | @second _ _ _ e engine =>
      obtain rfl : written = .error e := by simpa [List.filterMap_cons] using same
      obtain ⟨request, missing⟩ := isEngineError_iff.1 engine
      exact (final _ rfl).elim request missing
  | twice => cases h' <;> simp [List.filterMap_cons] at same

/-! ## How a direct call begins -/

/-- Whether a direct call ends at once depends on the batcher only if that is closed. -/
theorem immediate?_congr (direct : op.isDirect = true) (unclosed : s.phase ≠ .closed)
    (unclosed' : t.phase ≠ .closed) : immediate? s op = immediate? t op := by
  cases op with
  | apply | applyBatch => simp [immediate?, unclosed, unclosed']
  | _ => cases direct

/-- A direct call that does not end at once asks for a write of complete declarations. -/
theorem writes_of_immediate?_eq_none (direct : op.isDirect = true)
    (launched : immediate? s op = none) :
    ∃ w, op.Writes c w ∧ ∀ d ∈ w.declarations, d.missingField = none := by
  cases op with
  | apply d => exact ⟨_, .inl ⟨d, rfl, rfl⟩, by simpa using (immediate?_apply.1 launched).2⟩
  | applyBatch ds =>
    obtain ⟨-, some, valid⟩ := immediate?_applyBatch.1 launched
    exact ⟨_, .inr ⟨ds, some, rfl, rfl⟩, valid⟩
  | _ => cases direct

theorem beginnings_concat {p : Phase} (ran : run c s as = some (t, es))
    (next : step c t a = some (s', new)) :
    (p, call, op) ∈ beginnings c s (as ++ [a]) ↔
      (p, call, op) ∈ beginnings c s as ∨ t.phase = p ∧ a = .begin call op := by
  have more : beginnings c s (as ++ [a]) = beginnings c s as ++ beginning t a new :=
    observe_concat ran next
  rw [more, List.mem_append]
  refine or_congr_right ?_
  cases a <;> simp [beginning, eq_comm]

theorem begun_of_beginning {p : Phase} (h : run c s as = some (s', es))
    (mem : (p, call, op) ∈ beginnings c s as) : .begun call op ∈ es := by
  revert mem
  refine run_induction nofun ?_ h
  intro as t es a t' new ran next ih mem
  rcases (beginnings_concat ran next).1 mem with earlier | ⟨-, begins⟩
  · exact List.mem_append_left _ (ih earlier)
  · exact List.mem_append_right _ ((Transition.of_step next).begun_mem begins)

/-- A direct call that is refused or has nothing to do ends at once, without a word to the
engine. -/
theorem run_unasked {p : Phase} {outcome : Outcome} (h : run c (.initial c) as = some (s, es))
    (distinct : DistinctCalls es) (direct : op.isDirect = true)
    (begun : (p, call, op) ∈ beginnings c (.initial c) as) (unclosed : p ≠ .closed)
    (answer : immediate? (.initial c) op = some outcome) :
    .returned call outcome ∈ es ∧ dialogue (.call call) c (.initial c) as = [] := by
  revert distinct begun
  refine run_induction (fun _ => nofun) ?_ h
  intro as s es a s' new ran next ih distinct begun
  have reached := Reaches.of_run ran
  have t := Transition.of_step next
  rw [dialogue_concat ran next]
  rcases (beginnings_concat ran next).1 begun with earlier | ⟨phase, rfl⟩
  · obtain ⟨ended, silent⟩ := ih distinct.of_append earlier
    have returned : call ∈ endedCalls es := List.mem_filterMap.2 ⟨_, ended, rfl⟩
    rw [silent, t.silent_of_ended reached distinct returned]
    exact ⟨List.mem_append_left _ ended, rfl⟩
  · have answer : immediate? s op = some outcome := by
      rw [← answer]
      exact immediate?_congr direct (phase ▸ unclosed) nofun
    have fresh := not_mem_calls_of_begin next
    obtain ⟨rfl, rfl⟩ : s = s' ∧ new = [.begun call op, .returned call outcome] := by
      simpa [step, fresh, beginCall, answer, eq_comm] using next
    have silent := (run_directs ran distinct.of_append False.elim).1 call
      (distinct.not_mem_begun List.mem_cons_self)
    rw [silent]
    exact ⟨List.mem_append_right _ (by simp), by simp [exchange]⟩

/-- A direct call that neither is refused nor has nothing to do asks the engine. -/
theorem run_asked {p : Phase} (h : run c (.initial c) as = some (s, es))
    (begun : (p, call, op) ∈ beginnings c (.initial c) as) (unclosed : p ≠ .closed)
    (writes : op.Writes c w) (valid : ∀ d ∈ w.declarations, d.missingField = none) :
    dialogue (.call call) c (.initial c) as ≠ [] := by
  revert begun
  refine run_induction nofun ?_ h
  intro as s es a s' new ran next ih begun
  rw [dialogue_concat ran next]
  rcases (beginnings_concat ran next).1 begun with earlier | ⟨phase, rfl⟩
  · exact fun none => ih earlier (List.append_eq_nil_iff.1 none).1
  · have launched := immediate?_of_unclosed writes valid (phase ▸ unclosed)
    have fresh := not_mem_calls_of_begin next
    have asks : new = [.begun call op, .asked (.call call) w] := by
      rcases writes with ⟨d, rfl, rfl⟩ | ⟨ds, -, rfl, rfl⟩ <;>
        simp [step, fresh, beginCall, launched, launch, launchWrite] at next <;> exact next.2.symm
    simp [asks, exchange, List.filterMap_cons]

/-- A direct call that has not ended is underway. -/
theorem Reaches.mem_direct (h : Reaches c (.initial c) s es) (distinct : DistinctCalls es)
    (begun : .begun call op ∈ es) (writes : op.Writes c w) (waits : call ∉ endedCalls es) :
    ∃ v ∈ s.direct, v.call = call ∧ v.write = w := by
  have law := h.calls_perm (.initial c) List.nodup_nil
  have begins : call ∈ begunCalls es := List.mem_filterMap.2 ⟨_, begun, rfl⟩
  have active : call ∈ s.calls :=
    (List.mem_append.1 (law.mem_iff.2 begins)).resolve_right waits
  have other {op' : Operation} (begun' : .begun call op' ∈ es)
      (queued : (Event.begun call op').isDirect = false) : False := by
    obtain rfl := distinct.begun_unique begun begun'
    cases (writes.isDirect call).symm.trans queued
  rcases State.mem_calls.1 active with offered | direct | closing | drains
  · obtain ⟨o, mem, rfl⟩ := List.mem_map.1 offered
    exact (other (h.roles.offers o mem) rfl).elim
  · obtain ⟨v, mem, rfl⟩ := List.mem_map.1 direct
    obtain ⟨op', asked, writes'⟩ := h.roles.direct v mem
    obtain rfl := distinct.begun_unique begun asked
    exact ⟨v, mem, rfl, writes'.unique writes⟩
  · exact (other (h.roles.closing call closing) rfl).elim
  · exact (other (h.roles.drains call drains) rfl).elim

/-- A direct write that was begun before the batcher had closed has been attempted when its call
returns. -/
theorem run_attempted {p : Phase} {outcome : Outcome} (h : run c (.initial c) as = some (s, es))
    (distinct : DistinctCalls es) (begun : (p, call, op) ∈ beginnings c (.initial c) as)
    (unclosed : p ≠ .closed) (writes : op.Writes c w)
    (valid : ∀ d ∈ w.declarations, d.missingField = none) (ended : .returned call outcome ∈ es) :
    ∃ written, Attempted c False w (dialogue (.call call) c (.initial c) as) written ∧
      outcome = directOutcome w written := by
  have asked := run_asked h begun unclosed writes valid
  exact (run_write_returned h distinct nofun (begun_of_beginning h begun) writes valid
    ended).resolve_left fun refused => asked refused.2

/-- Two direct calls for the same, begun before their batchers had closed, that get the same answers
ask the same and return the same. -/
theorem run_determined {bs : List Action} {fs : List Event} {i j : Nat} {p q : Phase}
    {outcome : Outcome} (h : run c (.initial c) as = some (s, es))
    (h' : run c (.initial c) bs = some (t, fs)) (distinct : DistinctCalls es)
    (distinct' : DistinctCalls fs) (direct : op.isDirect = true)
    (begun : (p, i, op) ∈ beginnings c (.initial c) as) (unclosed : p ≠ .closed)
    (begun' : (q, j, op) ∈ beginnings c (.initial c) bs) (unclosed' : q ≠ .closed)
    (same : answers (.call i) c (.initial c) as = answers (.call j) c (.initial c) bs)
    (ended : .returned i outcome ∈ es) (kept : .cancelled j ∉ fs) :
    .returned j outcome ∈ fs ∧
      asks (.call i) c (.initial c) as = asks (.call j) c (.initial c) bs := by
  cases answer : immediate? (.initial c) op with
  | some outcome' =>
    obtain ⟨refused, silent⟩ := run_unasked h distinct direct begun unclosed answer
    obtain ⟨refused', silent'⟩ := run_unasked h' distinct' direct begun' unclosed' answer
    have once := distinct.ended_unique (Reaches.of_run h) ended refused rfl rfl
    obtain rfl := (Event.returned.inj once).2
    exact ⟨refused', by rw [asks, asks, silent, silent']⟩
  | none =>
    obtain ⟨w, writes, valid⟩ := writes_of_immediate?_eq_none (c := c) direct answer
    obtain ⟨written, attempted, rfl⟩ := run_attempted h distinct begun unclosed writes valid ended
    have reached' := Reaches.of_run h'
    have began' := begun_of_beginning h' begun'
    -- the other call has ended, since it has got a last answer
    have gone : j ∈ endedCalls fs := by
      by_contra waits
      obtain ⟨v, mem, rfl, rfl⟩ := reached'.mem_direct distinct' began' writes waits
      have underway := (run_directs h' distinct' False.elim).2 v mem
      exact attempted.not_underway underway same
    obtain ⟨e, mem, ends⟩ := List.mem_filterMap.1 gone
    cases e with
    | returned call outcome' =>
      obtain rfl := Option.some.inj ends
      obtain ⟨written', attempted', rfl⟩ :=
        run_attempted h' distinct' begun' unclosed' writes valid mem
      obtain ⟨rfl, asked⟩ := attempted.determined attempted' same
      exact ⟨mem, asked⟩
    | cancelled call =>
      obtain rfl := Option.some.inj ends
      exact absurd mem kept
    | crashed call =>
      obtain rfl := Option.some.inj ends
      exfalso
      rcases reached'.begun_of_crashed mem with run | close
      · obtain rfl := distinct'.begun_unique began' run
        cases direct
      · obtain rfl := distinct'.begun_unique began' close
        cases direct
    | _ => cases ends

/-- **Direct writes and the queue do not interfere.** Whatever has happened to a batcher: what is
done for a direct write changes nothing of it but the direct writes, takes no batch and asks nothing
for one; and what else can be done, and what comes of it, is the same with and without direct
writes. So a run without its direct writes is a run, too, with the same batches asked for at the
same times and in the same order; and if in two runs the same is done at the same times apart from
direct writes, they lead to the same batcher apart from these, through the same batches at the same
times.

The other way round, two direct calls for the same thing, in two runs that have nothing else in
common, each begun before the batcher has closed: if the engine answers the same to them, and one
of them returns, the other one, unless it is given up, returns the same and asks the engine the
same. -/
theorem paths_do_not_interfere (c : Deployment) :
    (∀ as s es, run c (.initial c) as = some (s, es) →
      (∀ a s' new, step c s a = some (s', new) → a.isDirect s = true →
        s' = { s with direct := s'.direct } ∧ taken new = [] ∧ exchange .flush s a new = []) ∧
      (∀ a, a.isDirect s = false →
        (∀ call op, a = .begin call op → call ∉ s.direct.map Direct.call) →
        step c s.alone a = (step c s a).map Move.alone) ∧
      ∃ fs, run c (.initial c) (withoutDirect c (.initial c) as) = some (s.alone, fs) ∧
        NoDirectWrites fs ∧ taken fs = taken es ∧
        dialogue .flush c (.initial c) (withoutDirect c (.initial c) as) =
          dialogue .flush c (.initial c) as ∧
        departures c (.initial c) (withoutDirect c (.initial c) as) =
          departures c (.initial c) as ∧
        schedule c (.initial c) (withoutDirect c (.initial c) as) = schedule c (.initial c) as ∧
        (Punctual c (.initial c) as →
          Punctual c (.initial c) (withoutDirect c (.initial c) as))) ∧
    ∀ as s es bs t fs, run c (.initial c) as = some (s, es) →
      run c (.initial c) bs = some (t, fs) →
      (schedule c (.initial c) as = schedule c (.initial c) bs →
        s.timeless = t.timeless ∧ taken es = taken fs ∧
          dialogue .flush c (.initial c) as = dialogue .flush c (.initial c) bs ∧
          departures c (.initial c) as = departures c (.initial c) bs) ∧
      (DistinctCalls es → DistinctCalls fs → ∀ i j op p q outcome, op.isDirect = true →
        (p, i, op) ∈ beginnings c (.initial c) as → p ≠ .closed →
        (q, j, op) ∈ beginnings c (.initial c) bs → q ≠ .closed →
        answers (.call i) c (.initial c) as = answers (.call j) c (.initial c) bs →
        .returned i outcome ∈ es → .cancelled j ∉ fs →
          .returned j outcome ∈ fs ∧
            asks (.call i) c (.initial c) as = asks (.call j) c (.initial c) bs) := by
  refine ⟨fun as s es h => ⟨fun a s' new next direct => ?_, fun a => step_alone, ?_⟩,
    fun as s es bs t fs h h' => ⟨fun same => ?_, ?_⟩⟩
  · obtain ⟨none, silent, -⟩ := (Transition.of_step next).unseen direct
    exact ⟨(Reaches.of_run h).touches next direct, none, silent⟩
  · obtain ⟨fs, ran, alone⟩ := run_withoutDirect h
    refine ⟨fs, ran, alone, ?_, (overlooks_exchange c).observe_withoutDirect h,
      (overlooks_departure c).observe_withoutDirect h,
      (overlooks_schedule c).observe_withoutDirect h, punctual_withoutDirect h⟩
    rw [taken_eq_observe ran, taken_eq_observe h, (overlooks_taken c).observe_withoutDirect h]
  · obtain ⟨timeless, took⟩ := (overlooks_taken c).eq_of_schedule h h' same
    refine ⟨timeless, ?_, ((overlooks_exchange c).eq_of_schedule h h' same).2,
      ((overlooks_departure c).eq_of_schedule h h' same).2⟩
    rw [taken_eq_observe h, taken_eq_observe h', took]
  · intro distinct distinct' i j op p q outcome direct begun unclosed begun' unclosed' same ended
      kept
    exact run_determined h h' distinct distinct' direct begun unclosed begun' unclosed' same ended
      kept

/-- A direct write and a flush both fail once and are retried at the same time. Without the direct
write the flush goes on as before; and the same direct write, to a batcher without a worker, asks
and returns the same. -/
theorem paths_do_not_interfere_of_failures :
    let c : Deployment := ⟨⟨1, 100, 1000, 10⟩, .common, by decide⟩
    let d := Declaration.delete "tracks" "" "1"
    let e := Declaration.delete "tracks" "" "2"
    let reset : Written := .error (.reported .connection "reset")
    let done : Written := .ok (.allSucceeded 1)
    let as : List Action :=
      [.begin 0 .run, .start, .begin 1 (.enqueue d), .send 1, .begin 2 (.apply e), .receive,
        .answer (.call 2) reset, .answer .flush reset, .advance 10, .wake (.call 2), .wake .flush,
        .answer .flush done, .answer (.call 2) done]
    let bs : List Action :=
      [.begin 7 (.apply e), .answer (.call 7) reset, .advance 25, .wake (.call 7),
        .answer (.call 7) done]
    ∃ s es t fs gs, run c (.initial c) as = some (s, es) ∧ run c (.initial c) bs = some (t, fs) ∧
      run c (.initial c) (withoutDirect c (.initial c) as) = some (s.alone, gs) ∧
      taken gs = [[d]] ∧ .returned 7 (.ok .ok) ∈ fs ∧
      asks (.call 7) c (.initial c) bs = [.delete e, .delete e] := by
  intro c d e reset done as bs
  have ran : (run c (.initial c) as).map (fun m =>
      decide (DistinctCalls m.2 ∧ .returned 2 (.ok .ok) ∈ m.2 ∧ taken m.2 = [[d]])) =
        some true := by decide +kernel
  have ran' : (run c (.initial c) bs).map (fun m =>
      decide (DistinctCalls m.2 ∧ .cancelled 7 ∉ m.2)) = some true := by decide +kernel
  have begun : (.running, 2, .apply e) ∈ beginnings c (.initial c) as := by decide +kernel
  have begun' : (.running, 7, .apply e) ∈ beginnings c (.initial c) bs := by decide +kernel
  have same : answers (.call 2) c (.initial c) as = answers (.call 7) c (.initial c) bs := by
    decide +kernel
  have asked : asks (.call 2) c (.initial c) as = [.delete e, .delete e] := by decide +kernel
  obtain ⟨⟨s, es⟩, h, facts⟩ := Option.map_eq_some_iff.1 ran
  obtain ⟨⟨t, fs⟩, h', facts'⟩ := Option.map_eq_some_iff.1 ran'
  obtain ⟨distinct, ended, took⟩ := of_decide_eq_true facts
  obtain ⟨distinct', kept⟩ := of_decide_eq_true facts'
  obtain ⟨queue, calls⟩ := paths_do_not_interfere c
  obtain ⟨-, -, gs, alone, -, batches, -⟩ := queue as s es h
  obtain ⟨returned, asks⟩ := (calls as s es bs t fs h h').2 distinct distinct' 2 7 (.apply e)
    .running .running _ rfl begun (by decide) begun' (by decide) same ended kept
  exact ⟨s, es, t, fs, gs, h, h', alone, batches.trans took, returned, asks.symm.trans asked⟩

end CatalogSearch.Batcher
