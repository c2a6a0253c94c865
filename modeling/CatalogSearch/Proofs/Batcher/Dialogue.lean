import CatalogSearch.Proofs.Batcher.Attempts

/-!
# What is said to the engine

The dialogue of a direct call with the engine is that of one write (`run_directs`,
`run_write_returned`). The dialogue of the consumer is that of one write after the other, each of
which carries the batch that a flush has taken (`run_flushes`); when the last answer has come, it
makes no difference to the consumer whether it was a success (`Transition.flush_ends`).
-/

namespace CatalogSearch.Batcher

variable {c : Deployment} {s s' : State} {a : Action} {as : List Action} {es new : List Event}

/-- On a virtual clock second attempts are not late. -/
theorem run_onTime (h : run c (.initial c) as = some (s, es)) :
    Punctual c (.initial c) as → ∀ time ∈ wakes s, s.now ≤ time := by
  refine run_induction ?_ ?_ h
  · exact fun _ => nofun
  · intro as s es a s' new ran next before punctual
    have reached := Reaches.of_run ran
    have life := reached.lifecycle (.initial c)
    obtain ⟨-, nodup⟩ := State.nodup_parts (reached.calls_nodup (.initial c) List.nodup_nil)
    obtain ⟨earlier, now⟩ := (punctual_concat ran next).1 punctual
    exact (Transition.of_step next).onTime life nodup now (before earlier)

/-! ## Direct calls -/

section Direct

variable {punctual : Prop}

/-- A call asks the engine for one write. -/
theorem Operation.Writes.unique {op : Operation} {w w' : Write} (h : op.Writes c w)
    (h' : op.Writes c w') : w = w' := by
  rcases h with ⟨d, rfl, rfl⟩ | ⟨ds, -, rfl, rfl⟩
  · rcases h' with ⟨d', same, rfl⟩ | ⟨ds', -, other, -⟩
    · cases same
      rfl
    · cases other
  · rcases h' with ⟨d', other, -⟩ | ⟨ds', -, same, rfl⟩
    · cases other
    · cases same
      rfl

/-- A direct write of valid declarations does not end at once if the batcher is not closed. -/
theorem immediate?_of_unclosed {op : Operation} {w : Write} (writes : op.Writes c w)
    (valid : ∀ d ∈ w.declarations, d.missingField = none) (unclosed : s.phase ≠ .closed) :
    immediate? s op = none := by
  rcases writes with ⟨d, rfl, rfl⟩ | ⟨ds, nonempty, rfl, rfl⟩
  · have valid : d.missingField = none := valid d (by simp)
    exact immediate?_apply.2 ⟨unclosed, valid⟩
  · exact immediate?_applyBatch.2 ⟨unclosed, nonempty, valid⟩

/-- A direct write of valid declarations ends at once only if the batcher is closed. -/
theorem immediate?_of_writes {op : Operation} {w : Write} {outcome : Outcome}
    (writes : op.Writes c w) (valid : ∀ d ∈ w.declarations, d.missingField = none)
    (answer : immediate? s op = some outcome) : outcome = .error .closed := by
  by_cases closed : s.phase = .closed
  · rcases writes with ⟨d, rfl, -⟩ | ⟨ds, -, rfl, -⟩ <;> simp_all [immediate?]
  · rw [immediate?_of_unclosed writes valid closed] at answer
    cases answer

/-- A direct write that ends does so at once, or with the last answer of the engine. -/
theorem Transition.direct_returned (t : Transition c s a s' new) (roles : Roles c s es)
    (distinct : DistinctCalls (es ++ new)) {call : Nat} {op : Operation} {w : Write}
    {outcome : Outcome} (begun : .begun call op ∈ es ++ new) (writes : op.Writes c w)
    (ended : .returned call outcome ∈ new) :
    (call ∈ begunCalls new ∧ immediate? s op = some outcome ∧ exchange (.call call) s a new = []) ∨
      ∃ v written, s.direct? call = some v ∧ v.call = call ∧ v.write = w ∧
        a = .answer (.call call) written ∧ outcome = directOutcome w written ∧
        Goes c s.now w v.attempt (exchange (.call call) s a new) (.inr written) := by
  cases t with
  | @immediate call' op' outcome' _ answer =>
    obtain ⟨rfl, rfl⟩ : call = call' ∧ outcome = outcome' := by simpa using ended
    obtain rfl := distinct.begun_unique begun (List.mem_append_right _ List.mem_cons_self)
    exact .inl ⟨List.mem_cons_self, answer, by simp [exchange]⟩
  | @startRun call' =>
    obtain ⟨rfl, -⟩ : call = call' ∧ _ := by simpa using ended
    have same := distinct.begun_unique begun (List.mem_append_right _ List.mem_cons_self)
    rw [same] at writes
    cases writes.isDirect call
  | @enter o mem | @refuse o mem =>
    obtain ⟨rfl, -⟩ : call = o.call ∧ _ := by simpa using ended
    have same := distinct.begun_unique begun (List.mem_append_left _ (roles.offers o mem))
    rw [same] at writes
    cases writes.isDirect o.call
  | @finishCaller call' finishing =>
    obtain ⟨rfl, -⟩ : call = call' ∧ _ := by simpa using ended
    have close := roles.drains call (by rw [finishing]; rfl)
    have same := distinct.begun_unique begun (List.mem_append_left _ close)
    rw [same] at writes
    cases writes.isDirect call
  | @joinEnded call' closing | @joinDied call' closing | @joinUnmade call' closing =>
    obtain ⟨rfl, -⟩ : call = call' ∧ _ := by simpa using ended
    have close := roles.closing call closing
    have same := distinct.begun_unique begun (List.mem_append_left _ close)
    rw [same] at writes
    cases writes.isDirect call
  | @endDirect v written found awaits last =>
    obtain ⟨rfl, rfl⟩ : call = v.call ∧ outcome = directOutcome v.write written := by
      simpa using ended
    have mem := List.mem_of_find?_eq_some found
    obtain ⟨op', direct, writes'⟩ := roles.direct v mem
    obtain rfl := distinct.begun_unique begun (List.mem_append_left _ direct)
    obtain rfl := writes.unique writes'
    refine .inr ⟨v, written, found, rfl, rfl, rfl, rfl, ?_⟩
    simpa [exchange, List.filterMap_cons] using
      Goes.ends awaits last
  | _ => simp at ended

/-- A direct write of valid declarations that ends has found the batcher closed, or has got its last
answer. -/
theorem Transition.write_returned (t : Transition c s a s' new) (roles : Roles c s es)
    (distinct : DistinctCalls (es ++ new)) {call : Nat} {op : Operation} {w : Write}
    {outcome : Outcome} (begun : .begun call op ∈ es ++ new) (writes : op.Writes c w)
    (valid : ∀ d ∈ w.declarations, d.missingField = none) (ended : .returned call outcome ∈ new) :
    (call ∈ begunCalls new ∧ outcome = .error .closed ∧ exchange (.call call) s a new = []) ∨
      ∃ v ∈ s.direct, v.call = call ∧ v.write = w ∧ ∃ written,
        Goes c s.now w v.attempt (exchange (.call call) s a new) (.inr written) ∧
          outcome = directOutcome w written := by
  rcases t.direct_returned roles distinct begun writes ended with
    ⟨starts, answer, silent⟩ | ⟨v, written, found, same, write, -, got, goes⟩
  · exact .inl ⟨starts, immediate?_of_writes writes valid answer, silent⟩
  · exact .inr ⟨v, List.mem_of_find?_eq_some found, same, write, written, goes, got⟩

theorem DistinctCalls.not_mem_begun (h : DistinctCalls (es ++ new)) {call : Nat}
    (mem : call ∈ begunCalls new) : call ∉ begunCalls es := by
  unfold DistinctCalls begunCalls at h
  rw [List.filterMap_append] at h
  intro old
  exact (List.nodup_append.1 h).2.2 call old call mem rfl

/-- The call of a direct write has begun. -/
theorem Roles.mem_begun (h : Roles c s es) {w : Direct} (mem : w ∈ s.direct) :
    w.call ∈ begunCalls es := by
  obtain ⟨op, begun, -⟩ := h.direct w mem
  exact List.mem_filterMap.2 ⟨_, begun, rfl⟩

/-- A call that has ended says nothing more: it is not under way and does not begin again. -/
theorem Transition.silent_of_ended (t : Transition c s a s' new)
    (reached : Reaches c (.initial c) s es) (distinct : DistinctCalls (es ++ new)) {call : Nat}
    (ended : call ∈ endedCalls es) : exchange (.call call) s a new = [] := by
  obtain ⟨-, nodup⟩ := State.nodup_parts (reached.calls_nodup (.initial c) List.nodup_nil)
  rcases t.directs nodup call with ⟨none, -⟩ | ⟨again, -⟩ | ⟨v, mem, rfl, -⟩
  · exact none
  · obtain ⟨op, earlier⟩ := reached.begun_of_ended ended
    have began : call ∈ begunCalls es := List.mem_filterMap.2 ⟨_, earlier, rfl⟩
    exact absurd began (distinct.not_mem_begun again)
  · have active : v.call ∈ s.calls := State.mem_calls.2 (.inr (.inl (List.mem_map_of_mem mem)))
    exact absurd ended (distinct.of_append.not_mem_ended reached active)

/-- A call that has not begun has said nothing to the engine, and a direct call has said what its
write needed so far. -/
theorem run_directs (h : run c (.initial c) as = some (s, es)) (distinct : DistinctCalls es)
    (onTime : punctual → Punctual c (.initial c) as) :
    (∀ call, call ∉ begunCalls es → dialogue (.call call) c (.initial c) as = []) ∧
      ∀ w ∈ s.direct, Underway c punctual w.write w.attempt
        (dialogue (.call w.call) c (.initial c) as) := by
  revert distinct onTime
  refine run_induction ?_ ?_ h
  · exact fun _ _ => ⟨fun _ _ => rfl, nofun⟩
  · intro as s es a s' new ran next before distinct onTime
    have reached := Reaches.of_run ran
    have t := Transition.of_step next
    obtain ⟨-, nodup⟩ := State.nodup_parts (reached.calls_nodup (.initial c) List.nodup_nil)
    have early : punctual → Punctual c (.initial c) as := fun p =>
      ((punctual_concat ran next).1 (onTime p)).1
    obtain ⟨silent, said⟩ := before distinct.of_append early
    refine ⟨fun call fresh => ?_, fun v mem => ?_⟩
    · rw [begunCalls, List.filterMap_append, List.mem_append, not_or] at fresh
      rcases t.directs nodup call with ⟨none, -⟩ | ⟨begun, -⟩ | ⟨w, mem, rfl, -⟩
      · rw [dialogue_concat ran next, silent call fresh.1, none]
        rfl
      · exact absurd begun fresh.2
      · exact absurd (reached.roles.mem_begun mem) fresh.1
    · rw [dialogue_concat ran next]
      rcases t.directs nodup v.call with ⟨none, kept⟩ | ⟨begun, -, write, asks, first⟩ |
        ⟨w, old, same, next, goes, on⟩
      · rw [none, List.append_nil]
        exact said v (kept v mem rfl)
      · rw [silent v.call (distinct.not_mem_begun begun), asks, first v mem rfl]
        exact .first
      · obtain ⟨attempt, rfl, rfl⟩ := on v mem rfl
        refine (said w old).goOn goes fun p wake pausing => ?_
        exact run_onTime ran (early p) wake (mem_wakes.2 (.inr ⟨w, old, pausing⟩))

/-- A direct write that has ended was refused because the batcher was closed, without a word to the
engine, or it was attempted and its call got the last answer. -/
theorem run_write_returned (h : run c (.initial c) as = some (s, es)) (distinct : DistinctCalls es)
    (onTime : punctual → Punctual c (.initial c) as) {call : Nat} {op : Operation} {w : Write}
    {outcome : Outcome} (begun : .begun call op ∈ es) (writes : op.Writes c w)
    (valid : ∀ d ∈ w.declarations, d.missingField = none) (ended : .returned call outcome ∈ es) :
    outcome = .error .closed ∧ dialogue (.call call) c (.initial c) as = [] ∨
      ∃ written, Attempted c punctual w (dialogue (.call call) c (.initial c) as) written ∧
        outcome = directOutcome w written := by
  revert distinct onTime begun ended
  refine run_induction ?_ ?_ h
  · exact fun _ _ => nofun
  · intro as s es a s' new ran next before distinct onTime begun ended
    have reached := Reaches.of_run ran
    have t := Transition.of_step next
    have early : punctual → Punctual c (.initial c) as := fun p =>
      ((punctual_concat ran next).1 (onTime p)).1
    obtain ⟨silent, said⟩ := run_directs ran distinct.of_append early
    rw [dialogue_concat ran next]
    rcases List.mem_append.1 ended with old | now
    · have returned : call ∈ endedCalls es := List.mem_filterMap.2 ⟨_, old, rfl⟩
      obtain ⟨op', earlier⟩ := reached.begun_of_ended returned
      obtain rfl := distinct.begun_unique begun (List.mem_append_left _ earlier)
      rw [t.silent_of_ended reached distinct returned, List.append_nil]
      exact before distinct.of_append early earlier old
    · rcases t.write_returned reached.roles distinct begun writes valid now with
        ⟨starts, closed, none⟩ | ⟨v, mem, rfl, rfl, written, goes, got⟩
      · left
        rw [none, silent call (distinct.not_mem_begun starts)]
        exact ⟨closed, rfl⟩
      · exact .inr ⟨written, (said v mem).attempted goes, got⟩

end Direct

/-! ## Flushes -/

section Flushes

variable {punctual : Prop} {rest : List Exchange} {unended : List (List Declaration)}

/-- What was said about the batch whose flush has not ended, if there is one: it is underway, or it
was given up with the call that drained the queue. -/
inductive Unended (c : Deployment) (punctual : Prop) (k : Consumer) :
    List Exchange → List (List Declaration) → Prop
  | none (idle : ∀ f, k ≠ .flushing f) : Unended c punctual k [] []
  | flushing {f : Flush} {rest : List Exchange} (on : k = .flushing f)
      (said : Underway c punctual (.bulk f.batch c.flushTimeout) f.attempt rest) :
      Unended c punctual k rest [f.batch]
  | abandoned {batch : List Declaration} {attempt : Attempt} {rest : List Exchange}
      (gone : k = .ended) (said : Underway c punctual (.bulk batch c.flushTimeout) attempt rest) :
      Unended c punctual k rest [batch]

/-- The batches whose flush has ended were attempted, each with the last answer that it got. -/
abbrev FlushesAttempted (c : Deployment) (punctual : Prop) :
    List (List Declaration × Written) → List (List Exchange) → Prop :=
  List.Forall₂ fun f part => Attempted c punctual (.bulk f.1 c.flushTimeout) part f.2

/-- In a step the consumer goes on with the batch that it flushes, or takes another one when it has
none. -/
theorem Unended.step (h : Unended c punctual s.consumer rest unended)
    (t : Transition c s a s' new) (life : Lifecycle s)
    (onTime : punctual → ∀ time ∈ wakes s, s.now ≤ time) :
    ∃ parts rest' unended', rest ++ exchange .flush s a new = parts.flatten ++ rest' ∧
      FlushesAttempted c punctual (flushResults new) parts ∧
      unended ++ taken new = (flushResults new).map Prod.fst ++ unended' ∧
      Unended c punctual s'.consumer rest' unended' := by
  cases h with
  | none idle =>
    obtain ⟨none, ⟨stillIdle, silent, nothing⟩ | ⟨batch, resume, first, asks, takes⟩⟩ :=
      t.takes idle
    · rw [none, silent, nothing]
      exact ⟨[], [], [], rfl, .nil, rfl, .none stillIdle⟩
    · rw [none, asks, takes]
      exact ⟨[], _, [batch], rfl, .nil, rfl, .flushing first .first⟩
  | @flushing f _ on said =>
    obtain ⟨nothing, ⟨same | gone, silent, none⟩ | ⟨next, goes, attempt | ends⟩⟩ :=
      t.flushing_goes life on
    · rw [nothing, silent, none, List.append_nil]
      exact ⟨[], rest, _, rfl, .nil, rfl, .flushing same said⟩
    · rw [nothing, silent, none, List.append_nil]
      exact ⟨[], rest, _, rfl, .nil, rfl, .abandoned gone said⟩
    · obtain ⟨attempt, rfl, goesOn, none⟩ := attempt
      rw [nothing, none]
      have said : Underway c punctual _ attempt _ := said.goOn goes fun p wake pausing =>
        onTime p wake (mem_wakes.2 (.inl ⟨f, on, pausing⟩))
      exact ⟨[], _, [f.batch], rfl, .nil, rfl, .flushing (f := { f with attempt }) goesOn said⟩
    · obtain ⟨written, rfl, rfl, one⟩ := ends
      rw [nothing, one]
      refine ⟨[rest ++ exchange .flush s a new], [], [], ?_, ?_, rfl, .none fun f' => ?_⟩
      · simp
      · exact .cons (said.attempted goes) .nil
      · cases resume : f.resume <;> exact nofun
  | abandoned ended said =>
    have gone := (t.consumer_eq life (by rw [ended]; rfl)).trans ended
    have idle : ∀ f, s.consumer ≠ .flushing f := fun f on => by cases ended.symm.trans on
    obtain ⟨none, ⟨-, silent, nothing⟩ | ⟨batch, resume, first, -⟩⟩ := t.takes idle
    · rw [none, silent, nothing, List.append_nil]
      exact ⟨[], rest, _, rfl, .nil, rfl, .abandoned gone said⟩
    · cases gone.symm.trans first

/-- What the consumer has said to the engine is what was said about the batches whose flush has
ended, one after the other, and then about the one whose flush has not. -/
theorem run_flushes (h : run c (.initial c) as = some (s, es))
    (onTime : punctual → Punctual c (.initial c) as) :
    ∃ parts rest unended, dialogue .flush c (.initial c) as = parts.flatten ++ rest ∧
      FlushesAttempted c punctual (flushResults es) parts ∧
      taken es = (flushResults es).map Prod.fst ++ unended ∧
      Unended c punctual s.consumer rest unended := by
  revert onTime
  refine run_induction ?_ ?_ h
  · exact fun _ => ⟨[], [], [], rfl, .nil, rfl, .none nofun⟩
  · intro as s es a s' new ran next before onTime
    have reached := Reaches.of_run ran
    have early : punctual → Punctual c (.initial c) as := fun p =>
      ((punctual_concat ran next).1 (onTime p)).1
    obtain ⟨parts, rest, unended, said, attempted, took, stage⟩ := before early
    obtain ⟨parts', rest', unended', said', attempted', took', stage'⟩ :=
      stage.step (Transition.of_step next) (reached.lifecycle (.initial c)) fun p =>
        run_onTime ran (early p)
    have ended : flushResults (es ++ new) = flushResults es ++ flushResults new :=
      List.filterMap_append
    refine ⟨parts ++ parts', rest', unended', ?_, ?_, ?_, stage'⟩
    · calc dialogue .flush c (.initial c) (as ++ [a])
        _ = dialogue .flush c (.initial c) as ++ exchange .flush s a new := dialogue_concat ran next
        _ = parts.flatten ++ (rest ++ exchange .flush s a new) := by rw [said, List.append_assoc]
        _ = (parts ++ parts').flatten ++ rest' := by
          rw [said', List.flatten_append, List.append_assoc]
    · rw [ended]
      exact List.rel_append attempted attempted'
    · calc taken (es ++ new)
        _ = taken es ++ taken new := List.filterMap_append
        _ = (flushResults es).map Prod.fst ++ (unended ++ taken new) := by
          rw [took, List.append_assoc]
        _ = (flushResults (es ++ new)).map Prod.fst ++ unended' := by
          rw [took', ended, List.map_append, List.append_assoc]

end Flushes

end CatalogSearch.Batcher
