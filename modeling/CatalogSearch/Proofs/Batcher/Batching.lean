import CatalogSearch.Batcher.Indexer
import CatalogSearch.Proofs.Batcher.Close
import CatalogSearch.Proofs.Batcher.Closed

/-!
# Batching is invisible

When all that was queued is written, the documents are as if each declaration had been applied by
itself, in order. `Indexer.documents_run` says that the documents are those that the flushed batches
make, and `Transition.flushes` that what was taken is flushed or about to be. Where the consumer is
lost, so is what was queued, and batching can be seen (`queuedAlone_of_lost`).
-/

namespace CatalogSearch.Batcher

variable {c : Deployment} {s s' : State} {a : Action} {es new : List Event}

/-! ## Flushed batches -/

/-- The batch that is being flushed, if there is one. -/
def Consumer.underway : Consumer → List (List Declaration)
  | .flushing f => [f.batch]
  | _ => []

@[simp] theorem Resume.underway_consumer (r : Resume) : r.consumer.underway = [] := by
  cases r <;> rfl

/-- A batch that is taken is underway until its flush ends, unless it is forsaken. -/
theorem Transition.flushes (t : Transition c s a s' es) (life : Lifecycle s) :
    s'.Forsaken ∨ s.consumer.underway ++ taken es = flushed es ++ s'.consumer.underway := by
  cases t with
  | crashRun | crashClose | die => exact .inl (.inl rfl)
  | @cancel call =>
    by_cases own : s.consumer.owner? = some (.caller call)
    · rw [cancelCall_of_drains own]
      exact .inl (.inr ⟨rfl, life.ne_closed (by simp [own])⟩)
    · rw [cancelCall_of_ne own]
      exact .inr (by simp [List.filterMap_cons])
  | startRun _ running receiver | closeInline _ running _ receiver =>
    have parked := life.parked running receiver
    exact .inr (by simp [Consumer.underway, List.filterMap_cons, parked])
  | collectFlush _ consumer =>
    rw [consumer, Resume.underway_consumer]
    exact .inr rfl
  | startWorker consumer | desert consumer | idleTick consumer | flushTick consumer
  | signal consumer | shut consumer | drained consumer | flushLast consumer | finishWorker consumer
  | finishCaller consumer | pauseFlush consumer | retryFlush consumer =>
    rw [consumer]
    exact .inr rfl
  | endFlush consumer =>
    rw [consumer, Resume.underway_consumer]
    exact .inr rfl
  | _ => exact .inr (by simp [List.filterMap_cons, markClosed])

theorem Reaches.taken_eq_flushed (h : Reaches c (.initial c) s es) :
    s.Forsaken ∨ taken es = flushed es ++ s.consumer.underway := by
  induction h with
  | start => exact .inr rfl
  | @step s s' _ es new reached next ih =>
    have t := Transition.of_step next
    have life := reached.lifecycle (.initial c)
    rcases ih with lost | kept
    · exact .inl (t.forsaken life lost)
    · refine (t.flushes life).imp_right fun moves => ?_
      simp only [taken, flushed, List.filterMap_append, List.append_assoc] at kept moves ⊢
      rw [kept, List.append_assoc, moves]

/-! ## Documents -/

/-- The answer to a flush that is not given up applies its batch, and nothing else changes the
documents while there are no direct writes. -/
theorem Transition.documentsAfter {x : Indexer} (t : Transition c x.batcher a s' es)
    (alone : x.batcher.direct = []) (kept : NoneGivenUp es) :
    x.documentsAfter a = x.documents.applyAll (flushed es).flatten := by
  cases t with
  | @endFlush f written flushing =>
    cases written with
    | error e => cases kept _ List.mem_cons_self
    | ok => simp [Indexer.documentsAfter, State.inFlight, flushing]
  | endDirect found => simp [State.direct?, alone] at found
  | @collect _ _ after | @collectFlush _ _ after => cases after <;> rfl
  | _ => rfl

theorem Reaches.direct_eq_nil (h : Reaches c (.initial c) s es) (alone : NoDirectWrites es) :
    s.direct = [] := by
  refine List.eq_nil_iff_forall_not_mem.2 fun w mem => ?_
  obtain ⟨op, begun, writes⟩ := h.roles.direct w mem
  cases (writes.isDirect w.call).symm.trans (alone _ begun)

namespace Indexer

variable {x y : Indexer} {docs : Documents}

theorem step_eq_some (h : step c x a = some (y, es)) :
    Batcher.step c x.batcher a = some (y.batcher, es) ∧ y.documents = x.documentsAfter a := by
  obtain ⟨⟨s, es'⟩, next, same⟩ := Option.map_eq_some_iff.1 h
  obtain ⟨rfl, rfl⟩ := Prod.mk.inj same
  exact ⟨next, rfl⟩

/-- While the engine does not answer, the documents stay as they are. -/
theorem run_of_silent {as : List Action} (h : Batcher.run c s as = some (s', es))
    (silent : ∀ who written, .answer who written ∉ as) :
    run c ⟨s, docs⟩ as = some (⟨s', docs⟩, es) := by
  induction as generalizing s es with
  | nil =>
    cases h
    rfl
  | cons a as ih =>
    obtain ⟨t, one, rest, next, ran, rfl⟩ := run_cons.1 h
    have same : documentsAfter ⟨s, docs⟩ a = docs := by
      cases a with
      | answer who written => exact absurd List.mem_cons_self (silent who written)
      | _ => rfl
    have ran := ih ran fun who written mem => silent who written (List.mem_cons_of_mem _ mem)
    simp [run, step, next, same, ran]

/-- What an indexer does its batcher does, and the documents are those that the flushed batches make
as long as no batch is given up and nobody writes directly. -/
theorem documents_run {as : List Action} (h : run c x as = some (y, new))
    (reached : Reaches c (.initial c) x.batcher es) (alone : NoDirectWrites (es ++ new))
    (kept : NoneGivenUp (es ++ new))
    (before : x.documents = docs.applyAll (flushed es).flatten) :
    Reaches c (.initial c) y.batcher (es ++ new) ∧
      y.documents = docs.applyAll (flushed (es ++ new)).flatten := by
  induction as generalizing x es new with
  | nil =>
    cases h
    rw [List.append_nil]
    exact ⟨reached, before⟩
  | cons a as ih =>
    rw [run] at h
    split at h
    · cases h
    · next x' one next =>
      obtain ⟨⟨final, rest⟩, ran, same⟩ := Option.map_eq_some_iff.1 h
      obtain ⟨rfl, rfl⟩ := Prod.mk.inj same
      obtain ⟨next, after⟩ := step_eq_some next
      rw [← List.append_assoc] at alone kept ⊢
      have direct := reached.direct_eq_nil fun e mem =>
        alone e (List.mem_append_left _ (List.mem_append_left _ mem))
      have applied := (Transition.of_step next).documentsAfter direct fun e mem =>
        kept e (List.mem_append_left _ (List.mem_append_right _ mem))
      refine ih ran (reached.step next) alone kept ?_
      rw [after, applied, before, ← Documents.applyAll_append]
      simp only [flushed, List.filterMap_append, List.flatten_append]

end Indexer

/-! ## The end of the first call of close -/

theorem Transition.running (life : Lifecycle s) (h : s.phase = .running)
    (t : Transition c s a s' es) (none : closers es = []) : s'.phase = .running := by
  cases t with
  | closeWorker | closeInline | crashClose | closeUnowned => cases none
  | cancel => simpa using h
  | finishWorker consumer | finishCaller consumer =>
    have busy : s.consumer.owner? ≠ Option.none := by simp [consumer, Consumer.owner?]
    exact absurd h (life.ne_running busy (by rw [consumer]; rfl))
  | joinDied closing | joinUnmade closing =>
    exact absurd h (life.ne_running_of_closing closing)
  | _ => exact h

theorem Reaches.running_of_closers_eq_nil (h : Reaches c (.initial c) s es)
    (none : closers es = []) : s.phase = .running := by
  induction h with
  | start => rfl
  | step reached next ih =>
    rw [closers, List.filterMap_append, List.append_eq_nil_iff] at none
    exact (Transition.of_step next).running (reached.lifecycle (.initial c)) (ih none.1) none.2

/-- When the call that told the batcher to close has returned, the batcher is closed. -/
theorem Reaches.closed_of_first_close (h : Reaches c (.initial c) s es)
    (distinct : DistinctCalls es) {call : Nat} {outcome : Outcome}
    (first : (closers es).head? = some call) (returned : .returned call outcome ∈ es) :
    s.phase = .closed := by
  induction h with
  | start => cases returned
  | @step s s' a es new reached next ih =>
    have t := Transition.of_step next
    have life := reached.lifecycle (.initial c)
    have begun : .begun call .close ∈ es ++ new := mem_closers.1 (List.mem_of_head? first)
    -- the first call of close had begun before, or there was none
    have earlier : (closers es).head? = some call ∨ closers es = [] := by
      rw [closers, List.filterMap_append, List.head?_append] at first
      exact (Option.or_eq_some_iff.1 first).imp_right fun none => List.head?_eq_none_iff.1 none.1
    rcases List.mem_append.1 returned with old | now
    · obtain ⟨op, mem⟩ := reached.begun_of_ended (List.mem_filterMap.2 ⟨_, old, rfl⟩)
      obtain rfl := distinct.begun_unique begun (List.mem_append_left _ mem)
      have first : (closers es).head? = some call := by
        refine earlier.resolve_right fun none => ?_
        have closer := mem_closers.2 mem
        rw [none] at closer
        cases closer
      have closed := ih distinct.of_append first old
      rcases t.follows life with same | ⟨running, -⟩ | ⟨draining, -⟩
      · exact same.trans closed
      · cases closed.symm.trans running
      · cases closed.symm.trans draining
    · rcases t.close_returned life reached.roles distinct begun now with
        ⟨rfl, stopped, -⟩ | ⟨-, closed⟩
      · exfalso
        rcases earlier with before | none
        · have mem := mem_closers.1 (List.mem_of_head? before)
          exact distinct.not_begun_again mem (t.begun_mem rfl)
        · exact stopped (reached.running_of_closers_eq_nil none)
      · exact closed

/-! ## One producer -/

theorem mem_offered {o : Offer} : o ∈ offered es ↔ .begun o.call (.enqueue o.declaration) ∈ es := by
  rw [offered, List.mem_filterMap]
  constructor
  · rintro ⟨e, mem, reads⟩
    cases e with
    | begun call op =>
      cases op with
      | enqueue d =>
        obtain rfl := Option.some.inj reads
        exact mem
      | _ => cases reads
    | _ => cases reads
  · intro mem
    exact ⟨_, mem, rfl⟩

theorem map_call_offered_sublist (es : List Event) :
    ((offered es).map Offer.call).Sublist (begunCalls es) := by
  induction es with
  | nil => exact .slnil
  | cons e es ih =>
    cases e with
    | begun call op =>
      cases op with
      | enqueue d => exact ih.cons_cons call
      | _ => exact ih.cons call
    | _ => exact ih

theorem DistinctCalls.nodup_offered (h : DistinctCalls es) : (offered es).Nodup :=
  List.Nodup.of_map Offer.call (h.sublist (map_call_offered_sublist es))

/-- Who offers one declaration offers it in turn. -/
theorem InTurn.of_first {producer : Nat → Nat} {e : Event} (only : offered es = []) :
    InTurn producer (e :: es) := by
  intro i _ o mem o' mem'
  cases i with
  | zero => cases mem'
  | succ i =>
    obtain ⟨e', there, reads⟩ := Option.bind_eq_some_iff.1 mem
    have mem : o ∈ offered es := List.mem_filterMap.2 ⟨e', List.mem_of_getElem? there, reads⟩
    rw [only] at mem
    cases mem

/-- What one producer offers in turn has entered the queue in this order, if none of it failed. -/
theorem Reaches.accepted_eq_offered (h : Reaches c (.initial c) s es) (distinct : DistinctCalls es)
    (turn : InTurn (fun _ => 0) es) (enqueued : ∀ o ∈ offered es, .returned o.call (.ok .ok) ∈ es) :
    accepted es = offered es := by
  have order := (h.inTurn distinct turn 0).2
  simp only [decide_true, List.filter_true] at order
  have sub : (accepted es).Sublist (offered es) := (List.sublist_append_left _ _).trans order
  have all : offered es ⊆ accepted es := fun o mem =>
    h.returned_accepted distinct (mem_offered.1 mem) (enqueued o mem)
  exact sub.eq_of_length_le (List.subperm_of_subset distinct.nodup_offered all).length_le

/-! ## One declaration at a time -/

theorem directOutcome_single (d : Declaration) (summary : Summary) :
    directOutcome (.single d) (.ok summary) = .ok .ok := by
  unfold Write.single
  split <;> rfl

namespace Indexer

/-- Applying a declaration at once, without a failure, leaves an idle batcher as it was. -/
theorem run_apply {docs : Documents} {d : Declaration} (unclosed : s.phase ≠ .closed)
    (idle : s.calls = []) (valid : d.missingField = none) (call : Nat) (summary : Summary)
    (as : List Action) :
    run c ⟨s, docs⟩ (.begin call (.apply d) :: .answer (.call call) (.ok summary) :: as) =
      (run c ⟨s, docs.apply d⟩ as).map fun m =>
        (m.1, .begun call (.apply d) :: .asked (.call call) (.single d) ::
          .returned call (.ok .ok) :: m.2) := by
  have none : s.direct = [] := by
    simp only [State.calls, List.append_eq_nil_iff, List.map_eq_nil_iff] at idle
    exact idle.1.1.2
  have launched := immediate?_apply.2 ⟨unclosed, valid⟩
  have begins : Batcher.step c s (.begin call (.apply d)) =
      some ({ s with direct := [⟨call, .single d, .first⟩] },
        [.begun call (.apply d), .asked (.call call) (.single d)]) := by
    simp [Batcher.step, idle, beginCall, launched, launch, launchWrite, none]
  have answers : Batcher.step c { s with direct := [⟨call, .single d, .first⟩] }
      (.answer (.call call) (.ok summary)) = some (s, [.returned call (.ok .ok)]) := by
    simp [Batcher.step, State.direct?, Attempt.awaits, answerDirect, Attempt.after,
      directOutcome_single]
    rw [← none]
  simp [run, step, begins, answers, documentsAfter, State.inFlight, State.direct?,
    Documents.applyAll, Function.comp_def]

theorem run_applyEach {docs : Documents} {ds : List Declaration} (unclosed : s.phase ≠ .closed)
    (idle : s.calls = []) (valid : ∀ d ∈ ds, d.missingField = none) (call : Nat) :
    ∃ es, run c ⟨s, docs⟩ (applyEach call ds) = some (⟨s, docs.applyAll ds⟩, es) ∧
      ∀ i < ds.length, .returned (call + i) (.ok .ok) ∈ es := by
  induction ds generalizing docs call with
  | nil => exact ⟨[], rfl, nofun⟩
  | cons d ds ih =>
    obtain ⟨first, rest⟩ := List.forall_mem_cons.1 valid
    obtain ⟨es, ran, done⟩ := ih rest (call + 1)
    rw [applyEach, run_apply unclosed idle first, ran]
    refine ⟨_, rfl, fun i less => ?_⟩
    cases i with
    | zero => simp
    | succ i =>
      have returned := done i (Nat.lt_of_succ_lt_succ less)
      rw [show call + (i + 1) = call + 1 + i by omega]
      simp [returned]

end Indexer

/-! ## Batching -/

/-- Where nothing is lost, the documents are those that the queued declarations make, one after the
other. -/
theorem Reaches.flushed_of_queuedAlone (h : Reaches c (.initial c) s es) (works : c.Works)
    {ds : List Declaration} (schedule : QueuedAlone ds es) : (flushed es).flatten = ds := by
  obtain ⟨call, outcome, first, returned⟩ := schedule.closed
  have closed := h.closed_of_first_close schedule.distinct first returned
  have life := h.lifecycle (.initial c)
  have ended := h.ended_of_works works closed
  have safe := State.not_forsaken_of_closed ended closed
  have conserved := h.conserved.resolve_left safe
  obtain ⟨buffer, items⟩ := (h.stocked (.initial c) (.initial c)).empty_of_closed life closed
  have flushes := h.taken_eq_flushed.resolve_left safe
  rw [ended] at flushes
  have batches : taken es = flushed es := flushes.trans (List.append_nil _)
  calc (flushed es).flatten = (taken es).flatten := by rw [batches]
    _ = (accepted es).map Offer.declaration := by
      rw [Conserved, buffer, items, List.append_nil, List.append_nil] at conserved
      exact conserved.symm
    _ = (offered es).map Offer.declaration := by
      rw [h.accepted_eq_offered schedule.distinct schedule.turn schedule.enqueued]
    _ = ds := schedule.queued

/-- What is seen of a batcher that loses the only declaration that is queued is such a schedule. -/
theorem queuedAlone_of_lost {d : Declaration} (valid : d.missingField = none)
    {started : List Event} {outcome : Outcome}
    (starts : started = [.crashed 1] ∨ started = [.started, .returned 1 (.ok .ok)]) :
    QueuedAlone [d] ([.begun 0 (.enqueue d), .accepted ⟨0, d⟩, .returned 0 (.ok .ok),
      .begun 1 .run] ++ started ++ [.begun 2 .close, .returned 2 outcome]) where
  distinct := by
    have calls : [0, 1, 2].Nodup := by decide
    rcases starts with rfl | rfl <;> exact calls
  valid := List.forall_mem_singleton.2 valid
  queued := by rcases starts with rfl | rfl <;> rfl
  turn := by rcases starts with rfl | rfl <;> exact .of_first rfl
  enqueued := by rcases starts with rfl | rfl <;> simp
  closed := ⟨2, outcome, by rcases starts with rfl | rfl <;> rfl, by simp⟩
  alone := by rcases starts with rfl | rfl <;> simp [NoDirectWrites, Event.isDirect]
  kept := by rcases starts with rfl | rfl <;> simp [NoneGivenUp, Event.isGivenUp]

/-- **Batching is invisible exactly where the machine has what is asked for.** One producer queues
declarations in turn, each of them without an error, and the call that tells the batcher to close
ends. Nobody writes directly, and no batch is given up. However the steps are mixed, the documents
are then those that applying the declarations at once, one after the other and without failures,
makes of the same documents: this holds of all such runs if and only if the machine has what the
configuration asks for. -/
theorem batching_invisible_iff (c : Deployment) :
    (∀ as x es docs ds, Indexer.run c (.start c docs) as = some (x, es) → QueuedAlone ds es →
      ∃ y fs, Indexer.run c (.start c docs) (applyEach 0 ds) = some (y, fs) ∧
        (∀ i < ds.length, .returned i (.ok .ok) ∈ fs) ∧ x.documents = y.documents) ↔
      c.Works := by
  have unclosed : (State.initial c).phase ≠ .closed := by
    intro closed
    cases closed
  constructor
  · intro invisible
    by_contra lost
    let d := Declaration.upsert "tracks" "" "1" (.ofList [("title", .str "Intro")])
    obtain ⟨as, s, started, outcome, ran, starts, silent, -⟩ := run_lost lost (d := d) rfl
    obtain ⟨y, fs, applied, -, same⟩ := invisible as ⟨s, []⟩ _ [] [d]
      (Indexer.run_of_silent ran silent) (queuedAlone_of_lost rfl starts)
    obtain ⟨fs', applied', -⟩ := @Indexer.run_applyEach c _ [] [d] unclosed rfl (by decide) 0
    cases applied.symm.trans applied'
    have nothing : ([] : Documents) = Documents.applyAll [] [d] := same
    revert nothing
    decide +kernel
  · intro works as x es docs ds h schedule
    obtain ⟨reached, documents⟩ := Indexer.documents_run h .start schedule.alone schedule.kept rfl
    simp only [List.nil_append] at reached documents
    obtain ⟨fs, ran, done⟩ := Indexer.run_applyEach unclosed rfl schedule.valid 0
    refine ⟨_, fs, ran, fun i less => ?_, ?_⟩
    · rw [← Nat.zero_add i]
      exact done i less
    · rw [documents, reached.flushed_of_queuedAlone works schedule]
      rfl

/-- With more declarations in a batch than there can be room for, a document that was queued before
the worker was started is not there after the batcher has closed; it is there when it is written at
once. -/
theorem batching_visible_of_large_batch :
    let c : Deployment := ⟨⟨0x1000000000000000, 10000, 300000, 1000⟩, .common, by decide⟩
    let d := Declaration.upsert "tracks" "" "1" (.ofList [("title", .str "Intro")])
    let as : List Action :=
      [.begin 0 (.enqueue d), .send 0, .begin 1 .run, .begin 2 .close, .join]
    ∃ x es y fs, Indexer.run c (.start c []) as = some (x, es) ∧ QueuedAlone [d] es ∧
      Indexer.run c (.start c []) (applyEach 0 [d]) = some (y, fs) ∧
      x.documents = [] ∧ y.documents ≠ [] := by
  intro c d as
  have ran : ((Indexer.run c (.start c []) as).bind fun m =>
      (Indexer.run c (.start c []) (applyEach 0 [d])).map fun n =>
        decide (DistinctCalls m.2 ∧ (offered m.2).map Offer.declaration = [d] ∧
          InTurn (fun _ => 0) m.2 ∧ (∀ o ∈ offered m.2, .returned o.call (.ok .ok) ∈ m.2) ∧
          (closers m.2).head? = some 2 ∧ .returned 2 (.ok .ok) ∈ m.2 ∧ NoDirectWrites m.2 ∧
          NoneGivenUp m.2 ∧ m.1.documents = [] ∧ n.1.documents ≠ [])) = some true := by
    decide +kernel
  obtain ⟨⟨x, es⟩, h, ran⟩ := Option.bind_eq_some_iff.1 ran
  obtain ⟨⟨y, fs⟩, applied, facts⟩ := Option.map_eq_some_iff.1 ran
  obtain ⟨distinct, queued, turn, enqueued, first, closed, alone, kept, none, some⟩ :=
    of_decide_eq_true facts
  exact ⟨x, es, y, fs, h,
    ⟨distinct, by decide, queued, turn, enqueued, ⟨2, _, first, closed⟩, alone, kept⟩,
    applied, none, some⟩

/-- Three declarations, the first two of which are flushed as a batch whose first attempt fails; the
third one is flushed when the batcher is closed. -/
theorem batching_invisible_of_failed_attempt :
    let c : Deployment := ⟨⟨2, 100, 100, 10⟩, .common, by decide⟩
    let upsert (title : String) :=
      Declaration.upsert "tracks" "" "1" (.ofList [("title", .str title)])
    let ds := [upsert "Intro", upsert "Outro", .delete "tracks" "" "2"]
    let offer (call : Nat) (d : Declaration) : List Action := [.begin call (.enqueue d), .send call]
    let as : List Action :=
      offer 0 (upsert "Intro") ++ [.begin 1 .run, .start, .receive] ++ offer 2 (upsert "Outro") ++
        [.receive, .answer .flush (.error (.reported .connection "reset")), .advance 10,
          .wake .flush] ++
        offer 3 (.delete "tracks" "" "2") ++
        [.answer .flush (.ok (.allSucceeded 2)), .begin 4 .close, .signal, .shut, .drain, .drain,
          .answer .flush (.ok (.allSucceeded 1)), .finish, .join]
    let docs : Documents := [(⟨"tracks", "2"⟩, .ofList [("title", .str "Interlude")])]
    ∃ x es y fs, Indexer.run c (.start c docs) as = some (x, es) ∧
      Indexer.run c (.start c docs) (applyEach 0 ds) = some (y, fs) ∧
      x.documents = y.documents := by
  intro c upsert ds offer as docs
  have ran : (Indexer.run c (.start c docs) as).map (fun m : Indexer × List Event =>
      decide (DistinctCalls m.2 ∧ (offered m.2).map Offer.declaration = ds ∧
        InTurn (fun _ => 0) m.2 ∧ (∀ o ∈ offered m.2, .returned o.call (.ok .ok) ∈ m.2) ∧
        (closers m.2).head? = some 4 ∧ .returned 4 (.ok .ok) ∈ m.2 ∧ NoDirectWrites m.2 ∧
        NoneGivenUp m.2)) = some true := by decide +kernel
  have valid : ∀ d ∈ ds, d.missingField = none := by decide
  obtain ⟨⟨x, es⟩, h, facts⟩ := Option.map_eq_some_iff.1 ran
  obtain ⟨distinct, queued, turn, enqueued, first, closed, alone, kept⟩ := of_decide_eq_true facts
  obtain ⟨y, fs, applied, -, same⟩ := (batching_invisible_iff c).2 (by decide) as x es docs ds h
    ⟨distinct, valid, queued, turn, enqueued, ⟨4, _, first, closed⟩, alone, kept⟩
  exact ⟨x, es, y, fs, h, applied, same⟩

end CatalogSearch.Batcher
