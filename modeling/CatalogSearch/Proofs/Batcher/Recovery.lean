import CatalogSearch.Batcher.Indexer
import CatalogSearch.Proofs.Batcher.Attempts
import CatalogSearch.Proofs.Batcher.Conservation
import CatalogSearch.Proofs.Engine.Replay

/-!
# Attempts that fail halfway

An engine that spills has applied some of a write when the first attempt fails. The second attempt
applies all of it, so that the documents are then as if the first one had changed nothing.

In between the documents differ, but not by anything that what is being retried would not set right,
whatever else is written before (`Documents.AgreeAfter`). `Transition.retried` says how the
declarations that are being retried come and go, and `Indexer.spillRun_agrees` that the documents
agree after them.
-/

namespace CatalogSearch.Batcher

variable {c : Deployment} {s s' : State} {a : Action} {es new : List Event}

/-! ## What is being retried -/

/-- The declarations of a flush whose first attempt has failed. -/
def Consumer.retried : Consumer → List Declaration
  | .flushing f => if f.attempt = .first then [] else f.batch
  | _ => []

/-- The declarations of a direct write whose first attempt has failed. -/
def Direct.retried (w : Direct) : List Declaration :=
  if w.attempt = .first then [] else w.write.declarations

/-- The declarations of the writes whose first attempt has failed and whose second one has not
ended. -/
def State.retried (s : State) : List Declaration :=
  s.consumer.retried ++ s.direct.flatMap Direct.retried

@[simp] theorem Resume.retried_consumer (r : Resume) : r.consumer.retried = [] := by
  cases r <;> rfl

/-- The declarations that the engine applies when an action happens. -/
def Action.applies (s : State) : Action → List Declaration
  | .answer who (.ok _) => s.inFlight who
  | _ => []

/-- The declarations of the write that fails when an action happens. -/
def Action.fails (s : State) : Action → List Declaration
  | .answer who (.error _) => s.inFlight who
  | _ => []

@[simp] theorem applies_takes (s : State) (r : Resume) : r.takes.applies s = [] := by
  cases r <;> rfl

@[simp] theorem fails_takes (s : State) (r : Resume) : r.takes.fails s = [] := by
  cases r <;> rfl

theorem inFlight_flush {f : Flush} (flushing : s.consumer = .flushing f) :
    s.inFlight .flush = f.batch := by
  simp [State.inFlight, flushing]

theorem inFlight_call {w : Direct} (found : s.direct? w.call = some w) :
    s.inFlight (.call w.call) = w.write.declarations := by
  simp [State.inFlight, found]

theorem Direct.retried_subset (w : Direct) : w.retried ⊆ w.write.declarations := by
  unfold retried
  split
  · exact List.nil_subset _
  · exact List.Subset.refl _

theorem State.retried_subset {ds : List Declaration} (consumer : s.consumer.retried ⊆ ds)
    (direct : ∀ w ∈ s.direct, w.retried ⊆ ds) : s.retried ⊆ ds := by
  refine List.append_subset.2 ⟨consumer, fun d mem => ?_⟩
  obtain ⟨w, found, mem⟩ := List.mem_flatMap.1 mem
  exact direct w found mem

theorem State.subset_retried {w : Direct} (mem : w ∈ s.direct) : w.retried ⊆ s.retried :=
  fun _ some => List.mem_append_right _ (List.mem_flatMap.2 ⟨w, mem, some⟩)

/-- When the first attempt of a flush has failed, its batch is being retried. -/
theorem State.retried_flushing {f : Flush} (flushing : s.consumer = .flushing f) {attempt : Attempt}
    (later : attempt ≠ .first) :
    f.batch ⊆ State.retried { s with consumer := .flushing { f with attempt } } ∧
      s.retried ⊆ State.retried { s with consumer := .flushing { f with attempt } } := by
  have again : Consumer.retried (.flushing { f with attempt }) = f.batch := if_neg later
  have batch : f.batch ⊆ State.retried { s with consumer := .flushing { f with attempt } } := by
    rw [State.retried, again]
    exact List.subset_append_left _ _
  refine ⟨batch, State.retried_subset ?_ fun w mem => ?_⟩
  · rw [flushing, Consumer.retried]
    split
    · exact List.nil_subset _
    · exact batch
  · exact State.subset_retried (s := { s with consumer := .flushing { f with attempt } }) mem

/-- When the first attempt of a direct write has failed, its declarations are being retried. -/
theorem State.retried_setAttempt (nodup : (s.direct.map Direct.call).Nodup) {w : Direct}
    (mem : w ∈ s.direct) {attempt : Attempt} (later : attempt ≠ .first) :
    w.write.declarations ⊆
        State.retried { s with direct := setAttempt w.call attempt s.direct } ∧
      s.retried ⊆ State.retried { s with direct := setAttempt w.call attempt s.direct } := by
  have set : { w with attempt } ∈ setAttempt w.call attempt s.direct :=
    List.mem_map.2 ⟨w, mem, if_pos rfl⟩
  have again : Direct.retried { w with attempt } = w.write.declarations := if_neg later
  have own : w.write.declarations ⊆
      State.retried { s with direct := setAttempt w.call attempt s.direct } := by
    rw [← again]
    exact State.subset_retried (s := { s with direct := setAttempt w.call attempt s.direct }) set
  refine ⟨own, State.retried_subset (List.subset_append_left _ _) fun v old => ?_⟩
  by_cases same : v.call = w.call
  · obtain rfl := List.inj_on_of_nodup_map nodup old mem same
    exact List.Subset.trans v.retried_subset own
  · have kept : v ∈ setAttempt w.call attempt s.direct := List.mem_map.2 ⟨v, old, if_neg same⟩
    exact State.subset_retried (s := { s with direct := setAttempt w.call attempt s.direct }) kept

/-- Whether a call ends with an error or is given up. -/
def Event.isFailureOf (call : Nat) : Event → Bool
  | .cancelled call' | .returned call' (.error _) => call' = call
  | _ => false

/-- Whatever the engine is asked for is seen through: no batch is given up, nor a call of close, and
no call that has asked the engine fails or is given up. -/
structure SeenThrough (es : List Event) : Prop where
  flushes : NoneGivenUp es
  closes : ClosesKept es
  calls : ∀ call w, .asked (.call call) w ∈ es → ∀ e ∈ es, e.isFailureOf call = false

theorem SeenThrough.of_append (h : SeenThrough (es ++ new)) : SeenThrough es where
  flushes e mem := h.flushes e (List.mem_append_left _ mem)
  closes := h.closes.of_append
  calls call w asked e mem :=
    h.calls call w (List.mem_append_left _ asked) e (List.mem_append_left _ mem)

/-- What a direct call writes is what it has asked for. -/
theorem Transition.direct_asked (t : Transition c s a s' new) {v : Direct} (mem : v ∈ s'.direct) :
    (∃ w ∈ s.direct, w.call = v.call ∧ w.write = v.write) ∨
      .asked (.call v.call) v.write ∈ new := by
  cases t with
  | write =>
    rcases List.mem_append.1 mem with old | begun
    · exact .inl ⟨v, old, rfl, rfl⟩
    · obtain rfl := List.mem_singleton.1 begun
      exact .inr (List.mem_cons_of_mem _ List.mem_cons_self)
  | cancel =>
    rw [direct_cancelCall] at mem
    exact .inl ⟨v, (List.mem_filter.1 mem).1, rfl, rfl⟩
  | pauseDirect | retryDirect => exact .inl (mem_setAttempt v mem)
  | endDirect => exact .inl ⟨v, (List.mem_filter.1 mem).1, rfl, rfl⟩
  | _ => exact .inl ⟨v, mem, rfl, rfl⟩

theorem Reaches.direct_asked (h : Reaches c (.initial c) s es) {w : Direct} (mem : w ∈ s.direct) :
    .asked (.call w.call) w.write ∈ es := by
  induction h generalizing w with
  | start => cases mem
  | step _ next ih =>
    refine List.mem_append.2 ?_
    rcases (Transition.of_step next).direct_asked mem with ⟨v, old, call, write⟩ | asked
    · rw [← call, ← write]
      exact .inl (ih old)
    · exact .inr asked

/-- The second attempt of a write is to come, or underway, until it is applied. -/
theorem Transition.retried (t : Transition c s a s' new) (reached : Reaches c (.initial c) s es)
    (kept : SeenThrough (es ++ new)) :
    s.retried ⊆ a.applies s ++ s'.retried ∧ a.fails s ⊆ s'.retried := by
  have life := reached.lifecycle (.initial c)
  obtain ⟨-, nodup⟩ := State.nodup_parts (reached.calls_nodup (.initial c) List.nodup_nil)
  have unfailing {w : Direct} (mem : w ∈ s.direct) {e : Event} (now : e ∈ new) :
      e.isFailureOf w.call = false :=
    kept.calls w.call w.write (List.mem_append_left _ (reached.direct_asked mem)) e
      (List.mem_append_right _ now)
  cases t with
  | startRun _ running receiver | crashRun _ running receiver | closeInline _ running _ receiver
  | crashClose _ running _ receiver =>
    have parked := life.parked running receiver
    simp [State.retried, Action.applies, Action.fails, Consumer.retried, parked, unmake]
  | startWorker consumer | die consumer | desert consumer | idleTick consumer | flushTick consumer
  | signal consumer | shut consumer | drained consumer | flushLast consumer | finishWorker consumer
  | finishCaller consumer =>
    simp [State.retried, Action.applies, Action.fails, Consumer.retried, consumer, Batcher.die,
      markClosed]
  | collect =>
    rw [applies_takes, fails_takes]
    exact ⟨fun _ => id, List.nil_subset _⟩
  | collectFlush _ consumer =>
    have none : s.consumer.retried = [] := by rw [consumer, Resume.retried_consumer]
    rw [applies_takes, fails_takes, State.retried, none]
    exact ⟨fun _ => id, List.nil_subset _⟩
  | write => simp [State.retried, Action.applies, Action.fails, Direct.retried]
  | @cancel call =>
    have given : .cancelled call ∈ es ++ [.cancelled call] :=
      List.mem_append_right _ List.mem_cons_self
    have drains : s.consumer.owner? ≠ some (.caller call) := by
      intro own
      have close := List.mem_append_left [.cancelled call] (reached.roles.drains call own)
      exact kept.closes call (mem_closers.2 close) given
    rw [cancelCall_of_ne drains]
    refine ⟨State.retried_subset (List.subset_append_left _ _) fun w mem => ?_, List.nil_subset _⟩
    have other : call ≠ w.call := of_decide_eq_false (unfailing mem List.mem_cons_self)
    exact State.subset_retried (List.mem_filter.2 ⟨mem, by simpa using Ne.symm other⟩)
  | pauseFlush consumer =>
    have later : Attempt.pausing (s.now + c.retryDelay) ≠ .first := by simp
    obtain ⟨batch, others⟩ := State.retried_flushing consumer later
    refine ⟨others, ?_⟩
    rw [Action.fails, inFlight_flush consumer]
    exact batch
  | @endFlush f written consumer =>
    cases written with
    | error e => cases kept.flushes _ (List.mem_append_right _ List.mem_cons_self)
    | ok summary =>
      refine ⟨?_, List.nil_subset _⟩
      rw [Action.applies, inFlight_flush consumer]
      refine State.retried_subset ?_ fun w mem => ?_
      · rw [consumer, Consumer.retried]
        split
        · exact List.nil_subset _
        · exact List.subset_append_left _ _
      · exact List.subset_append_of_subset_right _ (State.subset_retried mem)
  | retryFlush consumer =>
    have later : Attempt.second ≠ .first := by simp
    obtain ⟨-, others⟩ := State.retried_flushing consumer later
    exact ⟨others, List.nil_subset _⟩
  | pauseDirect found =>
    have later : Attempt.pausing (s.now + c.retryDelay) ≠ .first := by simp
    obtain ⟨own, others⟩ :=
      State.retried_setAttempt nodup (List.mem_of_find?_eq_some found) later
    refine ⟨others, ?_⟩
    rw [Action.fails, inFlight_call found]
    exact own
  | @endDirect w written found =>
    have mem := List.mem_of_find?_eq_some found
    cases written with
    | error e =>
      have fails := unfailing mem List.mem_cons_self
      simp [directOutcome, Event.isFailureOf] at fails
    | ok summary =>
      refine ⟨?_, List.nil_subset _⟩
      rw [Action.applies, inFlight_call found]
      refine State.retried_subset ?_ fun v old => ?_
      · exact List.subset_append_of_subset_right _ (List.subset_append_left _ _)
      · by_cases same : v.call = w.call
        · obtain rfl := List.inj_on_of_nodup_map nodup old mem same
          exact List.subset_append_of_subset_left _ v.retried_subset
        · refine List.subset_append_of_subset_right _ (State.subset_retried ?_)
          exact List.mem_filter.2 ⟨old, by simpa using same⟩
  | retryDirect found =>
    have later : Attempt.second ≠ .first := by simp
    obtain ⟨-, others⟩ :=
      State.retried_setAttempt nodup (List.mem_of_find?_eq_some found) later
    exact ⟨others, List.nil_subset _⟩
  | _ => exact ⟨fun _ => id, List.nil_subset _⟩

/-! ## Documents -/

namespace Indexer

variable {x y : Indexer} {docs : Documents}

theorem documentsAfter_eq (x : Indexer) (a : Action) :
    x.documentsAfter a = x.documents.applyAll (a.applies x.batcher) := by
  cases a with
  | answer who written => cases written <;> rfl
  | _ => rfl

theorem documentsSpilled_eq (x : Indexer) (n : Nat) (a : Action) :
    x.documentsSpilled n a =
      (x.documents.applyAll ((a.fails x.batcher).take n)).applyAll (a.applies x.batcher) := by
  cases a with
  | answer who written =>
    cases written with
    | error e => rfl
    | ok summary => simp [documentsSpilled, documentsAfter_eq, Action.fails, Documents.applyAll]
  | _ => simp [documentsSpilled, documentsAfter_eq, Action.fails, Documents.applyAll]

theorem spillStep_eq_some {n : Nat} (h : spillStep c x (a, n) = some (y, es)) :
    Batcher.step c x.batcher a = some (y.batcher, es) ∧ y.documents = x.documentsSpilled n a := by
  obtain ⟨⟨s, es'⟩, next, same⟩ := Option.map_eq_some_iff.1 h
  obtain ⟨rfl, rfl⟩ := Prod.mk.inj same
  exact ⟨next, rfl⟩

theorem step_of_step (h : Batcher.step c x.batcher a = some (s', es)) :
    step c x a = some (⟨s', x.documentsAfter a⟩, es) := by
  simp [step, h]

/-- What an indexer with an engine that spills does, one with an engine that does not spill does as
well, and the documents agree after what is being retried, if whatever the engine is asked for is
seen through. -/
theorem spillRun_agrees {as : List (Action × Nat)} (h : spillRun c x as = some (y, new))
    (reached : Reaches c (.initial c) x.batcher es) (kept : SeenThrough (es ++ new))
    (sorted : x.documents.Sorted) (agree : x.documents.AgreeAfter x.batcher.retried docs) :
    ∃ docs', run c ⟨x.batcher, docs⟩ (as.map Prod.fst) = some (⟨y.batcher, docs'⟩, new) ∧
      y.documents.AgreeAfter y.batcher.retried docs' := by
  induction as generalizing x es new docs with
  | nil =>
    cases h
    exact ⟨docs, rfl, agree⟩
  | cons a as ih =>
    obtain ⟨a, n⟩ := a
    rw [spillRun] at h
    split at h
    · cases h
    · next x' one next =>
      obtain ⟨⟨final, rest⟩, ran, same⟩ := Option.map_eq_some_iff.1 h
      obtain ⟨rfl, rfl⟩ := Prod.mk.inj same
      obtain ⟨moves, after⟩ := spillStep_eq_some next
      rw [← List.append_assoc] at kept
      obtain ⟨again, spilled⟩ := (Transition.of_step moves).retried reached kept.of_append
      have sorted' : x'.documents.Sorted := by
        rw [after, documentsSpilled_eq]
        exact (sorted.applyAll _).applyAll _
      have agree' : Documents.AgreeAfter x'.batcher.retried x'.documents
          (documentsAfter ⟨x.batcher, docs⟩ a) := by
        rw [after, documentsSpilled_eq, documentsAfter_eq]
        have part : (a.fails x.batcher).take n ⊆ a.applies x.batcher ++ x'.batcher.retried :=
          fun d mem => List.mem_append_right _ (spilled (List.mem_of_mem_take mem))
        exact (agree.spill sorted again part).applyAll (List.Subset.refl _)
      obtain ⟨docs', ran', agree''⟩ := ih ran (reached.step moves) kept sorted' agree'
      have strict : step c ⟨x.batcher, docs⟩ a =
          some (⟨x'.batcher, documentsAfter ⟨x.batcher, docs⟩ a⟩, one) := step_of_step moves
      refine ⟨docs', ?_, agree''⟩
      simp only [List.map_cons, run, strict, ran', Option.map_some]

end Indexer

/-- **A retried batch is harmless.** A declaration changes its document as it says, and no other.
Applying any first part of a list of declarations and then all
of it makes the same documents as applying it once. So an engine that has applied some of a write
when its first attempt fails ends up with the same documents as one that has not, however the steps
were mixed and whatever else was written in between, if whatever it is asked for is seen through and
nothing is being retried any more; until then the documents become the same by whatever contains
what is being retried. -/
theorem retry_harmless {docs : Documents} (sorted : docs.Sorted) :
    (∀ d, Documents.Obeys d docs (docs.apply d)) ∧
      (∀ b p, p <+: b → (docs.applyAll p).applyAll b = docs.applyAll b) ∧
      ∀ c as y es, Indexer.spillRun c (.start c docs) as = some (y, es) → SeenThrough es →
        ∃ x, Indexer.run c (.start c docs) (as.map Prod.fst) = some (x, es) ∧
          x.batcher = y.batcher ∧
          (y.batcher.retried = [] → y.documents = x.documents) ∧
          ∀ ds, y.batcher.retried ⊆ ds → y.documents.applyAll ds = x.documents.applyAll ds := by
  refine ⟨Documents.obeys_apply docs, fun b p part => ?_, ?_⟩
  · exact Documents.applyAll_absorb sorted part.subset
  intro c as y es h kept
  obtain ⟨docs', ran, agree⟩ :=
    Indexer.spillRun_agrees h .start kept sorted (Documents.AgreeAfter.refl _ docs)
  refine ⟨⟨y.batcher, docs'⟩, ran, rfl, fun settled => ?_, agree⟩
  rw [settled] at agree
  exact agree.eq

/-- A batch of two declarations, the first of which is applied before the first attempt fails. The
same document is written directly before the second attempt. -/
theorem retry_harmless_of_half_batch :
    let c : Deployment := ⟨⟨2, 100, 100, 10⟩, .common, by decide⟩
    let title (text : String) := Declaration.upsert "tracks" "" "1" (.ofList [("title", .str text)])
    let b := [title "Intro", .delete "tracks" "" "2"]
    let docs : Documents := [(⟨"tracks", "2"⟩, .ofList [("title", .str "Interlude")])]
    let as : List (Action × Nat) :=
      [(.begin 0 .run, 0), (.start, 0), (.begin 1 (.enqueue (title "Intro")), 0), (.send 1, 0),
        (.receive, 0), (.begin 2 (.enqueue (.delete "tracks" "" "2")), 0), (.send 2, 0),
        (.receive, 0), (.answer .flush (.error (.reported .connection "reset")), 1),
        (.begin 3 (.apply (title "Outro")), 0), (.answer (.call 3) (.ok (.allSucceeded 1)), 0),
        (.advance 10, 0), (.wake .flush, 0), (.answer .flush (.ok (.allSucceeded 2)), 0)]
    docs.Sorted ∧ (docs.applyAll (b.take 1)).applyAll b = docs.applyAll b ∧
      ∃ x y es, Indexer.spillRun c (.start c docs) as = some (y, es) ∧
        Indexer.run c (.start c docs) (as.map Prod.fst) = some (x, es) ∧
        y.documents = x.documents := by
  intro c title b docs as
  have sorted : docs.Sorted := by decide
  obtain ⟨-, part, spills⟩ := retry_harmless sorted
  have ran : (Indexer.spillRun c (.start c docs) as).map (fun m : Indexer × List Event =>
      decide (NoneGivenUp m.2 ∧ closers m.2 = [] ∧ m.1.batcher.retried = [] ∧
        ∀ r ∈ requests m.2, r.1 = .flush ∨ r.1 = .call 3 ∧ ∀ e ∈ m.2, e.isFailureOf 3 = false)) =
      some true := by decide +kernel
  obtain ⟨⟨y, es⟩, h, facts⟩ := Option.map_eq_some_iff.1 ran
  obtain ⟨flushes, none, settled, calls⟩ := of_decide_eq_true facts
  have kept : SeenThrough es := by
    refine ⟨flushes, fun call closer => ?_, fun call w asked => ?_⟩
    · rw [none] at closer
      cases closer
    · have mem : (.call call, w) ∈ requests es := List.mem_filterMap.2 ⟨_, asked, rfl⟩
      rcases calls _ mem with other | ⟨same, unfailing⟩
      · cases other
      · cases same
        exact unfailing
  obtain ⟨x, strict, -, same, -⟩ := spills c as y es h kept
  exact ⟨sorted, part b (b.take 1) (List.take_prefix 1 b), x, y, es, h, strict, same settled⟩

end CatalogSearch.Batcher
