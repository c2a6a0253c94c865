import CatalogSearch.Batcher.Indexer
import CatalogSearch.Proofs.Batcher.Calls

/-!
# Only complete declarations are written

A declaration is checked when a call brings it, and from then on it only moves: on its way into the
queue, in the queue, in the buffer, in a batch. So whatever a batcher holds, and whatever it asks
the engine for, is complete: `Sound`. A list of declarations is checked before anything else is done
with it, and refused as a whole for the first field that its first incomplete declaration lacks.
-/

namespace CatalogSearch

/-! ## What a declaration needs -/

/-- The required fields, in the order in which they are looked for. -/
def RequiredField.all : List RequiredField := [.index, .id, .payload]

namespace Declaration

variable {d : Declaration} {f : RequiredField}

/-- Whether a declaration lacks a required field. An upsert lacks its payload if it has none or one
without fields. -/
def Lacks (d : Declaration) : RequiredField → Prop
  | .index => d.index = ""
  | .id => d.id = ""
  | .payload => d.isDelete = false ∧ ∀ fields, d.payload = some fields → fields.isEmpty = true

/-- Whether a declaration lacks no required field. -/
def IsComplete (d : Declaration) : Prop := ∀ f, ¬d.Lacks f

theorem lacks_payload_iff :
    d.Lacks .payload ↔ d.isDelete = false ∧ d.fields.isEmpty = true := by
  unfold Lacks fields
  cases d.payload with
  | none => exact and_congr_right fun _ => iff_of_true nofun rfl
  | some m => simp

instance : DecidablePred d.Lacks
  | .index => inferInstanceAs (Decidable (d.index = ""))
  | .id => inferInstanceAs (Decidable (d.id = ""))
  | .payload => decidable_of_iff _ lacks_payload_iff.symm

/-- The missing field is the first one that the declaration lacks. -/
theorem missingField_eq_find? (d : Declaration) :
    d.missingField = RequiredField.all.find? fun f => d.Lacks f := by
  have index : d.Lacks .index ↔ d.index = "" := .rfl
  have id : d.Lacks .id ↔ d.id = "" := .rfl
  have payload : d.Lacks .payload ↔ (!d.isDelete && d.fields.isEmpty) = true := by
    simp [lacks_payload_iff]
  rw [missingField, RequiredField.all]
  simp only [← index, ← id, ← payload]
  split
  · next first => simp [first]
  · next first =>
    split
    · next second => simp [first, second]
    · next second =>
      split
      · next third => simp [first, second, third]
      · next third => simp [first, second, third]

theorem missingField_eq_none : d.missingField = none ↔ d.IsComplete := by
  rw [missingField_eq_find?, List.find?_eq_none]
  constructor
  · intro none f lacks
    cases f <;> simp_all [RequiredField.all]
  · intro complete f _
    simpa using complete f

end Declaration

namespace Batcher

variable {c : Deployment} {s s' : State} {a : Action} {es : List Event}

/-! ## What a batcher holds -/

/-- Whatever a batcher holds is complete. -/
structure Sound (s : State) : Prop where
  offers : ∀ o ∈ s.queue.offers, o.declaration.IsComplete
  items : ∀ d ∈ s.queue.items, d.IsComplete
  buffer : ∀ d ∈ s.buffer, d.IsComplete
  flushing : ∀ f, s.consumer = .flushing f → ∀ d ∈ f.batch, d.IsComplete
  direct : ∀ w ∈ s.direct, ∀ d ∈ w.write.declarations, d.IsComplete

/-- Whatever the engine is asked for is complete. -/
def AsksSound (es : List Event) : Prop :=
  ∀ r ∈ requests es, ∀ d ∈ r.2.declarations, d.IsComplete

namespace Sound

theorem initial (c : Deployment) : Sound (.initial c) where
  offers := nofun
  items := nofun
  buffer := nofun
  flushing := nofun
  direct := nofun

/-- What a batcher holds may get less, or go on. -/
theorem shrink (h : Sound s) (offers : s'.queue.offers ⊆ s.queue.offers)
    (items : s'.queue.items ⊆ s.queue.items) (buffer : s'.buffer ⊆ s.buffer)
    (flushing : ∀ f', s'.consumer = .flushing f' →
      ∃ f, s.consumer = .flushing f ∧ f.batch = f'.batch)
    (direct : ∀ w' ∈ s'.direct, ∃ w ∈ s.direct, w.write = w'.write) : Sound s' where
  offers o mem := h.offers o (offers mem)
  items d mem := h.items d (items mem)
  buffer d mem := h.buffer d (buffer mem)
  flushing f' on d mem := by
    obtain ⟨f, old, same⟩ := flushing f' on
    exact h.flushing f old d (same ▸ mem)
  direct w' mem d inside := by
    obtain ⟨w, old, same⟩ := direct w' mem
    exact h.direct w old d (same ▸ inside)

/-- The consumer goes on to something else than a flush. -/
theorem rest (h : Sound s) (same : s'.queue = s.queue ∧ s'.buffer = s.buffer ∧ s'.direct = s.direct)
    (idle : ∀ f, s'.consumer ≠ .flushing f) : Sound s' := by
  obtain ⟨queue, buffer, direct⟩ := same
  refine h.shrink (by rw [queue]; exact fun _ => id) (by rw [queue]; exact fun _ => id)
    (by rw [buffer]; exact fun _ => id) (fun f on => absurd on (idle f)) fun w mem => ?_
  exact ⟨w, direct ▸ mem, rfl⟩

/-- A flush takes a batch of complete declarations. -/
theorem flush (h : Sound s) {queue : Queue} {batch : List Declaration} (resume : Resume)
    (offers : queue.offers ⊆ s.queue.offers) (items : queue.items ⊆ s.queue.items)
    (complete : ∀ d ∈ batch, d.IsComplete) :
    Sound { s with queue, buffer := [], consumer := .flushing ⟨batch, .first, resume⟩ } where
  offers o mem := h.offers o (offers mem)
  items d mem := h.items d (items mem)
  buffer := nofun
  flushing f on := by
    obtain rfl := Consumer.flushing.inj on
    exact complete
  direct := h.direct

/-- A declaration that is taken out of the queue. -/
theorem of_take? (h : Sound s) {d : Declaration} {queue : Queue}
    (takes : s.queue.take? = some (d, queue)) :
    (∀ d' ∈ s.buffer ++ [d], d'.IsComplete) ∧ queue.offers ⊆ s.queue.offers ∧
      queue.items ⊆ s.queue.items := by
  obtain ⟨items, -, offers⟩ := Queue.of_take?_eq_some takes
  refine ⟨?_, offers.subset, items ▸ List.subset_cons_self d queue.items⟩
  have oldest := h.items d (items ▸ List.mem_cons_self)
  simpa [or_imp, forall_and] using ⟨h.buffer, oldest⟩

theorem cancelCall (h : Sound s) (call : Nat) : Sound (cancelCall s call) := by
  have offers : (s.queue.withdraw call).offers ⊆ s.queue.offers := fun o mem =>
    (List.mem_filter.1 ((Queue.offers_withdraw_perm s.queue call).mem_iff.1 mem)).1
  have direct : ∀ w' ∈ s.direct.filter fun w => w.call ≠ call, ∃ w ∈ s.direct, w.write = w'.write :=
    fun w mem => ⟨w, (List.mem_filter.1 mem).1, rfl⟩
  by_cases own : s.consumer.owner? = some (.caller call)
  · rw [cancelCall_of_drains own]
    exact h.shrink offers nofun nofun nofun direct
  · rw [cancelCall_of_ne own]
    have items := Queue.items_withdraw s.queue call
    exact h.shrink offers (items ▸ fun _ => id) (fun _ => id) (fun f on => ⟨f, on, rfl⟩) direct

/-- A step keeps what a batcher holds complete. -/
theorem step (h : Sound s) (t : Transition c s a s' es) : Sound s' := by
  have direct : ∀ w' ∈ s.direct, ∃ w ∈ s.direct, w.write = w'.write := fun w mem => ⟨w, mem, rfl⟩
  have flushing : ∀ f', s.consumer = .flushing f' → ∃ f, s.consumer = .flushing f ∧
      f.batch = f'.batch := fun f on => ⟨f, on, rfl⟩
  cases t with
  | immediate => exact h
  | closeWorker | closeUnowned | joinEnded | joinDied | joinUnmade | advance =>
    exact ⟨h.offers, h.items, h.buffer, h.flushing, h.direct⟩
  | startRun | closeInline | startWorker | desert | idleTick | signal | drained | finishWorker
  | finishCaller => exact h.rest ⟨rfl, rfl, rfl⟩ nofun
  | @arrive call d _ _ valid =>
    refine ⟨fun o mem => ?_, h.items, h.buffer, h.flushing, h.direct⟩
    rcases List.mem_cons.1 ((Queue.offers_arrive_perm s.queue ⟨call, d⟩).mem_iff.1 mem) with
      rfl | old
    · exact Declaration.missingField_eq_none.1 valid
    · exact h.offers o old
  | write _ _ _ valid =>
    refine ⟨h.offers, h.items, h.buffer, h.flushing, fun w mem d inside => ?_⟩
    rcases List.mem_append.1 mem with old | new
    · exact h.direct w old d inside
    · obtain rfl := List.mem_singleton.1 new
      exact Declaration.missingField_eq_none.1 (valid d inside)
  | cancel => exact h.cancelCall _
  | @enter o mem =>
    refine ⟨fun o' mem' => ?_, fun d mem' => ?_, h.buffer, h.flushing, h.direct⟩
    · rw [Queue.offers_enter] at mem'
      exact h.offers o' (List.mem_filter.1 mem').1
    · rcases List.mem_append.1 mem' with old | new
      · exact h.items d old
      · obtain rfl := List.mem_singleton.1 new
        exact h.offers o mem
  | @wait o mem =>
    refine h.shrink (fun o' mem' => ?_) (fun _ => id) (fun _ => id) flushing direct
    rcases List.mem_cons.1 ((Queue.offers_await_perm s.queue o).mem_iff.1 mem') with rfl | others
    · exact mem
    · exact (List.mem_filter.1 others).1
  | refuse =>
    refine h.shrink (fun o mem => ?_) (fun _ => id) (fun _ => id) flushing direct
    rw [Queue.offers_without] at mem
    exact (List.mem_filter.1 mem).1
  | crashRun | crashClose | die => exact h.shrink (fun _ => id) nofun (fun _ => id) nofun direct
  | shut => exact h.shrink (fun _ => id) (fun _ => id) (fun _ => id) nofun direct
  | collect takes =>
    obtain ⟨complete, offers, items⟩ := h.of_take? takes
    exact ⟨fun o mem => h.offers o (offers mem), fun d mem => h.items d (items mem), complete,
      h.flushing, h.direct⟩
  | collectFlush takes =>
    obtain ⟨complete, offers, items⟩ := h.of_take? takes
    exact h.flush _ offers items complete
  | flushTick | flushLast => exact h.flush _ (fun _ => id) (fun _ => id) h.buffer
  | pauseFlush on | retryFlush on =>
    refine h.shrink (fun _ => id) (fun _ => id) (fun _ => id) (fun f' on' => ?_) direct
    obtain rfl := Consumer.flushing.inj on'
    exact ⟨_, on, rfl⟩
  | @endFlush f =>
    refine h.rest ⟨rfl, rfl, rfl⟩ fun f' => ?_
    cases f.resume <;> exact nofun
  | pauseDirect | retryDirect =>
    refine h.shrink (fun _ => id) (fun _ => id) (fun _ => id) flushing fun w' mem => ?_
    obtain ⟨w, old, -, same⟩ := mem_setAttempt w' mem
    exact ⟨w, old, same⟩
  | endDirect =>
    exact h.shrink (fun _ => id) (fun _ => id) (fun _ => id) flushing
      fun w mem => ⟨w, (List.mem_filter.1 mem).1, rfl⟩

/-- The engine is asked for what is complete. -/
theorem asks (h : Sound s) (t : Transition c s a s' es) : AsksSound es := by
  intro r mem
  cases t with
  | write _ _ _ valid =>
    obtain rfl := List.mem_singleton.1 mem
    exact fun d inside => Declaration.missingField_eq_none.1 (valid d inside)
  | collectFlush takes =>
    obtain rfl := List.mem_singleton.1 mem
    exact (h.of_take? takes).1
  | flushTick | flushLast =>
    obtain rfl := List.mem_singleton.1 mem
    exact h.buffer
  | retryFlush on =>
    obtain rfl := List.mem_singleton.1 mem
    exact h.flushing _ on
  | retryDirect found =>
    obtain rfl := List.mem_singleton.1 mem
    exact h.direct _ (List.mem_of_find?_eq_some found)
  | _ => cases mem

end Sound

/-- Whatever a reachable batcher holds, and whatever it has asked the engine for, is complete. -/
theorem Reaches.sound (h : Reaches c s s' es) (before : Sound s) : Sound s' ∧ AsksSound es := by
  induction h with
  | start => exact ⟨before, nofun⟩
  | step _ next ih =>
    obtain ⟨sound, asked⟩ := ih
    have t := Transition.of_step next
    refine ⟨sound.step t, fun r mem => ?_⟩
    rw [requests, List.filterMap_append] at mem
    exact (List.mem_append.1 mem).elim (asked r) (sound.asks t r)

/-! ## Lists of declarations -/

/-- A list of declarations is refused for the first field that its first incomplete declaration
lacks. -/
theorem validateAll_append_cons {before behind : List Declaration} {d : Declaration}
    {f : RequiredField} (complete : ∀ d' ∈ before, d'.IsComplete)
    (missing : d.missingField = some f) :
    validateAll (before ++ d :: behind) = .error (.search (.refused (.missingField f))) := by
  induction before with
  | nil => simp [validateAll, validate, missing]
  | cons d' before ih =>
    obtain ⟨first, others⟩ := List.forall_mem_cons.1 complete
    have valid := validate_eq_ok.2 (Declaration.missingField_eq_none.2 first)
    rw [List.cons_append, validateAll, valid]
    exact ih others

/-- A list that is not complete has a first incomplete declaration, which has a first missing
field. -/
theorem exists_first_incomplete {ds : List Declaration} (h : ∃ d ∈ ds, ¬d.IsComplete) :
    ∃ before d behind f, ds = before ++ d :: behind ∧ (∀ d' ∈ before, d'.IsComplete) ∧
      d.missingField = some f := by
  obtain ⟨d, mem, incomplete⟩ := h
  have found : (ds.find? fun d => d.missingField.isSome).isSome = true := by
    refine List.find?_isSome.2 ⟨d, mem, Option.isSome_iff_ne_none.2 ?_⟩
    exact fun none => incomplete (Declaration.missingField_eq_none.1 none)
  obtain ⟨d, first⟩ := Option.isSome_iff_exists.1 found
  obtain ⟨missing, before, behind, whole, complete⟩ := List.find?_eq_some_iff_append.1 first
  obtain ⟨f, missing⟩ := Option.isSome_iff_exists.1 missing
  refine ⟨before, d, behind, f, whole, fun d' mem => ?_, missing⟩
  simpa [Declaration.missingField_eq_none] using complete d' mem

namespace Indexer

variable {x y : Indexer} {call : Nat} {op : Operation}

theorem step_begin_of_immediate {outcome : Outcome} (fresh : call ∉ x.batcher.calls)
    (h : immediate? x.batcher op = some outcome) :
    step c x (.begin call op) = some (x, [.begun call op, .returned call outcome]) := by
  simp [step, Batcher.step, fresh, beginCall, h, documentsAfter]

/-- What an indexer does its batcher does. -/
theorem reaches_of_run {as : List Action} (h : run c x as = some (y, es)) :
    Reaches c x.batcher y.batcher es := by
  induction as generalizing x es with
  | nil =>
    cases h
    exact .start
  | cons a as ih =>
    rw [run] at h
    split at h
    · cases h
    · next x' one next =>
      obtain ⟨⟨final, rest⟩, ran, same⟩ := Option.map_eq_some_iff.1 h
      obtain ⟨rfl, rfl⟩ := Prod.mk.inj same
      obtain ⟨⟨s, es⟩, moved, same⟩ := Option.map_eq_some_iff.1 next
      obtain ⟨rfl, rfl⟩ := Prod.mk.inj same
      exact (Reaches.one moved).trans (ih ran)

/-- **Only complete declarations are written, and a list that is not complete changes nothing.**
Whatever happens to a batcher on documents: every declaration on its way into the queue, in it, in
the buffer, or in a write that the engine is asked for has an index and an id and, unless it
deletes, fields. A list of declarations that is brought before the batcher has closed is refused, if
one of them is incomplete, for the first field that the first incomplete one lacks, and the batcher
and the documents stay as they are; an empty list ends with a summary of nothing; and for any other
list the engine is asked once, for exactly this list, and nothing else changes. -/
theorem only_complete_writes {docs : Documents} (as : List Action)
    (h : run c (.start c docs) as = some (x, es)) :
    (∀ o ∈ x.batcher.queue.offers, o.declaration.IsComplete) ∧
      (∀ d ∈ x.batcher.queue.items ++ x.batcher.buffer, d.IsComplete) ∧
      (∀ who w, .asked who w ∈ es → ∀ d ∈ w.declarations, d.IsComplete) ∧
      (x.batcher.phase ≠ .closed → ∀ call ∉ x.batcher.calls, ∀ ds,
        ((∃ d ∈ ds, ¬d.IsComplete) → ∃ before d behind f e, ds = before ++ d :: behind ∧
          (∀ d' ∈ before, d'.IsComplete) ∧
          RequiredField.all.find? (fun f => d.Lacks f) = some f ∧ e.kind = .invalidInput ∧
          e.message = "Invalid input: declaration is missing " ++ f.name ∧
          step c x (.begin call (.applyBatch ds)) =
            some (x, [.begun call (.applyBatch ds), .returned call (.error (.search e))])) ∧
        (ds = [] → step c x (.begin call (.applyBatch ds)) =
          some (x, [.begun call (.applyBatch ds), .returned call (.ok (.summary ⟨0, 0, 0, []⟩))])) ∧
        (ds ≠ [] → (∀ d ∈ ds, d.IsComplete) → step c x (.begin call (.applyBatch ds)) =
          some
            (⟨{ x.batcher with
                direct := x.batcher.direct ++ [⟨call, .bulk ds c.flushTimeout, .first⟩] },
              x.documents⟩,
            [.begun call (.applyBatch ds), .asked (.call call) (.bulk ds c.flushTimeout)]))) := by
  obtain ⟨sound, asked⟩ := (reaches_of_run h).sound (.initial c)
  refine ⟨sound.offers, List.forall_mem_append.2 ⟨sound.items, sound.buffer⟩, fun who w mem => ?_,
    fun unclosed call fresh ds => ⟨fun incomplete => ?_, ?_, fun nonempty complete => ?_⟩⟩
  · exact asked (who, w) (List.mem_filterMap.2 ⟨_, mem, rfl⟩)
  · obtain ⟨before, d, behind, f, rfl, complete, missing⟩ := exists_first_incomplete incomplete
    refine ⟨before, d, behind, f, .refused (.missingField f), rfl, complete,
      d.missingField_eq_find?.symm.trans missing, rfl, rfl, step_begin_of_immediate fresh ?_⟩
    simp [immediate?, unclosed, validateAll_append_cons complete missing, failure?]
  · rintro rfl
    refine step_begin_of_immediate fresh ?_
    simp [immediate?, unclosed]
    rfl
  · have valid : ∀ d ∈ ds, d.missingField = none := fun d mem =>
      Declaration.missingField_eq_none.2 (complete d mem)
    have launched := immediate?_applyBatch.2 ⟨unclosed, nonempty, valid⟩
    simp [step, Batcher.step, fresh, beginCall, launched, launch, launchWrite, documentsAfter]

/-- A list whose first declaration has no id is refused while another declaration is queued. -/
theorem only_complete_writes_of_missing_id :
    let c : Deployment := ⟨⟨2, 100, 100, 10⟩, .common, by decide⟩
    let d := Declaration.delete "tracks" "" "1"
    let ds : List Declaration := [.delete "tracks" "" "", .delete "" "" "2"]
    let as : List Action := [.begin 0 .run, .start, .begin 1 (.enqueue d), .send 1]
    ∃ x es e, run c (.start c []) as = some (x, es) ∧ x.batcher.queue.items = [d] ∧
      d.IsComplete ∧ e.message = "Invalid input: declaration is missing id" ∧
      step c x (.begin 2 (.applyBatch ds)) =
        some (x, [.begun 2 (.applyBatch ds), .returned 2 (.error (.search e))]) := by
  intro c d ds as
  have ran : (run c (.start c []) as).map (fun m : Indexer × List Event =>
      decide (m.1.batcher.queue.items = [d] ∧ m.1.batcher.phase ≠ .closed ∧
        2 ∉ m.1.batcher.calls)) = some true := by decide +kernel
  obtain ⟨⟨x, es⟩, h, facts⟩ := Option.map_eq_some_iff.1 ran
  obtain ⟨items, unclosed, fresh⟩ := of_decide_eq_true facts
  obtain ⟨-, complete, -, lists⟩ := only_complete_writes as h
  have queued : d ∈ x.batcher.queue.items := items ▸ List.mem_singleton_self d
  have lacks : (Declaration.delete "tracks" "" "").Lacks .id := rfl
  obtain ⟨before, b, behind, f, e, whole, others, missing, -, message, refused⟩ :=
    (lists unclosed 2 fresh ds).1 ⟨_, List.mem_cons_self, fun all => all .id lacks⟩
  refine ⟨x, es, e, h, items, complete d (List.mem_append_left _ queued), ?_, refused⟩
  cases before with
  | nil =>
    obtain ⟨rfl, -⟩ := List.cons.inj whole
    obtain rfl : f = .id := Option.some.inj (missing.symm.trans (by decide))
    exact message
  | cons b' before =>
    obtain ⟨rfl, -⟩ := List.cons.inj whole
    exact absurd lacks (others _ List.mem_cons_self .id)

end Indexer

end Batcher

end CatalogSearch
