import CatalogSearch.Proofs.Batcher.Calls
import Mathlib.Data.List.Nodup

/-!
# Attempts of a write

`Attempted` says what an asker and the engine say to each other about one write, from the first
request to the last answer: one question, or the same question twice if the first answer was an
error of the engine. `Underway` says what they have said before the end, and `Goes` how it goes on.

What a direct call says to the engine in a step is in `Transition.directs`, what the consumer says
in `Transition.flushing_goes` and `Transition.takes`.
-/

namespace CatalogSearch.Batcher

variable {c : Deployment} {s s' : State} {a : Action} {as : List Action} {es new : List Event}

/-! ## One write -/

/-- The pause between an answer and the next request: at least as long as the configuration says,
and on a virtual clock exactly as long. -/
def Pauses (c : Deployment) (punctual : Prop) (failed again : Nat) : Prop :=
  failed + c.retryDelay ≤ again ∧ (punctual → again = failed + c.retryDelay)

/-- What is said about a write from the first request to the last answer. The engine is asked once,
if its answer is no error or one of the request; after an error of the engine it is asked for the
same write once more, whatever it answers then. -/
inductive Attempted (c : Deployment) (punctual : Prop) (w : Write) : List Exchange → Written → Prop
  | once {asked answered : Nat} {written : Written}
      (final : ∀ e, written = .error e → e.kind = .invalidInput ∨ e.kind = .notFound) :
      Attempted c punctual w [.asked asked w, .answered answered written] written
  | twice {asked failed again answered : Nat} {e : SearchError} {written : Written}
      (engine : e.kind ≠ .invalidInput ∧ e.kind ≠ .notFound)
      (pauses : Pauses c punctual failed again) :
      Attempted c punctual w
        [.asked asked w, .answered failed (.error e), .asked again w, .answered answered written]
        written

/-- What has been said about a write that has got so far. -/
inductive Underway (c : Deployment) (punctual : Prop) (w : Write) : Attempt → List Exchange → Prop
  | first {asked : Nat} : Underway c punctual w .first [.asked asked w]
  | pausing {asked failed : Nat} {e : SearchError} (engine : e.isEngineError = true) :
      Underway c punctual w (.pausing (failed + c.retryDelay))
        [.asked asked w, .answered failed (.error e)]
  | second {asked failed again : Nat} {e : SearchError} (engine : e.isEngineError = true)
      (pauses : Pauses c punctual failed again) :
      Underway c punctual w .second [.asked asked w, .answered failed (.error e), .asked again w]

/-- How a write goes on: what is said, and how far it gets by that, or its last answer. -/
inductive Goes (c : Deployment) (now : Nat) (w : Write) :
    Attempt → List Exchange → Attempt ⊕ Written → Prop
  | pauses {e : SearchError} (engine : e.isEngineError = true) :
      Goes c now w .first [.answered now (.error e)] (.inl (.pausing (now + c.retryDelay)))
  | retries {wake : Nat} (due : wake ≤ now) :
      Goes c now w (.pausing wake) [.asked now w] (.inl .second)
  | ends {attempt : Attempt} {written : Written} (awaits : attempt.awaits = true)
      (last : attempt.after now c.retryDelay written = none) :
      Goes c now w attempt [.answered now written] (.inr written)

/-- An error of the engine is neither one of the request nor the finding that something is
missing. -/
theorem isEngineError_iff {e : SearchError} :
    e.isEngineError = true ↔ e.kind ≠ .invalidInput ∧ e.kind ≠ .notFound := by
  simp [SearchError.isEngineError]

theorem Attempt.isDue_eq_true {now : Nat} {attempt : Attempt} :
    attempt.isDue now = true ↔ ∃ wake, attempt = .pausing wake ∧ wake ≤ now := by
  cases attempt <;> simp [isDue, wake?]

namespace Underway

variable {punctual : Prop} {now : Nat} {w : Write} {attempt next : Attempt}
  {said more : List Exchange}

/-- A write gets on; if the second attempt is not late, the pause is as long as it should be. -/
theorem goOn (h : Underway c punctual w attempt said)
    (goes : Goes c now w attempt more (.inl next))
    (onTime : punctual → ∀ wake, attempt.wake? = some wake → now ≤ wake) :
    Underway c punctual w next (said ++ more) := by
  cases goes with
  | pauses engine =>
    cases h with
    | first => exact .pausing engine
  | retries due =>
    cases h with
    | pausing engine =>
      exact .second engine ⟨due, fun p => Nat.le_antisymm (onTime p _ rfl) due⟩

/-- The last answer comes after one attempt or two. -/
theorem attempted (h : Underway c punctual w attempt said) {written : Written}
    (goes : Goes c now w attempt more (.inr written)) :
    Attempted c punctual w (said ++ more) written := by
  cases goes with
  | ends awaits last =>
    cases h with
    | first =>
      refine .once fun e failed => ?_
      have request : e.isEngineError = false := by
        subst failed
        simpa [Attempt.after] using last
      by_contra neither
      rw [isEngineError_iff.2 (not_or.1 neither)] at request
      cases request
    | pausing => cases awaits
    | second engine pauses => exact .twice (isEngineError_iff.1 engine) pauses

end Underway

/-! ## One step -/

@[simp] theorem answerTo?_takes (who : Asker) (now : Nat) (r : Resume) :
    r.takes.answerTo? who now = none := by
  cases r <;> rfl

/-- Setting how far the write of a call has got sets that of one write. -/
theorem of_mem_setAttempt {v w : Direct} {attempt : Attempt}
    (nodup : (s.direct.map Direct.call).Nodup) (found : s.direct? w.call = some w)
    (mem : v ∈ setAttempt w.call attempt s.direct) :
    v = { w with attempt } ∨ v.call ≠ w.call ∧ v ∈ s.direct := by
  obtain ⟨v₀, old, rfl⟩ := List.mem_map.1 mem
  split
  · next same =>
    rw [List.inj_on_of_nodup_map nodup old (List.mem_of_find?_eq_some found) same]
    exact .inl rfl
  · next other => exact .inr ⟨other, old⟩

/-- What a call says to the engine in a step. Either nothing, and its write is as before or given
up; or it begins, and asks for a write; or its write goes on, and has ended with the last answer. -/
theorem Transition.directs (t : Transition c s a s' new) (nodup : (s.direct.map Direct.call).Nodup)
    (call : Nat) :
    exchange (.call call) s a new = [] ∧ (∀ v ∈ s'.direct, v.call = call → v ∈ s.direct) ∨
      (call ∈ begunCalls new ∧ call ∉ s.calls ∧ ∃ write,
        exchange (.call call) s a new = [.asked s.now write] ∧
          ∀ v ∈ s'.direct, v.call = call → v = ⟨call, write, .first⟩) ∨
      ∃ w ∈ s.direct, w.call = call ∧ ∃ next,
        Goes c s.now w.write w.attempt (exchange (.call call) s a new) next ∧
          ∀ v ∈ s'.direct, v.call = call → ∃ attempt, next = .inl attempt ∧
            v = { w with attempt } := by
  cases t with
  | @write call' op write fresh =>
    have silent : call' ≠ call → exchange (.call call) s (.begin call' op)
        [.begun call' op, .asked (.call call') write] = [] := fun other => by
      simp [exchange, other]
    by_cases own : call' = call
    · subst own
      refine .inr (.inl ⟨List.mem_cons_self, fresh, write, ?_, fun v mem same => ?_⟩)
      · simp [exchange, List.filterMap_cons]
      · rcases List.mem_append.1 mem with old | new
        · exact absurd (State.mem_calls.2 (.inr (.inl (List.mem_map.2 ⟨v, old, same⟩)))) fresh
        · exact List.mem_singleton.1 new
    · refine .inl ⟨silent own, fun v mem same => ?_⟩
      rcases List.mem_append.1 mem with old | new
      · exact old
      · obtain rfl := List.mem_singleton.1 new
        exact absurd same own
  | @cancel call' =>
    refine .inl ⟨rfl, fun v mem _ => ?_⟩
    rw [direct_cancelCall] at mem
    exact (List.mem_filter.1 mem).1
  | @pauseDirect w e found first engine =>
    have sets {v : Direct} := @of_mem_setAttempt _ v _ (.pausing (s.now + c.retryDelay)) nodup found
    by_cases own : w.call = call
    · subst own
      refine .inr (.inr ⟨w, List.mem_of_find?_eq_some found, rfl,
        .inl (.pausing (s.now + c.retryDelay)), ?_, fun v mem same => ?_⟩)
      · rw [first]
        simpa [exchange] using Goes.pauses engine
      · exact ⟨_, rfl, (sets mem).resolve_right fun other => other.1 same⟩
    · refine .inl ⟨by simp [exchange, own], fun v mem same => ?_⟩
      rcases sets mem with rfl | ⟨-, old⟩
      · exact absurd same own
      · exact old
  | @endDirect w written found awaits last =>
    by_cases own : w.call = call
    · subst own
      refine .inr (.inr ⟨w, List.mem_of_find?_eq_some found, rfl, .inr written, ?_,
        fun v mem same => ?_⟩)
      · simpa [exchange, List.filterMap_cons] using Goes.ends awaits last
      · simp [same] at mem
    · refine .inl ⟨by simp [exchange, own], fun v mem _ => ?_⟩
      exact (List.mem_filter.1 mem).1
  | @retryDirect w found due =>
    have sets {v : Direct} := @of_mem_setAttempt _ v _ .second nodup found
    by_cases own : w.call = call
    · subst own
      refine .inr (.inr ⟨w, List.mem_of_find?_eq_some found, rfl, .inl .second, ?_,
        fun v mem same => ?_⟩)
      · obtain ⟨wake, pausing, due⟩ := Attempt.isDue_eq_true.1 due
        rw [pausing]
        simpa [exchange, List.filterMap_cons] using Goes.retries due
      · exact ⟨_, rfl, (sets mem).resolve_right fun other => other.1 same⟩
    · refine .inl ⟨by simp [exchange, own], fun v mem same => ?_⟩
      rcases sets mem with rfl | ⟨-, old⟩
      · exact absurd same own
      · exact old
  | collect | collectFlush =>
    exact .inl ⟨by simp [exchange, -Action.answerTo?], fun _ mem _ => mem⟩
  | _ => exact .inl ⟨by simp [exchange], fun _ mem _ => mem⟩

/-- What the consumer says to the engine while it flushes. -/
theorem Transition.flushing_goes (t : Transition c s a s' new) (life : Lifecycle s) {f : Flush}
    (flushing : s.consumer = .flushing f) : taken new = [] ∧
      ((s'.consumer = .flushing f ∨ s'.consumer = .ended) ∧ exchange .flush s a new = [] ∧
          flushResults new = [] ∨
        ∃ next,
          Goes c s.now (.bulk f.batch c.flushTimeout) f.attempt (exchange .flush s a new) next ∧
          ((∃ attempt, next = .inl attempt ∧ s'.consumer = .flushing { f with attempt } ∧
              flushResults new = []) ∨
            ∃ written, next = .inr written ∧ s' = { s with consumer := f.resume.consumer } ∧
              flushResults new = [(f.batch, written)])) := by
  cases t with
  | startRun _ running receiver | crashRun _ running receiver | closeInline _ running _ receiver
  | crashClose _ running _ receiver =>
    cases (life.parked running receiver).symm.trans flushing
  | @cancel call =>
    refine ⟨rfl, .inl ⟨?_, rfl, rfl⟩⟩
    exact (consumer_cancelCall s call).symm.imp_left fun same => same.trans flushing
  | pauseFlush consumer first engine =>
    obtain rfl := Consumer.flushing.inj (consumer.symm.trans flushing)
    refine ⟨rfl, .inr ⟨_, ?_, .inl ⟨_, rfl, rfl, rfl⟩⟩⟩
    rw [first]
    exact .pauses engine
  | retryFlush consumer due =>
    obtain rfl := Consumer.flushing.inj (consumer.symm.trans flushing)
    refine ⟨rfl, .inr ⟨_, ?_, .inl ⟨_, rfl, rfl, rfl⟩⟩⟩
    obtain ⟨wake, pausing, due⟩ := Attempt.isDue_eq_true.1 due
    rw [pausing]
    exact .retries due
  | endFlush consumer awaits last =>
    obtain rfl := Consumer.flushing.inj (consumer.symm.trans flushing)
    exact ⟨rfl, .inr ⟨_, .ends awaits last, .inr ⟨_, rfl, rfl, rfl⟩⟩⟩
  | startWorker consumer | die consumer | desert consumer | idleTick consumer | flushTick consumer
  | signal consumer | shut consumer | drained consumer | flushLast consumer | finishWorker consumer
  | finishCaller consumer => cases consumer.symm.trans flushing
  | @collect _ _ after _ consumer | @collectFlush _ _ after _ consumer =>
    cases after <;> cases consumer.symm.trans flushing
  | joinEnded _ consumer | joinDied _ consumer | joinUnmade _ consumer =>
    cases consumer.symm.trans flushing
  | _ => exact ⟨rfl, .inl ⟨.inl flushing, by simp [exchange], rfl⟩⟩

/-- What the consumer says to the engine while it does not flush: it asks for the batch that it
takes. -/
theorem Transition.takes (t : Transition c s a s' new) (idle : ∀ f, s.consumer ≠ .flushing f) :
    flushResults new = [] ∧
      ((∀ f, s'.consumer ≠ .flushing f) ∧ exchange .flush s a new = [] ∧ taken new = [] ∨
        ∃ batch resume, s'.consumer = .flushing ⟨batch, .first, resume⟩ ∧
          exchange .flush s a new = [.asked s.now (.bulk batch c.flushTimeout)] ∧
          taken new = [batch]) := by
  cases t with
  | pauseFlush consumer | endFlush consumer | retryFlush consumer => exact absurd consumer (idle _)
  | collectFlush =>
    refine ⟨rfl, .inr ⟨_, _, rfl, ?_, rfl⟩⟩
    simp [exchange, List.filterMap_cons, -Action.answerTo?]
  | flushTick | flushLast => exact ⟨rfl, .inr ⟨_, _, rfl, rfl, rfl⟩⟩
  | collect => exact ⟨rfl, .inl ⟨idle, by simp [exchange, -Action.answerTo?], rfl⟩⟩
  | @cancel call =>
    refine ⟨rfl, .inl ⟨fun f => ?_, rfl, rfl⟩⟩
    rcases consumer_cancelCall s call with ended | same
    · rw [ended]
      intro flushing
      cases flushing
    · rw [same]
      exact idle f
  | startRun | crashRun | closeInline | crashClose | startWorker | die | desert | idleTick | signal
  | shut | drained | finishWorker | finishCaller =>
    refine ⟨rfl, .inl ⟨fun f flushing => ?_, ?_, rfl⟩⟩
    · cases flushing
    · simp [exchange]
  | _ => exact ⟨rfl, .inl ⟨idle, by simp [exchange], rfl⟩⟩

/-! ## Second attempts are not late -/

/-- The times at which pauses end. -/
def wakes (s : State) : List Nat :=
  (match s.consumer with
    | .flushing f => f.attempt.wake?.toList
    | _ => []) ++
    s.direct.filterMap fun w => w.attempt.wake?

theorem wakes_subset_timers (s : State) : wakes s ⊆ timers s := by
  unfold wakes timers
  refine List.append_subset.2 ⟨fun time mem => ?_, List.subset_append_right _ _⟩
  split at mem
  · next f flushing =>
    rw [flushing]
    exact List.mem_append_left _ mem
  · cases mem

theorem mem_wakes {time : Nat} : time ∈ wakes s ↔
    (∃ f, s.consumer = .flushing f ∧ f.attempt.wake? = some time) ∨
      ∃ w ∈ s.direct, w.attempt.wake? = some time := by
  unfold wakes
  rw [List.mem_append, List.mem_filterMap]
  refine or_congr_left ?_
  cases s.consumer <;> simp

theorem Goes.le_of_wake {now time : Nat} {w : Write} {attempt next : Attempt} {more : List Exchange}
    (h : Goes c now w attempt more (.inl next)) (wakes : next.wake? = some time) : now ≤ time := by
  cases h with
  | pauses =>
    obtain rfl := Option.some.inj wakes
    exact Nat.le_add_right _ _
  | retries => cases wakes

/-- A pause that begins does not end at an earlier time. -/
theorem Transition.wakes_later (t : Transition c s a s' new) (life : Lifecycle s)
    (nodup : (s.direct.map Direct.call).Nodup) {time : Nat} (mem : time ∈ wakes s') :
    time ∈ wakes s ∨ s.now ≤ time := by
  rcases mem_wakes.1 mem with ⟨f', flushing', wake⟩ | ⟨v, mem, wake⟩
  · by_cases before : ∃ f, s.consumer = .flushing f
    · obtain ⟨f, flushing⟩ := before
      obtain ⟨-, ⟨same | ended, -⟩ | ⟨next, goes, ⟨attempt, rfl, on, -⟩ | ⟨written, -, rfl, -⟩⟩⟩ :=
        t.flushing_goes life flushing
      · obtain rfl := Consumer.flushing.inj (same.symm.trans flushing')
        exact .inl (mem_wakes.2 (.inl ⟨f, flushing, wake⟩))
      · cases ended.symm.trans flushing'
      · obtain rfl := Consumer.flushing.inj (on.symm.trans flushing')
        exact .inr (goes.le_of_wake wake)
      · obtain ⟨batch, attempt, resume⟩ := f
        cases resume <;> cases flushing'
    · obtain ⟨-, ⟨idle, -⟩ | ⟨batch, resume, first, -⟩⟩ := t.takes (not_exists.1 before)
      · exact absurd flushing' (idle f')
      · obtain rfl := Consumer.flushing.inj (first.symm.trans flushing')
        cases wake
  · rcases t.directs nodup v.call with ⟨-, kept⟩ | ⟨-, -, write, -, begun⟩ |
      ⟨w, old, -, next, goes, on⟩
    · exact .inl (mem_wakes.2 (.inr ⟨v, kept v mem rfl, wake⟩))
    · rw [begun v mem rfl] at wake
      cases wake
    · obtain ⟨attempt, rfl, same⟩ := on v mem rfl
      rw [same] at wake
      exact .inr (goes.le_of_wake wake)

/-- On a virtual clock time does not pass the end of a pause. -/
theorem Transition.onTime (t : Transition c s a s' new) (life : Lifecycle s)
    (nodup : (s.direct.map Direct.call).Nodup) (punctual : a.isPunctual s = true)
    (before : ∀ time ∈ wakes s, s.now ≤ time) : ∀ time ∈ wakes s', s'.now ≤ time := by
  intro time mem
  rcases t.now with same | ⟨later, rfl, -, rfl⟩
  · rw [same]
    exact (t.wakes_later life nodup mem).elim (before time) id
  · obtain ⟨-, timers⟩ := (Bool.and_eq_true _ _).mp punctual
    exact of_decide_eq_true (List.all_eq_true.1 timers time (wakes_subset_timers s mem))

end CatalogSearch.Batcher
