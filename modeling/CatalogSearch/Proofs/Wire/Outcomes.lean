import CatalogSearch.Proofs.Batcher.DirectCalls
import CatalogSearch.Wire.Answer

/-!
# Outcomes of calls

A call succeeds on certain responses and on no others, and whatever else comes back of it is an
error of the engine (`Accepts`). Nearly all calls look at the status first and then at the body, so
that one lemma says which responses they accept (`Accepts.of_status`).

The batcher tries a write again after an error of the engine and after nothing else. With this
client that is after every response but those that the write accepts (`once_or_twice`).
-/

namespace CatalogSearch.Wire

open Batcher (Action Asker Attempted Deployment DistinctCalls Exchange Operation Write Written
  answers asks beginnings directOutcome run run_attempted)
open Net (HttpResponse)

/-! ## What a call accepts -/

/-- The body of a response is JSON. -/
def IsJson (r : HttpResponse) : Prop := ∃ v, Json.parse? r.body = some v

/-- What is made of the outcomes of a call: it succeeds on the accepted responses alone, and
anything else is an error of the engine, neither one of the request nor the finding that something
is missing. -/
structure Accepts {α : Type} (read : Outcome → Except SearchError α)
    (accepted : HttpResponse → Prop) : Prop where
  ok_iff : ∀ outcome, (∃ a, read outcome = .ok a) ↔ ∃ r, outcome = some r ∧ accepted r
  engine : ∀ outcome e, read outcome = .error e → e.kind ≠ .invalidInput ∧ e.kind ≠ .notFound

theorem ok_bodyOf_iff {r : HttpResponse} : (∃ v, bodyOf r = .ok v) ↔ IsJson r := by
  unfold bodyOf IsJson
  cases Json.parse? r.body <;> simp

theorem eq_unreadable {r : HttpResponse} {e : SearchError} (h : bodyOf r = .error e) :
    e = unreadable := by
  unfold bodyOf at h
  cases read : Json.parse? r.body <;> simp [read] at h
  exact h.symm

section Body

variable {α : Type} (f : Json → α) {r : HttpResponse} {e : SearchError}

theorem ok_map_bodyOf_iff : (∃ a, (bodyOf r).map f = .ok a) ↔ IsJson r := by
  rw [← ok_bodyOf_iff]
  cases bodyOf r <;> simp [Except.map]

theorem eq_unreadable_of_map (h : (bodyOf r).map f = .error e) : e = unreadable := by
  refine eq_unreadable (r := r) ?_
  cases read : bodyOf r <;> simp_all [Except.map]

end Body

section Status

variable {α : Type} {read : Outcome → Except SearchError α}
  {use : HttpResponse → Except SearchError α} {good usable : HttpResponse → Prop}
  [DecidablePred good] {silence fault : ErrorKind} {operation : String}

/-- A call that takes responses with a good status, and of these the ones it can use. -/
theorem Accepts.of_status (silent : read none = .error (lost silence))
    (answered : ∀ r, read (some r) = if good r then use r else .error (failed fault operation r))
    (ok_use : ∀ r, (∃ a, use r = .ok a) ↔ usable r)
    (of_use : ∀ r e, use r = .error e → e = unreadable)
    (silence_engine : silence ≠ .invalidInput ∧ silence ≠ .notFound)
    (fault_engine : fault ≠ .invalidInput ∧ fault ≠ .notFound) :
    Accepts read fun r => good r ∧ usable r := by
  refine ⟨fun outcome => ?_, fun outcome e wrong => ?_⟩
  · cases outcome with
    | none => simp [silent]
    | some r => by_cases ok : good r <;> simp [answered, ← ok_use, ok]
  · cases outcome with
    | none =>
      obtain rfl : lost silence = e := by simpa [silent] using wrong
      exact silence_engine
    | some r =>
      rw [answered] at wrong
      by_cases ok : good r
      · obtain rfl := of_use r e (by simpa [ok] using wrong)
        exact ⟨nofun, nofun⟩
      · obtain rfl : failed fault operation r = e := by simpa [ok] using wrong
        exact fault_engine

end Status

theorem accepts_reply (q : Question) :
    Accepts (reply q) fun r =>
      (r.isSuccess ∨ takesMissing q ∧ r.status = missing) ∧ IsJson r :=
  .of_status rfl (fun _ => rfl) (fun _ => ok_bodyOf_iff) (fun _ _ => eq_unreadable)
    (by decide) (by decide)

theorem takesMissing_iff {q : Question} :
    takesMissing q ↔ (∃ route id, q = .get route id) ∨ ∃ ids, q = .clearScroll ids := by
  cases q <;> simp [takesMissing]

/-- Whether a write accepts a response. An engine without the document has nothing to delete. -/
def Takes : Write → HttpResponse → Prop
  | .upsert _, r => r.isSuccess
  | .delete _, r => r.isSuccess ∨ r.status = missing
  | .bulk .., r => r.isSuccess ∧ IsJson r

theorem accepts_written (w : Write) : Accepts (written w) (Takes w) := by
  cases w with
  | upsert d =>
    show Accepts (written (.upsert d)) fun r => r.isSuccess
    have byStatus : Accepts (written (.upsert d)) fun r => r.isSuccess ∧ True :=
      .of_status rfl (fun _ => rfl) (by simp) (by simp) (by decide) (by decide)
    simpa using byStatus
  | delete d =>
    show Accepts (written (.delete d)) fun r => r.isSuccess ∨ r.status = missing
    have byStatus : Accepts (written (.delete d)) fun r =>
        (r.isSuccess ∨ r.status = missing) ∧ True :=
      .of_status rfl (fun _ => rfl) (by simp) (by simp) (by decide) (by decide)
    simpa using byStatus
  | bulk ds own =>
    exact .of_status rfl (fun _ => rfl) (fun _ => ok_map_bodyOf_iff _)
      (fun _ _ => eq_unreadable_of_map _) (by decide) (by decide)

/-- An engine that says that it is not well has answered the question. -/
theorem accepts_health : Accepts health fun r => r.isSuccess → IsJson r := by
  refine ⟨fun outcome => ?_, fun outcome e wrong => ?_⟩
  · cases outcome with
    | none => simp [health]
    | some r =>
      by_cases ok : r.isSuccess = true
      · simp only [health, ok, if_true, ok_map_bodyOf_iff]
        simp [ok]
      · simp [health, ok]
  · cases outcome with
    | none =>
      obtain rfl : lost .connection = e := by simpa [health] using wrong
      exact ⟨nofun, nofun⟩
    | some r =>
      by_cases ok : r.isSuccess = true
      · obtain rfl := eq_unreadable_of_map _ (by simpa [health, ok] using wrong)
        exact ⟨nofun, nofun⟩
      · simp [health, ok] at wrong

/-! ## Requests of a direct call -/

/-- What the client is asked to send for an asker along a run, in order. -/
def requested (p : Protocol) (timeout : Nat) (who : Asker) (c : Deployment) (as : List Action) :
    List Call :=
  (asks who c (.initial c) as).filterMap (writeCall p timeout)

section Direct

variable {c : Deployment} {w : Write} {said : List Exchange} {answer : Written}
  {outcomes : List Outcome}

/-- A write whose answers are made by the client is over with the first outcome if that is
accepted, and otherwise with the second one. -/
theorem once_or_twice {punctual : Prop} (h : Attempted c punctual w said answer)
    (answered : said.filterMap Exchange.written? = outcomes.map (written w)) :
    (∃ o, outcomes = [o] ∧ (∃ r, o = some r ∧ Takes w r) ∧ answer = written w o ∧
        said.filterMap Exchange.write? = [w]) ∨
      ∃ o last, outcomes = [o, last] ∧ (¬∃ r, o = some r ∧ Takes w r) ∧
        answer = written w last ∧ said.filterMap Exchange.write? = [w, w] := by
  have accepts := accepts_written w
  cases h with
  | once final =>
    obtain ⟨o, rfl, rfl⟩ : ∃ o, outcomes = [o] ∧ written w o = answer := by
      simpa [List.filterMap_cons, List.map_eq_cons_iff] using answered.symm
    refine .inl ⟨o, rfl, (accepts.ok_iff o).1 ?_, rfl, rfl⟩
    cases result : written w o with
    | ok sum => exact ⟨sum, rfl⟩
    | error e =>
      obtain ⟨request, absent⟩ := accepts.engine o e result
      exact absurd (final e result) (not_or.2 ⟨request, absent⟩)
  | @twice _ _ _ _ e =>
    obtain ⟨o, last, rfl, wrong, rfl⟩ :
        ∃ o last, outcomes = [o, last] ∧ written w o = .error e ∧ written w last = answer := by
      simpa [List.filterMap_cons, List.map_eq_cons_iff, and_assoc] using answered.symm
    refine .inr ⟨o, last, rfl, ?_, rfl, rfl⟩
    rw [← accepts.ok_iff o, wrong]
    simp

/-- There is a request for every write of a direct call. -/
theorem exists_writeCall {op : Operation} (p : Protocol) (timeout : Nat) (writes : op.Writes c w) :
    ∃ request, writeCall p timeout w = some request := by
  rcases writes with ⟨d, -, rfl⟩ | ⟨ds, some, -, rfl⟩
  · cases deletes : d.isDelete <;> simp [Write.single, deletes, writeCall]
  · obtain ⟨d, ds, rfl⟩ := List.exists_cons_of_ne_nil some
    exact ⟨_, rfl⟩

end Direct

/-- **Failures are errors of the engine, and what is accepted is known exactly.** Whatever comes
back of a call, nothing or any status with any body: an error is never one of the request nor the
finding that something is missing. Questions are answered by the responses with a success and a
JSON body, and those for one document and for the end of scrolls also by a JSON body that says that
there is no such thing; an upsert takes every success, a deletion every success and a missing
document, a bulk write the successes with a JSON body. The question whether the engine is well is
answered unless a success has another body.

So over this client, a direct call with a proper write sends the request for it once if the first
outcome is accepted, and otherwise exactly twice, and returns what the last outcome says. A
request that cannot be directed to a node counts as one without a response. To delete a document
that is not there is a success after one request, and to update one is tried again. -/
theorem failures_are_engine_errors (p : Protocol) (timeout : Nat) :
    (∀ q, Accepts (reply q) fun r =>
      (r.isSuccess ∨
        ((∃ route id, q = .get route id) ∨ ∃ ids, q = .clearScroll ids) ∧ r.status = 404) ∧
      IsJson r) ∧
    (∀ d, Accepts (written (.upsert d)) fun r => r.isSuccess) ∧
    (∀ d, Accepts (written (.delete d)) fun r => r.isSuccess ∨ r.status = 404) ∧
    (∀ ds own, ds ≠ [] → Accepts (written (.bulk ds own)) fun r => r.isSuccess ∧ IsJson r) ∧
    (Accepts health fun r => r.isSuccess → IsJson r) ∧
    ∀ c as s es, run c (.initial c) as = some (s, es) → DistinctCalls es →
      ∀ phase call op w, (phase, call, op) ∈ beginnings c (.initial c) as → phase ≠ .closed →
      op.Writes c w → (∀ d ∈ w.declarations, d.missingField = none) →
      ∀ (outcomes : List Outcome) result,
        answers (.call call) c (.initial c) as = outcomes.map (written w) →
      .returned call result ∈ es →
        ∃ request first last, writeCall p timeout w = some request ∧
          outcomes.head? = some first ∧ outcomes.getLast? = some last ∧
          result = directOutcome w (written w last) ∧
          ((∃ r, first = some r ∧ Takes w r) →
            requested p timeout (.call call) c as = [request] ∧ last = first) ∧
          ((¬∃ r, first = some r ∧ Takes w r) →
            requested p timeout (.call call) c as = [request, request]) ∧
          ∀ r, first = some r → r.status = 404 →
            (∀ d, w = .delete d →
              requested p timeout (.call call) c as = [request] ∧ result = .ok .ok) ∧
            ∀ d, w = .upsert d → requested p timeout (.call call) c as = [request, request] := by
  refine ⟨fun q => ?_, fun d => accepts_written _, fun d => accepts_written _,
    fun ds own _ => accepts_written _, accepts_health, ?_⟩
  · simpa only [takesMissing_iff, missing] using accepts_reply q
  · intro c as s es h distinct phase call op w begun unclosed writes valid outcomes result answered
      ended
    obtain ⟨answer, attempted, rfl⟩ := run_attempted h distinct begun unclosed writes valid ended
    obtain ⟨request, named⟩ := exists_writeCall p timeout writes
    rcases once_or_twice attempted answered with
      ⟨o, rfl, accepted, rfl, asked⟩ | ⟨o, last, rfl, unaccepted, rfl, asked⟩
    · have sent : requested p timeout (.call call) c as = [request] := by
        simp [requested, asked, named]
      refine ⟨request, o, o, named, rfl, rfl, rfl, fun _ => ⟨sent, rfl⟩,
        fun not => absurd accepted not, fun r there status => ⟨?_, ?_⟩⟩
      · rintro d rfl
        refine ⟨sent, ?_⟩
        simp [there, written, missing, status, directOutcome]
      · rintro d rfl
        obtain ⟨r', there', success⟩ := accepted
        obtain rfl : r = r' := by simpa [there] using there'
        simp [Takes, HttpResponse.isSuccess, status] at success
    · have sent : requested p timeout (.call call) c as = [request, request] := by
        simp [requested, asked, named]
      refine ⟨request, o, last, named, rfl, rfl, rfl, fun accepted => absurd accepted unaccepted,
        fun _ => sent, fun r there status => ⟨?_, fun _ _ => sent⟩⟩
      rintro d rfl
      exact absurd ⟨r, there, .inr status⟩ unaccepted

/-- Two direct calls about the same document, which is not there, at the same time. The upsert is
told so, pauses, and succeeds with its second request; the deletion is over with its first one. -/
theorem failures_are_engine_errors_of_missing_document :
    let c : Deployment := ⟨⟨1, 100, 1000, 10⟩, .common, by decide⟩
    let d := Declaration.upsert "tracks" "" "1" (.ofList [("title", .str "song")])
    let e := Declaration.delete "tracks" "" "1"
    let gone : Outcome := some ⟨404, "missing"⟩
    let created : Outcome := some ⟨201, ""⟩
    let as : List Action :=
      [.begin 1 (.apply d), .begin 2 (.apply e), .answer (.call 1) (written (.upsert d) gone),
        .answer (.call 2) (written (.delete e) gone), .advance 10, .wake (.call 1),
        .answer (.call 1) (written (.upsert d) created)]
    ∃ update delete s es, run c (.initial c) as = some (s, es) ∧
      writeCall .typeless 500 (.upsert d) = some update ∧
      writeCall .typeless 500 (.delete e) = some delete ∧
      .returned 1 (.ok .ok) ∈ es ∧ requested .typeless 500 (.call 1) c as = [update, update] ∧
      .returned 2 (.ok .ok) ∈ es ∧ requested .typeless 500 (.call 2) c as = [delete] := by
  intro c d e gone created as
  have ran : (run c (.initial c) as).map (fun m =>
      decide (DistinctCalls m.2 ∧ .returned 1 (.ok .ok) ∈ m.2 ∧ .returned 2 (.ok .ok) ∈ m.2)) =
        some true := by decide +kernel
  have begun : (.running, 1, .apply d) ∈ beginnings c (.initial c) as := by decide +kernel
  have begun' : (.running, 2, .apply e) ∈ beginnings c (.initial c) as := by decide +kernel
  have answered : answers (.call 1) c (.initial c) as =
      [gone, created].map (written (.upsert d)) := by decide +kernel
  have answered' : answers (.call 2) c (.initial c) as = [gone].map (written (.delete e)) := by
    decide +kernel
  obtain ⟨⟨s, es⟩, h, facts⟩ := Option.map_eq_some_iff.1 ran
  obtain ⟨distinct, updated, deleted⟩ := of_decide_eq_true facts
  obtain ⟨-, -, -, -, -, calls⟩ := failures_are_engine_errors .typeless 500
  obtain ⟨update, first, -, named, head, -, -, -, -, twice⟩ := calls c as s es h distinct .running 1
    (.apply d) (.upsert d) begun (by decide) (.inl ⟨d, rfl, rfl⟩) (by decide) _ _ answered updated
  obtain ⟨delete, first', -, named', head', -, -, -, -, once⟩ := calls c as s es h distinct .running
    2 (.apply e) (.delete e) begun' (by decide) (.inl ⟨e, rfl, rfl⟩) (by decide) _ _ answered'
    deleted
  obtain rfl := Option.some.inj head
  obtain rfl := Option.some.inj head'
  exact ⟨update, delete, s, es, h, named, named', updated, (twice _ rfl rfl).2 d rfl, deleted,
    ((once _ rfl rfl).1 e rfl).1⟩

end CatalogSearch.Wire
