import CatalogSearch.Proofs.Batcher.Batching
import CatalogSearch.Proofs.Batcher.Dialogue
import CatalogSearch.Proofs.Batcher.Recovery
import CatalogSearch.Proofs.Batcher.Validity
import CatalogSearch.Proofs.Reading.Lookup

/-!
# Reading back what was written

A declaration that is applied at once has changed the documents when its call returns
(`Batcher.Indexer.documents_of_returned`), and a look-up by its index and id then finds what it says
(`Declaration.readsBack_apply`). The two sides do not agree on what an id is, though: a write asks
for one that is not empty, a look-up for one that is not blank. So what is written under a blank id
cannot be read back (`Batcher.Indexer.read_your_writes_iff`).
-/

namespace CatalogSearch

/-! ## One declaration -/

/-- What is read after a declaration has been applied to documents. An upserted document has the
fields that were written, and its other ones as they were; a deleted one is not there. -/
structure ReadsBack (d : Declaration) (docs : Documents) (read : Except SearchError Json) :
    Prop where
  deletes : d.isDelete = true → ∃ e, read = .error e ∧ e.kind = .notFound
  merges : d.isDelete = false → ∃ x, read = .ok (.object x) ∧ ∀ field,
    x.get? field =
      (d.fields.get? field).or ((docs.find? (Documents.keyOf d)).bind (·.get? field))

theorem ReadsBack.ne_refused {d : Declaration} {docs : Documents} {read : Except SearchError Json}
    (h : ReadsBack d docs read) (cause : Refusal) : read ≠ .error (.refused cause) := by
  rintro rfl
  cases deletes : d.isDelete with
  | true =>
    obtain ⟨e, failed, absent⟩ := h.deletes deletes
    cases failed
    cases absent
  | false =>
    obtain ⟨x, found, -⟩ := h.merges deletes
    cases found

namespace Declaration

variable {docs : Documents} {d : Declaration}

/-- The look-up of the document of a declaration. -/
def readBack (d : Declaration) : Dialogue (Except SearchError Json) :=
  Reader.byId (.make d.index d.docType) d.id

theorem readBack_of_blank (blank : Text.isAllBlank d.id = true) :
    d.readBack = Reader.refuse .blankId := by
  simp [readBack, Reader.byId, blank]

theorem readsBack_apply (docs : Documents) (named : Text.isAllBlank d.id = false) :
    ReadsBack d docs (d.readBack.result Documents.memory (docs.apply d)) := by
  have read : d.readBack.result Documents.memory (docs.apply d) = _ :=
    Reader.result_byId (.make d.index d.docType) named
  have key : DocKey.mk (Route.make d.index d.docType).index d.id = Documents.keyOf d := rfl
  have obeys := docs.obeys_apply d
  rw [key] at read
  refine ⟨fun deletes => ?_, fun merges => ?_⟩
  · rw [obeys.deletes deletes] at read
    exact ⟨_, read, rfl⟩
  · obtain ⟨x, there, fields⟩ := obeys.merges merges
    rw [there] at read
    exact ⟨x, read, fields⟩

end Declaration

/-! ## Calls that apply a declaration -/

namespace Batcher

variable {c : Deployment}

theorem immediate?_apply_ne_ok {s : State} {d : Declaration} (done : Done) :
    immediate? s (.apply d) ≠ some (.ok done) := by
  by_cases closed : s.phase = .closed
  · simp [immediate?, closed]
  · cases missing : d.missingField <;> simp [immediate?, closed, validate, missing, failure?]

namespace Indexer

variable {x y : Indexer} {docs : Documents} {as : List Action} {a : Action} {es new : List Event}
  {call : Nat} {d : Declaration}

/-- A call that applies a declaration has just changed the documents when it returns without an
error. -/
theorem documents_of_returned (h : run c (.start c docs) as = some (x, es))
    (next : step c x a = some (y, new)) (distinct : DistinctCalls (es ++ new))
    (begun : .begun call (.apply d) ∈ es ++ new) (ok : .returned call (.ok .ok) ∈ new) :
    y.documents = x.documents.apply d := by
  have reached : Reaches c (.initial c) x.batcher es := reaches_of_run h
  obtain ⟨moved, after⟩ := step_eq_some next
  have writes : (Operation.apply d).Writes c (.single d) := .inl ⟨d, rfl, rfl⟩
  rcases (Transition.of_step moved).direct_returned reached.roles distinct begun writes ok with
    ⟨-, refused, -⟩ | ⟨v, written, found, same, write, rfl, got, -⟩
  · exact absurd refused (immediate?_apply_ne_ok _)
  · obtain ⟨summary, rfl⟩ : ∃ summary, written = .ok summary := by
      cases written with
      | ok summary => exact ⟨summary, rfl⟩
      | error e => cases got
    have asked : x.batcher.inFlight (.call call) = [d] := by
      subst same
      rw [inFlight_call found, write, Write.declarations_single]
    rw [after, documentsAfter, asked]
    rfl

/-- **A write is read back unless its id is blank.** Whatever happens to a batcher on documents
which an engine keeps in memory: after the step in which a call that applies a declaration at once
returns without an error, a look-up by the index, the type and the id of the declaration finds the
fields that were written, with those that the document had before, or after a deletion nothing, if
and only if the id is not blank. A blank id is refused by the look-up, and no other one is. -/
theorem read_your_writes_iff (h : run c (.start c docs) as = some (x, es))
    (next : step c x a = some (y, new)) (distinct : DistinctCalls (es ++ new))
    (begun : .begun call (.apply d) ∈ es ++ new) (ok : .returned call (.ok .ok) ∈ new) :
    (ReadsBack d x.documents (d.readBack.result Documents.memory y.documents) ↔
        Text.isAllBlank d.id = false) ∧
      ((∃ cause, d.readBack.result Documents.memory y.documents = .error (.refused cause)) ↔
        Text.isAllBlank d.id = true) := by
  rw [documents_of_returned h next distinct begun ok]
  cases blank : Text.isAllBlank d.id with
  | true =>
    have refused : d.readBack.result Documents.memory (x.documents.apply d) =
        .error (.refused .blankId) := by
      rw [Declaration.readBack_of_blank blank]
      rfl
    exact ⟨iff_of_false (fun reads => reads.ne_refused _ refused) nofun,
      iff_of_true ⟨_, refused⟩ rfl⟩
  | false =>
    have reads := Declaration.readsBack_apply x.documents blank
    exact ⟨iff_of_true reads rfl,
      iff_of_false (fun ⟨cause, refused⟩ => reads.ne_refused cause refused) nofun⟩

/-- An upsert that is tried twice is read back with what it wrote and what was there before. -/
theorem read_your_writes_iff_of_second_attempt :
    let c : Deployment := ⟨⟨1, 100, 1000, 10⟩, .common, by decide⟩
    let d := Declaration.upsert "tracks" "" "1" (.ofList [("title", .str "new")])
    let docs : Documents :=
      [(⟨"tracks", "1"⟩, .ofList [("title", .str "old"), ("singer", .str "same")])]
    let as : List Action :=
      [.begin 1 (.apply d), .answer (.call 1) (.error (.reported .connection "reset")),
        .advance 10, .wake (.call 1)]
    ∃ x es y new, run c (.start c docs) as = some (x, es) ∧
      step c x (.answer (.call 1) (.ok (.allSucceeded 1))) = some (y, new) ∧
      ReadsBack d docs (d.readBack.result Documents.memory y.documents) := by
  intro c d docs as
  have ran : ((run c (.start c docs) as).bind fun m =>
      (step c m.1 (.answer (.call 1) (.ok (.allSucceeded 1)))).map fun n =>
        decide (DistinctCalls (m.2 ++ n.2) ∧ .begun 1 (.apply d) ∈ m.2 ++ n.2 ∧
          .returned 1 (.ok .ok) ∈ n.2 ∧ m.1.documents = docs)) = some true := by decide +kernel
  obtain ⟨⟨x, es⟩, h, last⟩ := Option.bind_eq_some_iff.1 ran
  obtain ⟨⟨y, new⟩, next, facts⟩ := Option.map_eq_some_iff.1 last
  obtain ⟨distinct, begun, ok, previous⟩ := of_decide_eq_true facts
  have previous : x.documents = docs := previous
  have reads := (read_your_writes_iff h next distinct begun ok).1.2 (by decide +kernel)
  exact ⟨x, es, y, new, h, next, previous ▸ reads⟩

/-- A declaration whose id is a space is complete and is applied, and the look-up refuses its id. -/
theorem read_your_writes_of_space :
    let c : Deployment := ⟨⟨1, 100, 1000, 10⟩, .common, by decide⟩
    let d := Declaration.upsert "tracks" "" " " (.ofList [("title", .str "new")])
    ∃ x es y new e, run c (.start c []) [.begin 1 (.apply d)] = some (x, es) ∧
      step c x (.answer (.call 1) (.ok (.allSucceeded 1))) = some (y, new) ∧
      .returned 1 (.ok .ok) ∈ new ∧ d.missingField = none ∧
      (y.documents.find? (Documents.keyOf d)).isSome ∧
      d.readBack.result Documents.memory y.documents = .error e ∧ e.kind = .invalidInput ∧
      e.message = "Invalid input: document id is empty" ∧
      ¬ReadsBack d x.documents (d.readBack.result Documents.memory y.documents) := by
  intro c d
  have ran : ((run c (.start c []) [.begin 1 (.apply d)]).bind fun m =>
      (step c m.1 (.answer (.call 1) (.ok (.allSucceeded 1)))).map fun n =>
        decide (.returned 1 (.ok .ok) ∈ n.2 ∧ (n.1.documents.find? (Documents.keyOf d)).isSome)) =
          some true := by decide +kernel
  obtain ⟨⟨x, es⟩, h, last⟩ := Option.bind_eq_some_iff.1 ran
  obtain ⟨⟨y, new⟩, next, facts⟩ := Option.map_eq_some_iff.1 last
  obtain ⟨ok, there⟩ := of_decide_eq_true facts
  have refused : d.readBack.result Documents.memory y.documents = .error (.refused .blankId) := by
    rw [Declaration.readBack_of_blank (by decide +kernel)]
    rfl
  exact ⟨x, es, y, new, .refused .blankId, h, next, ok, by decide +kernel, there, refused, rfl,
    by decide +kernel, fun reads => reads.ne_refused _ refused⟩

end Indexer

end Batcher

end CatalogSearch
