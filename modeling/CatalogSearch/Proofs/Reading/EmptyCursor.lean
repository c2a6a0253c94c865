import CatalogSearch.Proofs.Reading.Paging

/-!
# Scrolls with an empty cursor

An empty cursor counts as none when a page is asked for, but not when the page has come: it is then
taken for the cursor of the next page if the answer names none. So a scroll with an empty cursor is
one without a cursor if the engine names a cursor with the page, and only then
(`Reader.empty_cursor_is_none_iff`). A caller that starts with an empty cursor, and is answered
without one, comes back to the first page with every call (`Reader.readPages_of_empty_cursor`).
-/

namespace CatalogSearch

namespace Reader

variable {σ : Type} {engine : σ → Question → Reply × σ} {s : σ} {route : Option Route}
  {query : Query} {size : Option Int} {sort cursor : Option String} {q : Question} {answer : Json}
  {hits : Hits}

/-- The cursor that an answer names. -/
def named? (answer : Json) : Option String := (answer.get? "_scroll_id").bind Json.text?

/-- A reply that shows hits, perhaps without documents, and names no cursor. -/
inductive ShowsUnnamed (hits : Hits) : Reply → Prop
  | ofAnswer {answer : Json} (shown : Hits.ofAnswer answer = .ok hits)
      (unnamed : named? answer = none) : ShowsUnnamed hits (.ok answer)

/-- Whether a dialogue hands an empty cursor to the caller, or back to the engine. -/
def PassesEmptyCursor (engine : σ → Question → Reply × σ) (s : σ)
    (d : Dialogue (Except SearchError ScrollPage)) : Prop :=
  .clearScroll [""] ∈ d.questions engine s ∨
    ∃ page, d.result engine s = .ok page ∧ page.cursor = some ""

/-! ## One page -/

/-- A page is passed on with the cursor that the answer names, or else the one that was given. If
it has no documents, the engine is asked to forget that cursor. -/
theorem scroll_of_shown (page : pageQuestion route query size sort cursor = q)
    (answered : (engine s q).1 = .ok answer) (shown : Hits.ofAnswer answer = .ok hits) :
    (scroll route query size sort cursor).result engine s =
        .ok ⟨hits.total, hits.documents,
          if hits.documents = [] then none else (named? answer).or cursor⟩ ∧
      (scroll route query size sort cursor).questions engine s =
        q :: if hits.documents = [] then
          ((named? answer).or cursor).toList.map fun id => .clearScroll [id] else [] := by
  subst page
  have next : (answer.get? "_scroll_id").bind Json.text? = named? answer := rfl
  by_cases none_left : hits.documents = []
  · cases named : (named? answer).or cursor <;>
      simp [scroll, answered, shown, next, none_left, named]
  · simp [scroll, answered, shown, next, none_left]

/-- A page that does not come, or cannot be read, is an error whatever cursor was given. -/
theorem scroll_of_unread {e : SearchError} (page : pageQuestion route query size sort cursor = q)
    (unread : (engine s q).1.bind Hits.ofAnswer = .error e) :
    (scroll route query size sort cursor).result engine s = .error e ∧
      (scroll route query size sort cursor).questions engine s = [q] := by
  subst page
  cases answered : (engine s (pageQuestion route query size sort cursor)).1 with
  | error e' =>
    obtain rfl : e' = e := by simpa [answered, Except.bind] using unread
    simp [scroll, answered]
  | ok answer =>
    have unread : Hits.ofAnswer answer = .error e := by simpa [answered, Except.bind] using unread
    simp [scroll, answered, unread]

/-! ## An empty cursor and none -/

theorem pageQuestion_none (route : Option Route) (query : Query) (size : Option Int)
    (sort : Option String) :
    pageQuestion route query size sort none = openingQuestion route query size sort := rfl

theorem pageQuestion_empty (route : Option Route) (query : Query) (size : Option Int)
    (sort : Option String) :
    pageQuestion route query size sort (some "") = openingQuestion route query size sort := rfl

/-- Without a cursor in the answer an empty one takes its place: it is handed on with the documents,
and given back to the engine if there are none. -/
theorem empty_cursor_of_unnamed
    (unnamed : ShowsUnnamed hits (engine s (openingQuestion route query size sort)).1) :
    if hits.documents = [] then
      (scroll route query size sort (some "")).result engine s =
          (scroll route query size sort none).result engine s ∧
        (scroll route query size sort (some "")).questions engine s =
          (scroll route query size sort none).questions engine s ++ [.clearScroll [""]]
    else
      (scroll route query size sort (some "")).result engine s =
          .ok ⟨hits.total, hits.documents, some ""⟩ ∧
        (scroll route query size sort none).result engine s =
          .ok ⟨hits.total, hits.documents, none⟩ ∧
        (scroll route query size sort (some "")).questions engine s =
          (scroll route query size sort none).questions engine s := by
  generalize replied : (engine s (openingQuestion route query size sort)).1 = reply at unnamed
  obtain ⟨shown, unnamed⟩ := unnamed
  obtain ⟨result, questions⟩ := scroll_of_shown (pageQuestion_empty ..) replied shown
  obtain ⟨result', questions'⟩ := scroll_of_shown (pageQuestion_none ..) replied shown
  rw [result, result', questions, questions', unnamed]
  by_cases none_left : hits.documents = []
  · simp [none_left]
  · simp [none_left]

/-- If the answer names a cursor or shows no page, an empty cursor is as good as none, and handed on
only if it is the one that was named. -/
theorem empty_cursor_of_named
    (named : ∀ hits, ¬ShowsUnnamed hits (engine s (openingQuestion route query size sort)).1) :
    ((scroll route query size sort (some "")).questions engine s =
        (scroll route query size sort none).questions engine s ∧
      (scroll route query size sort (some "")).result engine s =
        (scroll route query size sort none).result engine s) ∧
      (PassesEmptyCursor engine s (scroll route query size sort (some "")) →
        ∃ answer, (engine s (openingQuestion route query size sort)).1 = .ok answer ∧
          named? answer = some "") := by
  cases read : (engine s (openingQuestion route query size sort)).1.bind Hits.ofAnswer with
  | error e =>
    obtain ⟨result, questions⟩ := scroll_of_unread (pageQuestion_empty ..) read
    obtain ⟨result', questions'⟩ := scroll_of_unread (pageQuestion_none ..) read
    rw [PassesEmptyCursor, result, result', questions, questions']
    exact ⟨⟨rfl, rfl⟩, by simp [openingQuestion]⟩
  | ok hits =>
    cases replied : (engine s (openingQuestion route query size sort)).1 with
    | error e => simp [replied, Except.bind] at read
    | ok answer =>
      have shown : Hits.ofAnswer answer = .ok hits := by simpa [replied, Except.bind] using read
      cases own : named? answer with
      | none => exact absurd (replied ▸ .ofAnswer shown own) (named hits)
      | some id =>
        obtain ⟨result, questions⟩ := scroll_of_shown (pageQuestion_empty ..) replied shown
        obtain ⟨result', questions'⟩ := scroll_of_shown (pageQuestion_none ..) replied shown
        rw [PassesEmptyCursor, result, result', questions, questions', own]
        refine ⟨⟨rfl, rfl⟩, fun passes => ⟨answer, rfl, ?_⟩⟩
        by_cases none_left : hits.documents = []
        · simpa [none_left, openingQuestion, own, eq_comm] using passes
        · simpa [none_left, openingQuestion, own] using passes

/-- In a scroll that is answered without a cursor, an empty one comes from nowhere. -/
theorem passesEmptyCursor_of_unnamed
    (unnamed : ShowsUnnamed hits (engine s (openingQuestion route query size sort)).1) :
    PassesEmptyCursor engine s (scroll route query size sort (some "")) ∧
      ∀ answer, (engine s (openingQuestion route query size sort)).1 = .ok answer →
        named? answer ≠ some "" := by
  constructor
  · have differs := empty_cursor_of_unnamed unnamed
    split at differs
    · refine .inl ?_
      rw [differs.2]
      exact List.mem_append_right _ List.mem_cons_self
    · exact .inr ⟨_, differs.1, rfl⟩
  · intro answer replied
    generalize (engine s (openingQuestion route query size sort)).1 = reply at unnamed replied
    obtain ⟨-, unnamed⟩ := unnamed
    obtain rfl := Except.ok.inj replied
    rw [unnamed]
    simp

/-- A caller that starts with an empty cursor, at an engine that shows documents without naming a
cursor, opens the scroll again with every call and never comes to an end. -/
theorem readPages_of_empty_cursor (n : Nat)
    (unnamed : ∀ s, ∃ hits, hits.documents ≠ [] ∧
      ShowsUnnamed hits (engine s (openingQuestion route query size sort)).1) :
    (readPages route query size sort n (some "")).result engine s = none ∧
      (readPages route query size sort n (some "")).questions engine s =
        List.replicate n (openingQuestion route query size sort) := by
  induction n generalizing s with
  | zero => exact ⟨rfl, rfl⟩
  | succ n ih =>
    obtain ⟨hits, some_documents, shows⟩ := unnamed s
    generalize replied : (engine s (openingQuestion route query size sort)).1 = reply at shows
    obtain ⟨shown, none_named⟩ := shows
    obtain ⟨result, questions⟩ := scroll_of_shown (pageQuestion_empty ..) replied shown
    rw [if_neg some_documents, none_named, Option.none_or] at result
    rw [if_neg some_documents] at questions
    rw [readPages, Dialogue.result_bind, Dialogue.questions_bind, result, questions]
    simp [ih, List.replicate_succ]

/-- **When an empty cursor is none.** A scroll with an empty cursor asks the engine the same
questions and has the same result as one without a cursor if and only if the engine does not answer
with a page that names no cursor. It hands on an empty cursor, to the caller or back to the engine,
that the engine has not named, if and only if the engine does answer so. In that case the page has
the empty cursor, and none otherwise, when there are documents; and when there are none, the engine
is asked to forget the empty cursor, and asked nothing more otherwise. -/
theorem empty_cursor_is_none_iff (engine : σ → Question → Reply × σ) (s : σ) (route : Option Route)
    (query : Query) (size : Option Int) (sort : Option String) :
    let reply := (engine s (openingQuestion route query size sort)).1
    let empty := scroll route query size sort (some "")
    let fresh := scroll route query size sort none
    (empty.questions engine s = fresh.questions engine s ∧
        empty.result engine s = fresh.result engine s ↔ ¬∃ hits, ShowsUnnamed hits reply) ∧
      (PassesEmptyCursor engine s empty ∧ (∀ answer, reply = .ok answer → named? answer ≠ some "") ↔
        ∃ hits, ShowsUnnamed hits reply) ∧
      ∀ hits, ShowsUnnamed hits reply →
        if hits.documents = [] then
          empty.result engine s = fresh.result engine s ∧
            empty.questions engine s = fresh.questions engine s ++ [.clearScroll [""]]
        else
          empty.result engine s = .ok ⟨hits.total, hits.documents, some ""⟩ ∧
            fresh.result engine s = .ok ⟨hits.total, hits.documents, none⟩ ∧
            empty.questions engine s = fresh.questions engine s := by
  intro reply empty fresh
  refine ⟨⟨?differs, fun named => (empty_cursor_of_named (not_exists.1 named)).1⟩,
    ⟨?named, ?passes⟩, fun hits => empty_cursor_of_unnamed⟩
  case differs =>
    rintro ⟨questions, result⟩ ⟨hits, unnamed⟩
    have differs := empty_cursor_of_unnamed unnamed
    split at differs
    · have longer : fresh.questions engine s ++ [.clearScroll [""]] = fresh.questions engine s :=
        differs.2.symm.trans questions
      simp at longer
    · have cursors := differs.1.symm.trans (result.trans differs.2.1)
      simp at cursors
  case named =>
    rintro ⟨passes, other⟩
    by_contra named
    obtain ⟨answer, replied, empty⟩ := (empty_cursor_of_named (not_exists.1 named)).2 passes
    exact other answer replied empty
  case passes =>
    rintro ⟨hits, unnamed⟩
    exact passesEmptyCursor_of_unnamed unnamed

/-- A scroll that is answered with its only page, without a cursor. -/
theorem empty_cursor_is_none_iff_of_single_page :
    let engine : Unit → Question → Reply × Unit :=
      fun _ _ => (.ok (Page.answer ⟨1, [.nat 7], none⟩), ())
    let query := Query.exactly "status" (.nat 1)
    ShowsUnnamed ⟨1, [.nat 7]⟩ (engine () (openingQuestion none query none none)).1 ∧
      (scroll none query none none (some "")).result engine () = .ok ⟨1, [.nat 7], some ""⟩ ∧
      (scroll none query none none none).result engine () = .ok ⟨1, [.nat 7], none⟩ := by
  intro engine query
  have shows : ShowsUnnamed ⟨1, [.nat 7]⟩ (engine () (openingQuestion none query none none)).1 :=
    .ofAnswer rfl rfl
  have differs := (empty_cursor_is_none_iff engine () none query none none).2.2 _ shows
  rw [if_neg (List.cons_ne_nil _ _)] at differs
  exact ⟨shows, differs.1, differs.2.1⟩

/-- An engine that shows its only document without naming a cursor has the caller come back with the
empty cursor; one that shows no document is asked to forget it. Without a cursor neither happens. -/
theorem scroll_of_empty_cursor :
    let engine (documents : List Json) : Unit → Question → Reply × Unit :=
      fun _ _ => (.ok (Page.answer ⟨documents.length, documents, none⟩), ())
    let page := scroll none (.exactly "status" (.nat 1)) none none
    (page (some "")).result (engine [.nat 7]) () = .ok ⟨1, [.nat 7], some ""⟩ ∧
      (page none).result (engine [.nat 7]) () = .ok ⟨1, [.nat 7], none⟩ ∧
      .clearScroll [""] ∈ (page (some "")).questions (engine []) () ∧
      .clearScroll [""] ∉ (page none).questions (engine []) () := by
  intro engine page
  refine ⟨rfl, rfl, ?_, ?_⟩
  · decide
  · decide

end Reader

end CatalogSearch
