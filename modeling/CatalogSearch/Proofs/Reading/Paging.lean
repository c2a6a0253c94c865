import CatalogSearch.Proofs.Engine.Documents
import CatalogSearch.Reading.Paging

/-!
# A scroll reads every page once

A caller that reads pages until there are no more gets the documents of all pages in order, and the
engine is asked for every page once, with the cursor that it named last, and in the end to forget
that cursor (`scroll_reads_all_pages`). What carries the induction over the pages is that the cursor
which a call passes on is always the one that the engine named last
(`Page.latest?_append_singleton`).
-/

namespace CatalogSearch

variable {σ : Type} {engine : σ → Question → Reply × σ} {s : σ}

namespace Page

variable {p : Page} {answer : Json} {served : List Page}

/-! ## Cursors -/

theorem latest?_append_singleton (served : List Page) (p : Page) :
    latest? (served ++ [p]) = p.cursor.or (latest? served) := by
  unfold latest?
  cases p with
  | mk total documents cursor => cases cursor <;> simp [List.filterMap_append]

theorem isSome_latest?_append {q : Page} (named : (latest? (served ++ [p])).isSome) :
    (latest? (served ++ [p] ++ [q])).isSome := by
  rw [latest?_append_singleton, Option.isSome_or, named, Bool.or_true]

theorem isSome_latest?_cons (named : p.cursor.isSome) (others : List Page) :
    (latest? (p :: others)).isSome := by
  obtain ⟨id, own⟩ := Option.isSome_iff_exists.1 named
  simp [latest?, own, List.getLast?_cons]

theorem latest?_eq_latest (named : (latest? served).isSome) :
    latest? served = some (latest served) := by
  obtain ⟨id, eq⟩ := Option.isSome_iff_exists.1 named
  rw [latest, eq]
  rfl

theorem latest?_mem {id : String} (named : latest? served = some id) :
    ∃ p ∈ served, p.cursor = some id :=
  List.mem_filterMap.1 (List.mem_of_getLast? named)

/-! ## What an answer shows -/

/-- The total that a page has is read from a number as from an object. -/
theorem ShownIn.total_read (shown : p.ShownIn answer) {hits : Json}
    (body : answer.get? "hits" = some hits) :
    (hits.get? "total").bind Hits.total? = some p.total := by
  obtain ⟨total, there, value⟩ := shown.total
  have natural := Json.nat64?_nat shown.inRange
  rw [body, Option.bind_some] at there
  rw [there, Option.bind_some]
  rcases value with rfl | value
  · exact natural
  · cases total with
    | obj members =>
      have value : findEntry "value" members = some (.nat p.total) := value
      rw [Hits.total?, value, Option.bind_some, natural]
    | _ => cases value

theorem ShownIn.hits (shown : p.ShownIn answer) :
    Hits.ofAnswer answer = .ok ⟨p.total, p.documents⟩ := by
  obtain ⟨total, there, -⟩ := shown.total
  obtain ⟨hits, body, -⟩ := Option.bind_eq_some_iff.1 there
  have documents := shown.documents
  rw [body, Option.bind_some] at documents
  simp only [Hits.ofAnswer, body, shown.total_read body]
  exact congrArg (fun l => Except.ok (Hits.mk p.total l)) documents

/-- Every page whose total an answer can hold is shown in an answer. -/
theorem shownIn_answer (inRange : p.total < 0x10000000000000000) : p.ShownIn p.answer := by
  refine ⟨⟨.nat p.total, ?total, .inl rfl⟩, inRange, ?documents, ?cursor⟩ <;>
    cases own : p.cursor <;> simp [answer, own, Json.elements?, Json.orNull, Function.comp_def]

theorem ShownIn.cursor_read (shown : p.ShownIn answer) :
    (answer.get? "_scroll_id").bind Json.text? = p.cursor := by
  rw [shown.cursor]
  cases p.cursor <;> rfl

end Page

/-! ## One page -/

namespace Reader

variable {route : Option Route} {query : Query} {size : Option Int} {sort : Option String}
  {p : Page} {served : List Page} {answer : Json}

/-- With the cursor that was named last a caller asks for the page that follows. -/
theorem pageQuestion_latest (proper : ∀ p ∈ served, p.cursor ≠ some "") :
    pageQuestion route query size sort (Page.latest? served) =
      Page.question (openingQuestion route query size sort) served := by
  unfold pageQuestion Page.question
  cases named : Page.latest? served with
  | none => rfl
  | some id =>
    obtain ⟨p, mem, own⟩ := Page.latest?_mem named
    have filled : id ≠ "" := by
      rintro rfl
      exact proper p mem own
    rw [Option.filter_some, if_pos (decide_eq_true filled)]

/-- A page with documents is passed on, with the cursor that is now the one named last. -/
theorem scroll_of_full (proper : ∀ p ∈ served, p.cursor ≠ some "")
    (answered : (engine s (Page.question (openingQuestion route query size sort) served)).1 =
      .ok answer)
    (shown : p.ShownIn answer) (full : p.documents ≠ []) :
    (scroll route query size sort (Page.latest? served)).result engine s =
        .ok ⟨p.total, p.documents, Page.latest? (served ++ [p])⟩ ∧
      (scroll route query size sort (Page.latest? served)).questions engine s =
        [Page.question (openingQuestion route query size sort) served] ∧
      (scroll route query size sort (Page.latest? served)).after engine s =
        (engine s (Page.question (openingQuestion route query size sort) served)).2 := by
  simp [scroll, pageQuestion_latest proper, answered, shown.hits, shown.cursor_read, full,
    Page.latest?_append_singleton]

/-- After a page without documents the engine is asked to forget the cursor that was named last. -/
theorem scroll_of_empty (proper : ∀ p ∈ served, p.cursor ≠ some "")
    (answered : (engine s (Page.question (openingQuestion route query size sort) served)).1 =
      .ok answer)
    (shown : p.ShownIn answer) (empty : p.documents = [])
    (named : (Page.latest? (served ++ [p])).isSome) :
    (scroll route query size sort (Page.latest? served)).result engine s =
        .ok ⟨p.total, [], none⟩ ∧
      (scroll route query size sort (Page.latest? served)).questions engine s =
        [Page.question (openingQuestion route query size sort) served,
          .clearScroll [Page.latest (served ++ [p])]] := by
  have next := Page.latest?_eq_latest named
  rw [Page.latest?_append_singleton] at next
  simp [scroll, pageQuestion_latest proper, answered, shown.hits, shown.cursor_read, empty, next]

/-! ## All pages -/

/-- From some pages on a caller reads the others, and asks for each of them once. -/
theorem readPages_of_served {pages : List Page} {final : Page}
    (full : ∀ p ∈ pages, p.documents ≠ []) (empty : final.documents = [])
    (there : Page.Served engine (openingQuestion route query size sort) s served
      (pages ++ [final]))
    (named : ∀ p ∈ (pages ++ [final]).head?, (Page.latest? (served ++ [p])).isSome)
    (proper : ∀ p ∈ served ++ pages, p.cursor ≠ some "") {n : Nat} (enough : pages.length < n) :
    (readPages route query size sort n (Page.latest? served)).result engine s =
        some (.ok (pages.flatMap Page.documents)) ∧
      (readPages route query size sort n (Page.latest? served)).questions engine s =
        (List.range (pages.length + 1)).map (fun i =>
            Page.question (openingQuestion route query size sort) (served ++ pages.take i)) ++
          [.clearScroll [Page.latest (served ++ pages ++ [final])]] := by
  induction pages generalizing s served n with
  | nil =>
    obtain ⟨n, rfl⟩ : ∃ m, n = m + 1 := Nat.exists_eq_add_one.2 enough
    obtain ⟨⟨answer, answered, shown⟩, -⟩ := there
    rw [List.append_nil] at proper ⊢
    obtain ⟨result, questions⟩ := scroll_of_empty proper answered shown empty (named final rfl)
    simp [readPages, result, questions]
  | cons p pages ih =>
    obtain ⟨n, rfl⟩ : ∃ m, n = m + 1 := Nat.exists_eq_add_one.2 (Nat.zero_lt_of_lt enough)
    obtain ⟨⟨answer, answered, shown⟩, others⟩ := there
    have known : (Page.latest? (served ++ [p])).isSome := named p rfl
    obtain ⟨result, questions, after⟩ := scroll_of_full
      (fun q mem => proper q (List.mem_append_left _ mem)) answered shown
      (full p List.mem_cons_self)
    obtain ⟨restResult, restQuestions⟩ := ih (fun q mem => full q (List.mem_cons_of_mem p mem))
      others (fun q _ => Page.isSome_latest?_append known) (by simpa using proper)
      (Nat.lt_of_succ_lt_succ enough)
    -- the call for the next page is made with the cursor that this page left
    rw [Page.latest?_eq_latest known] at result restResult restQuestions
    constructor
    · simp [readPages, result, after, restResult, Except.map]
    · rw [List.length_cons, List.range_succ_eq_map]
      simp [readPages, result, after, questions, restQuestions, Function.comp_def]

end Reader

/-- **A scroll reads every page once.** Where an engine serves pages with documents and then one
without, and names a cursor with the first of them, a caller that reads on until there are no more
gets the documents of all pages in order, in one call more than there are pages with documents. The
engine is asked to open one scroll, then for every next page with the cursor that it named last, and
in the end to forget the cursor that it named last. -/
theorem scroll_reads_all_pages (engine : σ → Question → Reply × σ) (s : σ) (route : Option Route)
    (query : Query) (size : Option Int) (sort : Option String) (pages : List Page) (final : Page)
    (full : ∀ p ∈ pages, p.documents ≠ []) (empty : final.documents = [])
    (named : ∀ p ∈ (pages ++ [final]).head?, p.cursor.isSome)
    (proper : ∀ p ∈ pages ++ [final], p.cursor ≠ some "")
    (served : Page.Served engine (Reader.openingQuestion route query size sort) s []
      (pages ++ [final]))
    (n : Nat) (enough : pages.length < n) :
    (Reader.readPages route query size sort n none).result engine s =
        some (.ok (pages.flatMap Page.documents)) ∧
      (Reader.readPages route query size sort n none).questions engine s =
        Reader.openingQuestion route query size sort ::
          (List.range pages.length).map (fun i =>
            .nextScroll (Page.latest (pages.take (i + 1))) Reader.keepAlive) ++
          [.clearScroll [Page.latest (pages ++ [final])]] := by
  have begun : ∀ p ∈ (pages ++ [final]).head?, (Page.latest? ([] ++ [p])).isSome :=
    fun p mem => Page.isSome_latest?_cons (named p mem) []
  obtain ⟨result, questions⟩ := Reader.readPages_of_served full empty served begun
    (fun p mem => proper p (List.mem_append_left _ mem)) enough
  refine ⟨result, questions.trans ?_⟩
  have next (i : Nat) (mem : i ∈ List.range pages.length) :
      Page.question (Reader.openingQuestion route query size sort) (pages.take (i + 1)) =
        .nextScroll (Page.latest (pages.take (i + 1))) Reader.keepAlive := by
    cases pages with
    | nil => cases mem
    | cons p pages =>
      have known := Page.isSome_latest?_cons (named p rfl) (pages.take i)
      rw [List.take_succ_cons, Page.question, Page.latest?_eq_latest known]
  rw [List.range_succ_eq_map, List.map_cons, List.map_map, ← List.map_congr_left next]
  rfl

/-- The second of two pages comes without a cursor and the end with another one, which the engine
does not forget when it is asked to. -/
theorem scroll_reads_all_pages_of_renamed_cursor :
    let pages : List Page := [⟨3, [.str "a", .str "b"], some "x"⟩, ⟨3, [.str "c"], none⟩]
    let final : Page := ⟨3, [], some "y"⟩
    let engine (i : Nat) : Question → Reply × Nat
      | .openScroll .. | .nextScroll .. =>
        ((((pages ++ [final])[i]?).map Page.answer).elim (.error .undecodable) .ok, i + 1)
      | _ => (.error .undecodable, i)
    let query : Query := .wildcard "title" "lo*"
    let reading := Reader.readPages none query (some 2) none 3 none
    reading.result engine 0 = some (.ok [.str "a", .str "b", .str "c"]) ∧
      reading.questions engine 0 =
        [Reader.openingQuestion none query (some 2) none, .nextScroll "x" "5m",
          .nextScroll "x" "5m", .clearScroll ["y"]] := by
  intro pages final engine query reading
  have served : Page.Served engine (Reader.openingQuestion none query (some 2) none) 0 []
      (pages ++ [final]) :=
    ⟨⟨_, rfl, Page.shownIn_answer (by decide)⟩, ⟨_, rfl, Page.shownIn_answer (by decide)⟩,
      ⟨_, rfl, Page.shownIn_answer (by decide)⟩, trivial⟩
  exact scroll_reads_all_pages engine 0 none query (some 2) none pages final (by decide) rfl
    (by decide) (by decide) served 3 (by decide)

end CatalogSearch
