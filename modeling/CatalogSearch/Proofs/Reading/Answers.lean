import CatalogSearch.Proofs.Catalog.Identity
import CatalogSearch.Proofs.Json.Views
import CatalogSearch.Proofs.Reading.EmptyCursor
import CatalogSearch.Reading.SearchAnswer

/-!
# Reading answers

Every JSON value is an answer that can be read, or it is refused, for a reason that can be seen in
the value (`answers_are_read_exactly`). What a search or a scroll makes of an answer is decided by
`Hits.ofAnswer`: it gives the total and the documents of any answer that has a total
(`Hits.interprets_ofAnswer`), and does not see in which of its two forms a total is given
(`Hits.ofAnswer_withTotal`).
-/

namespace CatalogSearch

namespace Hits

variable {answer v : Json} {n : Nat}

/-! ## Totals -/

theorem total?_eq_some : total? v = some n ↔ IsTotal v n := by
  rw [IsTotal]
  cases v with
  | obj members =>
    rw [total?, Option.bind_eq_some_iff]
    simp [Json.nat64?_eq_some, Json.get?, Json.nat, and_comm]
  | _ => simp [total?, Json.get?, Json.nat64?_eq_some]

theorem hasTotal_iff {hits : Json} (there : answer.get? "hits" = some hits) :
    HasTotal answer n ↔ (hits.get? "total").bind total? = some n := by
  rw [Option.bind_eq_some_iff]
  simp [HasTotal, there, total?_eq_some]

/-! ## Documents -/

theorem source_eq (entry : Json) : source entry = (entry.get? "_source").getD .null := by
  rw [source]
  cases entry.get? "_source" <;> rfl

theorem isFound_eq (entry : Json) :
    isFound entry = decide (entry.get? "found" = some (.bool true)) := by
  rw [isFound]
  cases entry.get? "found" with
  | none => rfl
  | some v => cases v <;> simp [Json.bool?]

/-- The documents that are read are those that the answer shows. -/
theorem shows_documents (answer : Json) :
    Shows answer ((((listed? answer).bind Json.elements?).getD []).map source) := by
  rw [List.map_congr_left fun e _ => source_eq e]
  cases read : (listed? answer).bind Json.elements? with
  | none => exact .unlisted (Json.bind_elements?_eq_none.1 read)
  | some elements => exact .listed (Json.bind_elements?_eq_some.1 read)

/-! ## Answers -/

theorem ofAnswer_of_hits {hits : Json} (there : answer.get? "hits" = some hits) :
    ofAnswer answer =
      match (hits.get? "total").bind total? with
      | none => .error (.malformed .noTotal)
      | some total =>
        .ok ⟨total, (((listed? answer).bind Json.elements?).getD []).map source⟩ := by
  rw [ofAnswer, listed?, there]
  rfl

theorem Interprets.of_no_total {α : Type} {view : α → Hits} {e : SearchError}
    (no_total : ∀ n, ¬HasTotal answer n) (parse : e.kind = .parse) :
    Interprets answer view (.error e) where
  fails_iff := iff_of_true ⟨e, rfl, parse⟩ (not_exists.2 no_total)
  finds n total := absurd total (no_total n)

/-- Hits are read from every answer that has a total, and from no other one. -/
theorem interprets_ofAnswer (answer : Json) : Interprets answer id (ofAnswer answer) := by
  cases there : answer.get? "hits" with
  | none =>
    rw [ofAnswer, there]
    exact .of_no_total (fun n => by simp [HasTotal, there]) rfl
  | some hits =>
    rw [ofAnswer_of_hits there]
    cases read : (hits.get? "total").bind total? with
    | none => exact .of_no_total (fun n => by simp [hasTotal_iff there, read]) rfl
    | some m =>
      have total : HasTotal answer m := (hasTotal_iff there).2 read
      refine ⟨iff_of_false (by simp) fun none => none ⟨m, total⟩, fun n total' => ?_⟩
      obtain rfl : m = n := by simpa [read] using (hasTotal_iff there).1 total'
      exact ⟨_, rfl, rfl, shows_documents answer⟩

/-- A result that follows the hits of an answer says what they say. -/
theorem Interprets.of_follows {α : Type} {view : α → Hits} {result : Except SearchError α}
    (fails : ∀ e, ofAnswer answer = .error e → result = .error e)
    (finds : ∀ hits, ofAnswer answer = .ok hits → ∃ found, result = .ok found ∧ view found = hits) :
    Interprets answer view result := by
  have reads := interprets_ofAnswer answer
  cases read : ofAnswer answer with
  | error e =>
    rw [fails e read]
    rw [read] at reads
    refine ⟨by simpa using reads.fails_iff, fun n total => ?_⟩
    obtain ⟨hits, found, -⟩ := reads.finds n total
    cases found
  | ok hits =>
    obtain ⟨found, rfl, rfl⟩ := finds hits read
    rw [read] at reads
    refine ⟨⟨fun parse => by simp at parse, fun none => ?_⟩, fun n total => ?_⟩
    · simpa using reads.fails_iff.2 none
    · obtain ⟨hits, same, found⟩ := reads.finds n total
      obtain rfl := Except.ok.inj same
      exact ⟨_, rfl, found⟩

/-- Hits are read alike whether their total is an integer or an object with this integer. -/
theorem ofAnswer_withTotal {m : Int} {members : List (String × Json)}
    (total : (answer.get? "hits").bind (Json.get? "total") = some (.int m))
    (value : findEntry "value" members = some (.int m)) :
    ofAnswer (withTotal (.obj members) answer) = ofAnswer answer := by
  obtain ⟨hits, there, total⟩ := Option.bind_eq_some_iff.1 total
  have there' : (withTotal (.obj members) answer).get? "hits" =
      some (hits.update "total" fun _ => .obj members) := by
    rw [withTotal, Json.get?_update, there]
    rfl
  have list : listed? (withTotal (.obj members) answer) = listed? answer := by
    simp [listed?, there, there', Json.get?_update]
  have read : ((hits.update "total" fun _ => .obj members).get? "total").bind total? =
      (hits.get? "total").bind total? := by
    rw [Json.get?_update, total]
    exact congrArg (Option.bind · Json.nat64?) value
  rw [ofAnswer_of_hits there, ofAnswer_of_hits there', list, read]

/-! ## Entries -/

/-- The documents that were found are read from every answer that has a list of entries, if there
are any. -/
theorem collects_ofEntries (index : String) (asked : Nat) (answer : Json) :
    Collects answer (ofEntries index asked answer) := by
  rw [ofEntries]
  cases read : (answer.get? "docs").bind Json.elements? with
  | none =>
    have no_list := Json.bind_elements?_eq_none.1 read
    exact ⟨iff_of_true ⟨_, rfl, rfl⟩ (not_exists.2 no_list),
      fun entries list => absurd list (no_list entries)⟩
  | some entries =>
    have list := Json.bind_elements?_eq_some.1 read
    dsimp only
    rw [List.filter_congr fun e _ => isFound_eq e, List.map_congr_left fun e _ => source_eq e]
    refine ⟨iff_of_false ?readable fun none => none ⟨entries, list⟩, fun entries' list' => ?_⟩
    case readable =>
      rintro ⟨e, failed, parse⟩
      split at failed
      · obtain rfl := Except.error.inj failed
        cases parse
      · cases failed
    obtain rfl : entries = entries' := by simpa [list] using list'
    simp only [List.isEmpty_iff, List.map_eq_nil_iff, List.length_map]
    split
    · exact ⟨_, rfl, rfl⟩
    · rfl

end Hits

namespace Reader

variable {σ τ : Type} {engine : σ → Question → Reply × σ} {engine' : τ → Question → Reply × τ}
  {s : σ} {t : τ} {answer : Json}

/-! ## Searches and scrolls -/

theorem result_search {src : Search} {route : Route}
    (answered : (engine s (.search route src.body)).1 = .ok answer) :
    (search src route).result engine s = Hits.ofAnswer answer := by
  simp [search, answered, Except.bind]

theorem interprets_search {src : Search} {route : Route}
    (answered : (engine s (.search route src.body)).1 = .ok answer) :
    Hits.Interprets answer id ((search src route).result engine s) := by
  rw [result_search answered]
  exact Hits.interprets_ofAnswer answer

section Scroll

variable {route : Option Route} {query : Query} {size : Option Int} {sort cursor : Option String}

theorem interprets_scroll
    (answered : (engine s (pageQuestion route query size sort cursor)).1 = .ok answer) :
    Hits.Interprets answer (fun page : ScrollPage => ⟨page.total, page.documents⟩)
      ((scroll route query size sort cursor).result engine s) := by
  refine .of_follows (fun e unread => ?_) fun hits shown => ?_
  · exact (scroll_of_unread rfl (by rw [answered]; exact unread)).1
  · exact ⟨_, (scroll_of_shown rfl answered shown).1, rfl⟩

theorem named?_withTotal (total answer : Json) :
    named? (Hits.withTotal total answer) = named? answer := by
  rw [named?, named?, Hits.withTotal, Json.get?_update]
  simp

/-- A scroll sees no more of an answer than its hits and the cursor that it names. -/
theorem scroll_congr {answer' : Json}
    (answered : (engine s (pageQuestion route query size sort cursor)).1 = .ok answer)
    (answered' : (engine' t (pageQuestion route query size sort cursor)).1 = .ok answer')
    (hits : Hits.ofAnswer answer' = Hits.ofAnswer answer) (named : named? answer' = named? answer) :
    (scroll route query size sort cursor).result engine' t =
        (scroll route query size sort cursor).result engine s ∧
      (scroll route query size sort cursor).questions engine' t =
        (scroll route query size sort cursor).questions engine s := by
  cases read : Hits.ofAnswer answer with
  | error e =>
    have unread : (engine s (pageQuestion route query size sort cursor)).1.bind Hits.ofAnswer =
        .error e := by rw [answered]; exact read
    have unread' : (engine' t (pageQuestion route query size sort cursor)).1.bind Hits.ofAnswer =
        .error e := by rw [answered']; exact hits.trans read
    obtain ⟨result, questions⟩ := scroll_of_unread rfl unread
    obtain ⟨result', questions'⟩ := scroll_of_unread rfl unread'
    exact ⟨result'.trans result.symm, questions'.trans questions.symm⟩
  | ok shown =>
    obtain ⟨result, questions⟩ := scroll_of_shown rfl answered read
    obtain ⟨result', questions'⟩ := scroll_of_shown rfl answered' (hits.trans read)
    rw [result, result', questions, questions', named]
    exact ⟨rfl, rfl⟩

end Scroll

/-! ## Look-ups -/

theorem collects_byIds {route : Route} {ids : List String} (some : ids ≠ [])
    (named : ∀ id ∈ ids, Text.isAllBlank id = false)
    (answered : (engine s (.multiGet route ids)).1 = .ok answer) :
    Hits.Collects answer ((byIds route ids).result engine s) := by
  have result : (byIds route ids).result engine s =
      Hits.ofEntries route.index ids.length answer := by
    simp [byIds_of_named route some named, answered, Except.bind]
  rw [result]
  exact Hits.collects_ofEntries route.index ids.length answer

/-- **Answers are read exactly.** Whatever value the engine answers with, a search or a scroll says
that it cannot be parsed if and only if it has no total; otherwise it gives the total and one
document for each element of the list of hits, in order, which is null where the element has none.
An integer total may be replaced by an object that has it as its value, whatever else is in the
object: the result stays the same. A look-up of several documents says that the answer cannot be
parsed if and only if it has no list of entries; otherwise it gives the documents of those entries
that say that they were found, in order, with their number, and says that there is none if there is
none. -/
theorem answers_are_read_exactly (engine : σ → Question → Reply × σ) (s : σ) (answer : Json) :
    (∀ (src : Search) (route : Route), (engine s (.search route src.body)).1 = .ok answer →
      Hits.Interprets answer id ((search src route).result engine s)) ∧
    (∀ route query size sort cursor,
      (engine s (pageQuestion route query size sort cursor)).1 = .ok answer →
      Hits.Interprets answer (fun page => ⟨page.total, page.documents⟩)
        ((scroll route query size sort cursor).result engine s)) ∧
    (∀ m members, (answer.get? "hits").bind (Json.get? "total") = some (.int m) →
      findEntry "value" members = some (.int m) →
      ∀ (τ : Type) (engine' : τ → Question → Reply × τ) (t : τ),
        (∀ (src : Search) (route : Route), (engine s (.search route src.body)).1 = .ok answer →
          (engine' t (.search route src.body)).1 = .ok (Hits.withTotal (.obj members) answer) →
          (search src route).result engine' t = (search src route).result engine s) ∧
        ∀ route query size sort cursor,
          (engine s (pageQuestion route query size sort cursor)).1 = .ok answer →
          (engine' t (pageQuestion route query size sort cursor)).1 =
            .ok (Hits.withTotal (.obj members) answer) →
          (scroll route query size sort cursor).result engine' t =
              (scroll route query size sort cursor).result engine s ∧
            (scroll route query size sort cursor).questions engine' t =
              (scroll route query size sort cursor).questions engine s) ∧
    ∀ (route : Route) (ids : List String), ids ≠ [] →
      (∀ id ∈ ids, Text.isAllBlank id = false) →
      (engine s (.multiGet route ids)).1 = .ok answer →
      Hits.Collects answer ((byIds route ids).result engine s) := by
  refine ⟨fun _ _ => interprets_search, fun _ _ _ _ _ => interprets_scroll, ?_,
    fun _ _ => collects_byIds⟩
  intro m members total value τ engine' t
  have hits := Hits.ofAnswer_withTotal total value
  refine ⟨fun src route answered answered' => ?_, fun _ _ _ _ _ answered answered' => ?_⟩
  · rw [result_search answered, result_search answered', hits]
  · exact scroll_congr answered answered' hits (named?_withTotal (.obj members) answer)

/-- An answer that has a total, as a number or in an object, a hit without a document, and an entry
that does not say whether its document was found. -/
theorem answers_are_read_exactly_of_odd_entries :
    let answer : Json := .record [
      ("hits", .record [("total", .nat 5), ("hits", .arr [.record [("_source", .nat 7)], .null])]),
      ("docs", .arr [.record [("found", .bool true), ("_source", .nat 7)],
        .record [("found", .str "true"), ("_source", .nat 8)]])]
    let engine (answer : Json) : Unit → Question → Reply × Unit := fun _ _ => (.ok answer, ())
    let total : Json := .obj [("relation", .str "gte"), ("value", .nat 5)]
    let route : Route := ⟨"joox_tracks", "_doc"⟩
    let query : Query := .wildcard "title" "lo*"
    (∃ found, (search (.ofQuery query) route).result (engine answer) () = .ok found ∧
      found.total = 5 ∧ Hits.Shows answer found.documents) ∧
    (∃ page, (scroll route query none none none).result (engine answer) () = .ok page ∧
      page.total = 5 ∧ Hits.Shows answer page.documents) ∧
    (search (.ofQuery query) route).result (engine (Hits.withTotal total answer)) () =
      (search (.ofQuery query) route).result (engine answer) () ∧
    (byIds route ["1", "2"]).result (engine answer) () = .ok ⟨1, [.nat 7]⟩ := by
  intro answer engine total route query
  obtain ⟨searches, scrolls, alike, lookups⟩ := answers_are_read_exactly (engine answer) () answer
  have hasTotal : Hits.HasTotal answer 5 := ⟨_, _, rfl, rfl, by decide, .inl rfl⟩
  obtain ⟨same, -⟩ := alike 5 [("relation", .str "gte"), ("value", .nat 5)] rfl rfl Unit
    (engine (Hits.withTotal total answer)) ()
  refine ⟨(searches _ _ rfl).finds 5 hasTotal, (scrolls _ _ _ _ _ rfl).finds 5 hasTotal,
    same _ _ rfl rfl, ?_⟩
  exact (lookups route ["1", "2"] (by decide) (by decide) rfl).finds _ rfl

end Reader

end CatalogSearch
