import CatalogSearch.Proofs.Query.Boosts

/-!
# The clauses of intents

An intent is rendered as a combination that lists one clause for each entry of each of its parts,
part after part and each part in name order, and nothing else (`Intent.intent_is_its_clauses`). The
object of a combination has no members for lists without clauses (`Query.render_all`), so that an
intent without clauses is the empty combination.
-/

namespace CatalogSearch

namespace Query

/-- A combination has a list for its clauses and one for its alternatives, if there are any, and
with alternatives it says that one of them is enough. -/
theorem render_all (must should : List Query) :
    (all must should).render = .obj [("bool", .obj <|
      (if should = [] then [] else [("minimum_should_match", .nat 1)]) ++
        (if must = [] then [] else [("must", .arr (must.map render))]) ++
        (if should = [] then [] else [("should", .arr (should.map render))]))] := by
  cases must <;> cases should <;>
    simp (disch := decide) [all, render, renderAll_eq_map, clauses, present_eq, insertEntry_of_lt,
      insertEntry_of_gt, tagged_eq]

end Query

namespace Intent

open Query

/-! ## One clause -/

theorem render_exactly (e : String × Json) : (exactly e.1 e.2).render = termClause e := rfl

theorem render_containing (e : String × Json) : (containing e.1 e.2).render = matchClause e := by
  simp (disch := decide) [containing, render, present_eq, insertEntry_of_lt, insertEntry_of_gt,
    tagged_eq, matchClause, minimumShare]

/-- A window has the bounds that are not open. -/
theorem render_between (e : String × Window) :
    (between e.1 e.2.lower e.2.upper).render = rangeClause e := by
  obtain ⟨field, lower, upper⟩ := e
  cases lower <;> cases upper <;>
    simp (disch := decide) [between, render, present_eq, insertEntry_of_gt, tagged_eq, rangeClause]

/-- Fields that a query string is not given are left to the engine. -/
theorem render_queryString (fields : List String) (text : String) :
    (Query.queryString text true fields).render = queryStringClause fields text := by
  cases fields <;>
    simp (disch := decide) [render, present_eq, insertEntry_of_lt, insertEntry_of_gt, tagged_eq,
      queryStringClause, minimumShare, Join.name, ofDouble_tieBreaker]

/-! ## All clauses -/

theorem map_render_mustClauses (i : Intent) : i.mustClauses.map render = i.mustList := by
  simp only [mustClauses, mustList, List.map_append, List.map_map, Function.comp_def,
    render_exactly, render_containing, render_between, render_queryString, render_multiMatchQuery]

theorem map_render_should (i : Intent) :
    (i.should.toList.map fun e => exactly e.1 e.2).map render = i.shouldList :=
  List.map_map ..

/-- An intent without clauses is empty, whatever its fields and boosts. -/
theorem isEmpty_iff (i : Intent) : i.isEmpty = true ↔ i.mustList = [] ∧ i.shouldList = [] := by
  simp [isEmpty, FieldMap.isEmpty, mustList, shouldList, and_assoc]

/-- **An intent is exactly its clauses.** It is rendered as a combination whose clauses are those of
its exact values, its full texts, its windows, its query string and its texts in several fields, and
whose alternatives are those that it has; a list without clauses is missing, and one match is asked
for exactly when there are alternatives. What is rendered is the empty combination if and only if
the intent counts as empty. -/
theorem intent_is_its_clauses (i : Intent) :
    (i.toQuery.render = .obj [("bool", .obj <|
        (if i.shouldList = [] then [] else [("minimum_should_match", .nat 1)]) ++
          (if i.mustList = [] then [] else [("must", .arr i.mustList)]) ++
          (if i.shouldList = [] then [] else [("should", .arr i.shouldList)]))]) ∧
      clausesIn "must" i.toQuery.render = i.mustList ∧
      clausesIn "should" i.toQuery.render = i.shouldList ∧
      (i.toQuery.render = .obj [("bool", .obj [])] ↔ i.isEmpty = true) := by
  have must : clausesIn "must" i.toQuery.render = i.mustList :=
    (clausesIn_must ..).trans i.map_render_mustClauses
  have should : clausesIn "should" i.toQuery.render = i.shouldList :=
    (clausesIn_should ..).trans i.map_render_should
  have whole := render_all i.mustClauses (i.should.toList.map fun e => exactly e.1 e.2)
  simp only [← List.map_eq_nil_iff (f := render), map_render_mustClauses, map_render_should]
    at whole
  refine ⟨whole, must, should, fun none_shown => ?_, fun empty => ?_⟩
  · rw [isEmpty_iff, ← must, ← should, none_shown]
    exact ⟨rfl, rfl⟩
  · obtain ⟨no_must, no_should⟩ := i.isEmpty_iff.1 empty
    rw [toQuery, whole, no_must, no_should]
    rfl

end Intent

end CatalogSearch
