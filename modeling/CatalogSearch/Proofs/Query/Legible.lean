import Mathlib.Logic.Function.Basic
import CatalogSearch.Proofs.Query.Members

/-!
# Rendering loses nothing

A query is rendered as an object with one member, which names its kind. Of two legible queries with
the same rendering each part is the same, and so are their clauses, by induction on how the first
one is put together (`Query.eq_of_render`).
-/

namespace CatalogSearch

/-! ## Options -/

theorem Json.ofDouble_inj {x y : Double} (finite : x.isFinite = true)
    (finite' : y.isFinite = true) : ofDouble x = ofDouble y ↔ x = y := by
  simp [ofDouble, finite, finite']

theorem Json.nat_injective : Function.Injective nat := fun _ _ same =>
  Int.ofNat.inj (Json.int.inj same)

theorem Json.strings_injective : Function.Injective strings := fun l l' same => by
  have injective : Function.Injective Json.str := fun a b same => Json.str.inj same
  exact injective.list_map (Json.arr.inj same)

theorem Fuzziness.toJson_injective : Function.Injective toJson := fun z z' same => by
  cases z with
  | auto =>
    cases z' with
    | auto => rfl
    | edits n => cases same
  | edits n =>
    cases z' with
    | auto => cases same
    | edits n' => rw [Json.nat_injective same]

theorem Join.name_injective : Function.Injective name := fun j j' same => by
  cases j <;> cases j' <;> simp_all [name]

theorem Join.toJson_injective : Function.Injective fun j : Join => Json.str j.name :=
  fun _ _ same => name_injective (Json.str.inj same)

namespace Query

variable {q q' : Query} {field field' : String}

/-- Boosts that are finite are told apart. -/
theorem eq_of_map_ofDouble {boost boost' : Option Double}
    (finite : ∀ b, boost = some b → b.isFinite = true)
    (finite' : ∀ b, boost' = some b → b.isFinite = true)
    (same : boost.map Json.ofDouble = boost'.map Json.ofDouble) : boost = boost' := by
  cases boost <;> cases boost' <;> simp_all [Json.ofDouble_inj]

/-- Fields that are left out when there are none are told apart all the same. -/
theorem eq_of_listed {fields fields' : List String}
    (same : (if fields = [] then none else some (Json.strings fields)) =
      if fields' = [] then none else some (Json.strings fields')) : fields = fields' := by
  by_cases missing : fields = [] <;> by_cases missing' : fields' = [] <;>
    simp_all [Json.strings_injective.eq_iff]

theorem weightedFields_empty (fields : List String) : weightedFields fields .empty = fields := by
  have plain : weighted .empty = id := rfl
  show fields.map (weighted .empty) ++ [] = fields
  rw [plain, List.map_id, List.append_nil]

theorem clauses_injective : Function.Injective clauses := fun l l' same => by
  cases l <;> cases l' <;> simp_all [clauses]

/-- If each clause of a list is told from all legible queries, so is the list from all lists of
them. -/
theorem eq_of_renderAll {l l' : List Query}
    (told : ∀ q ∈ l, ∀ q', Legible q' → q.render = q'.render → q = q')
    (legible' : ∀ q ∈ l', Legible q) (same : renderAll l = renderAll l') : l = l' := by
  induction l generalizing l' with
  | nil =>
    cases l' with
    | nil => rfl
    | cons q' l' => cases same
  | cons q l ih =>
    cases l' with
    | nil => cases same
    | cons q' l' =>
      obtain ⟨first, rest⟩ := List.cons.inj same
      rw [told q List.mem_cons_self q' (legible' q' List.mem_cons_self) first,
        ih (fun q mem => told q (List.mem_cons_of_mem _ mem))
          (fun q mem => legible' q (List.mem_cons_of_mem _ mem)) rest]

/-! ## Queries of one kind -/

/-- An exact value that is not an object is not one with a boost. -/
theorem render_term_ne {value value' : Json} {b : Double} (plain : value.fields? = none) :
    (Query.term field value none).render ≠ (Query.term field' value' (some b)).render := by
  intro same
  obtain ⟨-, -, body⟩ := tagged_tagged_inj.1 same
  rw [body] at plain
  cases plain

theorem eq_of_render_boosted {value value' : Json} {b b' : Double} (finite : b.isFinite = true)
    (finite' : b'.isFinite = true)
    (same : (Query.term field value (some b)).render =
      (Query.term field' value' (some b')).render) :
    Query.term field value (some b) = .term field' value' (some b') := by
  obtain ⟨-, rfl, body⟩ := tagged_tagged_inj.1 same
  have member (name : String) := congrArg (Json.get? name) body
  have values : value = value' := by simpa using member "value"
  have boosts : b = b' := by simpa [Json.ofDouble_inj finite finite'] using member "boost"
  rw [values, boosts]

theorem eq_of_render_match {value value' : Json} {boost boost' : Option Double}
    {fuzziness fuzziness' : Option Fuzziness} {join join' : Option Join}
    (finite : ∀ b, boost = some b → b.isFinite = true)
    (finite' : ∀ b, boost' = some b → b.isFinite = true)
    (same : (Query.matchText field value boost fuzziness join).render =
      (Query.matchText field' value' boost' fuzziness' join').render) :
    Query.matchText field value boost fuzziness join =
      .matchText field' value' boost' fuzziness' join' := by
  obtain ⟨-, rfl, body⟩ := tagged_tagged_inj.1 same
  have member (name : String) := congrArg (Json.get? name) body
  have values : value = value' := by simpa using member "query"
  have boosts : boost = boost' :=
    eq_of_map_ofDouble finite finite' (by simpa using member "boost")
  have edits : fuzziness = fuzziness' :=
    Option.map_injective Fuzziness.toJson_injective (by simpa using member "fuzziness")
  have joins : join = join' :=
    Option.map_injective Join.toJson_injective (by simpa using member "operator")
  rw [values, boosts, edits, joins]

/-- Windows with the same bounds, of which there is one, include them both or exclude them both. -/
theorem eq_of_render_range {lower lower' upper upper' : Option Json}
    {bounds bounds' : Bounds} (bounded : lower.isSome ∨ upper.isSome)
    (same : (Query.range field lower upper bounds).render =
      (Query.range field' lower' upper' bounds').render) :
    Query.range field lower upper bounds = .range field' lower' upper' bounds' := by
  obtain ⟨-, rfl, body⟩ := tagged_tagged_inj.1 same
  have member (name : String) := congrArg (Json.get? name) body
  cases bounds <;> cases bounds'
  case inclusive.inclusive =>
    have low : lower = lower' := by simpa using member "gte"
    have high : upper = upper' := by simpa using member "lte"
    rw [low, high]
  case exclusive.exclusive =>
    have low : lower = lower' := by simpa using member "gt"
    have high : upper = upper' := by simpa using member "lt"
    rw [low, high]
  case inclusive.exclusive =>
    have low : lower = none := by simpa using member "gte"
    have high : upper = none := by simpa using member "lte"
    simp [low, high] at bounded
  case exclusive.inclusive =>
    have low : lower = none := by simpa using member "gt"
    have high : upper = none := by simpa using member "lt"
    simp [low, high] at bounded

theorem eq_of_render_multiMatch {fields fields' : List String} {value value' : Json}
    {fuzziness fuzziness' : Option Fuzziness}
    (same : (Query.multiMatch fields value .empty fuzziness).render =
      (Query.multiMatch fields' value' .empty fuzziness').render) :
    Query.multiMatch fields value .empty fuzziness =
      .multiMatch fields' value' .empty fuzziness' := by
  have body := (tagged_inj.1 same).2
  have member (name : String) := congrArg (Json.get? name) body
  have values : value = value' := by simpa using member "query"
  have names : fields = fields' := by
    have listed : Json.strings fields = Json.strings fields' := by
      simpa [weightedFields_empty] using member "fields"
    exact Json.strings_injective listed
  have edits : fuzziness = fuzziness' :=
    Option.map_injective Fuzziness.toJson_injective (by simpa using member "fuzziness")
  rw [values, names, edits]

theorem eq_of_render_queryString {text text' : String} {allIds allIds' : Bool}
    {fields fields' : List String}
    (same : (Query.queryString text allIds fields).render =
      (Query.queryString text' allIds' fields').render) :
    Query.queryString text allIds fields = .queryString text' allIds' fields' := by
  have body := (tagged_inj.1 same).2
  have member (name : String) := congrArg (Json.get? name) body
  have texts : text = text' := by simpa using member "query"
  have ids : allIds = allIds' := by
    have joins : (if allIds then Join.or else Join.and) = if allIds' then .or else .and :=
      Join.name_injective (by simpa using member "default_operator")
    cases allIds <;> cases allIds' <;> simp_all
  have names : fields = fields' := eq_of_listed (by simpa using member "fields")
  rw [texts, ids, names]

/-- **Legible queries with the same rendering are the same.** -/
theorem eq_of_render (legible : Legible q) (legible' : Legible q') (same : q.render = q'.render) :
    q = q' := by
  induction legible generalizing q' with
  | term plain =>
    cases legible' with
    | term plain' =>
      obtain ⟨-, rfl, rfl⟩ := tagged_tagged_inj.1 same
      rfl
    | boosted => exact absurd same (render_term_ne plain)
    | _ => exact absurd (kind_eq_of_render same) (by simp [kind])
  | boosted finite =>
    cases legible' with
    | boosted finite' => exact eq_of_render_boosted finite finite' same
    | term plain' => exact absurd same.symm (render_term_ne plain')
    | _ => exact absurd (kind_eq_of_render same) (by simp [kind])
  | terms =>
    cases legible' with
    | terms =>
      obtain ⟨-, rfl, body⟩ := tagged_tagged_inj.1 same
      rw [Json.arr.inj body]
    | _ => exact absurd (kind_eq_of_render same) (by simp [kind])
  | matchText finite =>
    cases legible' with
    | matchText finite' => exact eq_of_render_match finite finite' same
    | _ => exact absurd (kind_eq_of_render same) (by simp [kind])
  | range bounded =>
    cases legible' with
    | range => exact eq_of_render_range bounded same
    | _ => exact absurd (kind_eq_of_render same) (by simp [kind])
  | multiMatch =>
    cases legible' with
    | multiMatch => exact eq_of_render_multiMatch same
    | _ => exact absurd (kind_eq_of_render same) (by simp [kind])
  | wildcard =>
    cases legible' with
    | wildcard =>
      obtain ⟨-, rfl, body⟩ := tagged_tagged_inj.1 same
      rw [Json.str.inj (tagged_inj.1 body).2]
    | _ => exact absurd (kind_eq_of_render same) (by simp [kind])
  | queryString =>
    cases legible' with
    | queryString => exact eq_of_render_queryString same
    | _ => exact absurd (kind_eq_of_render same) (by simp [kind])
  | bool must_legible should_legible mustNot_legible must_told should_told mustNot_told =>
    cases legible' with
    | bool must_legible' should_legible' mustNot_legible' =>
      have member (name : String) := congrArg (Json.get? name) (tagged_inj.1 same).2
      have must := eq_of_renderAll (fun q mem _ => must_told q mem) must_legible'
        (clauses_injective (by simpa using member "must"))
      have should := eq_of_renderAll (fun q mem _ => should_told q mem) should_legible'
        (clauses_injective (by simpa using member "should"))
      have mustNot := eq_of_renderAll (fun q mem _ => mustNot_told q mem) mustNot_legible'
        (clauses_injective (by simpa using member "must_not"))
      have minimum := Option.map_injective Json.nat_injective
        (by simpa using member "minimum_should_match")
      rw [must, should, mustNot, minimum]
    | _ => exact absurd (kind_eq_of_render same) (by simp [kind])

/-! ## What can be read back -/

/-- **Rendering loses nothing.** Two legible queries with the same rendering are the same, however
deep they are. Every query is rendered as an object with one member, which names its kind, and of
every combination the clauses of each list can be read back, all of them and in order. -/
theorem rendering_loses_nothing :
    (∀ q q', Legible q → Legible q' → q.render = q'.render → q = q') ∧
      (∀ q : Query, ∃ body, q.render = .obj [(q.kind, body)]) ∧
      ∀ must should mustNot minimum,
        let dsl := (Query.bool must should mustNot minimum).render
        clausesIn "must" dsl = must.map render ∧ clausesIn "should" dsl = should.map render ∧
          clausesIn "must_not" dsl = mustNot.map render := by
  refine ⟨fun q q' => eq_of_render, fun q => q.render_eq, fun must should mustNot minimum => ?_⟩
  exact ⟨clausesIn_must _ _ _ _, clausesIn_should _ _ _ _, clausesIn_mustNot _ _ _ _⟩

/-- Two combinations that differ in the bounds of a window, two combinations further down. -/
theorem rendering_loses_nothing_of_bounds :
    let query (window : Query) : Query :=
      .all [.exactly "status" (.nat 1), .noneOf [.all [] [window]]] [.pattern "title" "lo*"]
    let window (bounds : Bounds) : Query := .range "score" none (some (.nat 10)) bounds
    Legible (query (window .inclusive)) ∧ Legible (query (window .exclusive)) ∧
      (query (window .inclusive)).render ≠ (query (window .exclusive)).render := by
  intro query window
  have inner (bounds : Bounds) : Legible (.all [] [window bounds]) :=
    .bool (by simp) (List.forall_mem_singleton.2 (.range (.inr rfl))) (by simp)
  have legible (bounds : Bounds) : Legible (query (window bounds)) :=
    .bool (List.forall_mem_cons.2 ⟨.term rfl, List.forall_mem_singleton.2
        (.bool (by simp) (by simp) (List.forall_mem_singleton.2 (inner bounds)))⟩)
      (List.forall_mem_singleton.2 .wildcard) (by simp)
  refine ⟨legible _, legible _, fun same => ?_⟩
  have equal := rendering_loses_nothing.1 _ _ (legible _) (legible _) same
  simp [query, window, all, noneOf] at equal

end Query

end CatalogSearch
