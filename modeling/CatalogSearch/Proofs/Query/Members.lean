import CatalogSearch.Proofs.Engine.Documents
import CatalogSearch.Query.Clauses

/-!
# The members of rendered queries

A rendered query is an object with one member, which names its kind (`Query.render_eq`). It mostly
holds objects, of which some members may be missing: they are read by name
(`Query.get?_present_cons`), and written out by putting the members in one after the other
(`Query.present_eq`).
-/

namespace CatalogSearch

universe u

/-! ## Objects -/

section Entries

variable {α : Type u} {k k' : String} {x x' : α} {l : List (String × α)}

@[simp] theorem insertEntry_nil : insertEntry k x [] = [(k, x)] := rfl

theorem insertEntry_of_lt (first : k < k') :
    insertEntry k x ((k', x') :: l) = (k, x) :: (k', x') :: l := if_pos first

theorem insertEntry_of_gt (later : k' < k) :
    insertEntry k x ((k', x') :: l) = (k', x') :: insertEntry k x l := by
  have other : k ≠ k' := fun same => String.lt_irrefl k' (same ▸ later)
  rw [insertEntry, if_neg fun first => String.lt_irrefl k (String.lt_trans first later),
    if_neg other]

end Entries

/-- Entries are added one after the other, each in its place. -/
theorem FieldMap.toList_extend {α : Type u} (m : FieldMap α) (l : List (String × α)) :
    (m.extend l).toList = l.foldl (fun entries e => insertEntry e.1 e.2 entries) m.toList := by
  induction l generalizing m with
  | nil => rfl
  | cons e l ih => exact ih (m.insert e.1 e.2)

namespace Query

variable {name name' field field' : String} {value value' : Json}

theorem tagged_eq (name : String) (value : Json) : tagged name value = .obj [(name, value)] := rfl

theorem tagged_inj : tagged name value = tagged name' value' ↔ name = name' ∧ value = value' := by
  simp [tagged_eq]

theorem tagged_tagged_inj : tagged name (tagged field value) = tagged name' (tagged field' value') ↔
    name = name' ∧ field = field' ∧ value = value' := by
  rw [tagged_inj, tagged_inj]

/-! ## Objects with members that may be missing -/

/-- The members that are there are put in, one after the other. -/
theorem present_eq (l : List (String × Option Json)) :
    present l =
      .obj (l.foldl (fun entries e => e.2.elim entries (insertEntry e.1 · entries)) []) := by
  rw [present, Json.record, Json.object, FieldMap.ofList, FieldMap.toList_extend,
    List.foldl_filterMap]
  refine congrArg Json.obj (congrArg (List.foldl · [] l) ?_)
  funext entries e
  cases e.2 <;> rfl

@[simp] theorem get?_present_nil (k : String) : (present []).get? k = none := rfl

@[simp] theorem get?_present_cons (e : String × Option Json) (l : List (String × Option Json))
    (k : String) :
    (present (e :: l)).get? k = ((present l).get? k).or (if k = e.1 then e.2 else none) := by
  obtain ⟨name, value⟩ := e
  cases value with
  | none => simp [present]
  | some value => exact Json.get?_record_cons (name, value) _ k

/-! ## Kinds and parts -/

theorem part?_tagged (kind name : String) (body : Json) :
    part? kind name (tagged kind body) = body.get? name := by
  simp [part?, tagged_eq, Json.get?, findEntry]

/-- A query is rendered as an object with one member, named for its kind. -/
theorem render_eq (q : Query) : ∃ body, q.render = tagged q.kind body := by
  cases q with
  | term field value boost => cases boost <;> exact ⟨_, rfl⟩
  | _ => exact ⟨_, rfl⟩

theorem kind_eq_of_render {q q' : Query} (same : q.render = q'.render) : q.kind = q'.kind := by
  obtain ⟨body, eq⟩ := q.render_eq
  obtain ⟨body', eq'⟩ := q'.render_eq
  exact (tagged_inj.1 (eq.symm.trans (same.trans eq'))).1

theorem isSome_get?_render (q : Query) (name : String) :
    (q.render.get? name).isSome = decide (q.kind = name) := by
  obtain ⟨body, eq⟩ := q.render_eq
  rw [eq, tagged_eq, Json.get?, findEntry]
  by_cases own : name = q.kind <;> simp [own, findEntry, eq_comm]

/-! ## Combinations -/

theorem elements_clauses (l : List Json) : ((clauses l).bind Json.elements?).getD [] = l := by
  cases l <;> rfl

variable (must should mustNot : List Query) (minimum : Option Nat)

theorem clausesIn_must :
    clausesIn "must" (Query.bool must should mustNot minimum).render = must.map render := by
  simp [clausesIn, render, part?_tagged, elements_clauses, renderAll_eq_map]

theorem clausesIn_should :
    clausesIn "should" (Query.bool must should mustNot minimum).render = should.map render := by
  simp [clausesIn, render, part?_tagged, elements_clauses, renderAll_eq_map]

theorem clausesIn_mustNot :
    clausesIn "must_not" (Query.bool must should mustNot minimum).render = mustNot.map render := by
  simp [clausesIn, render, part?_tagged, elements_clauses, renderAll_eq_map]

end Query

end CatalogSearch
