import CatalogSearch.Catalog.Origin
import CatalogSearch.Proofs.Batcher.Provenance
import CatalogSearch.Proofs.Catalog.Route
import CatalogSearch.Proofs.Json.Views
import CatalogSearch.Wire.EmptyType

/-!
# Declarations without a type

A declaration that is made from its parts has a type, since the default one stands for an empty one.
One that is read has the type that it is read with, and nothing behind looks at it again: it is
taken like any other, and named to a typed engine as it is (`empty_type_iff_read`).
-/

namespace CatalogSearch

/-! ## From the origin -/

theorem Declaration.ofFields?_docType {index docType id payload isDelete : Option Json}
    {d : Declaration} (read : ofFields? index docType id payload isDelete = some d) :
    docType = some (.str d.docType) := by
  simp only [ofFields?, Option.bind_eq_bind, Option.bind_eq_some_iff, Option.pure_def,
    Option.some.injEq] at read
  obtain ⟨_, -, _, -, t, rfl, text, own, _, -, _, -, _, -, _, -, _, -, _, -, rfl⟩ := read
  exact congrArg some (Json.text?_eq_some.1 own)

/-- A declaration that is read has the type that is given. -/
theorem Declaration.givenType?_of_ofJson? {v : Json} {d : Declaration} (read : ofJson? v = some d) :
    Origin.givenType? v = some (.str d.docType) := by
  unfold ofJson? at read
  split at read
  · exact ofFields?_docType read
  · exact ofFields?_docType read
  · cases read

namespace Origin

variable {o : Origin} {d : Declaration}

/-- A declaration has an empty type only if it is read with one. -/
theorem docType_eq_empty_iff (made : o.declaration? = some d) :
    d.docType = "" ↔ o.ReadsEmptyType := by
  have not_empty {index docType id : String} {payload : Option (FieldMap Json)} {isDelete : Bool} :
      (Declaration.make index docType id payload isDelete).docType ≠ "" :=
    typeOrDefault_ne_empty docType
  cases o with
  | read v =>
    rw [ReadsEmptyType, Declaration.givenType?_of_ofJson? made, Option.some.injEq, Json.str.injEq]
  | made | upsert | delete =>
    obtain rfl := Option.some.inj made
    exact iff_of_false not_empty id

end Origin

/-! ## On the wire -/

namespace Wire

open Batcher (Action Deployment Event Reaches Write accepted immediate? requests run)

theorem exists_action_iff (d : Declaration) :
    (∃ line ∈ Protocol.typed.declarationLines d, actionType? line = some (.str "")) ↔
      d.docType = "" := by
  cases kind : d.isDelete <;>
    simp [Protocol.declarationLines, Protocol.target, Declaration.upsertBody, actionType?, kind]

/-- A write names an empty type exactly if one of its declarations has one. -/
theorem namesEmptyType_iff (w : Write) :
    NamesEmptyType w ↔ ∃ d ∈ w.declarations, d.docType = "" := by
  cases w with
  | upsert d | delete d =>
    rw [NamesEmptyType, ← String.toList_inj]
    simp [Write.declarations, Protocol.updatePath, Protocol.deletePath]
  | bulk ds own =>
    simp only [NamesEmptyType, Protocol.bulkLines, List.mem_flatMap, Write.declarations]
    constructor
    · rintro ⟨line, ⟨d, mem, inside⟩, empty⟩
      exact ⟨d, mem, (exists_action_iff d).1 ⟨line, inside, empty⟩⟩
    · rintro ⟨d, mem, empty⟩
      obtain ⟨line, inside, empty⟩ := (exists_action_iff d).2 empty
      exact ⟨line, ⟨d, mem, inside⟩, empty⟩

/-- **Where an empty type comes from.** A declaration has an empty type if and only if it is read
from a JSON form that gives an empty one. What a batcher answers at once, and so whether it takes
declarations, does not depend on their types. A write names an empty type to a typed engine, in its
path or in an action line, if and only if one of its declarations has one; and whatever a batcher
asks the engine for was brought to it by a call, as it is. So if no declaration that is brought is
read with an empty type, none is ever named. -/
theorem empty_type_iff_read (c : Deployment) :
    (∀ (o : Origin) d, o.declaration? = some d → (d.docType = "" ↔ o.ReadsEmptyType)) ∧
    (∀ s docType op, immediate? s (op.retyped docType) = immediate? s op) ∧
    (∀ w, NamesEmptyType w ↔ ∃ d ∈ w.declarations, d.docType = "") ∧
    ∀ as s es, run c (.initial c) as = some (s, es) →
      (∀ who w, .asked who w ∈ es → ∀ d ∈ w.declarations,
        ∃ call op, .begun call op ∈ es ∧ d ∈ op.declarations) ∧
      ((∀ call op, .begun call op ∈ es → ∀ d ∈ op.declarations,
          ∃ o : Origin, o.declaration? = some d ∧ ¬o.ReadsEmptyType) →
        ∀ who w, .asked who w ∈ es → ¬NamesEmptyType w) := by
  refine ⟨fun _ _ => Origin.docType_eq_empty_iff, Batcher.immediate?_retyped, namesEmptyType_iff,
    ?_⟩
  intro as s es h
  have reached := Reaches.of_run h
  refine ⟨fun who w asked d => reached.brought asked, fun typed who w asked names => ?_⟩
  obtain ⟨d, mem, empty⟩ := (namesEmptyType_iff w).1 names
  obtain ⟨call, op, begun, brings⟩ := reached.brought asked mem
  obtain ⟨o, made, given⟩ := typed call op begun d brings
  exact given ((Origin.docType_eq_empty_iff made).1 empty)

/-- A bulk request of a deletion that is made with an empty type and of one that is read with a
type. -/
theorem empty_type_iff_read_of_mixed_origins :
    let c : Deployment := ⟨⟨2, 10, 10, 10⟩, .common, by decide⟩
    let made : Origin := .delete "tracks" "" "1"
    let read : Origin := .read (.arr [.str "tracks", .str "t", .str "2", .null, .bool true])
    let ds : List Declaration :=
      [⟨"tracks", "_doc", "1", none, true⟩, ⟨"tracks", "t", "2", none, true⟩]
    [made, read].map Origin.declaration? = ds.map some ∧
    ∃ s es, run c (.initial c) [.begin 0 (.applyBatch ds)] = some (s, es) ∧
      .asked (.call 0) (.bulk ds 10) ∈ es ∧ ¬NamesEmptyType (.bulk ds 10) := by
  intro c made read ds
  have ran : (run c (.initial c) [.begin 0 (.applyBatch ds)]).map Prod.snd =
      some [.begun 0 (.applyBatch ds), .asked (.call 0) (.bulk ds 10)] := rfl
  obtain ⟨⟨s, es⟩, h, rfl⟩ := Option.map_eq_some_iff.1 ran
  have asked : .asked (.call 0) (.bulk ds 10) ∈
      [Event.begun 0 (.applyBatch ds), .asked (.call 0) (.bulk ds 10)] :=
    List.mem_cons_of_mem _ List.mem_cons_self
  refine ⟨rfl, s, _, h, asked, ?_⟩
  refine ((empty_type_iff_read c).2.2.2 _ s _ h).2 (fun call op begun d mem => ?_) _ _ asked
  obtain ⟨-, rfl⟩ : call = 0 ∧ op = .applyBatch ds := by simpa using begun
  rcases List.mem_cons.1 mem with rfl | mem
  · exact ⟨made, rfl, id⟩
  · obtain rfl := List.mem_singleton.1 mem
    exact ⟨read, rfl, by simp [read, Origin.ReadsEmptyType, Origin.givenType?]⟩

/-- A declaration that is read with an empty type is queued, and written directly, like any other.
Its path has nothing between the index and the id, and its action line an empty type. -/
theorem read_with_empty_type :
    let c : Deployment := ⟨⟨1, 10, 10, 10⟩, .common, by decide⟩
    let members : Json := .record [("index", .str "i"), ("doc_type", .str ""), ("id", .str "1"),
      ("is_delete", .bool true)]
    let elements : Json := .arr [.str "i", .str "", .str "1", .null, .bool true]
    let d : Declaration := ⟨"i", "", "1", none, true⟩
    let as : List Action :=
      [.begin 0 (.enqueue d), .send 0, .begin 1 (.apply d), .begin 2 (.applyBatch [d])]
    Declaration.ofJson? members = some d ∧ Declaration.ofJson? elements = some d ∧
    (run c (.initial c) as).map (fun m => (accepted m.2, requests m.2)) =
      some ([⟨0, d⟩], [(.call 1, .delete d), (.call 2, .bulk [d] 10)]) ∧
    Protocol.typed.deletePath d.index d.docType d.id = "/i//1" ∧
    NamesEmptyType (.delete d) ∧ NamesEmptyType (.bulk [d] 10) := by
  intro c members elements d as
  refine ⟨rfl, rfl, rfl, rfl, ?_, ?_⟩
  · exact (namesEmptyType_iff _).2 ⟨d, List.mem_singleton_self d, rfl⟩
  · exact (namesEmptyType_iff _).2 ⟨d, List.mem_singleton_self d, rfl⟩

end Wire

end CatalogSearch
