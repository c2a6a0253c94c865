import CatalogSearch.Proofs.Catalog.Identity
import CatalogSearch.Proofs.Engine.Documents
import CatalogSearch.Simulation.ScriptedEngine

/-!
# To look many up is to look each up

A reader looks one document up by a question of its own and many by one question for all. Where
documents are kept in memory, what is found for many is what is found for each, one after the other
(`lookups_unite`): both gather what there is for a list of ids (`Gathers`), and what there is for
several lists is what there is for each.
-/

namespace CatalogSearch

open Simulation (ScriptedEngine)

variable {docs : Documents} {index : String} {ids : List String} {route : Route}

/-- An engine that keeps documents in memory. -/
def Documents.memory (docs : Documents) (q : Question) : Reply × Documents :=
  (ScriptedEngine.fromMemory docs q, docs)

/-- The documents that there are for a list of ids, in its order. -/
def Documents.listed (docs : Documents) (index : String) (ids : List String) : List Json :=
  ids.filterMap fun id => (docs.find? ⟨index, id⟩).map .object

theorem Documents.listed_flatMap {ι : Type} (docs : Documents) (index : String) (xs : List ι)
    (ids : ι → List String) :
    docs.listed index (xs.flatMap ids) = xs.flatMap fun x => docs.listed index (ids x) :=
  List.filterMap_flatMap

/-! ## Reading the answers -/

theorem Hits.isFound_getAnswer (docs : Documents) (index id : String) :
    isFound (docs.getAnswer index id) = (docs.find? ⟨index, id⟩).isSome := by
  unfold Documents.getAnswer isFound
  cases docs.find? ⟨index, id⟩ <;> simp [Json.bool?]

theorem Hits.source_getAnswer {id : String} {x : FieldMap Json}
    (there : docs.find? ⟨index, id⟩ = some x) :
    source (docs.getAnswer index id) = .object x := by
  unfold Documents.getAnswer source
  simp [there, Json.orNull]

theorem Hits.sources_getAnswer (docs : Documents) (index : String) (ids : List String) :
    ((ids.map (docs.getAnswer index)).filter isFound).map source = docs.listed index ids := by
  induction ids with
  | nil => rfl
  | cons id ids ih =>
    unfold Documents.listed at ih ⊢
    rw [List.map_cons, List.filter_cons, isFound_getAnswer]
    cases there : docs.find? ⟨index, id⟩ with
    | none => simpa [there] using ih
    | some x => simpa [there, source_getAnswer there] using ih

theorem Hits.ofEntries_multiGetAnswer (docs : Documents) (index : String) (asked : Nat)
    (ids : List String) :
    ofEntries index asked (docs.multiGetAnswer index ids) =
      if docs.listed index ids = [] then .error (.absent (.allOf asked index))
      else .ok ⟨(docs.listed index ids).length, docs.listed index ids⟩ := by
  have entries : ((docs.multiGetAnswer index ids).get? "docs").bind Json.elements? =
      some (ids.map (docs.getAnswer index)) := by
    simp [Documents.multiGetAnswer, Json.elements?]
  simp only [ofEntries, entries, sources_getAnswer, List.isEmpty_iff]

/-! ## What a look-up gathers -/

/-- The class of the error of a look-up that fails. -/
def errorKind? {α : Type} : Except SearchError α → Option ErrorKind
  | .ok _ => none
  | .error e => some e.kind

/-- The documents that a look-up finds. -/
def documentsOf : Except SearchError Hits → List Json
  | .ok h => h.documents
  | .error _ => []

/-- A look-up of a list of ids finds what there is for them. It fails if there is nothing, and is
refused if there are no ids. -/
inductive Gathers (docs : Documents) (index : String) :
    List String → Except SearchError Hits → Prop
  | refused {e : SearchError} (invalid : e.kind = .invalidInput) : Gathers docs index [] (.error e)
  | absent {ids : List String} {e : SearchError} (some : ids ≠ [])
    (nothing : docs.listed index ids = []) (notFound : e.kind = .notFound) :
    Gathers docs index ids (.error e)
  | found {ids : List String} (some : docs.listed index ids ≠ []) :
    Gathers docs index ids
      (.ok ⟨(docs.listed index ids).length, docs.listed index ids⟩)

namespace Gathers

variable {r : Except SearchError Hits}

theorem documents (g : Gathers docs index ids r) : documentsOf r = docs.listed index ids := by
  cases g with
  | refused => rfl
  | absent _ nothing => exact nothing.symm
  | found => rfl

theorem refused_iff (g : Gathers docs index ids r) :
    errorKind? r = some .invalidInput ↔ ids = [] := by
  cases g with
  | refused invalid => simp [errorKind?, invalid]
  | absent some _ notFound => simp [errorKind?, notFound, some]
  | found some =>
    have ids : ids ≠ [] := by
      rintro rfl
      exact some rfl
    simp [errorKind?, ids]

theorem absent_iff (g : Gathers docs index ids r) :
    errorKind? r = some .notFound ↔ ids ≠ [] ∧ docs.listed index ids = [] := by
  cases g with
  | refused invalid => simp [errorKind?, invalid]
  | absent some nothing notFound => simp [errorKind?, notFound, some, nothing]
  | found some => simp [errorKind?, some]

theorem eq_ok (g : Gathers docs index ids r) (some : docs.listed index ids ≠ []) :
    r = .ok ⟨(docs.listed index ids).length, docs.listed index ids⟩ := by
  cases g with
  | refused => exact absurd rfl some
  | absent _ nothing => exact absurd nothing some
  | found => rfl

theorem eq_ok_iff (g : Gathers docs index ids r) :
    (∃ h, r = .ok h) ↔ docs.listed index ids ≠ [] := by
  cases g with
  | refused => simp [Documents.listed]
  | absent _ nothing => simp [nothing]
  | found some => simp [some]

end Gathers

namespace Reader

theorem gathers_byIds (route : Route) (named : ∀ id ∈ ids, Text.isAllBlank id = false) :
    Gathers docs route.index ids ((byIds route ids).result Documents.memory docs) := by
  by_cases none : ids = []
  · subst none
    exact .refused rfl
  · have answer : (byIds route ids).result Documents.memory docs =
        Hits.ofEntries route.index ids.length (docs.multiGetAnswer route.index ids) := by
      rw [byIds_of_named route none named]
      rfl
    rw [answer, Hits.ofEntries_multiGetAnswer]
    by_cases nothing : docs.listed route.index ids = []
    · rw [if_pos nothing]
      exact .absent none nothing rfl
    · rw [if_neg nothing]
      exact .found nothing

/-- A look-up finds the document if it is there. -/
theorem result_byId (route : Route) {id : String} (named : Text.isAllBlank id = false) :
    (byId route id).result Documents.memory docs =
      match docs.find? ⟨route.index, id⟩ with
      | some x => .ok (.object x)
      | none => .error (.absent (.document route.index id)) := by
  have answer : (byId route id).result Documents.memory docs =
      Hits.ofEntry route.index id (docs.getAnswer route.index id) := by
    simp [byId, named, Documents.memory, ScriptedEngine.fromMemory, Except.bind]
  rw [answer, Hits.ofEntry, Hits.isFound_getAnswer]
  cases there : docs.find? ⟨route.index, id⟩ with
  | none => rfl
  | some x => simp [Hits.source_getAnswer there]

theorem gathers_byId (route : Route) {id : String} (named : Text.isAllBlank id = false) :
    Gathers docs route.index [id]
      (((byId route id).result Documents.memory docs).map fun document => ⟨1, [document]⟩) := by
  rw [result_byId route named]
  cases there : docs.find? ⟨route.index, id⟩ with
  | none =>
    exact .absent (List.cons_ne_nil _ _) (by simp [Documents.listed, there]) rfl
  | some x =>
    have listed : docs.listed route.index [id] = [.object x] := by
      simp [Documents.listed, there]
    have found : Gathers docs route.index [id] _ :=
      .found (by rw [listed]; exact List.cons_ne_nil _ _)
    rwa [listed] at found

theorem gathers_find (r : Reader) (kind : Kind) (region : Option Int) (n : Int) :
    Gathers docs (r.routes.primary kind).index (Lookup.resolve kind region n r.validRegions).ids
      ((r.find kind region n).result Documents.memory docs) := by
  have named {id : String} (mem : id ∈ (Lookup.resolve kind region n r.validRegions).ids) :
      Text.isAllBlank id = false := by
    obtain ⟨region', rfl⟩ := Lookup.of_mem_ids mem
    exact isAllBlank_documentId kind region' n
  unfold find
  cases resolved : Lookup.resolve kind region n r.validRegions with
  | single id =>
    rw [resolved] at named
    rw [Dialogue.result_map]
    exact gathers_byId _ (named (List.mem_singleton_self id))
  | multi ids =>
    rw [resolved] at named
    cases ids with
    | nil => exact .refused rfl
    | cons id ids => exact gathers_byIds _ fun _ => named

theorem gathers_findMany (r : Reader) (kind : Kind) (region : Option Int) (numbers : List Int) :
    Gathers docs (r.routes.primary kind).index (r.candidates kind region numbers)
      ((r.findMany kind region numbers).result Documents.memory docs) :=
  gathers_byIds _ fun _ => isAllBlank_of_mem_candidates

end Reader

/-! ## One look-up for many -/

/-- What the look-up of many says of the look-ups of each: it finds what they find, one after the
other. It fails for want of documents if each of them does, and is refused if each of them is. -/
structure Unites (each : List (Except SearchError Hits)) (all : Except SearchError Hits) :
    Prop where
  /-- The look-ups of each are all refused, or each of them finds something or nothing. -/
  alike : (∀ r ∈ each, errorKind? r = some .invalidInput) ∨
    ∀ r ∈ each, (∃ h, r = .ok h) ∨ errorKind? r = some .notFound
  found : (∃ h, .ok h ∈ each) →
    all = .ok ⟨(each.flatMap documentsOf).length, each.flatMap documentsOf⟩
  absent : errorKind? all = some .notFound ↔
    each ≠ [] ∧ ∀ r ∈ each, errorKind? r = some .notFound
  refused : errorKind? all = some .invalidInput ↔
    each = [] ∨ ∀ r ∈ each, errorKind? r = some .invalidInput

/-- What is gathered for several lists of ids at once is what is gathered for each of them, if none
of the lists is empty or all are. -/
theorem Gathers.unites {ι : Type} {xs : List ι} {ids : ι → List String}
    {each : ι → Except SearchError Hits} {all : Except SearchError Hits}
    (g : ∀ x ∈ xs, Gathers docs index (ids x) (each x))
    (gAll : Gathers docs index (xs.flatMap ids) all)
    (alike : (∀ x ∈ xs, ids x = []) ∨ ∀ x ∈ xs, ids x ≠ []) : Unites (xs.map each) all := by
  have documents : docs.listed index (xs.flatMap ids) = (xs.map each).flatMap documentsOf := by
    rw [Documents.listed_flatMap, List.flatMap_map]
    exact List.flatMap_congr fun x mem => (g x mem).documents.symm
  have nothing : docs.listed index (xs.flatMap ids) = [] ↔
      ∀ x ∈ xs, docs.listed index (ids x) = [] := by
    rw [Documents.listed_flatMap, List.flatMap_eq_nil_iff]
  refine ⟨?alike, ?found, ?absent, ?refused⟩
  case alike =>
    simp only [List.forall_mem_map]
    rcases alike with empty | filled
    · exact .inl fun x mem => (g x mem).refused_iff.2 (empty x mem)
    · refine .inr fun x mem => ?_
      rw [(g x mem).eq_ok_iff, (g x mem).absent_iff]
      by_cases none : docs.listed index (ids x) = []
      · exact .inr ⟨filled x mem, none⟩
      · exact .inl none
  case found =>
    rintro ⟨h, mem⟩
    obtain ⟨x, mem, ok⟩ := List.mem_map.1 mem
    have some : docs.listed index (xs.flatMap ids) ≠ [] := fun none =>
      (g x mem).eq_ok_iff.1 ⟨h, ok⟩ (nothing.1 none x mem)
    rw [gAll.eq_ok some, documents]
  case absent =>
    rw [gAll.absent_iff, nothing]
    simp only [List.forall_mem_map, ne_eq, List.map_eq_nil_iff]
    constructor
    · rintro ⟨filled, none⟩
      refine ⟨fun empty => filled (by rw [empty]; rfl), fun x mem => ?_⟩
      refine (g x mem).absent_iff.2 ⟨fun empty => filled ?_, none x mem⟩
      -- one list is empty, so all are
      rcases alike with empty' | filled'
      · exact List.flatMap_eq_nil_iff.2 empty'
      · exact absurd empty (filled' x mem)
    · rintro ⟨some, none⟩
      obtain ⟨x, mem⟩ := List.exists_mem_of_ne_nil _ some
      refine ⟨fun empty => ?_, fun x mem => ((g x mem).absent_iff.1 (none x mem)).2⟩
      exact ((g x mem).absent_iff.1 (none x mem)).1 (List.flatMap_eq_nil_iff.1 empty x mem)
  case refused =>
    rw [gAll.refused_iff, List.flatMap_eq_nil_iff]
    simp only [List.forall_mem_map, List.map_eq_nil_iff]
    constructor
    · exact fun empty => .inr fun x mem => (g x mem).refused_iff.2 (empty x mem)
    · rintro (rfl | refused) x mem
      · cases mem
      · exact (g x mem).refused_iff.1 (refused x mem)

namespace Reader

/-- Whether there are documents to look for does not depend on the number of an entity. -/
theorem ids_resolve_alike (kind : Kind) (region : Option Int) (regions numbers : List Int) :
    (∀ n ∈ numbers, (Lookup.resolve kind region n regions).ids = []) ∨
      ∀ n ∈ numbers, (Lookup.resolve kind region n regions).ids ≠ [] := by
  cases region with
  | some r => exact .inr fun n _ => List.cons_ne_nil _ _
  | none =>
    cases regional : kind.isRegional with
    | false => exact .inr fun n _ => by simp [Lookup.resolve, regional, Lookup.ids]
    | true =>
      cases regions with
      | nil => exact .inl fun n _ => by simp [Lookup.resolve, regional, Lookup.ids, regionalIds]
      | cons r rs =>
        exact .inr fun n _ => by simp [Lookup.resolve, regional, Lookup.ids, regionalIds]

end Reader

/-- **To look many up is to look each up.** Where documents are kept in memory, the look-up of one
document or one entity gathers what there is for its ids. What is found for a list of ids that are
not blank is what is found for each of them, and what is found for a list of entities is what is
found for each of them. -/
theorem lookups_unite (docs : Documents) (reader : Reader) :
    (∀ route ids, (∀ id ∈ ids, Text.isAllBlank id = false) →
      let one (id : String) : Except SearchError Hits :=
        ((Reader.byId route id).result Documents.memory docs).map fun document => ⟨1, [document]⟩
      (∀ id ∈ ids, Gathers docs route.index [id] (one id)) ∧
        Unites (ids.map one) ((Reader.byIds route ids).result Documents.memory docs)) ∧
    ∀ kind region numbers,
      let one (n : Int) : Except SearchError Hits :=
        (reader.find kind region n).result Documents.memory docs
      (∀ n ∈ numbers, Gathers docs (reader.routes.primary kind).index
        (Lookup.resolve kind region n reader.validRegions).ids (one n)) ∧
        Unites (numbers.map one)
          ((reader.findMany kind region numbers).result Documents.memory docs) := by
  constructor
  · intro route ids named one
    have each (id : String) (mem : id ∈ ids) : Gathers docs route.index [id] (one id) :=
      Reader.gathers_byId route (named id mem)
    have all : Gathers docs route.index (ids.flatMap fun id => [id])
        ((Reader.byIds route ids).result Documents.memory docs) := by
      rw [List.flatMap_singleton']
      exact Reader.gathers_byIds route named
    exact ⟨each, Gathers.unites each all (.inr fun id _ => List.cons_ne_nil id [])⟩
  · intro kind region numbers one
    have each (n : Int) (_ : n ∈ numbers) : Gathers docs (reader.routes.primary kind).index
        (Lookup.resolve kind region n reader.validRegions).ids (one n) :=
      reader.gathers_find kind region n
    exact ⟨each, Gathers.unites each (reader.gathers_findMany kind region numbers)
      (Reader.ids_resolve_alike kind region reader.validRegions numbers)⟩

/-- Two of three tracks are there, each in one of two regions. A document that is asked for twice is
found twice. -/
theorem lookups_unite_of_missing_track :
    let document (n : Nat) : FieldMap Json := .ofList [("number", .nat n)]
    let docs : Documents :=
      [(⟨"joox_tracks", "track-1-7"⟩, document 7), (⟨"joox_tracks", "track-2-9"⟩, document 9)]
    let reader : Reader := ⟨.ofProtocol .typeless, [1, 2]⟩
    let ids := ["track-2-9", "track-1-8", "track-1-7", "track-2-9"]
    (∀ id ∈ ids, Text.isAllBlank id = false) ∧
      (Reader.byIds ⟨"joox_tracks", "_doc"⟩ ids).result Documents.memory docs =
        .ok ⟨3, [.object (document 9), .object (document 7), .object (document 9)]⟩ ∧
      (reader.findMany .track none [7, 8, 9]).result Documents.memory docs =
        .ok ⟨2, [.object (document 7), .object (document 9)]⟩ := by
  intro document docs reader ids
  have named : ∀ id ∈ ids, Text.isAllBlank id = false := by decide
  obtain ⟨byIds, find⟩ := lookups_unite docs reader
  have some : (Reader.byId ⟨"joox_tracks", "_doc"⟩ "track-2-9").result Documents.memory docs =
      .ok (.object (document 9)) := by decide +kernel
  have some' : (reader.find .track none 7).result Documents.memory docs =
      .ok ⟨1, [.object (document 7)]⟩ := by decide +kernel
  refine ⟨named, ?_, ?_⟩
  · have all := (byIds ⟨"joox_tracks", "_doc"⟩ ids named).2.found
      ⟨⟨1, [.object (document 9)]⟩, by simp [ids, some, Except.map]⟩
    exact all.trans (by decide +kernel)
  · have all := (find .track none [7, 8, 9]).2.found
      ⟨⟨1, [.object (document 7)]⟩, by simp [some']⟩
    exact all.trans (by decide +kernel)

end CatalogSearch
