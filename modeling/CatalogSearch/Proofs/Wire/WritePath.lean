import CatalogSearch.Engine.Target
import CatalogSearch.Proofs.Engine.Documents
import CatalogSearch.Proofs.Text.Separated
import CatalogSearch.Wire.Client

/-!
# Two ways to address a document

A bulk request names the document of a declaration in an action line, a write of its own in its
path. The path has the parts that it should have exactly if no slash occurs in what the action line
names, and where no slash occurs in indexes and types, different documents have different paths
(`write_path_agrees_iff`). Ids are put into paths as they are, so an id with a slash makes parts of
its own (`write_path_of_slash`).
-/

namespace CatalogSearch

/-! ## Parts of a path -/

theorem pathParts_eq_iff {path : String} {parts : List String} (some : parts ≠ []) :
    pathParts path = parts ↔
      ['/'].intercalate (parts.map String.toList) = path.toList ∧
        ∀ part ∈ parts, '/' ∉ part.toList := by
  have texts : pathParts path = parts ↔ path.toList.splitOn '/' = parts.map String.toList := by
    constructor
    · rintro rfl
      simp [pathParts]
    · intro same
      simp [pathParts, same]
  rw [texts, Text.splitOn_eq_iff (by simpa using some)]
  simp

namespace Target

/-- The parts of a path that do not stand for its target have no slash. -/
theorem slash_notMem_segments_iff (t : Target) :
    (∀ part ∈ t.segments, '/' ∉ part.toList) ↔
      ∀ part ∈ t.place ++ [t.id], '/' ∉ part.toList := by
  obtain ⟨isDelete, index, docType, id⟩ := t
  cases docType <;> cases isDelete <;> simp [segments, place]

/-- The index comes first in a path, and more comes behind it. -/
theorem segments_eq_cons (t : Target) :
    ∃ part others, t.segments = t.index :: part :: others := by
  obtain ⟨isDelete, index, docType, id⟩ := t
  cases docType <;> cases isDelete <;> exact ⟨_, _, rfl⟩

/-- The index of a target is told by a path that is about it, if there are no slashes in indexes. -/
theorem cut_segments {t t' : Target} (free : '/' ∉ t.index.toList) (free' : '/' ∉ t'.index.toList)
    (same : ['/'].intercalate ([] :: t.segments.map String.toList) =
      ['/'].intercalate ([] :: t'.segments.map String.toList)) :
    t.index = t'.index ∧
      ['/'].intercalate (t.segments.tail.map String.toList) =
        ['/'].intercalate (t'.segments.tail.map String.toList) := by
  obtain ⟨part, others, segments⟩ := t.segments_eq_cons
  obtain ⟨part', others', segments'⟩ := t'.segments_eq_cons
  rw [segments, segments', List.map_cons, List.map_cons] at same
  rw [segments, segments', List.tail_cons, List.tail_cons]
  obtain ⟨-, same⟩ := Text.intercalate_cons_unique List.not_mem_nil List.not_mem_nil
    (List.cons_ne_nil _ _) (List.cons_ne_nil _ _) same
  obtain ⟨index, rest⟩ := Text.intercalate_cons_unique free free'
    (List.cons_ne_nil _ _) (List.cons_ne_nil _ _) same
  exact ⟨String.toList_inj.1 index, rest⟩

/-- Targets in places without slashes are told by the path that is about them. -/
theorem eq_of_segments {t t' : Target} (kind : t.isDelete = t'.isDelete)
    (typed : t.docType.isSome = t'.docType.isSome)
    (free : ∀ part ∈ t.place ++ t'.place, '/' ∉ part.toList)
    (same : ['/'].intercalate ([] :: t.segments.map String.toList) =
      ['/'].intercalate ([] :: t'.segments.map String.toList)) : t = t' := by
  obtain ⟨index, rest⟩ := cut_segments (free _ (by simp [place])) (free _ (by simp [place])) same
  obtain ⟨isDelete, i, docType, id⟩ := t
  obtain ⟨isDelete', i', docType', id'⟩ := t'
  obtain rfl : isDelete = isDelete' := kind
  obtain rfl : i = i' := index
  cases docType with
  | none =>
    obtain rfl : docType' = none := by simpa using typed
    have id : id = id' := by
      cases isDelete <;> simpa [segments, String.toList_inj] using rest
    rw [id]
  | some docType =>
    obtain ⟨docType', rfl⟩ := Option.isSome_iff_exists.1 typed.symm
    have inType : '/' ∉ docType.toList := free docType (by simp [place])
    have inType' : '/' ∉ docType'.toList := free docType' (by simp [place])
    have parts : docType = docType' ∧ id = id' := by
      -- an upsert and a deletion differ only in what follows the id
      cases isDelete <;>
        (obtain ⟨type, rest⟩ := Text.intercalate_cons_unique inType inType'
          (List.cons_ne_nil _ _) (List.cons_ne_nil _ _) rest
         exact ⟨String.toList_inj.1 type, by simpa [String.toList_inj] using rest⟩)
    rw [parts.1, parts.2]

end Target

namespace Wire

open Batcher (Write)

/-- The path of the write of one declaration. -/
def writePath? (p : Protocol) (timeout : Nat) (d : Declaration) : Option String :=
  (writeCall p timeout (.single d)).map Call.path

/-- What a protocol tells an engine of the document of a declaration. -/
def targetOf (p : Protocol) (d : Declaration) : Target :=
  ⟨d.isDelete, d.index, if p = .typed then some d.docType else none, d.id⟩

/-- The lines of a declaration are an action that names its document and, unless that is deleted,
the body of an upsert. -/
theorem declarationLines_eq (p : Protocol) (d : Declaration) :
    ∃ action, Target.ofAction? action = some (targetOf p d) ∧
      p.declarationLines d = action :: if d.isDelete then [] else [d.upsertBody] := by
  cases p <;> cases kind : d.isDelete <;>
    simp [Protocol.declarationLines, Protocol.target, Target.ofAction?, Target.ofMembers?,
      targetOf, kind, Json.text?]

theorem bulkTarget?_eq (p : Protocol) (before : List Declaration) (d : Declaration)
    (after : List Declaration) : p.bulkTarget? before d after = some (targetOf p d) := by
  obtain ⟨action, named, lines⟩ := declarationLines_eq p d
  have line : (p.bulkLines (before ++ d :: after))[(p.bulkLines before).length]? = some action := by
    rw [Protocol.bulkLines, Protocol.bulkLines, List.flatMap_append,
      List.getElem?_append_right (Nat.le_refl _), Nat.sub_self, List.flatMap_cons, lines]
    rfl
  rw [Protocol.bulkTarget?, line]
  exact named

/-- A path is a slash before each of its parts. -/
theorem writePath?_eq (p : Protocol) (timeout : Nat) (d : Declaration) :
    ∃ path, writePath? p timeout d = some path ∧
      path.toList = ['/'].intercalate ([] :: (targetOf p d).segments.map String.toList) := by
  cases p <;> cases kind : d.isDelete <;>
    simp [writePath?, writeCall, Write.single, targetOf, Target.segments, kind,
      Protocol.updatePath, Protocol.deletePath]

/-- A path comes apart into the parts that it should have if none of them has a slash. -/
theorem pathParts_writePath_iff {p : Protocol} {timeout : Nat} {d : Declaration} {path : String}
    (written : writePath? p timeout d = some path) :
    pathParts path = "" :: (targetOf p d).segments ↔
      ∀ part ∈ (targetOf p d).place ++ [(targetOf p d).id], '/' ∉ part.toList := by
  obtain ⟨path', written', text⟩ := writePath?_eq p timeout d
  obtain rfl : path = path' := Option.some.inj (written.symm.trans written')
  rw [← Target.slash_notMem_segments_iff, pathParts_eq_iff (List.cons_ne_nil _ _), text]
  simp

/-- Declarations of one sort in places without slashes have the same path if they have the same
target. -/
theorem writePath?_eq_iff {p : Protocol} {timeout : Nat} {d d' : Declaration}
    (kind : d.isDelete = d'.isDelete)
    (free : ∀ part ∈ (targetOf p d).place ++ (targetOf p d').place, '/' ∉ part.toList) :
    writePath? p timeout d = writePath? p timeout d' ↔ targetOf p d = targetOf p d' := by
  obtain ⟨path, written, text⟩ := writePath?_eq p timeout d
  obtain ⟨path', written', text'⟩ := writePath?_eq p timeout d'
  rw [written, written', Option.some.injEq, ← String.toList_inj, text, text']
  constructor
  · refine Target.eq_of_segments kind ?_ free
    cases p <;> rfl
  · intro same
    rw [same]

/-- **When the two ways agree.** The path of a write has, after the slash that it starts with,
exactly the parts by which the protocol addresses the document that the action line of the same
declaration names, if and only if neither the index nor the type nor the id of that document has a
slash. Two declarations of one sort whose indexes and types have no slashes have the same path if
and only if their action lines name the same document, whatever their ids. -/
theorem write_path_agrees_iff (p : Protocol) (timeout : Nat) :
    (∀ before d after, ∃ target path, p.bulkTarget? before d after = some target ∧
      writePath? p timeout d = some path ∧
      (pathParts path = "" :: target.segments ↔
        ∀ part ∈ target.place ++ [target.id], '/' ∉ part.toList)) ∧
    ∀ d d' target target', p.bulkTarget? [] d [] = some target →
      p.bulkTarget? [] d' [] = some target' → d.isDelete = d'.isDelete →
      (∀ part ∈ target.place ++ target'.place, '/' ∉ part.toList) →
      (writePath? p timeout d = writePath? p timeout d' ↔ target = target') := by
  constructor
  · intro before d after
    obtain ⟨path, written, -⟩ := writePath?_eq p timeout d
    exact ⟨targetOf p d, path, bulkTarget?_eq p before d after, written,
      pathParts_writePath_iff written⟩
  · intro d d' target target' named named' kind free
    rw [bulkTarget?_eq] at named named'
    obtain rfl := Option.some.inj named
    obtain rfl := Option.some.inj named'
    exact writePath?_eq_iff kind free

/-- Ids with slashes in one index: the paths are as different as the ids. -/
theorem write_path_agrees_iff_of_slash_in_id :
    let d : Declaration := .delete "tracks" "" "a/b"
    let d' : Declaration := .delete "tracks" "" "a"
    (∀ part ∈ ["tracks", "tracks"], '/' ∉ part.toList) ∧
      writePath? .typeless 1000 d ≠ writePath? .typeless 1000 d' := by
  intro d d'
  have free : ∀ part ∈ ["tracks", "tracks"], '/' ∉ part.toList := by decide
  refine ⟨free, fun same => ?_⟩
  have target := ((write_path_agrees_iff .typeless 1000).2 d d' _ _ (bulkTarget?_eq _ [] d [])
    (bulkTarget?_eq _ [] d' []) rfl free).1 same
  exact absurd target (by decide)

/-- An id with a slash makes two parts of a path, so that the path is not that of the document which
a bulk request names. With slashes in an index, two documents have one path. And where an id has the
segments by which a path goes back, a client makes the request that is about another document of the
same index. -/
theorem write_path_of_slash :
    let d : Declaration := .delete "tracks" "" "a/b"
    let inner : Declaration := .delete "tracks" "" "_doc/b"
    let outer : Declaration := .delete "tracks/_doc" "" "b"
    let back : Declaration := .delete "tracks" "" "a/../b"
    let other : Declaration := .delete "tracks" "" "b"
    let node : Net.Url := ⟨"http", some ⟨"", none, .name "node", none⟩, .segments [""], none, none⟩
    let client : Client := ⟨⟨[node], 0, by decide⟩, .typeless, none, 1000, none⟩
    let request (d : Declaration) :=
      (writeCall .typeless 1000 (.single d)).bind (client.requestTo? node)
    (∀ x ∈ [d, inner, outer, back, other], x.missingField = none) ∧
      Protocol.typeless.bulkTarget? [] d [] = some ⟨true, "tracks", none, "a/b"⟩ ∧
      (writePath? .typeless 1000 d).map pathParts = some ["", "tracks", "_doc", "a", "b"] ∧
      "" :: Target.segments ⟨true, "tracks", none, "a/b"⟩ = ["", "tracks", "_doc", "a/b"] ∧
      Protocol.typeless.bulkTarget? [] inner [] ≠ Protocol.typeless.bulkTarget? [] outer [] ∧
      writePath? .typeless 1000 inner = writePath? .typeless 1000 outer ∧
      Protocol.typeless.bulkTarget? [] back [] ≠ Protocol.typeless.bulkTarget? [] other [] ∧
      request back = request other ∧ (request back).isSome = true := by
  intro d inner outer back other node client request
  decide +kernel

end Wire

end CatalogSearch
