import CatalogSearch.Engine.Address

/-!
# Targets

What an engine is told of the document that a write is about. In a bulk request an action line names
it; a write of its own has a path whose parts, between slashes, name it.
-/

namespace CatalogSearch

/-- The document that a write is about, and whether it is deleted. -/
structure Target where
  isDelete : Bool
  index : String
  /-- The type, which only a typed engine is told. -/
  docType : Option String
  id : String
  deriving DecidableEq

namespace Target

/-- A target from the members by which an action names it. -/
def ofMembers? (isDelete : Bool) (members : Json) : Option Target := do
  let index ← (← members.get? "_index").text?
  let id ← (← members.get? "_id").text?
  return { isDelete, index, docType := (members.get? "_type").bind Json.text?, id }

/-- The target of an action line. -/
def ofAction? (line : Json) : Option Target :=
  ((line.get? "delete").bind (ofMembers? true)).or ((line.get? "update").bind (ofMembers? false))

/-- The parts of a path that is about a target. -/
def segments (t : Target) : List String :=
  match t.docType, t.isDelete with
  | none, false => [t.index, "_update", t.id]
  | none, true => [t.index, "_doc", t.id]
  | some docType, false => [t.index, docType, t.id, "_update"]
  | some docType, true => [t.index, docType, t.id]

/-- Where the document is: its index and its type. -/
def place (t : Target) : List String := t.index :: t.docType.toList

end Target

/-- The parts of a path between its slashes. -/
def pathParts (path : String) : List String := (path.toList.splitOn '/').map String.ofList

/-- The target that a bulk request names for a declaration that has others before and after it. -/
def Protocol.bulkTarget? (p : Protocol) (before : List Declaration) (d : Declaration)
    (after : List Declaration) : Option Target :=
  (p.bulkLines (before ++ d :: after))[(p.bulkLines before).length]?.bind Target.ofAction?

end CatalogSearch
