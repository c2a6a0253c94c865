import CatalogSearch.Catalog.Declaration
import CatalogSearch.Catalog.Kind
import CatalogSearch.Engine.Error
import CatalogSearch.Query.Intent

/-!
# Hits

What is found: the number of all matches and the documents that are returned. The answers of
engines are read here. A total is an integer, or an object with an integer as its `value`.
-/

namespace CatalogSearch

/-- Documents that were found. -/
structure Hits where
  /-- How many documents match, returned or not. -/
  total : Nat
  /-- The returned documents, in the engine's order. -/
  documents : List Json
  deriving DecidableEq

namespace Hits

/-- Whether an entry says that its document was found. -/
def isFound (entry : Json) : Bool := ((entry.get? "found").bind Json.bool?).getD false

/-- The document of an entry, null if it has none. -/
def source (entry : Json) : Json := Json.orNull (entry.get? "_source")

/-- The total of all matches. -/
def total? : Json → Option Nat
  | .obj members => (findEntry "value" members).bind Json.nat64?
  | v => v.nat64?

/-- The hits of an answer to a search. -/
def ofAnswer (answer : Json) : Except SearchError Hits :=
  match answer.get? "hits" with
  | none => .error (.malformed .noHits)
  | some hits =>
    match (hits.get? "total").bind total? with
    | none => .error (.malformed .noTotal)
    | some total =>
      .ok ⟨total, (((hits.get? "hits").bind Json.elements?).getD []).map source⟩

/-- The documents that were found for a list of ids. -/
def ofEntries (index : String) (asked : Nat) (answer : Json) : Except SearchError Hits :=
  match (answer.get? "docs").bind Json.elements? with
  | none => .error (.malformed .noDocs)
  | some entries =>
    let documents := (entries.filter isFound).map source
    if documents.isEmpty then .error (.absent (.allOf asked index))
    else .ok ⟨documents.length, documents⟩

/-- The document that was found for an id. -/
def ofEntry (index id : String) (entry : Json) : Except SearchError Json :=
  if isFound entry then .ok (source entry) else .error (.absent (.document index id))

/-- The documents of hits, each read by `f`. -/
def decode {α : Type} (f : Json → Option α) (h : Hits) : Except SearchError (List α) :=
  match h.documents.mapM f with
  | some l => .ok l
  | none => .error .undecodable

end Hits

/-- One page of a scroll. -/
structure ScrollPage where
  /-- How many documents match, on this page or not. -/
  total : Nat
  /-- The documents of this page. -/
  documents : List Json
  /-- The cursor of the next page; there is none after the last page. -/
  cursor : Option String
  deriving DecidableEq

end CatalogSearch
