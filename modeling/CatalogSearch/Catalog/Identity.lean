import CatalogSearch.Catalog.Kind

/-!
# Document ids of catalog entities

An entity of a regional kind is stored in each region under `kind-region-number`, one of another
kind under its bare number. Without a region an entity of a regional kind is looked up in all
regions at once.
-/

namespace CatalogSearch

/-- The document id of an entity. The region matters for regional kinds only. -/
def documentId (kind : Kind) (region number : Int) : String :=
  if kind.isRegional then kind.name ++ "-" ++ toString region ++ "-" ++ toString number
  else toString number

/-- The document ids of an entity in a list of regions, in their order. -/
def regionalIds (kind : Kind) (number : Int) (regions : List Int) : List String :=
  regions.map fun r => documentId kind r number

/-- The documents in which an entity is looked for. -/
inductive Lookup where
  /-- One document. -/
  | single (id : String)
  /-- Several documents, of which any may exist. -/
  | multi (ids : List String)
  deriving DecidableEq

/-- The document ids of a look-up. -/
def Lookup.ids : Lookup → List String
  | .single id => [id]
  | .multi ids => ids

/-- Where an entity is looked for: in one document when a region is given or the kind has no
regions, and otherwise in one document for each valid region. -/
def Lookup.resolve (kind : Kind) (region : Option Int) (number : Int) (validRegions : List Int) :
    Lookup :=
  match region with
  | some r => .single (documentId kind r number)
  | none =>
    if kind.isRegional then .multi (regionalIds kind number validRegions)
    else .single (toString number)

end CatalogSearch
