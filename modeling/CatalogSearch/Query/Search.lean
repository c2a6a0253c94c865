import CatalogSearch.Query.Render

/-!
# Searches

A query with the part of its results that is wanted and their order, and the request body that
asks the engine for it.
-/

namespace CatalogSearch

/-- A query with paging and sorting. -/
structure Search where
  query : Query
  /-- How many results are left out at the start. -/
  offset : Int
  /-- How many results are wanted. -/
  size : Int
  /-- The field that results are sorted by. -/
  sortField : Option String
  /-- Whether the greatest value of the field comes first. -/
  descending : Bool
  /-- The sort values after which results start, instead of an offset. -/
  after : Option (List Json)
  /-- Whether the engine counts all results. -/
  countAll : Bool

namespace Search

/-- How many results are wanted when no positive number is given. -/
def defaultSize : Int := 50

/-- A positive number, or a default. -/
def positiveOr (default : Int) : Option Int → Int
  | some n => if 0 < n then n else default
  | none => default

/-- The sort field that a text names: none when it is blank. -/
def sortFieldOf (text : String) : Option String :=
  let t := Text.trim text
  if t = "" then none else some t

/-- A search with optional paging. A number that is not positive counts as missing, a blank sort
field as none and an empty list of sort values as none. A sort field sorts downwards. -/
def compose (query : Query) (offset size : Option Int) (sort : Option String)
    (after : Option (List Json)) : Search :=
  let sortField := sort.bind sortFieldOf
  { query, offset := positiveOr 0 offset, size := positiveOr defaultSize size, sortField,
    descending := sortField.isSome, after := after.filter fun l => !l.isEmpty, countAll := true }

/-- The first page of a query. -/
def ofQuery (query : Query) : Search := compose query none none none none

/-- The members of the request body. An offset is left out where sort values say where to start:
the engine refuses both together. -/
def bodyFields (s : Search) : FieldMap Json :=
  let order := if s.descending then "desc" else "asc"
  .ofList <|
    [("query", s.query.render)] ++
      (if s.after.isNone then [("from", .int s.offset)] else []) ++
      [("size", .int s.size)] ++
      (s.sortField.toList.map fun f =>
        ("sort", .arr [Query.tagged f (Query.tagged "order" (.str order))])) ++
      (s.after.toList.map fun l => ("search_after", .arr l)) ++
      [("track_total_hits", .bool s.countAll)]

/-- The request body. -/
def body (s : Search) : Json := .object s.bodyFields

/-- The request body of a scroll, which starts at the first result. -/
def scrollBody (s : Search) : Json := .object (s.bodyFields.erase "from")

end Search

end CatalogSearch
