import CatalogSearch.Catalog.Declaration

/-!
# Documents of an engine

What an engine keeps: documents, each under its index and id; types are not told apart. An upsert
merges its fields into a document, creating it if it is missing, and a deletion removes it. The
documents are listed by index and then by id.
-/

namespace CatalogSearch

/-- The address of a document. -/
structure DocKey where
  index : String
  id : String
  deriving DecidableEq, Inhabited

/-- Whether a document is listed before another one. -/
def DocKey.before (a b : DocKey) : Bool :=
  a.index < b.index || (a.index = b.index && a.id < b.id)

/-- The documents of an engine, by increasing address. -/
abbrev Documents := List (DocKey × FieldMap Json)

namespace Documents

/-- The document at an address. -/
def find? (k : DocKey) : Documents → Option (FieldMap Json)
  | [] => none
  | (k', x) :: rest => if k = k' then some x else find? k rest

/-- Put a document at an address. -/
def put (k : DocKey) (x : FieldMap Json) : Documents → Documents
  | [] => [(k, x)]
  | (k', x') :: rest =>
    if k = k' then (k, x) :: rest
    else if k.before k' then (k, x) :: (k', x') :: rest
    else (k', x') :: put k x rest

/-- Remove the document at an address. -/
def remove (k : DocKey) (docs : Documents) : Documents := docs.filter fun e => e.1 ≠ k

/-- The address of the document that a declaration changes. -/
def keyOf (d : Declaration) : DocKey := ⟨d.index, d.id⟩

/-- The documents after one declaration. -/
def apply (docs : Documents) (d : Declaration) : Documents :=
  if d.isDelete then docs.remove (keyOf d)
  else docs.put (keyOf d) (((docs.find? (keyOf d)).getD .empty).extend d.fields.toList)

/-- The documents after a list of declarations, in order. -/
def applyAll (docs : Documents) (ds : List Declaration) : Documents := ds.foldl apply docs

theorem applyAll_append (docs : Documents) (ds ds' : List Declaration) :
    docs.applyAll (ds ++ ds') = (docs.applyAll ds).applyAll ds' :=
  List.foldl_append

/-- The documents of an index, or of all indexes. -/
def inIndex (docs : Documents) (index : Option String) : Documents :=
  docs.filter fun e => index.all (· = e.1.index)

/-! ## Answers to reads -/

/-- The answer to a search: every document counts as a hit. -/
def searchAnswer (docs : Documents) (index : Option String) : Json :=
  let hits := docs.inIndex index
  .record [("hits", .record
    [("total", .nat hits.length),
      ("hits", .arr (hits.map fun e =>
        .record [("_id", .str e.1.id), ("_source", .object e.2)]))])]

/-- The answer to a look-up of one document. -/
def getAnswer (docs : Documents) (index id : String) : Json :=
  match docs.find? ⟨index, id⟩ with
  | some x => .record [("_id", .str id), ("found", .bool true), ("_source", .object x)]
  | none => .record [("_id", .str id), ("found", .bool false)]

/-- The answer to a look-up of several documents. -/
def multiGetAnswer (docs : Documents) (index : String) (ids : List String) : Json :=
  .record [("docs", .arr (ids.map (docs.getAnswer index)))]

end Documents

end CatalogSearch
