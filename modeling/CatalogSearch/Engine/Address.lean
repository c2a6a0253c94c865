import CatalogSearch.Catalog.Route

/-!
# Addresses of documents on the wire

The request paths and the lines of bulk requests by which an engine of either protocol finds a
document. A bulk request is a list of lines: an action that names the document, followed for an
upsert by its body.
-/

namespace CatalogSearch.Protocol

/-- The path of a search. -/
def searchPath (p : Protocol) (r : Route) : String :=
  match p with
  | .typed => "/" ++ r.index ++ "/" ++ r.docType ++ "/_search"
  | .typeless => "/" ++ r.index ++ "/_search"

/-- The path of a document that is read. -/
def getPath (p : Protocol) (r : Route) (id : String) : String :=
  match p with
  | .typed => "/" ++ r.index ++ "/" ++ r.docType ++ "/" ++ id
  | .typeless => "/" ++ r.index ++ "/_doc/" ++ id

/-- The path of several documents that are read at once. -/
def multiGetPath (p : Protocol) (r : Route) : String :=
  match p with
  | .typed => "/" ++ r.index ++ "/" ++ r.docType ++ "/_mget"
  | .typeless => "/" ++ r.index ++ "/_mget"

/-- The path of a document that fields are merged into. -/
def updatePath (p : Protocol) (index docType id : String) : String :=
  match p with
  | .typed => "/" ++ index ++ "/" ++ docType ++ "/" ++ id ++ "/_update"
  | .typeless => "/" ++ index ++ "/_update/" ++ id

/-- The path of a document that is deleted. -/
def deletePath (p : Protocol) (index docType id : String) : String :=
  match p with
  | .typed => "/" ++ index ++ "/" ++ docType ++ "/" ++ id
  | .typeless => "/" ++ index ++ "/_doc/" ++ id

/-- The document that an action is about. The type is named to typed engines only. -/
def target (p : Protocol) (d : Declaration) : Json :=
  .record <|
    [("_index", .str d.index), ("_id", .str d.id)] ++
      match p with
      | .typed => [("_type", .str d.docType)]
      | .typeless => []

/-- The lines of one declaration. -/
def declarationLines (p : Protocol) (d : Declaration) : List Json :=
  if d.isDelete then [.record [("delete", p.target d)]]
  else [.record [("update", p.target d)], d.upsertBody]

/-- The lines of a bulk request. -/
def bulkLines (p : Protocol) (ds : List Declaration) : List Json :=
  ds.flatMap p.declarationLines

end CatalogSearch.Protocol
