import CatalogSearch.Catalog.Declaration
import CatalogSearch.Catalog.Kind

/-!
# Errors of searches and writes

An error is a refusal of a request before the engine is asked, the finding that nothing matched,
an answer that cannot be understood, or whatever the engine or the way to it reports. Only errors
of the last two sorts are worth a second attempt.
-/

namespace CatalogSearch

/-- The classes of errors that callers tell apart. -/
inductive ErrorKind where
  | invalidInput
  | notFound
  | connection
  | query
  | bulk
  | parse
  | serialization
  deriving DecidableEq, Inhabited

/-- How the message of an error of a class starts. -/
def ErrorKind.label : ErrorKind → String
  | .invalidInput => "Invalid input"
  | .notFound => "Document not found"
  | .connection => "Connection error"
  | .query => "Query error"
  | .bulk => "Bulk error"
  | .parse => "Parse error"
  | .serialization => "Serialization error"

/-- Why a request is refused before the engine is asked. -/
inductive Refusal where
  /-- A document id is blank. -/
  | blankId
  /-- A list of ids is empty. -/
  | noIds
  /-- An entity of a regional kind is looked for without a region, and there are no regions. -/
  | noRegions (kind : Kind)
  /-- There is no regional index for a kind. -/
  | noRegionalIndex (kind : Kind)
  /-- The text of a route names no index. -/
  | routeWithoutIndex (text : String)
  /-- A declaration lacks a field. -/
  | missingField (field : RequiredField)
  deriving DecidableEq

/-- What is said of a refusal. -/
def Refusal.message : Refusal → String
  | .blankId => "document id is empty"
  | .noIds => "no document ids given"
  | .noRegions kind =>
    kind.name ++ " lookup needs a region and no valid regions are configured"
  | .noRegionalIndex kind => "no regional index configured for " ++ kind.name
  | .routeWithoutIndex text => "index route '" ++ text ++ "' has no index name"
  | .missingField field => "declaration is missing " ++ field.name

/-- What was looked for in vain. -/
inductive Absence where
  /-- One document of an index. -/
  | document (index id : String)
  /-- Some documents of an index. -/
  | allOf (count : Nat) (index : String)
  deriving DecidableEq

/-- What is said of an absence. -/
def Absence.message : Absence → String
  | .document index id => index ++ "/" ++ id
  | .allOf count index => "none of " ++ toString count ++ " ids found in " ++ index

/-- What an answer of the engine lacks. -/
inductive Malformed where
  | noHits
  | noTotal
  | noDocs
  deriving DecidableEq

/-- What is said of a malformed answer. -/
def Malformed.message : Malformed → String
  | .noHits => "search response has no hits"
  | .noTotal => "search response has no hit total"
  | .noDocs => "multi-get response has no docs"

/-- An error of a search or a write. -/
inductive SearchError where
  | refused (cause : Refusal)
  | absent (cause : Absence)
  | malformed (cause : Malformed)
  /-- A document is not of the form that the caller asked for. -/
  | undecodable
  /-- The engine, or the way to it, reports an error. -/
  | reported (kind : ErrorKind) (detail : String)
  deriving DecidableEq

namespace SearchError

/-- The class of an error. -/
def kind : SearchError → ErrorKind
  | .refused _ => .invalidInput
  | .absent _ => .notFound
  | .malformed _ => .parse
  | .undecodable => .serialization
  | .reported kind _ => kind

/-- What is said of an error, without its class. -/
def detail : SearchError → String
  | .refused cause => cause.message
  | .absent cause => cause.message
  | .malformed cause => cause.message
  | .undecodable => "document has an unexpected form"
  | .reported _ detail => detail

/-- The message of an error. -/
def message (e : SearchError) : String := e.kind.label ++ ": " ++ e.detail

/-- Whether the engine, and not the request, is at fault. -/
def isEngineError (e : SearchError) : Bool :=
  e.kind ≠ .invalidInput ∧ e.kind ≠ .notFound

end SearchError

end CatalogSearch
