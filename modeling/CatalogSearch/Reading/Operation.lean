import CatalogSearch.Reading.Paging

/-!
# The operations of the reader

What a caller can ask the reader for, as values, when a request is refused, and which question each
of the others is for the engine.

## Main definitions

* `Reader.Operation`, `Reader.perform`: the operations and their dialogues.
* `Reader.Refuses`: the requests that are refused before the engine is asked.
* `Reader.Asks`: the question that an operation is.
-/

namespace CatalogSearch

namespace Reader

/-- An operation of the reader, with what the caller gives. -/
inductive Operation where
  /-- Search an index. -/
  | search (s : Search) (route : Route)
  /-- Search the primary or the regional index of a kind. -/
  | searchKind (kind : Kind) (s : Search) (regional : Bool)
  /-- Fetch a document. -/
  | byId (route : Route) (id : String)
  /-- Fetch several documents. -/
  | byIds (route : Route) (ids : List String)
  /-- Look an entity up. -/
  | find (kind : Kind) (region : Option Int) (number : Int)
  /-- Look several entities up. -/
  | findMany (kind : Kind) (region : Option Int) (numbers : List Int)
  /-- Read one page of results. -/
  | scroll (route : Option Route) (query : Query) (size : Option Int) (sort cursor : Option String)

/-- What an operation finds. -/
inductive Found where
  | hits (h : Hits)
  | document (d : Json)
  | page (p : ScrollPage)
  deriving DecidableEq

/-- The dialogue of an operation. -/
def perform (r : Reader) : Operation → Dialogue (Except SearchError Found)
  | .search s route => (search s route).map (·.map .hits)
  | .searchKind kind s regional => (r.searchKind kind s regional).map (·.map .hits)
  | .byId route id => (byId route id).map (·.map .document)
  | .byIds route ids => (byIds route ids).map (·.map .hits)
  | .find kind region number => (r.find kind region number).map (·.map .hits)
  | .findMany kind region numbers => (r.findMany kind region numbers).map (·.map .hits)
  | .scroll route query size sort cursor =>
    (scroll route query size sort cursor).map (·.map .page)

/-- The requests that are refused before the engine is asked, with the cause. -/
inductive Refuses (r : Reader) : Operation → Refusal → Prop
  | blankId {route : Route} {id : String} (blank : Text.isAllBlank id = true) :
    Refuses r (.byId route id) .blankId
  | noIds {route : Route} : Refuses r (.byIds route []) .noIds
  | blankAmong {route : Route} {ids : List String} {id : String} (mem : id ∈ ids)
      (blank : Text.isAllBlank id = true) : Refuses r (.byIds route ids) .blankId
  | noRegions {kind : Kind} {number : Int} (regional : kind.isRegional = true)
      (none : r.validRegions = []) : Refuses r (.find kind .none number) (.noRegions kind)
  | noNumbers {kind : Kind} {region : Option Int} : Refuses r (.findMany kind region []) .noIds
  | nowhere {kind : Kind} {numbers : List Int} (regional : kind.isRegional = true)
      (none : r.validRegions = []) : Refuses r (.findMany kind .none numbers) .noIds
  | noRegionalIndex {kind : Kind} {s : Search} (none : r.routes.regionalSuffix = .none) :
    Refuses r (.searchKind kind s true) (.noRegionalIndex kind)

/-- The question that an operation is for the engine. -/
inductive Asks (r : Reader) : Operation → Question → Prop
  | search {s : Search} {route : Route} : Asks r (.search s route) (.search route s.body)
  | primary {kind : Kind} {s : Search} :
    Asks r (.searchKind kind s false) (.search (r.routes.primary kind) s.body)
  | regional {kind : Kind} {s : Search} {suffix : String}
      (there : r.routes.regionalSuffix = some suffix) :
    Asks r (.searchKind kind s true)
      (.search ⟨(r.routes.primary kind).index ++ suffix, (r.routes.primary kind).docType⟩ s.body)
  | byId {route : Route} {id : String} (named : Text.isAllBlank id = false) :
    Asks r (.byId route id) (.get route id)
  | byIds {route : Route} {ids : List String} (some : ids ≠ [])
      (named : ∀ id ∈ ids, Text.isAllBlank id = false) :
    Asks r (.byIds route ids) (.multiGet route ids)
  | findIn {kind : Kind} {region number : Int} :
    Asks r (.find kind (some region) number)
      (.get (r.routes.primary kind) (documentId kind region number))
  | findBare {kind : Kind} {number : Int} (bare : kind.isRegional = false) :
    Asks r (.find kind none number) (.get (r.routes.primary kind) (toString number))
  | findAnywhere {kind : Kind} {number : Int} (regional : kind.isRegional = true)
      (somewhere : r.validRegions ≠ []) :
    Asks r (.find kind none number)
      (.multiGet (r.routes.primary kind)
        (r.validRegions.map fun region => documentId kind region number))
  | findManyIn {kind : Kind} {region : Int} {numbers : List Int} (some : numbers ≠ []) :
    Asks r (.findMany kind (.some region) numbers)
      (.multiGet (r.routes.primary kind) (numbers.map fun n => documentId kind region n))
  | findManyBare {kind : Kind} {numbers : List Int} (some : numbers ≠ [])
      (bare : kind.isRegional = false) :
    Asks r (.findMany kind none numbers)
      (.multiGet (r.routes.primary kind) (numbers.map toString))
  | findManyAnywhere {kind : Kind} {numbers : List Int} (some : numbers ≠ [])
      (regional : kind.isRegional = true) (somewhere : r.validRegions ≠ []) :
    Asks r (.findMany kind none numbers)
      (.multiGet (r.routes.primary kind)
        (numbers.flatMap fun n => r.validRegions.map fun region => documentId kind region n))
  | openScroll {route : Option Route} {query : Query} {size : Option Int}
      {sort cursor : Option String} (fresh : cursor = none ∨ cursor = some "") :
    Asks r (.scroll route query size sort cursor) (openingQuestion route query size sort)
  | nextScroll {route : Option Route} {query : Query} {size : Option Int} {sort : Option String}
      {id : String} (proper : id ≠ "") :
    Asks r (.scroll route query size sort (some id)) (.nextScroll id keepAlive)

end Reader

end CatalogSearch
