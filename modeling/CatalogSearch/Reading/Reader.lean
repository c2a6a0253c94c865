import CatalogSearch.Catalog.Identity
import CatalogSearch.Query.Search
import CatalogSearch.Reading.Dialogue
import CatalogSearch.Reading.Hits

/-!
# The reader

Searches, look-ups and scrolls of the catalog. Each operation checks its own input first and asks
the engine nothing if it refuses it. A read is asked once; an error of the engine is passed on.

## Main definitions

* `Reader.search`, `Reader.searchKind`: searches in an index, or in the index of a kind.
* `Reader.byId`, `Reader.byIds`: documents by their ids.
* `Reader.find`, `Reader.findMany`: entities by their numbers.
* `Reader.scroll`: results page by page.
-/

namespace CatalogSearch

/-- What reads need to know of the catalog. -/
structure Reader where
  routes : Routes
  /-- The regions in which an entity is looked for when no region is given. -/
  validRegions : List Int

namespace Reader

/-- A dialogue that is over before it begins. -/
def refuse {α : Type} (cause : Refusal) : Dialogue (Except SearchError α) :=
  .done (.error (.refused cause))

/-- Search an index. -/
def search (s : Search) (route : Route) : Dialogue (Except SearchError Hits) :=
  .ask (.search route s.body) fun reply => .done (reply.bind Hits.ofAnswer)

/-- Search the primary or the regional index of a kind. -/
def searchKind (r : Reader) (kind : Kind) (s : Search) (regional : Bool) :
    Dialogue (Except SearchError Hits) :=
  match r.routes.select kind regional with
  | .error e => .done (.error e)
  | .ok route => search s route

/-- Fetch a document. -/
def byId (route : Route) (id : String) : Dialogue (Except SearchError Json) :=
  if Text.isAllBlank id then refuse .blankId
  else .ask (.get route id) fun reply => .done (reply.bind (Hits.ofEntry route.index id))

/-- Fetch several documents at once. Those that are missing are left out, but not all of them may
be missing. -/
def byIds (route : Route) (ids : List String) : Dialogue (Except SearchError Hits) :=
  if ids.isEmpty then refuse .noIds
  else if ids.any Text.isAllBlank then refuse .blankId
  else
    .ask (.multiGet route ids) fun reply =>
      .done (reply.bind (Hits.ofEntries route.index ids.length))

/-- Look an entity up by its number. -/
def find (r : Reader) (kind : Kind) (region : Option Int) (number : Int) :
    Dialogue (Except SearchError Hits) :=
  let route := r.routes.primary kind
  match Lookup.resolve kind region number r.validRegions with
  | .single id => (byId route id).map (·.map fun document => ⟨1, [document]⟩)
  | .multi ids => if ids.isEmpty then refuse (.noRegions kind) else byIds route ids

/-- Look several entities up by their numbers, all at once. -/
def findMany (r : Reader) (kind : Kind) (region : Option Int) (numbers : List Int) :
    Dialogue (Except SearchError Hits) :=
  byIds (r.routes.primary kind)
    (numbers.flatMap fun n => (Lookup.resolve kind region n r.validRegions).ids)

/-- How long the engine keeps a cursor between two pages. -/
def keepAlive : String := "5m"

/-- The question for a page: the next one of a cursor, or the first one of a query. An empty cursor
counts as none. -/
def pageQuestion (route : Option Route) (query : Query) (size : Option Int)
    (sort cursor : Option String) : Question :=
  match cursor.filter (· ≠ "") with
  | some id => .nextScroll id keepAlive
  | none => .openScroll route (Search.compose query none size sort none).scrollBody keepAlive

/-- Read one page of results. Without a cursor a scroll is opened; with one it is continued, and
the query, the size and the sort field do not matter. The cursor of the next page is the one in
the answer, or else the one that was given. A page without documents ends the scroll: the cursor
is given back to the engine, whatever it says to that. -/
def scroll (route : Option Route) (query : Query) (size : Option Int)
    (sort cursor : Option String) : Dialogue (Except SearchError ScrollPage) :=
  .ask (pageQuestion route query size sort cursor) fun reply =>
    match reply with
    | .error e => .done (.error e)
    | .ok answer =>
      match Hits.ofAnswer answer with
      | .error e => .done (.error e)
      | .ok hits =>
        let next := ((answer.get? "_scroll_id").bind Json.text?).or cursor
        if hits.documents.isEmpty then
          match next with
          | some id => .ask (.clearScroll [id]) fun _ => .done (.ok ⟨hits.total, [], none⟩)
          | none => .done (.ok ⟨hits.total, [], none⟩)
        else .done (.ok ⟨hits.total, hits.documents, next⟩)

/-- Give cursors back to the engine, whatever it says to that. -/
def clearScroll (ids : List String) : Dialogue Unit :=
  if ids.isEmpty then .done () else .ask (.clearScroll ids) fun _ => .done ()

end Reader

end CatalogSearch
