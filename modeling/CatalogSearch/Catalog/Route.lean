import CatalogSearch.Engine.Error
import CatalogSearch.Engine.Protocol

/-!
# Routes

A route names the index, and the type inside it, in which the entities of a kind are stored. The
default routes depend on the protocol. Beside its primary index a kind may have a regional one,
whose name has a suffix.

## Main definitions

* `Route.parse`: a route from `index` or `index/type`.
* `Routes.select`: the primary or the regional route of a kind.
-/

namespace CatalogSearch

/-- An index and the type inside it. -/
structure Route where
  index : String
  docType : String
  deriving DecidableEq, Inhabited

namespace Route

/-- A route, the default type standing for an empty one. -/
def make (index docType : String) : Route := ⟨index, typeOrDefault docType⟩

/-- The parts of a text before and after its first slash; without a slash the second is empty. -/
def cut (cs : List Char) : List Char × List Char :=
  (cs.takeWhile (· != '/'), (cs.dropWhile (· != '/')).drop 1)

/-- What stands before and behind the first slash of a text. Without a slash the whole text stands
before it, and nothing behind. -/
inductive Divided : List Char → List Char → List Char → Prop where
  | atSlash {before behind : List Char} (free : '/' ∉ before) :
    Divided (before ++ '/' :: behind) before behind
  | whole {cs : List Char} (free : '/' ∉ cs) : Divided cs cs []

/-- The route that a text names as `index` or `index/type`, blanks around either aside. -/
def parse (s : String) : Except SearchError Route :=
  let trimmed := Text.trimChars s.toList
  let (index, docType) := cut trimmed
  let index := String.ofList (Text.trimChars index)
  if index = "" then .error (.refused (.routeWithoutIndex (String.ofList trimmed)))
  else .ok (make index (String.ofList (Text.trimChars docType)))

/-- The route with a suffix added to its index. -/
def withSuffix (r : Route) (suffix : String) : Route := { r with index := r.index ++ suffix }

end Route

/-- The routes of all kinds. -/
structure Routes where
  /-- The primary route of a kind. -/
  primary : Kind → Route
  /-- The suffix of regional indexes, if there are any. -/
  regionalSuffix : Option String

namespace Routes

/-- The suffix of regional indexes that is used unless another one is set. -/
def defaultSuffix : String := "_th"

/-- The default route of a kind. A typed engine keeps kinds apart by type, a typeless one by
index. -/
def defaultRoute : Protocol → Kind → Route
  | .typed, .track => .make "joox_music" "tracks"
  | .typed, .album => .make "joox_music" "albums"
  | .typed, .singer => .make "joox_music" "singers"
  | .typed, .video => .make "video" "music_mv"
  | .typed, .interviewVideo => .make "video" "interview_mv"
  | .typeless, .track => .make "joox_tracks" ""
  | .typeless, .album => .make "joox_albums" ""
  | .typeless, .singer => .make "joox_singers" ""
  | .typeless, .video => .make "music_mv" ""
  | .typeless, .interviewVideo => .make "interview_mv" ""

/-- The default routes of a protocol. -/
def ofProtocol (p : Protocol) : Routes := ⟨defaultRoute p, some defaultSuffix⟩

/-- Set the route of one kind. -/
def withRoute (rs : Routes) (kind : Kind) (route : Route) : Routes :=
  { rs with primary := fun k => if k = kind then route else rs.primary k }

/-- Set the suffix of regional indexes; without one, or with an empty one, there are none. -/
def withRegionalSuffix (rs : Routes) (suffix : Option String) : Routes :=
  { rs with regionalSuffix := suffix.filter (· ≠ "") }

/-- The regional route of a kind. -/
def regional (rs : Routes) (kind : Kind) : Except SearchError Route :=
  match rs.regionalSuffix with
  | some suffix => .ok ((rs.primary kind).withSuffix suffix)
  | none => .error (.refused (.noRegionalIndex kind))

/-- The regional route of a kind, or its primary one. -/
def select (rs : Routes) (kind : Kind) (regional : Bool) : Except SearchError Route :=
  if regional then rs.regional kind else .ok (rs.primary kind)

end Routes

end CatalogSearch
