import CatalogSearch.Json.Basic
import CatalogSearch.Text.Blank
import CatalogSearch.Text.LetterCase

/-!
# Kinds of catalog entities

Tracks, albums and singers are stored once for each region; videos and interview videos once for
all regions.
-/

namespace CatalogSearch

/-- A kind of catalog entity. -/
inductive Kind where
  | track
  | album
  | singer
  | video
  | interviewVideo
  deriving DecidableEq, Inhabited

namespace Kind

/-- All kinds, in the order in which they are listed everywhere. -/
def all : List Kind := [.track, .album, .singer, .video, .interviewVideo]

/-- The name of a kind in document ids and settings. -/
def name : Kind → String
  | .track => "track"
  | .album => "album"
  | .singer => "singer"
  | .video => "video"
  | .interviewVideo => "interview_video"

/-- Whether documents of a kind are stored once for each region. -/
def isRegional : Kind → Bool
  | .track | .album | .singer => true
  | .video | .interviewVideo => false

/-- The kind with exactly this name. -/
def ofName? (s : String) : Option Kind := all.find? fun k => k.name = s

/-- The kind that a text names, blanks around it and letter case aside. -/
def ofText? (s : String) : Option Kind :=
  all.find? fun k => Text.sameIgnoringCase k.name (Text.trim s)

/-- What is said of a text that names no kind. -/
def unknownMessage (s : String) : String := "unknown entity kind: " ++ s

/-- A kind from its JSON form: its name, or an object with the name and null. -/
def ofJson? : Json → Option Kind
  | .str s => ofName? s
  | .obj [(s, .null)] => ofName? s
  | _ => none

/-- The JSON form of a kind. -/
def toJson (k : Kind) : Json := .str k.name

end Kind

end CatalogSearch
