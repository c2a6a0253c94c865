import CatalogSearch.Text.Blank
import CatalogSearch.Text.LetterCase

/-!
# Protocols

Older engines keep a type beside the id of each document; newer ones do not.
-/

namespace CatalogSearch

/-- How an engine addresses documents. -/
inductive Protocol where
  /-- By index, type and id. -/
  | typed
  /-- By index and id. -/
  | typeless
  deriving DecidableEq, Inhabited

namespace Protocol

/-- The name of a protocol. -/
def name : Protocol → String
  | .typed => "typed"
  | .typeless => "typeless"

/-- The texts that name a protocol. -/
def spellings : Protocol → List String
  | .typed => ["typed", "legacy", "6"]
  | .typeless => ["typeless", "7", "opensearch"]

/-- What of a text is looked at to find the protocol it names. -/
def normalized (s : String) : String := Text.lower (Text.trim s)

/-- The protocol that a text names, blanks around it and letter case aside. -/
def ofText? (s : String) : Option Protocol :=
  if (spellings .typed).contains (normalized s) then some .typed
  else if (spellings .typeless).contains (normalized s) then some .typeless
  else none

/-- What is said of a text that names no protocol. -/
def unknownMessage (s : String) : String := "unknown engine protocol: " ++ normalized s

end Protocol

end CatalogSearch
