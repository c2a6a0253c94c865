import CatalogSearch.Query.FreeText

/-!
# Reading phrases

How the engine reads a query string that consists of phrases: each stands in double quotes, one
space stands between two of them, and inside a phrase a backslash makes the next character literal,
so that a phrase ends at the first quote without a backslash before it.
-/

namespace CatalogSearch.FreeText

/-- The rest of a phrase that has been opened and the phrases behind it, if the whole text can be
read. -/
def readOpen? : List Char → Option (List (List Char))
  | [] => none
  | ['"'] => some [[]]
  | '"' :: ' ' :: '"' :: cs => (readOpen? cs).map ([] :: ·)
  | '"' :: _ => none
  | '\\' :: c :: cs => (readOpen? cs).map (·.modifyHead (c :: ·))
  | ['\\'] => none
  | c :: cs => (readOpen? cs).map (·.modifyHead (c :: ·))

/-- The phrases of a text, if it consists of phrases. -/
def phrases? (text : String) : Option (List String) :=
  match text.toList with
  | '"' :: cs => (readOpen? cs).map (·.map String.ofList)
  | _ => none

end CatalogSearch.FreeText
