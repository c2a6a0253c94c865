/-!
# Letter case

Case of the letters A to Z. Names of kinds, protocols, levels and hosts are compared and written
with it; all other characters are left as they are.
-/

namespace CatalogSearch.Text

/-- The text with the letters A to Z made small. -/
def lower (s : String) : String :=
  String.ofList (s.toList.map Char.toLower)

/-- The text with the letters a to z made capital. -/
def upper (s : String) : String :=
  String.ofList (s.toList.map Char.toUpper)

/-- Whether two texts differ at most in the case of the letters A to Z. -/
def sameIgnoringCase (s t : String) : Bool :=
  lower s == lower t

end CatalogSearch.Text
