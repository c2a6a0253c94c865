import CatalogSearch.Service.Settings

/-!
# Variables of the service

The variables that the settings are read from, and what of their texts the settings can show: the
trimmed text of each of them, the password only beside a user name, and of the regional suffix also
whether it is there.
-/

namespace CatalogSearch.Service.Settings

/-- The variables that are read as trimmed texts, a missing one being the same as a blank one. The
regional suffix is not among them. -/
def trimmedVariables : List String :=
  ["SEARCH_ENGINE_URLS", "SEARCH_ENGINE_SNIFF", "SEARCH_ENGINE_TIMEOUT_MS",
    "SEARCH_ENGINE_USERNAME", "SEARCH_ENGINE_PASSWORD", "SEARCH_ENGINE_PROXY",
    "SEARCH_ENGINE_PROTOCOL", "BULK_BATCH_SIZE", "BULK_FLUSH_INTERVAL_SECS", "VALID_REGIONS"] ++
    Kind.all.map routeVariable

/-- The trimmed text of a variable, a missing one counting as blank. -/
def textOf (lookup : String → Option String) (key : String) : String :=
  Text.trim ((lookup key).getD "")

/-- The variables with one of them set, or taken away. -/
def assign (lookup : String → Option String) (key : String) (text : Option String) :
    String → Option String :=
  fun k => if k = key then text else lookup k

/-- Two ways to look variables up that differ in blanks around their texts at most, in variables
that are not read, and in the password if there is no user name. -/
structure Alike (lookup other : String → Option String) : Prop where
  text : ∀ key ∈ trimmedVariables, key ≠ "SEARCH_ENGINE_PASSWORD" →
    textOf lookup key = textOf other key
  password : textOf lookup "SEARCH_ENGINE_USERNAME" ≠ "" →
    textOf lookup "SEARCH_ENGINE_PASSWORD" = textOf other "SEARCH_ENGINE_PASSWORD"
  suffix : (lookup "SEARCH_REGIONAL_SUFFIX").map Text.trim =
    (other "SEARCH_REGIONAL_SUFFIX").map Text.trim

end CatalogSearch.Service.Settings
