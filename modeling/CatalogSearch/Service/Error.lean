import CatalogSearch.Batcher.Error

/-!
# Errors of the service
-/

namespace CatalogSearch.Service

/-- Why the service cannot start or stop. -/
inductive Error where
  /-- Its configuration is wrong, or the engine is not to be had. -/
  | config (detail : String)
  | search (cause : SearchError)
  | batcher (cause : Batcher.Error)
  deriving DecidableEq

/-- The message of an error of the service. -/
def Error.message : Error → String
  | .config detail => "Configuration error: " ++ detail
  | .search cause => "Search error: " ++ cause.message
  | .batcher cause => "Batcher error: " ++ cause.message

end CatalogSearch.Service
