import CatalogSearch.Engine.Error

/-!
# Errors of the batcher
-/

namespace CatalogSearch.Batcher

/-- Why the batcher does not do what it is asked for. -/
inductive Error where
  /-- It has shut down. -/
  | closed
  /-- Its worker has been started before. -/
  | alreadyRunning
  /-- The declaration is refused, or the engine fails. -/
  | search (cause : SearchError)
  /-- Its worker has died. -/
  | worker (detail : String)
  deriving DecidableEq

/-- The message of an error of the batcher. -/
def Error.message : Error → String
  | .closed => "Batcher is closed"
  | .alreadyRunning => "Batcher is already running"
  | .search cause => "Search error: " ++ cause.message
  | .worker detail => "Worker error: " ++ detail

end CatalogSearch.Batcher
