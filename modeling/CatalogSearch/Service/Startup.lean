import CatalogSearch.Service.Settings
import CatalogSearch.Wire.Client

/-!
# Starting the service

The service starts when its variables give settings, the settings give a client, and the engine
says that it is well. Whatever fails first is reported as a fault of the configuration.
-/

namespace CatalogSearch.Service

/-- Why the service does not start. -/
inductive StartupError where
  | settings (cause : SettingsError)
  /-- There is no client for the settings. -/
  | client (cause : SearchError)
  /-- The engine could not be asked how it is. -/
  | unreachable (cause : SearchError)
  /-- The engine is not well. -/
  | unwell
  deriving DecidableEq

/-- What is said of a start that failed. -/
def StartupError.message : StartupError → String
  | .settings cause => cause.message
  | .client cause => "Failed to create OpenSearch client: " ++ cause.message
  | .unreachable cause => "OpenSearch health check failed: " ++ cause.message
  | .unwell => "OpenSearch cluster is unhealthy"

/-- The error of the service that a failed start is reported as. -/
def StartupError.toError (e : StartupError) : Error := .config e.message

/-- The settings that the variables give, and a client for them. -/
def prepare (lookup : String → Option String) :
    Except StartupError (Settings × Wire.Client) := do
  let settings ← (Settings.load lookup).mapError .settings
  let client ← (Wire.Client.ofConfig settings.engine).mapError .client
  return (settings, client)

/-- What the engine's word on how it is means for the start. -/
def permit : Except SearchError Bool → Except StartupError Unit
  | .error cause => .error (.unreachable cause)
  | .ok true => .ok ()
  | .ok false => .error .unwell

end CatalogSearch.Service
