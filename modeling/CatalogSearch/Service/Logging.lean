import CatalogSearch.Service.Error
import CatalogSearch.Service.LogFilter

/-!
# Logging

Which events are logged and in which form is settled once, by two variables, when logging starts.
Starting it again is an error and changes nothing.
-/

namespace CatalogSearch.Service

/-- The forms in which events are logged. -/
inductive LogFormat where
  | plain
  | json
  deriving DecidableEq

namespace LogFormat

/-- The name of a form. -/
def name : LogFormat → String
  | .plain => "plain"
  | .json => "json"

/-- The form that a variable asks for, blanks around it and letter case aside. -/
def ofVariable (text : Option String) : LogFormat :=
  if text.any fun s => Text.sameIgnoringCase (Text.trim s) LogFormat.json.name then .json
  else .plain

end LogFormat

/-- How events are logged. -/
structure Logging where
  filter : LogFilter
  format : LogFormat

namespace Logging

/-- The logging that the variables for the filter and the form ask for. -/
def ofVariables (filter format : Option String) : Logging :=
  ⟨.ofVariable filter, .ofVariable format⟩

/-- Start logging where `current` is the logging that has been started, if any. -/
def start (current : Option Logging) (logging : Logging) : Except Error Logging :=
  match current with
  | none => .ok logging
  | some _ => .error (.config "Failed to initialize tracing: logging has been started before")

end Logging

end CatalogSearch.Service
