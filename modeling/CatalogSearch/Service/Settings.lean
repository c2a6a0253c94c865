import CatalogSearch.Batcher.Config
import CatalogSearch.Catalog.Route
import CatalogSearch.Engine.Config
import CatalogSearch.Service.Error
import CatalogSearch.Text.Number

/-!
# Settings

The settings of the service come from named variables. A variable that is missing or blank leaves
a default in place, and the text of a variable is trimmed before it is read. The regional suffix
is the exception: a blank one says that there are no regional indexes.

The variables are looked at in a fixed order, and the first one at fault decides the error.
-/

namespace CatalogSearch.Service

/-- Everything that the service is built from. -/
structure Settings where
  engine : EngineConfig
  batcher : Batcher.Config
  routes : Routes
  /-- The regions in which an entity is looked for when no region is given. -/
  validRegions : List Int

/-- What is wrong with a variable. -/
inductive SettingsError where
  /-- The list of addresses has no items. -/
  | noAddresses
  /-- The text does not name a protocol. -/
  | protocol (text : String)
  /-- The text is no number or no flag. -/
  | value (key text : String) (fault : Text.Fault)
  /-- An item of the list of regions is no number. -/
  | region (item : String) (fault : Text.Fault)
  /-- The text is no route. -/
  | route (key : String) (cause : SearchError)
  deriving DecidableEq

/-- What is said of a variable that is at fault. -/
def SettingsError.message : SettingsError → String
  | .noAddresses => "SEARCH_ENGINE_URLS has no addresses"
  | .protocol text =>
    "SEARCH_ENGINE_PROTOCOL '" ++ text ++ "': " ++ Protocol.unknownMessage text
  | .value key text fault => key ++ " '" ++ text ++ "': " ++ fault.message
  | .region item fault => "VALID_REGIONS entry '" ++ item ++ "': " ++ fault.message
  | .route key cause => key ++ ": " ++ cause.message

namespace Settings

/-- The trimmed text of a variable, if it is not blank. -/
def value (lookup : String → Option String) (key : String) : Option String :=
  ((lookup key).map Text.trim).filter (· ≠ "")

/-- The value of a variable, or a default. -/
def readOr {α : Type} (lookup : String → Option String) (key : String)
    (read : String → Except Text.Fault α) (default : α) : Except SettingsError α :=
  match value lookup key with
  | none => .ok default
  | some text =>
    match read text with
    | .ok x => .ok x
    | .error fault => .error (.value key text fault)

/-- The addresses of the engine's nodes. -/
def readAddresses (lookup : String → Option String) : Except SettingsError (List String) :=
  match value lookup "SEARCH_ENGINE_URLS" with
  | none => .ok [EngineConfig.defaultAddress]
  | some text => if (Text.items text).isEmpty then .error .noAddresses else .ok (Text.items text)

/-- The protocol of the engine. -/
def readProtocol (lookup : String → Option String) : Except SettingsError Protocol :=
  match value lookup "SEARCH_ENGINE_PROTOCOL" with
  | none => .ok .typeless
  | some text =>
    match Protocol.ofText? text with
    | some p => .ok p
    | none => .error (.protocol text)

/-- The greatest number of 64 bits. -/
def maxNumber : Nat := 0xFFFFFFFFFFFFFFFF

/-- The greatest region. -/
def maxRegion : Nat := 0x7FFFFFFF

/-- The regions of a list of items. -/
def readRegionItems : List String → Except SettingsError (List Int)
  | [] => .ok []
  | item :: items =>
    match Text.readInt maxRegion item with
    | .error fault => .error (.region item fault)
    | .ok r => (readRegionItems items).map (r :: ·)

/-- The valid regions. -/
def readRegions (lookup : String → Option String) : Except SettingsError (List Int) :=
  match value lookup "VALID_REGIONS" with
  | none => .ok []
  | some text => readRegionItems (Text.items text)

/-- The variable that sets the route of a kind. -/
def routeVariable (kind : Kind) : String := "SEARCH_INDEX_" ++ Text.upper kind.name

/-- Set the routes of the kinds that have a variable. -/
def readRoutes (lookup : String → Option String) (routes : Routes) :
    List Kind → Except SettingsError Routes
  | [] => .ok routes
  | kind :: kinds =>
    match value lookup (routeVariable kind) with
    | none => readRoutes lookup routes kinds
    | some text =>
      match Route.parse text with
      | .error cause => .error (.route (routeVariable kind) cause)
      | .ok route => readRoutes lookup (routes.withRoute kind route) kinds

/-- Set the regional suffix, if its variable is there at all. -/
def readSuffix (lookup : String → Option String) (routes : Routes) : Routes :=
  match lookup "SEARCH_REGIONAL_SUFFIX" with
  | none => routes
  | some text => routes.withRegionalSuffix (some (Text.trim text))

/-- The user that requests are made for: none without a user name. -/
def readCredentials (lookup : String → Option String) : Option Credentials :=
  (value lookup "SEARCH_ENGINE_USERNAME").map fun username =>
    ⟨username, (value lookup "SEARCH_ENGINE_PASSWORD").getD ""⟩

/-- The settings that the variables give. -/
def load (lookup : String → Option String) : Except SettingsError Settings := do
  let addresses ← readAddresses lookup
  let protocol ← readProtocol lookup
  let timeout ← readOr lookup "SEARCH_ENGINE_TIMEOUT_MS" (Text.readNat maxNumber) 0
  let sniff ← readOr lookup "SEARCH_ENGINE_SNIFF" Text.readBool false
  let batchSize ← readOr lookup "BULK_BATCH_SIZE" (Text.readNat maxNumber) 0
  let flushSeconds ← readOr lookup "BULK_FLUSH_INTERVAL_SECS" (Text.readNat maxNumber) 0
  let validRegions ← readRegions lookup
  let routes ← readRoutes lookup (.ofProtocol protocol) Kind.all
  return {
    engine :=
      { ((EngineConfig.ofAddresses addresses).withProtocol protocol).withTimeout timeout with
        sniff, proxy := value lookup "SEARCH_ENGINE_PROXY"
        credentials := readCredentials lookup }
    batcher := (Batcher.Config.default.withBatchSize batchSize).withFlushInterval
      (flushSeconds * 1000)
    routes := readSuffix lookup routes
    validRegions }

end Settings

end CatalogSearch.Service
