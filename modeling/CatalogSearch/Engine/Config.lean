import CatalogSearch.Engine.Protocol
import CatalogSearch.Text.Quoted

/-!
# Configuration of the engine client

Where the engine is and how it is spoken to. Times are in milliseconds.
-/

namespace CatalogSearch

/-- A user name with its password. -/
structure Credentials where
  username : String
  password : String
  deriving DecidableEq

/-- The credentials as they may be shown: the password is left out. -/
def Credentials.display (c : Credentials) : String :=
  "BasicAuth \x7b username: " ++ Text.quoted c.username ++
    ", password: \"<redacted>\" \x7d"

/-- The configuration of the engine client. -/
structure EngineConfig where
  /-- The addresses of the engine's nodes. -/
  addresses : List String
  /-- Whether the nodes are asked from time to time for the nodes there are. -/
  sniff : Bool
  /-- How long an answer is waited for. -/
  requestTimeout : Nat
  /-- The user that requests are made for. -/
  credentials : Option Credentials
  /-- The proxy that requests go through. -/
  proxy : Option String
  /-- How documents are addressed. -/
  protocol : Protocol
  deriving DecidableEq

namespace EngineConfig

/-- The address that is used when none is given. -/
def defaultAddress : String := "http://localhost:9200"

/-- How long an answer is waited for unless another time is set. -/
def defaultTimeout : Nat := 15000

/-- A configuration with addresses and otherwise the defaults. -/
def ofAddresses (addresses : List String) : EngineConfig :=
  ⟨addresses, false, defaultTimeout, none, none, .typeless⟩

/-- The configuration that is used when nothing is given. -/
def default : EngineConfig := ofAddresses [defaultAddress]

/-- Set the user. -/
def withCredentials (c : EngineConfig) (username password : String) : EngineConfig :=
  { c with credentials := some ⟨username, password⟩ }

/-- Set the protocol. -/
def withProtocol (c : EngineConfig) (protocol : Protocol) : EngineConfig := { c with protocol }

/-- Set how long an answer is waited for. No time at all keeps the time that was set. -/
def withTimeout (c : EngineConfig) (ms : Nat) : EngineConfig :=
  if ms = 0 then c else { c with requestTimeout := ms }

end EngineConfig

end CatalogSearch
