import CatalogSearch.Engine.Config
import CatalogSearch.Engine.Pool
import CatalogSearch.Wire.Answer

/-!
# The engine client

The client turns what is asked of the engine into requests. It sends them to the nodes of its pool
in turn, in the name of the user of the node's address or else of the configured one. A client that
sniffs asks from time to time for the nodes there are and goes on with those.
-/

namespace CatalogSearch.Wire

open Net (AddressError HttpRequest Url)

/-- A client. -/
structure Client where
  pool : Pool Url
  protocol : Protocol
  credentials : Option Credentials
  /-- How long answers are waited for. -/
  requestTimeout : Nat
  /-- The scheme of the addresses of nodes that are found, if nodes are looked for. -/
  sniffScheme : Option String

namespace Client

/-- How often nodes are looked for. -/
def sniffInterval : Nat := 300000

/-- The addresses of a list of texts. The first one at fault decides the error. -/
def readAddresses : List String → Except AddressError (List Url)
  | [] => .ok []
  | a :: as => do return (← Url.parse (Text.trim a)) :: (← readAddresses as)

/-- The address of a proxy, which is one of HTTP if it names no scheme. -/
def readProxy (proxy : String) : Except AddressError Url :=
  if (proxy.splitOn "://").length = 1 then Url.parse ("http://" ++ proxy) else Url.parse proxy

/-- The proxy of a configuration, if one is given. -/
def proxyOf (c : EngineConfig) : Option String := (c.proxy.map Text.trim).filter (· ≠ "")

/-- A fault of the configuration. -/
def fault (detail : String) : SearchError := .reported .connection detail

/-- Check the proxy of a configuration. -/
def checkProxy (c : EngineConfig) : Except SearchError Unit :=
  match (proxyOf c).map readProxy with
  | some (.error e) => .error (fault ("invalid proxy: " ++ e.message))
  | _ => .ok ()

/-- The pool of some nodes. -/
def poolOf (nodes : List Url) : Except SearchError (Pool Url) :=
  match Pool.ofList? nodes with
  | some pool => .ok pool
  | none => .error (fault "no engine address configured")

/-- The client of a configuration. -/
def ofConfig (c : EngineConfig) : Except SearchError Client := do
  let nodes ← (readAddresses c.addresses).mapError fun e => fault e.message
  let pool ← poolOf nodes
  checkProxy c
  return {
    pool
    protocol := c.protocol
    credentials := c.credentials
    requestTimeout := c.requestTimeout
    sniffScheme := if c.sniff then nodes.head?.map Url.scheme else none }

/-- The user that a request to an address is made for. -/
def authorization (c : Client) (url : Url) : Option String :=
  match url.userInfo?, c.credentials with
  | some (username, password), _ => some (Net.basicAuthorization username (password.getD ""))
  | none, some user => some (Net.basicAuthorization user.username user.password)
  | none, none => none

/-- The request of a call to a node, if it can be made. -/
def requestTo? (c : Client) (node : Url) (call : Call) : Option HttpRequest :=
  match node.asDirectory.join (String.ofList (call.path.toList.dropWhile (· = '/'))) with
  | .error _ => none
  | .ok url =>
    if url.isHttp then
      let target := if url.userInfo?.isSome then url.withoutUser else url
      some {
        method := call.method
        url := { target.withParameters call.parameters with fragment := none }
        authorization := c.authorization url
        body := call.body
        timeout := call.timeout }
    else none

/-- Direct a call to the node whose turn it is. The turn is used up even if the request cannot be
made. -/
def direct (c : Client) (call : Call) : Option HttpRequest × Client :=
  let (node, pool) := c.pool.next
  (c.requestTo? node call, { c with pool })

/-- Go on with the nodes that a response lists, if it lists any. -/
def adopt (c : Client) (r : Net.HttpResponse) : Client :=
  match c.sniffScheme with
  | some scheme => { c with pool := (c.pool.reseed (nodeUrls scheme r)).2 }
  | none => c

end Client

end CatalogSearch.Wire
