import CatalogSearch.Simulation.Backend
import CatalogSearch.Wire.Client

/-!
# An engine at the other end of the wire

A simulated engine that is spoken to through a client: it notes the requests that the client sends
and answers them from one list of responses, in the order in which they are sent.
-/

namespace CatalogSearch.Simulation

open Net (HttpRequest HttpResponse)
open Wire (Call Client Outcome)

/-- What becomes of a request. -/
inductive Delivery where
  /-- It is answered at once. -/
  | answered (response : HttpResponse)
  /-- The connection is closed. -/
  | dropped
  /-- There is no answer ever. -/
  | silent

/-- The answer when the list of responses has come to its end. -/
def Delivery.unscripted : Delivery := .answered ⟨500, "no scripted response"⟩

/-- The state of the engine and of the client. -/
structure WireEngine where
  client : Client
  /-- What becomes of the next requests. -/
  deliveries : List Delivery
  /-- The requests that have been sent, the latest first. -/
  log : List HttpRequest
  /-- When nodes are looked for next, if they are. -/
  nextSniff : Option Nat

namespace WireEngine

/-- A request with what comes back of it. A request that is not sent has no outcome. -/
structure Ticket where
  request : Request
  outcome : Option Outcome

/-- The engine of a client that is made at time `now`. -/
def start (client : Client) (deliveries : List Delivery) (now : Nat) : WireEngine :=
  ⟨client, deliveries, [], client.sniffScheme.map fun _ => now + Client.sniffInterval⟩

/-- The call for a request, if there is one. -/
def callOf? (c : Client) : Request → Option Call
  | .read q => some (Wire.questionCall c.protocol c.requestTimeout q)
  | .write w => Wire.writeCall c.protocol c.requestTimeout w
  | .health => some (Wire.healthCall c.requestTimeout)

/-- Send a call: the outcome and how long it is waited for, if it ends. -/
def send (e : WireEngine) (call : Call) : WireEngine × Outcome × Option Nat :=
  let (request?, client) := e.client.direct call
  match request? with
  | none => ({ e with client }, none, some 0)
  | some request =>
    let delivery := e.deliveries.head?.getD .unscripted
    let e := { e with client, deliveries := e.deliveries.tail, log := request :: e.log }
    match delivery with
    | .answered response => (e, some response, some 0)
    | .dropped => (e, none, some 0)
    | .silent => (e, none, request.timeout)

/-- A request is made at time `now`. -/
def receive (e : WireEngine) (now : Nat) (request : Request) :
    WireEngine × Ticket × Option Nat :=
  match callOf? e.client request with
  | none => (e, ⟨request, none⟩, some now)
  | some call =>
    let (e, outcome, wait) := e.send call
    (e, ⟨request, some outcome⟩, wait.map (now + ·))

/-- The answer to a request. -/
def answer (e : WireEngine) (t : Ticket) : WireEngine × Response :=
  (e, match t.request, t.outcome with
    | .read q, outcome => .read (Wire.reply q (outcome.getD none))
    | .write w, some outcome => .write (Wire.written w outcome)
    | .write _, none => .write (.ok .nothing)
    | .health, outcome => .health (Wire.health (outcome.getD none)))

/-- Look for nodes at time `now`, and again an interval later unless the answer never comes. -/
def sniff (e : WireEngine) (now : Nat) : WireEngine :=
  let (e, outcome, wait) := e.send Wire.nodesCall
  { e with
    client := (outcome.map e.client.adopt).getD e.client
    nextSniff := wait.map fun _ => now + Client.sniffInterval }

/-- The requests since the log was last emptied, in order, and the engine with an empty log. -/
def takeLog (e : WireEngine) : List HttpRequest × WireEngine :=
  (e.log.reverse, { e with log := [] })

/-- The engine as a backend. By itself it looks for nodes. -/
def backend : Backend WireEngine Ticket :=
  { receive, answer, nextTimer := nextSniff, fire := sniff }

end WireEngine

end CatalogSearch.Simulation
