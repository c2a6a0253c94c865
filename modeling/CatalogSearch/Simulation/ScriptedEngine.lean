import CatalogSearch.Engine.Store
import CatalogSearch.Simulation.Backend

/-!
# A scripted engine

A simulated engine that follows two scripts, one for reads and one for writes, and keeps documents
in memory once a script has come to its end. Every request takes the next entry of its script when
it is received; documents change when it is answered.
-/

namespace CatalogSearch.Simulation

/-- What an engine does with one request. -/
structure ScriptEntry where
  /-- How long it takes to answer. -/
  delay : Nat
  /-- What it answers: an error, or a value that may be missing. -/
  outcome : Except SearchError (Option Json)

/-- The state of a scripted engine. -/
structure ScriptedEngine where
  /-- What it does with the next reads. -/
  reads : List ScriptEntry
  /-- What it does with the next writes. -/
  writes : List ScriptEntry
  documents : Documents
  /-- The requests it has received, the latest first, with their times. -/
  log : List (Nat × Request)

namespace ScriptedEngine

/-- A request with the entry of the script that it has taken. -/
structure Ticket where
  request : Request
  entry : Option ScriptEntry

/-- An engine without documents that follows two scripts. -/
def ofScripts (reads writes : List ScriptEntry) : ScriptedEngine := ⟨reads, writes, [], []⟩

/-- The next entry of a script. -/
def takeEntry (request : Request) (e : ScriptedEngine) : Option ScriptEntry × ScriptedEngine :=
  match request with
  | .write _ => (e.writes.head?, { e with writes := e.writes.tail })
  | _ => (e.reads.head?, { e with reads := e.reads.tail })

/-- Log a request and take the next entry of its script. -/
def receive (e : ScriptedEngine) (now : Nat) (request : Request) :
    ScriptedEngine × Ticket × Option Nat :=
  let (entry, e) := takeEntry request e
  ({ e with log := (now, request) :: e.log }, ⟨request, entry⟩,
    some (now + (entry.map ScriptEntry.delay).getD 0))

/-- The answer of the documents in memory to a question. -/
def fromMemory (docs : Documents) : Question → Reply
  | .search route _ => .ok (docs.searchAnswer (some route.index))
  | .get route id => .ok (docs.getAnswer route.index id)
  | .multiGet route ids => .ok (docs.multiGetAnswer route.index ids)
  | .openScroll route _ _ => .ok (docs.searchAnswer (route.map Route.index))
  | .nextScroll .. => .error (.reported .query "no such cursor")
  | .clearScroll _ => .ok .null

/-- The summary of a write that was applied. -/
def summaryOf (write : Batcher.Write) (body : Option Json) : Summary :=
  let n := write.declarations.length
  match write, body with
  | .bulk .., some body => .ofResponse body n
  | _, _ => .allSucceeded n

/-- Answer a request: as the script says, or from memory. A write that succeeds is applied. -/
def answer (e : ScriptedEngine) (t : Ticket) : ScriptedEngine × Response :=
  match t.request, t.entry with
  | .read _, some entry => (e, .read (entry.outcome.map fun v => Json.orNull v))
  | .read q, none => (e, .read (fromMemory e.documents q))
  | .write w, entry =>
    match (entry.map ScriptEntry.outcome).getD (.ok none) with
    | .error err => (e, .write (.error err))
    | .ok body =>
      ({ e with documents := e.documents.applyAll w.declarations },
        .write (.ok (summaryOf w body)))
  | .health, _ => (e, .health (.ok true))

/-- The requests since the log was last emptied, in order, and the engine with an empty log. -/
def takeLog (e : ScriptedEngine) : List (Nat × Request) × ScriptedEngine :=
  (e.log.reverse, { e with log := [] })

/-- The scripted engine as a backend. It does nothing by itself. -/
def backend : Backend ScriptedEngine Ticket :=
  { receive, answer, nextTimer := fun _ => none, fire := fun e _ => e }

end ScriptedEngine

end CatalogSearch.Simulation
