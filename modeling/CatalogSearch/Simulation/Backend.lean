import CatalogSearch.Batcher.Write
import CatalogSearch.Reading.Dialogue

/-!
# Engines in a simulation

What the service asks of an engine, and what a simulated engine has to say: what it makes of a
request, when it answers, and what the answer is.
-/

namespace CatalogSearch.Simulation

/-- A request that the service makes of the engine. -/
inductive Request where
  | read (question : Question)
  | write (write : Batcher.Write)
  /-- Whether the engine is well. -/
  | health
  deriving DecidableEq

/-- The engine's answer to a request. -/
inductive Response where
  | read (reply : Reply)
  | write (written : Batcher.Written)
  | health (well : Except SearchError Bool)

/-- A simulated engine with states `σ`. A request it has received is kept as a ticket until it is
answered. -/
structure Backend (σ τ : Type) where
  /-- Receive a request at a time: the state, the ticket, and the time of the answer, if there will
  be one. -/
  receive : σ → Nat → Request → σ × τ × Option Nat
  /-- The answer to a request. -/
  answer : σ → τ → σ × Response
  /-- The next time at which the engine does something by itself. -/
  nextTimer : σ → Option Nat
  /-- What the engine does by itself at a time. -/
  fire : σ → Nat → σ

end CatalogSearch.Simulation
