import CatalogSearch.Batcher.Step
import CatalogSearch.Engine.Store

/-!
# A batcher and the documents it writes

A batcher together with the documents of an engine that nobody else writes to. A write is applied
when the engine answers that it has succeeded; one that fails changes nothing, or, where the engine
spills, has applied the first few of its declarations.
-/

namespace CatalogSearch.Batcher

/-- The declarations that the engine is asked to apply. -/
def State.inFlight (s : State) : Asker → List Declaration
  | .flush =>
    match s.consumer with
    | .flushing f => f.batch
    | _ => []
  | .call call => ((s.direct? call).map fun w => w.write.declarations).getD []

/-- A batcher and the documents of its engine. -/
structure Indexer where
  batcher : State
  documents : Documents

namespace Indexer

/-- A new batcher on documents. -/
def start (c : Deployment) (docs : Documents) : Indexer := ⟨.initial c, docs⟩

/-- The documents after something has happened. -/
def documentsAfter (x : Indexer) : Action → Documents
  | .answer who (.ok _) => x.documents.applyAll (x.batcher.inFlight who)
  | _ => x.documents

/-- One step. -/
def step (c : Deployment) (x : Indexer) (a : Action) : Option (Indexer × List Event) :=
  (Batcher.step c x.batcher a).map fun m => (⟨m.1, x.documentsAfter a⟩, m.2)

/-- A run: the actions happen one after the other. -/
def run (c : Deployment) (x : Indexer) : List Action → Option (Indexer × List Event)
  | [] => some (x, [])
  | a :: as =>
    match step c x a with
    | none => none
    | some (x', es) => (run c x' as).map fun m => (m.1, es ++ m.2)

/-! ## An engine that spills -/

/-- The documents after something has happened, if a write that fails has applied the first `n` of
its declarations. -/
def documentsSpilled (x : Indexer) (n : Nat) : Action → Documents
  | .answer who (.error _) => x.documents.applyAll ((x.batcher.inFlight who).take n)
  | a => x.documentsAfter a

/-- One step, with how many declarations are applied if a write fails in it. -/
def spillStep (c : Deployment) (x : Indexer) (a : Action × Nat) : Option (Indexer × List Event) :=
  (Batcher.step c x.batcher a.1).map fun m => (⟨m.1, x.documentsSpilled a.2 a.1⟩, m.2)

/-- A run whose steps are such. -/
def spillRun (c : Deployment) (x : Indexer) : List (Action × Nat) → Option (Indexer × List Event)
  | [] => some (x, [])
  | a :: as =>
    match spillStep c x a with
    | none => none
    | some (x', es) => (spillRun c x' as).map fun m => (m.1, es ++ m.2)

end Indexer

/-- Declarations are applied at once, one after the other, without failures. The calls are numbered
from `call` on. -/
def applyEach (call : Nat) : List Declaration → List Action
  | [] => []
  | d :: ds =>
    .begin call (.apply d) :: .answer (.call call) (.ok (.allSucceeded 1)) ::
      applyEach (call + 1) ds

end CatalogSearch.Batcher
