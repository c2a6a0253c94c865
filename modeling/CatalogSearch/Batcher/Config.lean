/-!
# Configuration of the batcher

How many declarations make a batch and when the batcher does what. Times are in milliseconds.

A configuration may ask for more than the machine has on which the batcher runs: for a queue that
cannot be made, and then there is no batcher; for a time that its clock cannot tell; or for more
room than can be asked for.

## Main definitions

* `Deployment`: a configuration on a machine on which there is a batcher with it.
* `Deployment.Works`: the machine has what the configuration asks for.
-/

namespace CatalogSearch.Batcher

/-- The configuration of a batcher. -/
structure Config where
  /-- How many pending declarations are flushed at once, and how many may be queued. -/
  batchSize : Nat
  /-- The time between two flushes by the clock. -/
  flushInterval : Nat
  /-- How long the engine may take for a bulk request. -/
  flushTimeout : Nat
  /-- The pause before the second attempt of a write. -/
  retryDelay : Nat
  deriving DecidableEq

namespace Config

/-- The configuration that is used when nothing is set. -/
def default : Config := ⟨500, 10000, 300000, 1000⟩

/-- Set the batch size; zero keeps the one that was set. -/
def withBatchSize (c : Config) (n : Nat) : Config :=
  if n = 0 then c else { c with batchSize := n }

/-- Set the flush interval; zero keeps the one that was set. -/
def withFlushInterval (c : Config) (ms : Nat) : Config :=
  if ms = 0 then c else { c with flushInterval := ms }

/-- Set the flush timeout; zero keeps the one that was set. -/
def withFlushTimeout (c : Config) (ms : Nat) : Config :=
  if ms = 0 then c else { c with flushTimeout := ms }

/-- Set the pause before a second attempt; there may be none. -/
def withRetryDelay (c : Config) (ms : Nat) : Config := { c with retryDelay := ms }

/-- How many declarations may be queued. -/
def capacity (c : Config) : Nat := max c.batchSize 1

end Config

/-- The limits of what a batcher runs on. -/
structure Machine where
  /-- The clock can tell a time that is less than so many milliseconds ahead. The time that passes
  while a batcher runs does not count beside it. -/
  reach : Nat
  /-- Room can be asked for at once for so many declarations. -/
  room : Nat
  /-- A queue can be made for so many declarations. -/
  slots : Nat
  deriving DecidableEq

/-- A clock that counts its seconds in 63 bits, room for as many bytes, of which a declaration takes
112, and queues whose slots are counted in 61 bits. -/
def Machine.common : Machine :=
  ⟨0x7FFFFFFFFFFFFFFF * 1000, 0x7FFFFFFFFFFFFFFF / 112, 0x1FFFFFFFFFFFFFFF⟩

/-- A configuration on a machine on which its queue can be made, so that there is a batcher. -/
structure Deployment extends Config, Machine where
  opens : toConfig.capacity ≤ slots
  deriving DecidableEq

namespace Deployment

/-- The configuration that is used when nothing is set. -/
def default : Deployment := ⟨.default, .common, by decide⟩

/-- There is time between two ticks of the worker, and the clock can tell the next one. -/
def Ticks (d : Deployment) : Prop := 0 < d.flushInterval ∧ d.flushInterval < d.reach

/-- There is room for a batch. -/
def Fits (d : Deployment) : Prop := d.batchSize ≤ d.room

/-- The machine has what the configuration asks for. -/
structure Works (d : Deployment) : Prop where
  ticks : d.Ticks
  fits : d.Fits

instance (d : Deployment) : Decidable d.Ticks := inferInstanceAs (Decidable (_ ∧ _))

instance (d : Deployment) : Decidable d.Fits := inferInstanceAs (Decidable (_ ≤ _))

instance (d : Deployment) : Decidable d.Works :=
  decidable_of_iff (d.Ticks ∧ d.Fits) ⟨fun h => ⟨h.1, h.2⟩, fun h => ⟨h.ticks, h.fits⟩⟩

end Deployment

end CatalogSearch.Batcher
