import CatalogSearch.Batcher.Config
import CatalogSearch.Batcher.Queue
import CatalogSearch.Batcher.Write

/-!
# The state of a batcher

A batcher takes declarations into a bounded queue. A worker takes them out, collects them in a
buffer, and flushes the buffer as one bulk request when it is full and at every tick of a clock.
Closing stops the intake, drains the queue and flushes what is left. Beside the queue there are
direct writes, which go to the engine at once.

This module holds what a batcher is made of, what can happen to it and what is seen of it;
`CatalogSearch.Batcher.Step` says how it moves.
-/

namespace CatalogSearch.Batcher

/-- How far the batcher has got; it only moves forward. -/
inductive Phase where
  /-- It takes declarations. -/
  | running
  /-- It was told to close, and the queue is drained. -/
  | draining
  /-- It has closed. -/
  | closed
  deriving DecidableEq, Inhabited

/-- The name of a phase. -/
def Phase.name : Phase → String
  | .running => "running"
  | .draining => "draining"
  | .closed => "closed"

/-- Whose task consumes the queue. -/
inductive Owner where
  | worker
  | caller (call : Nat)
  deriving DecidableEq

/-- The call whose task it is. -/
def Owner.call? : Owner → Option Nat
  | .worker => none
  | .caller call => some call

/-- Where the consumer of the queue goes on after a flush. -/
inductive Resume where
  /-- The worker goes on waiting. -/
  | selecting (nextTick : Nat)
  /-- The queue is drained further. -/
  | draining (owner : Owner)
  /-- It was the last flush. -/
  | finishing (owner : Owner)
  deriving DecidableEq

/-- Whose task flushes. -/
def Resume.owner : Resume → Owner
  | .selecting _ => .worker
  | .draining owner | .finishing owner => owner

/-- A bulk request of the consumer. -/
structure Flush where
  batch : List Declaration
  attempt : Attempt
  resume : Resume
  deriving DecidableEq

/-- The consumer of the queue. -/
inductive Consumer where
  /-- There is none yet. -/
  | parked
  /-- The worker exists and has not begun. -/
  | starting
  /-- The worker waits for a declaration, a tick or the signal to shut down. -/
  | selecting (nextTick : Nat)
  /-- The queue is about to be closed. -/
  | shutting (owner : Owner)
  /-- The closed queue is drained. -/
  | draining (owner : Owner)
  /-- The buffer is being flushed. -/
  | flushing (flush : Flush)
  /-- The queue is drained, and the batcher is about to be closed. -/
  | finishing (owner : Owner)
  /-- It has finished, or the call that drained the queue was given up. -/
  | ended
  /-- The worker has died. -/
  | died
  /-- There was no room for its buffer, so that there will be none. -/
  | unmade
  deriving DecidableEq

/-- Whose task the consumer is, while there is one. -/
def Consumer.owner? : Consumer → Option Owner
  | .starting | .selecting _ => some .worker
  | .shutting owner | .draining owner | .finishing owner => some owner
  | .flushing f => some f.resume.owner
  | .parked | .ended | .died | .unmade => none

/-- The consumer that goes on after a flush. -/
def Resume.consumer : Resume → Consumer
  | .selecting nextTick => .selecting nextTick
  | .draining owner => .draining owner
  | .finishing owner => .finishing owner

/-- A direct write, with the call that asks for it. -/
structure Direct where
  call : Nat
  write : Write
  attempt : Attempt
  deriving DecidableEq

/-- The state of a batcher. -/
structure State where
  /-- The time. -/
  now : Nat
  phase : Phase
  /-- Whether declarations can still be sent into the queue. -/
  hasSender : Bool
  /-- Whether the receiving end of the queue waits for a worker. -/
  hasReceiver : Bool
  /-- Whether a worker was started that no call of close has claimed. -/
  hasWorker : Bool
  queue : Queue
  /-- The declarations that wait for the next flush. -/
  buffer : List Declaration
  consumer : Consumer
  /-- Whether the worker was told to shut down. -/
  shutdown : Bool
  /-- The call of close that waits for the worker, or closes a batcher that has no consumer. -/
  closing : Option Nat
  /-- The direct writes that are under way. -/
  direct : List Direct
  deriving DecidableEq

/-- A new batcher. -/
def State.initial (c : Deployment) : State :=
  { now := 0, phase := .running, hasSender := true, hasReceiver := true, hasWorker := false,
    queue := .ofCapacity c.capacity, buffer := [], consumer := .parked, shutdown := false,
    closing := none, direct := [] }

/-- The calls that are under way. -/
def State.calls (s : State) : List Nat :=
  s.queue.offers.map Offer.call ++ s.direct.map Direct.call ++ s.closing.toList ++
    (s.consumer.owner?.bind Owner.call?).toList

/-- What a caller asks a batcher for. -/
inductive Operation where
  /-- Start the worker. -/
  | run
  /-- Queue a declaration for the next flush. -/
  | enqueue (d : Declaration)
  /-- Apply a declaration at once. -/
  | apply (d : Declaration)
  /-- Apply declarations at once, as one bulk request. -/
  | applyBatch (ds : List Declaration)
  /-- Shut down. -/
  | close
  deriving DecidableEq

/-- What a caller gets when all went well. -/
inductive Done where
  | ok
  | summary (s : Summary)
  deriving DecidableEq

/-- What a caller gets. -/
abbrev Outcome := Except Error Done

/-- Who asks the engine for a write. -/
inductive Asker where
  /-- The consumer of the queue. -/
  | flush
  /-- A direct call. -/
  | call (call : Nat)
  deriving DecidableEq

/-- What can happen to a batcher. -/
inductive Action where
  /-- A caller begins a call. -/
  | begin (call : Nat) (op : Operation)
  /-- A caller gives a call up. -/
  | cancel (call : Nat)
  /-- The offer of a call gets on. -/
  | send (call : Nat)
  /-- The worker begins. -/
  | start
  /-- The worker takes a declaration, or sees that none will come. -/
  | receive
  /-- The worker's clock ticks. -/
  | tick
  /-- The worker sees the signal to shut down. -/
  | signal
  /-- The queue is closed. -/
  | shut
  /-- The closed queue is drained by one declaration, or found empty. -/
  | drain
  /-- The batcher is closed. -/
  | finish
  /-- The call of close sees that the worker has ended, or that there is none. -/
  | join
  /-- The engine answers. -/
  | answer (who : Asker) (written : Written)
  /-- The pause before a second attempt is over. -/
  | wake (who : Asker)
  /-- Time passes. -/
  | advance (time : Nat)

/-- What is seen of a batcher. -/
inductive Event where
  /-- A call has begun. -/
  | begun (call : Nat) (op : Operation)
  /-- A call was given up. -/
  | cancelled (call : Nat)
  /-- A call has crashed: it ends, and its caller gets nothing. -/
  | crashed (call : Nat)
  /-- A call has ended. -/
  | returned (call : Nat) (outcome : Outcome)
  /-- The worker was started. -/
  | started
  /-- The declaration of a call has entered the queue. -/
  | accepted (offer : Offer)
  /-- A flush has taken the buffer as a batch. -/
  | taken (batch : List Declaration)
  /-- The engine is asked for a write. -/
  | asked (who : Asker) (write : Write)
  /-- A flush has ended with the last answer that it got. -/
  | flushed (batch : List Declaration) (written : Written)

end CatalogSearch.Batcher
