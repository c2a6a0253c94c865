import CatalogSearch.Batcher.Step

/-!
# Histories of a batcher

A history is what was seen of a batcher, the earliest event first. This module reads off a history
which calls there were and how they ended, and what became of the declarations.
-/

namespace CatalogSearch.Batcher

namespace Event

/-- The call that begins. -/
@[simp] def begun? : Event → Option Nat
  | .begun call _ => some call
  | _ => none

/-- The call that ends, is given up or crashes. -/
@[simp] def ended? : Event → Option Nat
  | .returned call _ | .cancelled call | .crashed call => some call
  | _ => none

/-- The call of close that begins. -/
@[simp] def closer? : Event → Option Nat
  | .begun call .close => some call
  | _ => none

/-- The offer that a call begins to make. -/
@[simp] def offered? : Event → Option Offer
  | .begun call (.enqueue d) => some ⟨call, d⟩
  | _ => none

/-- The offer that enters the queue. -/
@[simp] def accepted? : Event → Option Offer
  | .accepted o => some o
  | _ => none

/-- The batch that a flush takes. -/
@[simp] def taken? : Event → Option (List Declaration)
  | .taken batch => some batch
  | _ => none

/-- The batch whose flush ends. -/
@[simp] def flushed? : Event → Option (List Declaration)
  | .flushed batch _ => some batch
  | _ => none

/-- The batch whose flush ends, with the last answer that it got. -/
@[simp] def flushResult? : Event → Option (List Declaration × Written)
  | .flushed batch written => some (batch, written)
  | _ => none

/-- Who asks the engine for which write. -/
@[simp] def request? : Event → Option (Asker × Write)
  | .asked who write => some (who, write)
  | _ => none

/-- Whether the worker is started. -/
@[simp] def isStart : Event → Bool
  | .started => true
  | _ => false

/-- Whether a direct write begins. -/
def isDirect : Event → Bool
  | .begun _ (.apply _) | .begun _ (.applyBatch _) => true
  | _ => false

/-- Whether a flush ends with an error, so that its batch is given up. -/
def isGivenUp : Event → Bool
  | .flushed _ (.error _) => true
  | _ => false

end Event

/-- The calls that have begun, in order. -/
@[simp] abbrev begunCalls (es : List Event) : List Nat := es.filterMap Event.begun?

/-- The calls that have ended, in order. -/
@[simp] abbrev endedCalls (es : List Event) : List Nat := es.filterMap Event.ended?

/-- The calls of close that have begun, in order. -/
@[simp] abbrev closers (es : List Event) : List Nat := es.filterMap Event.closer?

/-- The offers that calls have begun to make, in order. -/
@[simp] abbrev offered (es : List Event) : List Offer := es.filterMap Event.offered?

/-- The offers that have entered the queue, in order. -/
@[simp] abbrev accepted (es : List Event) : List Offer := es.filterMap Event.accepted?

/-- The batches that flushes have taken, in order. -/
@[simp] abbrev taken (es : List Event) : List (List Declaration) := es.filterMap Event.taken?

theorem accepted_append_eq_nil {es es' : List Event} (h : accepted es = [])
    (h' : accepted es' = []) : accepted (es ++ es') = [] := by
  rw [accepted, List.filterMap_append]
  exact List.append_eq_nil_iff.2 ⟨h, h'⟩

theorem taken_append (es es' : List Event) : taken (es ++ es') = taken es ++ taken es' :=
  List.filterMap_append

/-- The batches whose flush has ended, in order. -/
@[simp] abbrev flushed (es : List Event) : List (List Declaration) := es.filterMap Event.flushed?

/-- The batches whose flush has ended, in order, each with the last answer that it got. -/
@[simp] abbrev flushResults (es : List Event) : List (List Declaration × Written) :=
  es.filterMap Event.flushResult?

/-- What the engine was asked for, and by whom, in order. -/
@[simp] abbrev requests (es : List Event) : List (Asker × Write) := es.filterMap Event.request?

/-- How often a worker was started. -/
@[simp] abbrev starts (es : List Event) : Nat := es.countP Event.isStart

/-- Different calls have different numbers. -/
def DistinctCalls (es : List Event) : Prop := (begunCalls es).Nodup

instance (es : List Event) : Decidable (DistinctCalls es) :=
  inferInstanceAs (Decidable (begunCalls es).Nodup)

/-- No call of close is given up. -/
def ClosesKept (es : List Event) : Prop := ∀ call ∈ closers es, .cancelled call ∉ es

/-- Nobody writes directly. -/
def NoDirectWrites (es : List Event) : Prop := ∀ e ∈ es, e.isDirect = false

/-- No batch is given up. -/
def NoneGivenUp (es : List Event) : Prop := ∀ e ∈ es, e.isGivenUp = false

instance (es : List Event) : Decidable (NoDirectWrites es) :=
  inferInstanceAs (Decidable (∀ e ∈ es, e.isDirect = false))

instance (es : List Event) : Decidable (NoneGivenUp es) :=
  inferInstanceAs (Decidable (∀ e ∈ es, e.isGivenUp = false))

/-- A producer offers a declaration only when none of its offers is under way. -/
def InTurn (producer : Nat → Nat) (es : List Event) : Prop :=
  ∀ i < es.length, ∀ o ∈ es[i]?.bind Event.offered?, ∀ o' ∈ offered (es.take i),
    producer o'.call = producer o.call → o'.call ∈ endedCalls (es.take i)

instance (producer : Nat → Nat) (es : List Event) : Decidable (InTurn producer es) :=
  inferInstanceAs (Decidable (∀ i < es.length, ∀ o ∈ _, ∀ o' ∈ _, _ → _))

/-- One producer queues the declarations in turn, each of them without an error, and the call that
tells the batcher to close ends, with whatever outcome. Nobody writes directly, and no batch is
given up. -/
structure QueuedAlone (ds : List Declaration) (es : List Event) : Prop where
  distinct : DistinctCalls es
  valid : ∀ d ∈ ds, d.missingField = none
  queued : (offered es).map Offer.declaration = ds
  turn : InTurn (fun _ => 0) es
  enqueued : ∀ o ∈ offered es, .returned o.call (.ok .ok) ∈ es
  closed : ∃ call outcome, (closers es).head? = some call ∧ .returned call outcome ∈ es
  alone : NoDirectWrites es
  kept : NoneGivenUp es

/-- Every declaration that has entered the queue was part of a bulk request that the engine was
asked for. -/
def AllAttempted (c : Deployment) (es : List Event) : Prop :=
  (accepted es).map Offer.declaration = (taken es).flatten ∧
    ∀ batch ∈ taken es, .asked .flush (.bulk batch c.flushTimeout) ∈ es

end CatalogSearch.Batcher
