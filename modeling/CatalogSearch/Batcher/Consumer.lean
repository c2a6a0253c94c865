import CatalogSearch.Batcher.State

/-!
# The consumer of the queue

What the task that consumes the queue does: it collects declarations, flushes them, closes and
drains the queue, and closes the batcher in the end.
-/

namespace CatalogSearch.Batcher

/-- What becomes of a batcher in a step, and what is seen of it. -/
abbrev Move := State × List Event

/-- The batcher is closed. -/
def markClosed (s : State) : State := { s with phase := .closed, hasSender := false }

/-- Flush the buffer and go on afterwards; with an empty buffer go on at once. -/
def flush (c : Deployment) (s : State) (after : Resume) : Move :=
  match s.buffer with
  | [] => ({ s with consumer := after.consumer }, [])
  | batch =>
    ({ s with buffer := [], consumer := .flushing ⟨batch, .first, after⟩ },
      [.taken batch, .asked .flush (.bulk batch c.flushTimeout)])

theorem flush_of_empty {c : Deployment} {s : State} {after : Resume} (h : s.buffer = []) :
    flush c s after = ({ s with consumer := after.consumer }, []) := by
  simp [flush, h]

theorem flush_of_nonempty {c : Deployment} {s : State} {after : Resume} (h : s.buffer ≠ []) :
    flush c s after =
      ({ s with buffer := [], consumer := .flushing ⟨s.buffer, .first, after⟩ },
        [.taken s.buffer, .asked .flush (.bulk s.buffer c.flushTimeout)]) := by
  unfold flush
  split
  · contradiction
  · rfl

/-- Take a declaration into the buffer, and flush when the batch is full. -/
def collect (c : Deployment) (s : State) (d : Declaration) (queue : Queue) (after : Resume) :
    Move :=
  let s := { s with queue, buffer := s.buffer ++ [d] }
  if c.batchSize ≤ s.buffer.length then flush c s after
  else ({ s with consumer := after.consumer }, [])

theorem collect_of_small {c : Deployment} {s : State} {d : Declaration} {queue : Queue}
    {after : Resume} (h : (s.buffer ++ [d]).length < c.batchSize) :
    collect c s d queue after =
      ({ s with queue, buffer := s.buffer ++ [d], consumer := after.consumer }, []) := by
  simp only [collect, if_neg (Nat.not_le_of_lt h)]

theorem collect_of_full {c : Deployment} {s : State} {d : Declaration} {queue : Queue}
    {after : Resume} (h : c.batchSize ≤ (s.buffer ++ [d]).length) :
    collect c s d queue after =
      ({ s with
          queue
          buffer := []
          consumer := .flushing ⟨s.buffer ++ [d], .first, after⟩ },
        [.taken (s.buffer ++ [d]), .asked .flush (.bulk (s.buffer ++ [d]) c.flushTimeout)]) := by
  simp only [collect, if_pos h]
  exact flush_of_nonempty (by simp)

/-- Whether nobody is left who could send a declaration. -/
def State.isDeserted (s : State) : Bool := !s.hasSender && s.queue.offers.isEmpty

/-- The waiting worker takes a declaration, or sees that none will come. -/
def receive (c : Deployment) (s : State) (nextTick : Nat) : Option Move :=
  match s.queue.take? with
  | some (d, queue) => some (collect c s d queue (.selecting nextTick))
  | none => if s.isDeserted then some ({ s with consumer := .shutting .worker }, []) else none

/-- The closed queue is drained by one declaration, or by the last flush when it is empty and all
the room in it was given back. -/
def drain (c : Deployment) (s : State) (owner : Owner) : Option Move :=
  match s.queue.take? with
  | some (d, queue) => some (collect c s d queue (.draining owner))
  | none => if s.queue.granted.isEmpty then some (flush c s (.finishing owner)) else none

/-- The consumer has finished: the batcher is closed, and a call of close that drained the queue
itself ends. -/
def finish (s : State) (owner : Owner) : Move :=
  ({ markClosed s with consumer := .ended },
    match owner with
    | .worker => []
    | .caller call => [.returned call (.ok .ok)])

/-- The call of close that waits for the worker ends when the worker has ended; if it has died, the
call closes the batcher and fails. Where there was no room for a consumer, it closes the batcher and
does not fail. -/
def join (s : State) : Option Move :=
  match s.closing, s.consumer with
  | some call, .ended => some ({ s with closing := none }, [.returned call (.ok .ok)])
  | some call, .died =>
    some ({ markClosed s with closing := none },
      [.returned call (.error (.worker "the worker has died"))])
  | some call, .unmade => some ({ markClosed s with closing := none }, [.returned call (.ok .ok)])
  | _, _ => none

/-- The worker dies, and what is queued is lost. -/
def die (s : State) : State := { s with queue := s.queue.discard, consumer := .died }

/-- There is no room for the buffer of a consumer that takes over the queue, and what is queued is
lost. -/
def unmake (s : State) : State :=
  { s with hasReceiver := false, queue := s.queue.discard, consumer := .unmade }

/-- A tick that comes at most so many milliseconds late counts as being on time. -/
def tickTolerance : Nat := 5

/-- The tick after one that was due at `due` and came at `now`: one interval after it was due, or,
if it was late, one interval after it came. -/
def tickAfter (c : Deployment) (due now : Nat) : Nat :=
  if due + tickTolerance < now then now + c.flushInterval else due + c.flushInterval

/-- The worker begins; without time between two ticks, or if its clock cannot tell the first one, it
dies at once. -/
def startWorker (c : Deployment) (s : State) : State :=
  if c.Ticks then { s with consumer := .selecting (s.now + c.flushInterval) } else die s

/-- Whether a pause is over. -/
def Attempt.isDue (now : Nat) (a : Attempt) : Bool := a.wake?.any (· ≤ now)

/-- The engine answers the consumer. -/
def answerFlush (c : Deployment) (s : State) (f : Flush) (written : Written) : Move :=
  match f.attempt.after s.now c.retryDelay written with
  | some attempt => ({ s with consumer := .flushing { f with attempt } }, [])
  | none => ({ s with consumer := f.resume.consumer }, [.flushed f.batch written])

/-- The consumer makes its second attempt. -/
def retryFlush (c : Deployment) (s : State) (f : Flush) : Move :=
  ({ s with consumer := .flushing { f with attempt := .second } },
    [.asked .flush (.bulk f.batch c.flushTimeout)])

/-- What the consumer of the queue does by itself, if it can. -/
def consume (c : Deployment) (s : State) : Action → Option Move
  | .start => if s.consumer = .starting then some (startWorker c s, []) else none
  | .receive =>
    match s.consumer with
    | .selecting nextTick => receive c s nextTick
    | _ => none
  | .tick =>
    match s.consumer with
    | .selecting nextTick =>
      if nextTick ≤ s.now then some (flush c s (.selecting (tickAfter c nextTick s.now))) else none
    | _ => none
  | .signal =>
    match s.consumer with
    | .selecting _ =>
      if s.shutdown then some ({ s with consumer := .shutting .worker }, []) else none
    | _ => none
  | .shut =>
    match s.consumer with
    | .shutting owner =>
      some ({ s with queue := s.queue.close, consumer := .draining owner }, [])
    | _ => none
  | .drain =>
    match s.consumer with
    | .draining owner => drain c s owner
    | _ => none
  | .finish =>
    match s.consumer with
    | .finishing owner => some (finish s owner)
    | _ => none
  | .answer .flush written =>
    match s.consumer with
    | .flushing f => if f.attempt.awaits then some (answerFlush c s f written) else none
    | _ => none
  | .wake .flush =>
    match s.consumer with
    | .flushing f => if f.attempt.isDue s.now then some (retryFlush c s f) else none
    | _ => none
  | _ => none

end CatalogSearch.Batcher
