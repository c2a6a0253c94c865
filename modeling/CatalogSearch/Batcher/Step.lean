import CatalogSearch.Batcher.Call

/-!
# Steps of a batcher

`step` says what each action makes of a batcher and what is seen of it, or that the action cannot
happen. Nothing decides which of the possible actions happens next, and time may pass at any
moment. A run is a list of actions; `run` folds `step` over it.

On a virtual clock time passes only when the batcher has nothing to do and never past one of its
timers: `ready` says what there is to do, and `mayPass` how far time may pass.
-/

namespace CatalogSearch.Batcher

/-- One step. The calls under way have different numbers. -/
def step (c : Deployment) (s : State) : Action → Option Move
  | .begin call op =>
    if call ∈ s.calls then none
    else
      let (s', es) := beginCall c s call op
      some (s', .begun call op :: es)
  | .cancel call => if call ∈ s.calls then some (cancelCall s call, [.cancelled call]) else none
  | .send call => send s call
  | .join => join s
  | .answer (.call call) written =>
    match s.direct? call with
    | some w => if w.attempt.awaits then some (answerDirect c s w written) else none
    | none => none
  | .wake (.call call) =>
    match s.direct? call with
    | some w => if w.attempt.isDue s.now then some (retryDirect s w) else none
    | none => none
  | .advance time => if s.now < time then some ({ s with now := time }, []) else none
  | a => consume c s a

/-- A run: the actions happen one after the other. -/
def run (c : Deployment) (s : State) : List Action → Option Move
  | [] => some (s, [])
  | a :: as =>
    match step c s a with
    | none => none
    | some (s', es) => (run c s' as).map fun m => (m.1, es ++ m.2)

/-- The states that a run goes through, the first one included. -/
def visited (c : Deployment) (s : State) : List Action → List State
  | [] => [s]
  | a :: as =>
    match step c s a with
    | none => [s]
    | some (s', _) => s :: visited c s' as

/-! ## What there is to do -/

/-- An offer that can get on at this time, if there is one. -/
def senderTask (s : State) : Option Action := s.queue.movable.head?.map fun o => .send o.call

/-- What the consumer of the queue has to do at this time, if anything. Of several things that
could be done it is the one named first: to shut down, to take a declaration, to tick. -/
def consumerTask (s : State) : Option Action :=
  match s.consumer with
  | .parked => none
  | .starting => some .start
  | .selecting nextTick =>
    if s.shutdown then some .signal
    else if !s.queue.items.isEmpty || s.isDeserted then some .receive
    else if nextTick ≤ s.now then some .tick
    else none
  | .shutting _ => some .shut
  | .draining _ => if s.queue.items.isEmpty && !s.queue.granted.isEmpty then none else some .drain
  | .flushing f => if f.attempt.isDue s.now then some (.wake .flush) else none
  | .finishing _ => some .finish
  | .ended | .died | .unmade => if s.closing.isSome then some .join else none

/-- What a direct write has to do at this time, if anything. -/
def directTask (s : State) : Option Action :=
  (s.direct.find? fun w => w.attempt.isDue s.now).map fun w => .wake (.call w.call)

/-- Something that can be done at this time without a caller or the engine. -/
def ready (s : State) : Option Action := senderTask s <|> consumerTask s <|> directTask s

theorem ready_eq_none {s : State} :
    ready s = none ↔ senderTask s = none ∧ consumerTask s = none ∧ directTask s = none := by
  simp [ready]

/-- When there is nothing to do, no offer can get on. -/
theorem movable_of_ready {s : State} (h : ready s = none) : s.queue.movable = [] := by
  obtain ⟨sender, -, -⟩ := ready_eq_none.1 h
  exact List.head?_eq_none_iff.1 (Option.map_eq_none_iff.1 sender)

/-- The times at which something is due. -/
def timers (s : State) : List Nat :=
  (match s.consumer with
    | .selecting nextTick => [nextTick]
    | .flushing f => f.attempt.wake?.toList
    | _ => []) ++
    s.direct.filterMap fun w => w.attempt.wake?

/-- Whether a virtual clock may be advanced to a time. -/
def mayPass (s : State) (time : Nat) : Bool := (ready s).isNone && (timers s).all (time ≤ ·)

end CatalogSearch.Batcher
