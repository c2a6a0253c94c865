import CatalogSearch.Batcher.History

/-!
# Runs in time

A history says what was seen of a batcher; this module says when. `observe` goes along a run and
collects what a view makes of each step. From it are read the dialogue of an asker with the engine,
and when declarations were taken out of the queue and when they were first asked for.

A run is punctual if time passes in it as on a virtual clock.
-/

namespace CatalogSearch.Batcher

/-- What is observed along a run. A view sees the batcher before a step, the action, and what is
seen of the step. -/
def observe {α : Type} (view : State → Action → List Event → List α) (c : Deployment) (s : State) :
    List Action → List α
  | [] => []
  | a :: as =>
    match step c s a with
    | none => []
    | some (s', es) => view s a es ++ observe view c s' as

/-! ## The virtual clock -/

/-- Whether an action can happen on a virtual clock: time passes only when there is nothing to do,
and not past a timer. -/
def Action.isPunctual (s : State) : Action → Bool
  | .advance time => mayPass s time
  | _ => true

/-- In a run time passes as on a virtual clock. -/
def Punctual (c : Deployment) (s : State) (as : List Action) : Prop :=
  ∀ punctual ∈ observe (fun s a _ => [a.isPunctual s]) c s as, punctual = true

instance (c : Deployment) (s : State) (as : List Action) : Decidable (Punctual c s as) :=
  inferInstanceAs (Decidable (∀ punctual ∈ _, _))

/-! ## Asking the engine -/

/-- What an asker and the engine say to each other, and when. -/
inductive Exchange where
  /-- The asker asks for a write. -/
  | asked (time : Nat) (write : Write)
  /-- The engine answers. -/
  | answered (time : Nat) (written : Written)

/-- The engine's answer to an asker. -/
@[simp] def Action.answerTo? (who : Asker) (now : Nat) : Action → Option Exchange
  | .answer who' written => if who' = who then some (.answered now written) else none
  | _ => none

/-- The request of an asker. -/
@[simp] def Event.askedBy? (who : Asker) (now : Nat) : Event → Option Exchange
  | .asked who' write => if who' = who then some (.asked now write) else none
  | _ => none

/-- What an asker and the engine say to each other in a step. -/
def exchange (who : Asker) (s : State) (a : Action) (es : List Event) : List Exchange :=
  (a.answerTo? who s.now).toList ++ es.filterMap (Event.askedBy? who s.now)

/-- What an asker and the engine say to each other along a run. -/
def dialogue (who : Asker) : Deployment → State → List Action → List Exchange :=
  observe (exchange who)

/-! ## Coming and going -/

/-- The declaration that the consumer takes out of the queue in a step, and when. -/
def receipt (s : State) (a : Action) (_ : List Event) : List (Nat × Declaration) :=
  match a with
  | .receive | .drain => (s.queue.items.head?.map fun d => (s.now, d)).toList
  | _ => []

/-- The declarations that the consumer takes out of the queue, and when. -/
def receipts : Deployment → State → List Action → List (Nat × Declaration) := observe receipt

/-- The declarations that a flush asks for when it takes its batch, and when. -/
def departure (s : State) (_ : Action) : List Event → List (Nat × Declaration)
  | .taken _ :: .asked .flush write :: _ => write.declarations.map fun d => (s.now, d)
  | _ => []

/-- The declarations that flushes ask for when they take their batches, and when. -/
def departures : Deployment → State → List Action → List (Nat × Declaration) := observe departure

end CatalogSearch.Batcher
