import CatalogSearch.Batcher.Timeline

/-!
# Direct writes and the queue apart

The same batcher serves direct writes and the queue. This module says which actions are those of
direct writes, what is left of a batcher and of a run without them, when everything else happens,
and what a direct call asks the engine for and is answered.
-/

namespace CatalogSearch.Batcher

/-! ## Without direct writes -/

/-- Whether an operation writes directly. -/
def Operation.isDirect : Operation → Bool
  | .apply _ | .applyBatch _ => true
  | _ => false

/-- Whether an action is one of a direct write: it begins or is given up, the engine answers it, or
its second attempt is made. -/
def Action.isDirect (s : State) : Action → Bool
  | .begin _ op => op.isDirect
  | .cancel call => (s.direct? call).isSome
  | .answer (.call _) _ | .wake (.call _) => true
  | _ => false

/-- Whether nothing happens but that time passes. -/
def Action.isAdvance : Action → Bool
  | .advance _ => true
  | _ => false

/-- A batcher without its direct writes. -/
def State.alone (s : State) : State := { s with direct := [] }

/-- A move without the direct writes of the batcher. -/
def Move.alone (m : Move) : Move := (m.1.alone, m.2)

/-- A batcher without its direct writes and without the time. -/
def State.timeless (s : State) : State := { s with direct := [], now := 0 }

/-- A run without the actions of direct writes. -/
def withoutDirect : Deployment → State → List Action → List Action :=
  observe fun s a _ => if a.isDirect s then [] else [a]

/-- What is done along a run apart from direct writes, and when. -/
def schedule : Deployment → State → List Action → List (Nat × Action) :=
  observe fun s a _ => if a.isDirect s || a.isAdvance then [] else [(s.now, a)]

/-! ## Direct calls -/

/-- The call that begins in a step, with the phase in which the batcher is. -/
def beginning (s : State) (a : Action) (_ : List Event) : List (Phase × Nat × Operation) :=
  match a with
  | .begin call op => [(s.phase, call, op)]
  | _ => []

/-- The calls that begin along a run, each with the phase in which the batcher is. -/
def beginnings : Deployment → State → List Action → List (Phase × Nat × Operation) :=
  observe beginning

/-- The write that is asked for. -/
@[simp] def Exchange.write? : Exchange → Option Write
  | .asked _ write => some write
  | .answered .. => none

/-- The engine's answer. -/
@[simp] def Exchange.written? : Exchange → Option Written
  | .asked .. => none
  | .answered _ written => some written

/-- What an asker asks the engine for along a run, in order. -/
@[simp] abbrev asks (who : Asker) (c : Deployment) (s : State) (as : List Action) : List Write :=
  (dialogue who c s as).filterMap Exchange.write?

/-- What the engine answers to an asker along a run, in order. -/
@[simp] abbrev answers (who : Asker) (c : Deployment) (s : State) (as : List Action) :
    List Written :=
  (dialogue who c s as).filterMap Exchange.written?

end CatalogSearch.Batcher
