import CatalogSearch.Engine.Pool

/-!
# Turns of a pool

A pool is used through its clones, by those who ask for nodes and by those who replace them. All
clones share the nodes and the turn, so that a sequence of uses is one run of one pool, whichever
clone each use goes through.

## Main definitions

* `Pool.run`: what a sequence of uses gives, and the pool behind it.
* `Pool.installed`: the nodes that were given last.
* `Pool.served`: the nodes that were handed out, each with its position in the list.
-/

namespace CatalogSearch.Pool

universe u

variable {α : Type u}

/-- A use of one of the clones of a pool. -/
inductive Use (α : Type u) where
  /-- Make one more clone. -/
  | clone (through : Nat)
  /-- Ask for a node. -/
  | next (through : Nat)
  /-- Replace the nodes. -/
  | reseed (through : Nat) (nodes : List α)

/-- What comes of a use. -/
inductive Outcome (α : Type u) where
  | cloned
  /-- The node at a position of the list is handed out. -/
  | node (position : Nat) (node : α)
  /-- Whether the nodes were replaced. -/
  | reseeded (done : Bool)

/-- Use a pool once. -/
def perform (p : Pool α) : Use α → Outcome α × Pool α
  | .clone _ => (.cloned, p)
  | .next _ => (.node p.position p.next.1, p.next.2)
  | .reseed _ nodes => (.reseeded (p.reseed nodes).1, (p.reseed nodes).2)

/-- Use a pool several times. -/
def run (p : Pool α) : List (Use α) → List (Outcome α) × Pool α
  | [] => ([], p)
  | u :: us =>
    let (outcome, p) := p.perform u
    let (outcomes, p) := p.run us
    (outcome :: outcomes, p)

/-- The nodes that a use gives to the pool, if there are any. -/
def Use.given? : Use α → Option (List α)
  | .reseed _ nodes => if nodes.isEmpty then none else some nodes
  | _ => none

/-- The nodes that were given last, be it at the start. -/
def installed (start : List α) (us : List (Use α)) : List α :=
  (us.filterMap Use.given?).getLast?.getD start

/-- Whether a use asks for a node. -/
def Use.isNext : Use α → Bool
  | .next _ => true
  | _ => false

/-- How many nodes a sequence of uses asks for. -/
def requests (us : List (Use α)) : Nat := us.countP Use.isNext

/-- The node that is handed out, with its position. -/
def Outcome.node? : Outcome α → Option (α × Nat)
  | .node position x => some (x, position)
  | _ => none

/-- The nodes that are handed out, with their positions. -/
def served (outcomes : List (Outcome α)) : List (α × Nat) := outcomes.filterMap Outcome.node?

end CatalogSearch.Pool
