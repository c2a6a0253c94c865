/-!
# Pools of nodes

A pool hands out the nodes of an engine in turn. Its list of nodes may be replaced at any time,
though never by an empty one; the turn goes on counting, in a number of 64 bits that starts again at
zero behind the greatest one.
-/

namespace CatalogSearch

universe u

/-- A list of nodes with a turn. -/
structure Pool (α : Type u) where
  /-- The nodes. -/
  nodes : List α
  /-- How many nodes have been handed out. -/
  turn : UInt64
  /-- There is at least one node. -/
  nonempty : 0 < nodes.length

namespace Pool

variable {α : Type u}

/-- A pool of some nodes, if there are any. -/
def ofList? (nodes : List α) : Option (Pool α) :=
  if h : 0 < nodes.length then some ⟨nodes, 0, h⟩ else none

/-- Replace the nodes, and say whether that was done: an empty list changes nothing. -/
def reseed (p : Pool α) (nodes : List α) : Bool × Pool α :=
  if h : 0 < nodes.length then (true, { p with nodes, nonempty := h }) else (false, p)

/-- The position in the list of the node whose turn it is. -/
def position (p : Pool α) : Nat := p.turn.toNat % p.nodes.length

theorem position_lt (p : Pool α) : p.position < p.nodes.length := Nat.mod_lt _ p.nonempty

/-- The node whose turn it is. -/
def current (p : Pool α) : α := p.nodes.get ⟨p.position, p.position_lt⟩

/-- Hand out a node. -/
def next (p : Pool α) : α × Pool α := (p.current, { p with turn := p.turn + 1 })

end Pool

end CatalogSearch
