import CatalogSearch.Catalog.Declaration

/-!
# The queue of the batcher

A queue with room for a fixed number of declarations. A call that offers one first arrives, then
asks for room, and enters at once if there is some; otherwise it waits. When room gets free it is
granted to those who have waited longest, who use it when they get to it. A closed queue grants no
room and refuses everyone on the way, whatever was granted, and is emptied of what it holds.

Each of these is a step of its own, so that anything may happen in between.
-/

namespace CatalogSearch.Batcher

/-- A declaration on its way into the queue, with the call that offers it. -/
structure Offer where
  call : Nat
  declaration : Declaration
  deriving DecidableEq

/-- A bounded queue of declarations. -/
structure Queue where
  /-- How many declarations there is room for. -/
  capacity : Nat
  /-- The declarations in the queue, the oldest first. -/
  items : List Declaration
  /-- Those who have not yet asked for room. -/
  arriving : List Offer
  /-- Those who wait for room, the first one first. -/
  waiting : List Offer
  /-- Those who were granted room and have not used it. -/
  granted : List Offer
  /-- Whether the queue takes declarations. -/
  isOpen : Bool
  deriving DecidableEq

/-- How an offer gets on. -/
inductive Passage where
  /-- The declaration has entered the queue. -/
  | entered
  | waits
  | refused
  deriving DecidableEq

namespace Queue

/-- The empty queue. -/
def ofCapacity (capacity : Nat) : Queue := ⟨capacity, [], [], [], [], true⟩

/-- The offers on their way into the queue. -/
def offers (q : Queue) : List Offer := q.arriving ++ q.waiting ++ q.granted

/-- How much room is neither used nor granted. -/
def room (q : Queue) : Nat := q.capacity - (q.items.length + q.granted.length)

/-- Grant the free room to those who have waited longest. -/
def grant (q : Queue) : Queue :=
  if q.isOpen then
    { q with
      waiting := q.waiting.drop q.room
      granted := q.granted ++ q.waiting.take q.room }
  else q

/-- An offer arrives. -/
def arrive (q : Queue) (o : Offer) : Queue := { q with arriving := q.arriving ++ [o] }

/-- The queue without the offer of a call. -/
def without (q : Queue) (call : Nat) : Queue :=
  { q with
    arriving := q.arriving.filter fun o => o.call ≠ call
    waiting := q.waiting.filter fun o => o.call ≠ call
    granted := q.granted.filter fun o => o.call ≠ call }

/-- An offer enters the queue. -/
def enter (q : Queue) (o : Offer) : Queue :=
  { q.without o.call with items := q.items ++ [o.declaration] }

/-- An offer is left waiting for room. -/
def await (q : Queue) (o : Offer) : Queue :=
  let others := q.without o.call
  { others with waiting := others.waiting ++ [o] }

/-- An offer gets on by one step, if it can. -/
def proceed? (q : Queue) (o : Offer) : Option (Queue × Passage) :=
  if !q.isOpen then some (q.without o.call, .refused)
  else if o ∈ q.granted ∨ (o ∈ q.arriving ∧ 0 < q.room) then some (q.enter o, .entered)
  else if o ∈ q.arriving then some (q.await o, .waits)
  else none

/-- Take the oldest declaration, which makes room. -/
def take? (q : Queue) : Option (Declaration × Queue) :=
  match q.items with
  | [] => none
  | d :: items => some (d, { q with items }.grant)

/-- The offer of a call is withdrawn; room it was granted gets free. -/
def withdraw (q : Queue) (call : Nat) : Queue := (q.without call).grant

/-- The queue is closed. -/
def close (q : Queue) : Queue := { q with isOpen := false }

/-- The closed queue, without what it held. -/
def discard (q : Queue) : Queue := { q with items := [], isOpen := false }

/-- The offers that can get on: those who wait in an open queue cannot. -/
def movable (q : Queue) : List Offer :=
  if q.isOpen then q.granted ++ q.arriving else q.offers

/-! ## Offers and declarations under the operations -/

theorem offers_grant_perm (q : Queue) : q.grant.offers.Perm q.offers := by
  unfold grant
  split
  · have moved : (q.waiting.drop q.room ++ (q.granted ++ q.waiting.take q.room)).Perm
        (q.waiting.take q.room ++ q.waiting.drop q.room ++ q.granted) := by
      rw [List.append_assoc, ← List.append_assoc (q.waiting.drop _)]
      exact List.perm_append_comm
    rw [List.take_append_drop] at moved
    simpa [offers] using moved.append_left q.arriving
  · exact .refl _

@[simp] theorem items_grant (q : Queue) : q.grant.items = q.items := by
  unfold grant; split <;> rfl

@[simp] theorem isOpen_grant (q : Queue) : q.grant.isOpen = q.isOpen := by
  unfold grant; split <;> rfl

@[simp] theorem offers_without (q : Queue) (call : Nat) :
    (q.without call).offers = q.offers.filter fun o => o.call ≠ call := by
  simp [offers, without]

@[simp] theorem items_without (q : Queue) (call : Nat) : (q.without call).items = q.items := rfl

@[simp] theorem isOpen_without (q : Queue) (call : Nat) : (q.without call).isOpen = q.isOpen := rfl

theorem offers_arrive_perm (q : Queue) (o : Offer) : (q.arrive o).offers.Perm (o :: q.offers) := by
  simp [offers, arrive]

@[simp] theorem items_arrive (q : Queue) (o : Offer) : (q.arrive o).items = q.items := rfl

@[simp] theorem isOpen_arrive (q : Queue) (o : Offer) : (q.arrive o).isOpen = q.isOpen := rfl

@[simp] theorem offers_enter (q : Queue) (o : Offer) :
    (q.enter o).offers = q.offers.filter fun o' => o'.call ≠ o.call :=
  offers_without q o.call

@[simp] theorem items_enter (q : Queue) (o : Offer) :
    (q.enter o).items = q.items ++ [o.declaration] := rfl

@[simp] theorem isOpen_enter (q : Queue) (o : Offer) : (q.enter o).isOpen = q.isOpen := rfl

theorem offers_await_perm (q : Queue) (o : Offer) :
    (q.await o).offers.Perm (o :: q.offers.filter fun o' => o'.call ≠ o.call) := by
  rw [← offers_without]
  simp only [offers, await, ← List.append_assoc]
  rw [List.append_assoc (_ ++ _), List.singleton_append]
  exact List.perm_middle

@[simp] theorem items_await (q : Queue) (o : Offer) : (q.await o).items = q.items := rfl

@[simp] theorem isOpen_await (q : Queue) (o : Offer) : (q.await o).isOpen = q.isOpen := rfl

theorem offers_withdraw_perm (q : Queue) (call : Nat) :
    (q.withdraw call).offers.Perm (q.offers.filter fun o => o.call ≠ call) := by
  rw [← offers_without]
  exact offers_grant_perm _

@[simp] theorem items_withdraw (q : Queue) (call : Nat) : (q.withdraw call).items = q.items := by
  simp [withdraw]

@[simp] theorem isOpen_withdraw (q : Queue) (call : Nat) :
    (q.withdraw call).isOpen = q.isOpen := by
  simp [withdraw]

@[simp] theorem offers_close (q : Queue) : q.close.offers = q.offers := rfl

@[simp] theorem offers_discard (q : Queue) : q.discard.offers = q.offers := rfl

theorem take?_eq_none {q : Queue} : q.take? = none ↔ q.items = [] := by
  unfold take?; split <;> simp_all

/-- Taking a declaration takes the oldest one and changes nothing else but who may enter. -/
theorem of_take?_eq_some {q q' : Queue} {d : Declaration} (h : q.take? = some (d, q')) :
    q.items = d :: q'.items ∧ q'.isOpen = q.isOpen ∧ q'.offers.Perm q.offers := by
  unfold take? at h
  split at h
  · cases h
  · next items hitems =>
    obtain ⟨rfl, rfl⟩ := Prod.mk.inj (Option.some.inj h)
    refine ⟨?_, ?_, offers_grant_perm _⟩
    · rw [items_grant, hitems]
    · rw [isOpen_grant]

end Queue

end CatalogSearch.Batcher
