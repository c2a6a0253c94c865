import CatalogSearch.Proofs.Batcher.Batching

/-!
# Where declarations come from

A batcher writes what it was brought: a declaration gets into its queue, its buffer or a write by a
call that brings it, and is the same all the way (`Reaches.brought`). Whether it is taken does not
depend on its type (`immediate?_retyped`).
-/

namespace CatalogSearch

/-- A declaration with another type. -/
def Declaration.retyped (docType : String) (d : Declaration) : Declaration := { d with docType }

namespace Batcher

variable {c : Deployment} {s s' : State} {a : Action} {es new : List Event} {w : Write}

/-- The declarations that a call brings. -/
def Operation.declarations : Operation → List Declaration
  | .enqueue d | .apply d => [d]
  | .applyBatch ds => ds
  | .run | .close => []

/-- An operation whose declarations have another type. -/
def Operation.retyped (docType : String) : Operation → Operation
  | .run => .run
  | .enqueue d => .enqueue (d.retyped docType)
  | .apply d => .apply (d.retyped docType)
  | .applyBatch ds => .applyBatch (ds.map (Declaration.retyped docType))
  | .close => .close

/-! ## Types do not matter -/

theorem validate_retyped (docType : String) (d : Declaration) :
    validate (d.retyped docType) = validate d := rfl

theorem validateAll_map_retyped (docType : String) (ds : List Declaration) :
    validateAll (ds.map (Declaration.retyped docType)) = validateAll ds := by
  induction ds with
  | nil => rfl
  | cons d ds ih =>
    rw [List.map_cons, validateAll, validateAll, validate_retyped, ih]

/-- What a call ends with at once does not depend on the types of its declarations. -/
theorem immediate?_retyped (s : State) (docType : String) (op : Operation) :
    immediate? s (op.retyped docType) = immediate? s op := by
  cases op with
  | applyBatch ds =>
    rw [Operation.retyped, immediate?, immediate?, validateAll_map_retyped, List.isEmpty_map]
  | _ => rfl

/-! ## What is held and written was brought -/

/-- What has entered the queue was brought. -/
theorem Reaches.begun_of_accepted (h : Reaches c (.initial c) s es) {o : Offer}
    (mem : o ∈ accepted es) : .begun o.call (.enqueue o.declaration) ∈ es :=
  mem_offered.1 (h.offers_subperm.subset (List.mem_append_left _ mem))

/-- The write of a direct call is what the call asks for. -/
theorem Reaches.begun_of_asked (h : Reaches c (.initial c) s es) {call : Nat}
    (asked : .asked (.call call) w ∈ es) : ∃ op, .begun call op ∈ es ∧ op.Writes c w := by
  induction h with
  | start => cases asked
  | @step mid s' a es new reached next ih =>
    rcases List.mem_append.1 asked with old | asked
    · obtain ⟨op, begun, writes⟩ := ih old
      exact ⟨op, List.mem_append_left _ begun, writes⟩
    · cases Transition.of_step next with
      | @write call' op w' _ _ writes =>
        obtain ⟨rfl, rfl⟩ : call = call' ∧ w = w' := by simpa using asked
        exact ⟨op, by simp, writes⟩
      | @retryDirect w' found =>
        obtain ⟨rfl, rfl⟩ : call = w'.call ∧ w = w'.write := by simpa using asked
        obtain ⟨op, begun, writes⟩ := reached.roles.direct w' (List.mem_of_find?_eq_some found)
        exact ⟨op, List.mem_append_left _ begun, writes⟩
      | _ => simp at asked

/-- Whatever the engine is asked to write was brought by a call, as it is. -/
theorem Reaches.brought (h : Reaches c (.initial c) s es) {who : Asker}
    (asked : .asked who w ∈ es) {d : Declaration} (mem : d ∈ w.declarations) :
    ∃ call op, .begun call op ∈ es ∧ d ∈ op.declarations := by
  cases who with
  | flush =>
    obtain ⟨batch, taken, rfl⟩ := h.asked_iff_taken.1 asked
    have held := List.mem_append_left s.queue.items
      (List.mem_append_left s.buffer (List.mem_flatten_of_mem taken mem))
    obtain ⟨o, entered, rfl⟩ := List.mem_map.1 (h.held_sublist.subset held)
    exact ⟨_, _, h.begun_of_accepted entered, List.mem_singleton.2 rfl⟩
  | call call =>
    obtain ⟨op, begun, writes⟩ := h.begun_of_asked asked
    refine ⟨call, op, begun, ?_⟩
    rcases writes with ⟨d', rfl, rfl⟩ | ⟨ds, -, rfl, rfl⟩
    · simpa [Operation.declarations] using mem
    · exact mem

end Batcher

end CatalogSearch
