import Mathlib.Data.List.Rotate
import CatalogSearch.Engine.Turns

/-!
# Pools serve evenly

Whatever is done with a pool, its nodes are those that were given last (`nodes_run`), and its turn
counts the nodes that were handed out (`toNat_turn_run`). While nobody replaces the nodes, the
positions that are handed out follow one another (`served_run`), so that as many of them as there
are nodes are a rotation of the list (`map_entry_range`).
-/

namespace CatalogSearch.Pool

universe u

variable {α : Type u}

/-! ## What a run leaves -/

theorem run_cons (p : Pool α) (u : Use α) (us : List (Use α)) :
    p.run (u :: us) =
      ((p.perform u).1 :: ((p.perform u).2.run us).1, ((p.perform u).2.run us).2) := rfl

/-- A use leaves the nodes that it gives, or those that were there. -/
theorem nodes_perform (p : Pool α) (u : Use α) :
    (p.perform u).2.nodes = u.given?.getD p.nodes := by
  cases u with
  | clone through => rfl
  | next through => rfl
  | reseed through nodes =>
    cases nodes with
    | nil => rfl
    | cons node nodes => rfl

theorem installed_cons (start : List α) (u : Use α) (us : List (Use α)) :
    installed start (u :: us) = installed (u.given?.getD start) us := by
  simp only [installed, List.getLast?_filterMap, List.reverse_cons, List.findSome?_append,
    List.findSome?_singleton, Option.getD_or]

theorem nodes_run (p : Pool α) (us : List (Use α)) :
    (p.run us).2.nodes = installed p.nodes us := by
  induction us generalizing p with
  | nil => rfl
  | cons u us ih =>
    rw [installed_cons, ← nodes_perform]
    exact ih _

/-! ## Counting turns -/

theorem requests_cons (u : Use α) (us : List (Use α)) :
    requests (u :: us) = requests us + if u.isNext then 1 else 0 :=
  List.countP_cons

theorem requests_append (us vs : List (Use α)) :
    requests (us ++ vs) = requests us + requests vs :=
  List.countP_append

/-- A use takes a turn if it asks for a node, and otherwise leaves the turn as it is. -/
theorem turn_perform (p : Pool α) (u : Use α) :
    (p.perform u).2.turn = p.turn + if u.isNext then 1 else 0 := by
  cases u with
  | clone through => exact (UInt64.add_zero p.turn).symm
  | next through => rfl
  | reseed through nodes =>
    cases nodes with
    | nil => exact (UInt64.add_zero p.turn).symm
    | cons node nodes => exact (UInt64.add_zero p.turn).symm

theorem toNat_turn_perform {p : Pool α} {u : Use α}
    (room : p.turn.toNat + (if u.isNext then 1 else 0) < UInt64.size) :
    (p.perform u).2.turn.toNat = p.turn.toNat + if u.isNext then 1 else 0 := by
  rw [turn_perform]
  cases asks : u.isNext with
  | false => simp
  | true =>
    rw [asks] at room
    rw [if_pos rfl, UInt64.toNat_add]
    exact Nat.mod_eq_of_lt room

/-- The turn counts the nodes that were handed out, as long as its number is large enough. -/
theorem toNat_turn_run {p : Pool α} {us : List (Use α)}
    (room : p.turn.toNat + requests us < UInt64.size) :
    (p.run us).2.turn.toNat = p.turn.toNat + requests us := by
  induction us generalizing p with
  | nil => rfl
  | cons u us ih =>
    rw [requests_cons] at room ⊢
    have one : (p.perform u).2.turn.toNat = p.turn.toNat + if u.isNext then 1 else 0 :=
      toNat_turn_perform (by omega)
    have others : ((p.perform u).2.run us).2.turn.toNat =
        (p.perform u).2.turn.toNat + requests us := ih (by omega)
    calc ((p.perform u).2.run us).2.turn.toNat
        = (p.perform u).2.turn.toNat + requests us := others
      _ = p.turn.toNat + (requests us + if u.isNext then 1 else 0) := by omega

/-! ## Serving -/

/-- The node that a pool hands out on a turn, with its position. -/
def entry (p : Pool α) (turn : Nat) : α × Nat :=
  (p.nodes.get ⟨turn % p.nodes.length, Nat.mod_lt _ p.nonempty⟩, turn % p.nodes.length)

/-- A use that gives no nodes either hands one out and takes a turn, or it changes nothing. -/
theorem perform_of_steady {u : Use α} (steady : u.given? = none) (p : Pool α) :
    (u.isNext = true ∧ p.perform u = (.node p.position p.current, p.next.2)) ∨
      (u.isNext = false ∧ (p.perform u).1.node? = none ∧ (p.perform u).2 = p) := by
  cases u with
  | clone through => exact .inr ⟨rfl, rfl, rfl⟩
  | next through => exact .inl ⟨rfl, rfl⟩
  | reseed through nodes =>
    cases nodes with
    | nil => exact .inr ⟨rfl, rfl, rfl⟩
    | cons node nodes => cases steady

/-- While nobody replaces the nodes, they are handed out one after the other. -/
theorem served_run {p : Pool α} {us : List (Use α)} (steady : ∀ u ∈ us, u.given? = none)
    (room : p.turn.toNat + requests us < UInt64.size) :
    served (p.run us).1 = (List.range (requests us)).map fun i => p.entry (p.turn.toNat + i) := by
  induction us generalizing p with
  | nil => rfl
  | cons u us ih =>
    have rest : ∀ u ∈ us, u.given? = none := fun v mem => steady v (List.mem_cons_of_mem u mem)
    rw [requests_cons] at room ⊢
    obtain ⟨asks, performed⟩ | ⟨idle, nothing, same⟩ :=
      perform_of_steady (steady u List.mem_cons_self) p
    · rw [asks, if_pos rfl] at room ⊢
      have turn : p.next.2.turn.toNat = p.turn.toNat + 1 := by
        have taken := toNat_turn_perform (p := p) (u := u) (by rw [asks, if_pos rfl]; omega)
        rwa [performed, asks] at taken
      rw [run_cons, performed]
      calc served (.node p.position p.current :: (p.next.2.run us).1)
          = p.entry p.turn.toNat :: served (p.next.2.run us).1 := rfl
        _ = p.entry p.turn.toNat ::
              (List.range (requests us)).map fun i => p.entry (p.turn.toNat + 1 + i) := by
            rw [ih rest (by omega), turn]
            rfl
        _ = (List.range (requests us + 1)).map fun i => p.entry (p.turn.toNat + i) := by
            simp [List.range_succ_eq_map, Function.comp_def, Nat.add_assoc, Nat.add_comm 1]
    · rw [idle] at room ⊢
      rw [run_cons, same, served, List.filterMap_cons_none nothing]
      exact ih rest room

/-- As many turns as there are nodes hand each node out once, in the order of the list, from some
position on. -/
theorem map_entry_range (p : Pool α) (turn : Nat) :
    (List.range p.nodes.length).map (fun i => p.entry (turn + i)) =
      p.nodes.zipIdx.rotate turn := by
  refine List.ext_getElem (by simp) fun i _ _ => ?_
  simp [entry, List.getElem_rotate, Nat.add_comm]

/-- **A pool never runs dry and serves its nodes evenly.** A pool is made of any list of nodes that
is not empty. Whatever has been done with it through any of its clones, its nodes are those that
were given last; there is at least one, and the position of the turn is one of the list, so that
whoever asks for a node is handed one of these. To give no nodes changes nothing, and to give some
replaces all of them. While no others are given, as many nodes are handed out as there are in
the list, each with its position exactly once, in the order of the list from the position of the
turn on, whatever else is done in between; the turn must not have passed the greatest number. -/
theorem pool_serves_evenly {start : List α} (some : start ≠ []) :
    ∃ p, ofList? start = .some p ∧
      ∀ us, let now := (p.run us).2
        now.nodes = installed start us ∧ installed start us ≠ [] ∧
        now.position < (installed start us).length ∧
        (∀ through, ∃ node ∈ installed start us, (installed start us)[now.position]? = .some node ∧
          (now.perform (.next through)).1 = .node now.position node) ∧
        (∀ through, now.perform (.reseed through []) = (.reseeded false, now)) ∧
        (∀ through nodes, nodes ≠ [] → ∃ next,
          now.perform (.reseed through nodes) = (.reseeded true, next) ∧ next.nodes = nodes) ∧
        ∀ vs, (∀ v ∈ vs, v.given? = none) → requests vs = (installed start us).length →
          requests (us ++ vs) < UInt64.size →
          served (now.run vs).1 = (installed start us).zipIdx.rotate now.position := by
  have there : 0 < start.length := List.length_pos_iff.2 some
  refine ⟨⟨start, 0, there⟩, dif_pos there, fun us => ?_⟩
  intro now
  have nodes : now.nodes = installed start us := nodes_run ⟨start, 0, there⟩ us
  rw [← nodes]
  refine ⟨rfl, List.length_pos_iff.1 now.nonempty, now.position_lt,
    fun through => ⟨now.current, List.get_mem _ _, List.getElem?_eq_getElem _, rfl⟩,
    fun through => rfl, fun through nodes given => ?_, fun vs steady many room => ?_⟩
  · have there : 0 < nodes.length := List.length_pos_iff.2 given
    exact ⟨⟨nodes, now.turn, there⟩, by simp [perform, reseed, there], rfl⟩
  · rw [requests_append] at room
    have counted : now.turn.toNat = 0 + requests us :=
      toNat_turn_run (p := ⟨start, 0, there⟩) (by show 0 + requests us < _; omega)
    rw [served_run steady (by omega), many, map_entry_range, position, ← List.length_zipIdx,
      List.rotate_mod]

/-- Three nodes are replaced by two when the turn is at the first of them again: the second of the
two is handed out, and then the first. -/
theorem pool_serves_evenly_of_shorter_list :
    let us : List (Use Nat) :=
      [.next 0, .clone 0, .reseed 1 [], .next 1, .next 0, .reseed 1 [4, 5]]
    let vs : List (Use Nat) := [.next 1, .reseed 0 [], .next 0]
    ∃ p, ofList? [1, 2, 3] = some p ∧ let now := (p.run us).2
      now.nodes = [4, 5] ∧ served (now.run vs).1 = [(5, 1), (4, 0)] := by
  intro us vs
  obtain ⟨p, made, runs⟩ := pool_serves_evenly (show [1, 2, 3] ≠ [] by decide)
  obtain rfl := Option.some.inj made
  obtain ⟨nodes, -, -, -, -, -, even⟩ := runs us
  refine ⟨_, made, nodes, ?_⟩
  rw [even vs (by decide) (by decide) (by decide)]
  decide

/-- Behind the greatest number the turn starts again at zero, and of three nodes the first one is
handed out twice. -/
example :
    let p : Pool Nat := ⟨[1, 2, 3], 0xFFFFFFFFFFFFFFFF, by decide⟩
    served (p.run [.next 0, .next 0]).1 = [(1, 0), (1, 0)] := by
  decide

end CatalogSearch.Pool
