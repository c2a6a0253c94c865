import CatalogSearch.Json.Parser
import CatalogSearch.Json.Shape

/-!
# Parsed values are in order

Whatever a text says, the value that is read from it has the members of its objects in name order,
each name once (`Json.inOrder_of_parse?`): the reader writes members into a `FieldMap` as they come.
-/

namespace CatalogSearch

theorem FieldMap.mem_toList_extend {α : Type} {m : FieldMap α} {l : List (String × α)}
    {e : String × α} (mem : e ∈ (m.extend l).toList) : e ∈ m.toList ∨ e ∈ l := by
  induction l generalizing m with
  | nil => exact .inl mem
  | cons e' l ih =>
    rcases ih mem with inserted | later
    · rcases mem_insertEntry inserted with rfl | before
      · exact .inr List.mem_cons_self
      · exact .inl before
    · exact .inr (List.mem_cons_of_mem _ later)

theorem mem_of_findEntry {α : Type} {k : String} {x : α} {l : List (String × α)}
    (found : findEntry k l = some x) : (k, x) ∈ l := by
  induction l with
  | nil => cases found
  | cons e l ih =>
    rw [findEntry] at found
    split at found
    · next own =>
      obtain rfl := Option.some.inj found
      exact own ▸ List.mem_cons_self
    · exact List.mem_cons_of_mem _ (ih found)

namespace Json

/-! ## Values in order -/

theorem InOrder.get? {v w : Json} (inOrder : v.InOrder) {k : String} (there : v.get? k = some w) :
    w.InOrder := by
  cases inOrder with
  | obj sorted inside => exact inside _ (mem_of_findEntry there)
  | _ => cases there

theorem InOrder.record {l : List (String × Json)} (inside : ∀ e ∈ l, e.2.InOrder) :
    (record l).InOrder := by
  refine .obj (FieldMap.sorted _) fun e mem => ?_
  rcases FieldMap.mem_toList_extend mem with ⟨⟨⟩⟩ | written
  exact inside e written

/-! ## What a reader yields -/

/-- If something is read, it is such a thing. -/
def Yields {α : Type} (p : α → Prop) (read : Option (α × List Char)) : Prop :=
  ∀ a rest, read = some (a, rest) → p a

section Yields

variable {α β : Type} {p : α → Prop} {q : β → Prop} {a : α} {rest : List Char}

theorem Yields.none : Yields p none := fun _ _ nothing => by cases nothing

theorem Yields.some (h : p a) : Yields p (some (a, rest)) := fun _ _ same => by
  cases same
  exact h

theorem Yields.map {read : Option (α × List Char)} {f : α → β} (h : Yields p read)
    (step : ∀ a, p a → q (f a)) : Yields q (read.map fun r => (f r.1, r.2)) := by
  cases read with
  | none => exact .none
  | some r => exact .some (step r.1 (h r.1 r.2 rfl))

theorem Yields.map_of_forall {read : Option (α × List Char)} {f : α → β} (h : ∀ a, q (f a)) :
    Yields q (read.map fun r => (f r.1, r.2)) :=
  Yields.map (p := fun _ => True) (fun _ _ _ => trivial) fun a _ => h a

/-- What is read when only the text after a word is looked for. -/
theorem Yields.const {after : Option (List Char)} (h : p a) : Yields p (after.map (a, ·)) := by
  cases after with
  | none => exact .none
  | some rest => exact .some h

end Yields

/-- A number has nothing in it. -/
theorem yields_readNumber (negative : Bool) (cs : List Char) :
    Yields InOrder (readNumber negative cs) := by
  have float (read : Option (Double × List Char)) :
      Yields InOrder (read.map fun r => (Json.float r.1, r.2)) := .map_of_forall fun _ => .float
  have integer (significand : Nat) (rest : List Char) :
      Yields InOrder (readNumber.integer negative significand rest) := by
    unfold readNumber.integer
    split
    · split
      · exact .some .float
      · exact .some .int
    · exact .some .int
  unfold readNumber
  extract_lets asFloat
  split
  split
  · exact .none
  · split
    · exact float _
    · exact float _
    · exact float _
    · split
      · split
        · exact .none
        · split
          split
          · exact float _
          · exact float _
      · exact integer _ _
    · exact integer _ _

/-- Whatever is read with some fuel is in order. -/
theorem yields_read (fuel : Nat) :
    (∀ depth cs, Yields InOrder (readValue depth fuel cs)) ∧
    (∀ depth cs, Yields (fun vs => ∀ v ∈ vs, InOrder v) (readElements depth fuel cs)) ∧
    ∀ depth cs, Yields (fun ms => ∀ e ∈ ms, InOrder e.2) (readMembers depth fuel cs) := by
  induction fuel with
  | zero =>
    refine ⟨fun depth cs => ?_, fun depth cs => ?_, fun depth cs => ?_⟩
    · rw [readValue]
      exact .none
    · rw [readElements]
      exact .none
    · rw [readMembers]
      exact .none
  | succ fuel ih =>
    obtain ⟨value, elements, members⟩ := ih
    refine ⟨fun depth cs => ?_, fun depth cs => ?_, fun depth cs => ?_⟩
    · rw [readValue]
      split
      · exact .const .null
      · exact .const .bool
      · exact .const .bool
      · exact .map_of_forall fun _ => .str
      · exact yields_readNumber true _
      · split
        · exact .none
        · exact .some (.arr (by simp))
        · exact (elements _ _).map fun _ => .arr
      · split
        · exact .none
        · exact .some (.obj .nil (by simp))
        · exact (members _ _).map fun _ => .record
      · exact yields_readNumber false _
    · rw [readElements]
      split
      · exact .none
      · next v rest read =>
        have first : v.InOrder := value _ _ _ _ read
        split
        · exact (elements _ _).map fun _ inside => List.forall_mem_cons.2 ⟨first, inside⟩
        · exact .some (List.forall_mem_singleton.2 first)
        · exact .none
    · rw [readMembers]
      split
      · split
        · exact .none
        · split
          · split
            · exact .none
            · next v rest read =>
              have first : v.InOrder := value _ _ _ _ read
              split
              · exact (members _ _).map fun _ inside => List.forall_mem_cons.2 ⟨first, inside⟩
              · exact .some (List.forall_mem_singleton.2 first)
              · exact .none
          · exact .none
      · exact .none

/-- The value of a text is in order. -/
theorem inOrder_of_parse? {text : String} {v : Json} (parsed : parse? text = some v) :
    v.InOrder := by
  rw [parse?] at parsed
  split at parsed
  · next read =>
    split at parsed
    · cases parsed
      exact (yields_read _).1 _ _ _ _ read
    · cases parsed
  · cases parsed

end Json

end CatalogSearch
