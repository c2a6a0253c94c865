import CatalogSearch.Json.Basic

/-!
# The shape of JSON values

Objects list their members in name order, each name once; `Json.InOrder` says so of a value and of
all that is in it. `Json.update` changes one member of an object where it stands.
-/

namespace CatalogSearch.Json

/-- The values in which every object has its members in name order, each name once. -/
inductive InOrder : Json → Prop
  | null : InOrder .null
  | bool {b : Bool} : InOrder (.bool b)
  | int {n : Int} : InOrder (.int n)
  | float {x : Double} : InOrder (.float x)
  | str {s : String} : InOrder (.str s)
  | arr {elements : List Json} (inside : ∀ v ∈ elements, InOrder v) : InOrder (.arr elements)
  | obj {members : List (String × Json)} (sorted : SortedByName members)
      (inside : ∀ e ∈ members, InOrder e.2) : InOrder (.obj members)

/-- A value with the member of a name, if it has one, changed by `f`. -/
def update (name : String) (f : Json → Json) : Json → Json
  | .obj members => .obj (members.map fun e => (e.1, if e.1 = name then f e.2 else e.2))
  | v => v

theorem get?_update (name : String) (f : Json → Json) (v : Json) (k : String) :
    (v.update name f).get? k = (v.get? k).map fun x => if k = name then f x else x := by
  cases v with
  | obj members =>
    show findEntry k (members.map _) = (findEntry k members).map _
    induction members with
    | nil => rfl
    | cons e members ih =>
      rw [List.map_cons, findEntry, findEntry]
      by_cases own : k = e.1
      · rw [if_pos own, if_pos own, ← own]
        rfl
      · rw [if_neg own, if_neg own, ih]
  | _ => rfl

end CatalogSearch.Json
