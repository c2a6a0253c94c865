import CatalogSearch.Engine.Summary
import CatalogSearch.Json.Shape

/-!
# Answers to bulk requests

What the items of an answer to a bulk request report, whatever values they are. The result of an
item is its first member, in name order; an item reports a failure if its result has an error.

## Main definitions

* `Summary.Reports`: the failure that an item reports.
* `Summary.Accounts`: the failures that a list of items reports.
* `Summary.withItems`: an answer with other items.
-/

namespace CatalogSearch

namespace Summary

/-- Whether a text is the one that is given, or else a given other one. -/
def IsTextOr (given : Option Json) (other text : String) : Prop :=
  given = some (.str text) ∨ (∀ t, given ≠ some (.str t)) ∧ text = other

/-- Whether a status is the one that is given, as an integer from 0 to 65535, or else zero. -/
def IsStatus (given : Option Json) (status : Nat) : Prop :=
  status < 65536 ∧ given = some (.nat status) ∨
    (∀ n, n < 65536 → given ≠ some (.nat n)) ∧ status = 0

/-- The failure that an item reports: the one with the id, the status and the reason of its
result, which has an error. -/
inductive Reports : Json → Failure → Prop
  | intro {members : List (String × Json)} {name : String} {result error : Json} {f : Failure}
      (there : (name, result) ∈ members) (first : ∀ e ∈ members, name ≤ e.1)
      (refused : result.get? "error" = some error) (id : IsTextOr (result.get? "_id") "" f.id)
      (status : IsStatus (result.get? "status") f.status)
      (reason : IsTextOr (error.get? "reason") error.render f.reason) : Reports (.obj members) f

/-- The failures that items report, in the order of the items. -/
inductive Accounts : List Json → List Failure → Prop
  | none : Accounts [] []
  | refused {item : Json} {f : Failure} {items : List Json} {failures : List Failure}
      (reports : Reports item f) (others : Accounts items failures) :
      Accounts (item :: items) (f :: failures)
  | applied {item : Json} {items : List Json} {failures : List Failure}
      (silent : ∀ f, ¬Reports item f) (others : Accounts items failures) :
      Accounts (item :: items) failures

/-- An answer with other items. -/
def withItems (items : List Json) (body : Json) : Json := body.update "items" fun _ => .arr items

end Summary

end CatalogSearch
