import CatalogSearch.Json.Shape
import CatalogSearch.Reading.Hits

/-!
# What answers say

What an answer of the engine says, whatever value it is: the total that it has and the documents
that it shows, or the documents that were found.

## Main definitions

* `Hits.HasTotal`: the answers that have a total.
* `Hits.Shows`: the documents that an answer shows.
* `Hits.Interprets`: the results that say what an answer to a search says.
* `Hits.Collects`: the results that say what an answer to a look-up of several documents says.
-/

namespace CatalogSearch.Hits

/-- Whether a value stands for a total: it is this number, or an object with the number as its
`value`. -/
def IsTotal (v : Json) (n : Nat) : Prop :=
  n < 0x10000000000000000 ∧ (v = .nat n ∨ v.get? "value" = some (.nat n))

/-- Whether an answer has hits, and these a total. -/
def HasTotal (answer : Json) (n : Nat) : Prop :=
  ∃ hits total, answer.get? "hits" = some hits ∧ hits.get? "total" = some total ∧ IsTotal total n

/-- The list of the hits of an answer, if it has one. -/
def listed? (answer : Json) : Option Json := (answer.get? "hits").bind (Json.get? "hits")

/-- The documents that an answer shows: one for each element of its list of hits, which is null if
the element has none, and no documents if there is no such list. -/
inductive Shows (answer : Json) : List Json → Prop
  | listed {elements : List Json} (list : listed? answer = some (.arr elements)) :
    Shows answer (elements.map fun e => (e.get? "_source").getD .null)
  | unlisted (no_list : ∀ elements, listed? answer ≠ some (.arr elements)) : Shows answer []

/-- Whether a result says what an answer says. If the answer has no total, it cannot be parsed, and
only then; otherwise the hits that are found in it, by `view`, have its total and its documents. -/
structure Interprets {α : Type} (answer : Json) (view : α → Hits)
    (result : Except SearchError α) : Prop where
  fails_iff : (∃ e, result = .error e ∧ e.kind = .parse) ↔ ¬∃ n, HasTotal answer n
  finds : ∀ n, HasTotal answer n → ∃ found, result = .ok found ∧ (view found).total = n ∧
    Shows answer (view found).documents

/-- Whether a result says which documents were found. If the answer has no list of entries, it
cannot be parsed, and only then; otherwise the documents are those of the entries that say that they
were found, and there has to be one. -/
structure Collects (answer : Json) (result : Except SearchError Hits) : Prop where
  fails_iff : (∃ e, result = .error e ∧ e.kind = .parse) ↔
    ¬∃ entries, answer.get? "docs" = some (.arr entries)
  finds : ∀ entries, answer.get? "docs" = some (.arr entries) →
    let found := entries.filter fun e => e.get? "found" = some (.bool true)
    if found = [] then ∃ e, result = .error e ∧ e.kind = .notFound
    else result = .ok ⟨found.length, found.map fun e => (e.get? "_source").getD .null⟩

/-- An answer with another total. -/
def withTotal (total answer : Json) : Json :=
  answer.update "hits" (Json.update "total" fun _ => total)

end CatalogSearch.Hits
