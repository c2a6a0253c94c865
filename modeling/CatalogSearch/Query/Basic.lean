import CatalogSearch.Json.Basic
import CatalogSearch.Query.FreeText

/-!
# Queries

The queries that the engine understands, as values, and the operations that build them. Each of
the `with` operations sets one option on the kinds of query that carry it and leaves every other
query as it is.
-/

namespace CatalogSearch

/-- How many edits a word of a full-text query may be away from a word of a document. -/
inductive Fuzziness where
  /-- The engine picks by the length of the word. -/
  | auto
  /-- At most so many edits. -/
  | edits (n : Nat)
  deriving DecidableEq

/-- How the words of a text are joined. -/
inductive Join where
  | and
  | or
  deriving DecidableEq

/-- The name of a join. -/
def Join.name : Join → String
  | .and => "AND"
  | .or => "OR"

/-- Whether the bounds of a range belong to it. -/
inductive Bounds where
  | inclusive
  | exclusive
  deriving DecidableEq

/-- A query. -/
inductive Query where
  /-- The exact value of a field. -/
  | term (field : String) (value : Json) (boost : Option Double)
  /-- One of several exact values of a field. -/
  | terms (field : String) (values : List Json)
  /-- Full text in one field. -/
  | matchText (field : String) (value : Json) (boost : Option Double)
      (fuzziness : Option Fuzziness) (join : Option Join)
  /-- A window of values; a missing bound is open. -/
  | range (field : String) (lower upper : Option Json) (bounds : Bounds)
  /-- Full text in several fields, some of them boosted. -/
  | multiMatch (fields : List String) (value : Json) (boosts : FieldMap Double)
      (fuzziness : Option Fuzziness)
  /-- A pattern in one field. -/
  | wildcard (field pattern : String)
  /-- A query string; alternatives when all its tokens are ids. -/
  | queryString (text : String) (allIds : Bool) (fields : List String)
  /-- A combination of queries. -/
  | bool (must should mustNot : List Query) (minimum : Option Nat)
  deriving Inhabited

namespace Query

/-! ## Building -/

/-- An exact value without a boost. -/
def exactly (field : String) (value : Json) : Query := .term field value none

/-- Full text in a field without options. -/
def containing (field : String) (value : Json) : Query := .matchText field value none none none

/-- A window that includes its bounds. -/
def between (field : String) (lower upper : Option Json) : Query :=
  .range field lower upper .inclusive

/-- A window that excludes its bounds. -/
def strictlyBetween (field : String) (lower upper : Option Json) : Query :=
  .range field lower upper .exclusive

/-- Full text in several fields without options. -/
def across (value : Json) (fields : List String) : Query :=
  .multiMatch fields value .empty none

/-- A pattern in a field; the empty pattern matches everything. -/
def pattern (field text : String) : Query :=
  .wildcard field (if text = "" then FreeText.matchAll else text)

/-- A query string of free text, joined as its tokens ask for. -/
def ofFreeText (text : String) (fields : List String) : Query :=
  let c := FreeText.classify text
  .queryString c.text c.allIds fields

/-- A combination in which, if there are alternatives, at least one holds. -/
def all (must should : List Query) : Query :=
  .bool must should [] (if should.isEmpty then none else some 1)

/-- Whatever satisfies none of the queries. -/
def noneOf (clauses : List Query) : Query := .bool [] [] clauses none

/-! ## Options -/

/-- Set the boost of a term or a full-text query. -/
def withBoost (b : Double) : Query → Query
  | .term f v _ => .term f v (some b)
  | .matchText f v _ z j => .matchText f v (some b) z j
  | q => q

/-- Set the fuzziness of a full-text query in one or several fields. -/
def withFuzziness (z : Fuzziness) : Query → Query
  | .matchText f v b _ j => .matchText f v b (some z) j
  | .multiMatch fs v bs _ => .multiMatch fs v bs (some z)
  | q => q

/-- Set how the words of a full-text query in one field are joined. -/
def withJoin (j : Join) : Query → Query
  | .matchText f v b z _ => .matchText f v b z (some j)
  | q => q

/-- Add boosts of fields to a full-text query in several fields; the later of two stays. -/
def withFieldBoosts (l : List (String × Double)) : Query → Query
  | .multiMatch fs v bs z => .multiMatch fs v (bs.extend l) z
  | q => q

/-- Set how many alternatives of a combination must hold. -/
def withMinimum (n : Nat) : Query → Query
  | .bool m s x _ => .bool m s x (some n)
  | q => q

/-- One use of an operation that sets an option. -/
inductive Setting where
  | boost (b : Double)
  | fuzziness (z : Fuzziness)
  | join (j : Join)
  | fieldBoosts (l : List (String × Double))
  | minimum (n : Nat)

/-- Set one option. -/
def set (q : Query) : Setting → Query
  | .boost b => q.withBoost b
  | .fuzziness z => q.withFuzziness z
  | .join j => q.withJoin j
  | .fieldBoosts l => q.withFieldBoosts l
  | .minimum n => q.withMinimum n

end Query

end CatalogSearch
