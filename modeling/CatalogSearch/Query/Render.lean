import CatalogSearch.Query.Basic
import CatalogSearch.Decimal.Layout

/-!
# Rendering queries

The JSON form in which the engine takes a query: an object with one member, named for the kind of
query.
-/

namespace CatalogSearch

/-- The JSON form of a fuzziness. -/
def Fuzziness.toJson : Fuzziness → Json
  | .auto => .str "AUTO"
  | .edits n => .nat n

namespace Query

/-- The share of the words of a text that must occur. -/
def minimumShare : String := "95%"

/-- How much the other fields count beside the best one: 0.3, the number nearest to 3/10. -/
def tieBreaker : Double := Double.nearest false 3 10

/-- Boosts of fields are written without exponent, and whole ones without a point. -/
def boostLayout : Decimal.Layout := ⟨none, false⟩

/-- A field with its boost. -/
def boosted (field : String) (boost : Double) : String :=
  field ++ "^" ++ boostLayout.text boost

/-- A field, with its boost if it has one. -/
def weighted (boosts : FieldMap Double) (field : String) : String :=
  match boosts.get? field with
  | some b => boosted field b
  | none => field

/-- The fields of a query in several fields: those listed, in order, and then those that are only
boosted, in name order. -/
def weightedFields (fields : List String) (boosts : FieldMap Double) : List String :=
  fields.map (weighted boosts) ++
    (boosts.keep fun f => !fields.contains f).toList.map fun e => boosted e.1 e.2

/-- The members of an object that are there, in name order. -/
def present (l : List (String × Option Json)) : Json :=
  .record (l.filterMap fun e => e.2.map (e.1, ·))

/-- The object with one member. -/
def tagged (name : String) (value : Json) : Json := .record [(name, value)]

/-- The value of a list of clauses, if there are any. -/
def clauses (l : List Json) : Option Json := if l.isEmpty then none else some (.arr l)

mutual

/-- The JSON form of a query. -/
def render : Query → Json
  | .term field value none => tagged "term" (tagged field value)
  | .term field value (some b) =>
    tagged "term" (tagged field (.record [("value", value), ("boost", .ofDouble b)]))
  | .terms field values => tagged "terms" (tagged field (.arr values))
  | .matchText field value boost fuzziness join =>
    tagged "match" <| tagged field <| present
      [("query", some value), ("minimum_should_match", some (.str minimumShare)),
        ("lenient", some (.bool true)), ("boost", boost.map .ofDouble),
        ("fuzziness", fuzziness.map Fuzziness.toJson), ("operator", join.map fun j => .str j.name)]
  | .range field lower upper bounds =>
    let (low, high) := match bounds with
      | .inclusive => ("gte", "lte")
      | .exclusive => ("gt", "lt")
    tagged "range" (tagged field (present [(low, lower), (high, upper)]))
  | .multiMatch fields value boosts fuzziness =>
    tagged "multi_match" <| present
      [("query", some value), ("fields", some (.strings (weightedFields fields boosts))),
        ("tie_breaker", some (.ofDouble tieBreaker)),
        ("minimum_should_match", some (.str minimumShare)),
        ("fuzziness", fuzziness.map Fuzziness.toJson)]
  | .wildcard field pattern =>
    tagged "wildcard" (tagged field (tagged "wildcard" (.str pattern)))
  | .queryString text allIds fields =>
    let join : Join := if allIds then .or else .and
    tagged "query_string" <| present
      [("query", some (.str text)),
        ("fields", if fields.isEmpty then none else some (.strings fields)),
        ("default_operator", some (.str join.name)),
        ("tie_breaker", some (.ofDouble tieBreaker)),
        ("minimum_should_match", some (.str minimumShare)),
        ("analyze_wildcard", some (.bool true))]
  | .bool must should mustNot minimum =>
    tagged "bool" <| present
      [("must", clauses (renderAll must)), ("should", clauses (renderAll should)),
        ("must_not", clauses (renderAll mustNot)), ("minimum_should_match", minimum.map .nat)]

/-- The JSON forms of a list of queries. -/
def renderAll : List Query → List Json
  | [] => []
  | q :: qs => render q :: renderAll qs

end

theorem renderAll_eq_map (qs : List Query) : renderAll qs = qs.map render := by
  induction qs with
  | nil => rfl
  | cons q qs ih => simp [renderAll, ih]

end Query

end CatalogSearch
