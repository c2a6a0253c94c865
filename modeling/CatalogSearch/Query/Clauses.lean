import CatalogSearch.Query.Intent

/-!
# Rendered queries

What a rendered query says, seen from outside: its kind, the parts of what it holds, and the clauses
that a combination lists. The clauses of an intent are written out here as the objects that they
are, with their members in name order.

## Main definitions

* `Query.kind`, `Query.part?`, `Query.clausesIn`: views of a rendered query.
* `Query.Legible`: the queries that can be told from what they are rendered as.
* `Intent.mustList`, `Intent.shouldList`: the clauses of an intent.
-/

namespace CatalogSearch

namespace Query

/-- The name of the kind of a query. -/
def kind : Query → String
  | .term .. => "term"
  | .terms .. => "terms"
  | .matchText .. => "match"
  | .range .. => "range"
  | .multiMatch .. => "multi_match"
  | .wildcard .. => "wildcard"
  | .queryString .. => "query_string"
  | .bool .. => "bool"

/-- What a rendered query of a kind holds under a name. -/
def part? (kind name : String) (dsl : Json) : Option Json :=
  (dsl.get? kind).bind (Json.get? name)

/-- The clauses that a rendered combination lists under a name. -/
def clausesIn (name : String) (dsl : Json) : List Json :=
  ((part? "bool" name dsl).bind Json.elements?).getD []

/-- The queries that can be told from what they are rendered as. An exact value without a boost must
not be an object, which could be the value and the boost of another query; a window without bounds
does not show whether they would belong to it; a boost that is not finite has no JSON form; and a
boosted field does not show where its name ends, or whether it was listed. -/
inductive Legible : Query → Prop
  | term {field : String} {value : Json} (plain : value.fields? = none) :
    Legible (.term field value none)
  | boosted {field : String} {value : Json} {b : Double} (finite : b.isFinite = true) :
    Legible (.term field value (some b))
  | terms {field : String} {values : List Json} : Legible (.terms field values)
  | matchText {field : String} {value : Json} {boost : Option Double}
      {fuzziness : Option Fuzziness} {join : Option Join}
      (finite : ∀ b, boost = some b → b.isFinite = true) :
    Legible (.matchText field value boost fuzziness join)
  | range {field : String} {lower upper : Option Json} {bounds : Bounds}
      (bounded : lower.isSome ∨ upper.isSome) : Legible (.range field lower upper bounds)
  | multiMatch {fields : List String} {value : Json} {fuzziness : Option Fuzziness} :
    Legible (.multiMatch fields value .empty fuzziness)
  | wildcard {field pattern : String} : Legible (.wildcard field pattern)
  | queryString {text : String} {allIds : Bool} {fields : List String} :
    Legible (.queryString text allIds fields)
  | bool {must should mustNot : List Query} {minimum : Option Nat}
      (must_legible : ∀ q ∈ must, Legible q) (should_legible : ∀ q ∈ should, Legible q)
      (mustNot_legible : ∀ q ∈ mustNot, Legible q) : Legible (.bool must should mustNot minimum)

/-- The boost that a field has after boosts have been added several times: the one given last, or
the one it had before. -/
def latestBoost? (boosts : FieldMap Double) (additions : List (List (String × Double)))
    (field : String) : Option Double :=
  ((additions.flatten.filter fun e => e.1 = field).getLast?.map Prod.snd).or (boosts.get? field)

/-- A field name with a boost behind it, if there is one. -/
def nameWith (field : String) : Option Double → String
  | none => field
  | some b => field ++ "^" ++ boostLayout.text b

end Query

namespace Intent

/-! ## The clauses of an intent -/

/-- The clause of an exact value. -/
def termClause (e : String × Json) : Json := .obj [("term", .obj [e])]

/-- The clause of a full text. -/
def matchClause (e : String × Json) : Json :=
  .obj [("match", .obj [(e.1, .obj
    [("lenient", .bool true), ("minimum_should_match", .str "95%"), ("query", e.2)])])]

/-- The clause of a window that includes its bounds, those that are open being left out. -/
def rangeClause (e : String × Window) : Json :=
  .obj [("range", .obj [(e.1, .obj
    (e.2.lower.toList.map ("gte", ·) ++ e.2.upper.toList.map ("lte", ·)))])]

/-- The clause of a query string whose tokens are alternatives. -/
def queryStringClause (fields : List String) (text : String) : Json :=
  .obj [("query_string", .obj <|
    [("analyze_wildcard", .bool true), ("default_operator", .str "OR")] ++
      (if fields = [] then [] else [("fields", .strings fields)]) ++
      [("minimum_should_match", .str "95%"), ("query", .str text),
        ("tie_breaker", .float Query.tieBreaker)])]

/-- The clause of a text in several fields, each with its boost. -/
def multiMatchClause (boosts : FieldMap Double) (e : String × List String) : Json :=
  .obj [("multi_match", .obj
    [("fields", .strings (e.2.map fun f => Query.nameWith f (boosts.get? f))),
      ("minimum_should_match", .str "95%"), ("query", .str e.1),
      ("tie_breaker", .float Query.tieBreaker)])]

/-- The clauses of an intent that must hold, those of each part in name order. -/
def mustList (i : Intent) : List Json :=
  i.terms.toList.map termClause ++ i.filter.toList.map matchClause ++
    i.range.toList.map rangeClause ++ i.query.toList.map (queryStringClause i.fields) ++
    i.multiMatch.toList.map (multiMatchClause i.boosts)

/-- The alternatives of an intent, in name order. -/
def shouldList (i : Intent) : List Json := i.should.toList.map termClause

/-- The clauses of a rendered intent that are texts in several fields, in order. -/
def multiMatchClauses (i : Intent) : List Json :=
  (Query.clausesIn "must" i.toQuery.render).filter fun c => (c.get? "multi_match").isSome

end Intent

end CatalogSearch
