import CatalogSearch.Query.Render

/-!
# Intents

A search as another program asks for it: filters by field, a free-text query, full text in several
fields with boosts, and alternatives. An intent has a JSON form, and `Intent.toQuery` turns it into
one combination of queries.
-/

namespace CatalogSearch

/-- A window of values; a missing bound is open. -/
structure Window where
  lower : Option Json
  upper : Option Json
  deriving DecidableEq

/-- A search made of filters, text and boosts, each keyed by field name. -/
structure Intent where
  /-- Exact values that must hold. -/
  terms : FieldMap Json
  /-- Full texts that must occur. -/
  filter : FieldMap Json
  /-- Windows that must hold. -/
  range : FieldMap Window
  /-- A query string, passed on as it is. -/
  query : Option String
  /-- The fields that `query` is looked for in; none means the engine's choice. -/
  fields : List String
  /-- Texts with the fields they are looked for in. -/
  multiMatch : FieldMap (List String)
  /-- Boosts of the fields that `multiMatch` lists. -/
  boosts : FieldMap Double
  /-- Exact values of which at least one must hold. -/
  should : FieldMap Json
  deriving DecidableEq

namespace Intent

/-- The intent that asks for nothing. -/
def empty : Intent := ⟨.empty, .empty, .empty, none, [], .empty, .empty, .empty⟩

/-- Whether an intent has no clause; fields and boosts alone are none. -/
def isEmpty (i : Intent) : Bool :=
  i.terms.isEmpty && i.filter.isEmpty && i.range.isEmpty && i.query.isNone &&
    i.multiMatch.isEmpty && i.should.isEmpty

/-! ## Building -/

/-- Require an exact value. -/
def withTerm (i : Intent) (field : String) (value : Json) : Intent :=
  { i with terms := i.terms.insert field value }

/-- Require a full text. -/
def withFilter (i : Intent) (field : String) (value : Json) : Intent :=
  { i with filter := i.filter.insert field value }

/-- Require a window. -/
def withRange (i : Intent) (field : String) (lower upper : Option Json) : Intent :=
  { i with range := i.range.insert field ⟨lower, upper⟩ }

/-- Set the query string and its fields. -/
def withQuery (i : Intent) (text : String) (fields : List String) : Intent :=
  { i with query := some text, fields }

/-- Look for a text in several fields. -/
def withMultiMatch (i : Intent) (value : String) (fields : List String) : Intent :=
  { i with multiMatch := i.multiMatch.insert value fields }

/-- Boost a field. -/
def withBoost (i : Intent) (field : String) (boost : Double) : Intent :=
  { i with boosts := i.boosts.insert field boost }

/-- Add an alternative. -/
def withShould (i : Intent) (field : String) (value : Json) : Intent :=
  { i with should := i.should.insert field value }

/-! ## The query of an intent -/

/-- Full text in several fields, with the boosts of those fields only. -/
def multiMatchQuery (boosts : FieldMap Double) (value : String) (fields : List String) : Query :=
  (Query.across (.str value) fields).withFieldBoosts
    (boosts.toList.filter fun e => fields.contains e.1)

/-- The clauses that must hold: terms, filters, windows, the query string, multi-field texts. -/
def mustClauses (i : Intent) : List Query :=
  (i.terms.toList.map fun e => .exactly e.1 e.2) ++
    (i.filter.toList.map fun e => .containing e.1 e.2) ++
    (i.range.toList.map fun e => .between e.1 e.2.lower e.2.upper) ++
    (i.query.toList.map fun text => .queryString text true i.fields) ++
    i.multiMatch.toList.map fun e => multiMatchQuery i.boosts e.1 e.2

/-- The combination of queries that an intent asks for. -/
def toQuery (i : Intent) : Query :=
  .all i.mustClauses (i.should.toList.map fun e => .exactly e.1 e.2)

/-! ## JSON form -/

/-- The JSON form of a window: its two bounds, null for an open one. -/
def windowToJson (w : Window) : Json := .arr [.orNull w.lower, .orNull w.upper]

/-- The JSON form of an intent. -/
def toJson (i : Intent) : Json :=
  .record
    [("terms", .object i.terms), ("filter", .object i.filter),
      ("range", .object (i.range.mapValues windowToJson)), ("query", .orNull (i.query.map .str)),
      ("fields", .strings i.fields), ("multi_match", .object (i.multiMatch.mapValues .strings)),
      ("boosts", .object (i.boosts.mapValues .ofDouble)), ("should", .object i.should)]

/-- A value that null leaves out. -/
def optional : Json → Option Json
  | .null => none
  | v => some v

/-- A list of texts. -/
def strings? (v : Json) : Option (List String) :=
  v.elements?.bind fun vs => vs.mapM Json.text?

/-- The entries of an object, each read by `f`. -/
def entries? {α : Type} (f : Json → Option α) (v : Json) : Option (FieldMap α) := do
  let m ← v.fields?
  let l ← m.toList.mapM fun e => (f e.2).map (e.1, ·)
  return .ofList l

/-- A window: an array of exactly two bounds. -/
def window? : Json → Option Window
  | .arr [lower, upper] => some ⟨optional lower, optional upper⟩
  | _ => none

/-- A text or null. -/
def text? : Json → Option (Option String)
  | .null => some none
  | .str s => some (some s)
  | _ => none

/-- The names of the fields, in the order of the positional form. -/
def fieldNames : List String :=
  ["terms", "filter", "range", "query", "fields", "multi_match", "boosts", "should"]

/-- An intent from the values of its fields, a missing one having its default. -/
def ofFields? (field : String → Option Json) : Option Intent := do
  let read {α : Type} (name : String) (f : Json → Option α) (default : α) : Option α :=
    match field name with
    | none => some default
    | some v => f v
  let terms ← read "terms" (entries? some) .empty
  let filter ← read "filter" (entries? some) .empty
  let range ← read "range" (entries? window?) .empty
  let query ← read "query" text? none
  let fields ← read "fields" strings? []
  let multiMatch ← read "multi_match" (entries? strings?) .empty
  let boosts ← read "boosts" (entries? Json.number?) .empty
  let should ← read "should" (entries? some) .empty
  return { terms, filter, range, query, fields, multiMatch, boosts, should }

/-- An intent from its JSON form: an object, in which unknown members are ignored, or an array of
the fields in order. Either may leave fields out, the array only at its end. -/
def ofJson? : Json → Option Intent
  | .obj members => ofFields? fun name => findEntry name members
  | .arr values =>
    if fieldNames.length < values.length then none
    else ofFields? fun name => findEntry name (fieldNames.zip values)
  | _ => none

end Intent

end CatalogSearch
