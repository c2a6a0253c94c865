import CatalogSearch.Query.Intent

/-!
# The form of an intent

An intent can be read from many values: from objects that give some of its fields, with the members
in any order and others among them, and from arrays that give the first few. It is written in one
form. This module says what a value gives for a field, and how what is given is written.

## Main definitions

* `Intent.given?`: what a value gives for a field.
* `Intent.normalForm`: the form in which the fields that a value gives are written.
-/

namespace CatalogSearch

namespace Json

/-- The numbers that a text can name: integers of 64 bits, and finite binary numbers. -/
def IsNumber : Json → Prop
  | .int n => -0x8000000000000000 ≤ n ∧ n < 0x10000000000000000
  | .float x => x.isFinite = true
  | _ => False

instance : DecidablePred IsNumber
  | .int _ => inferInstanceAs (Decidable (_ ∧ _))
  | .float x => inferInstanceAs (Decidable (x.isFinite = true))
  | .null | .bool _ | .str _ | .arr _ | .obj _ => inferInstanceAs (Decidable False)

/-- A value, but for an integer the binary number nearest to it. -/
def toBinary : Json → Json
  | .int n => .float (Double.ofInt n)
  | v => v

/-- A value with its members, if it is an object, in name order, the last one of each name changed
by `f`. -/
def tidy (f : Json → Json) : Json → Json
  | .obj members => .object ((FieldMap.ofList members).mapValues f)
  | v => v

end Json

namespace Intent

/-- What a value gives for a field: the member of its name, or the element in its place. -/
def given? (v : Json) (field : String) : Option Json :=
  match v with
  | .obj members => findEntry field members
  | .arr values => values[fieldNames.idxOf field]?
  | _ => none

/-- The members that a value gives for a field. -/
def givenMembers (v : Json) (field : String) : FieldMap Json :=
  ((given? v field).bind Json.fields?).getD .empty

/-- How a field is written that is not given. -/
def absent (field : String) : Json :=
  if field = "query" then .null else if field = "fields" then .arr [] else .obj []

/-- How the value that is given for a field is written: as it is, with members in name order, and
with binary numbers for boosts. -/
def written (field : String) : Json → Json :=
  Json.tidy (if field = "boosts" then Json.toBinary else id)

/-- The form of a field, which may be given or not. -/
def fieldForm (field : String) : Option Json → Json
  | none => absent field
  | some v => written field v

/-- The form in which the fields that a value gives are written, and those that it does not give. -/
def normalForm (v : Json) : Json :=
  .record (fieldNames.map fun field => (field, fieldForm field (given? v field)))

end Intent

end CatalogSearch
