import CatalogSearch.Json.Basic

/-!
# Declarations

A declaration asks for one change of one document: to merge fields into it, creating it if it is
missing, or to delete it.
-/

namespace CatalogSearch

/-- The document type that stands for an empty one. -/
def defaultType : String := "_doc"

/-- A document type, the default one for an empty text. -/
def typeOrDefault (docType : String) : String :=
  if docType = "" then defaultType else docType

/-- A change of one document. -/
structure Declaration where
  /-- The index of the document. -/
  index : String
  /-- The type of the document inside its index. -/
  docType : String
  /-- The id of the document. -/
  id : String
  /-- The fields to merge; a deletion ignores them. -/
  payload : Option (FieldMap Json)
  /-- Whether the document is deleted. -/
  isDelete : Bool
  deriving DecidableEq, Inhabited

/-- A field that a declaration cannot do without. -/
inductive RequiredField where
  | index
  | id
  | payload
  deriving DecidableEq

/-- The name of a required field. -/
def RequiredField.name : RequiredField → String
  | .index => "index"
  | .id => "id"
  | .payload => "payload"

namespace Declaration

/-- A declaration, the default type standing for an empty one. -/
def make (index docType id : String) (payload : Option (FieldMap Json)) (isDelete : Bool) :
    Declaration :=
  ⟨index, typeOrDefault docType, id, payload, isDelete⟩

/-- Merge fields into a document. -/
def upsert (index docType id : String) (payload : FieldMap Json) : Declaration :=
  make index docType id (some payload) false

/-- Delete a document. -/
def delete (index docType id : String) : Declaration :=
  make index docType id none true

/-- The fields to merge, a missing payload counting as one without fields. -/
def fields (d : Declaration) : FieldMap Json := d.payload.getD .empty

/-- The first required field that is missing. An upsert needs a payload with fields. -/
def missingField (d : Declaration) : Option RequiredField :=
  if d.index = "" then some .index
  else if d.id = "" then some .id
  else if !d.isDelete && d.fields.isEmpty then some .payload
  else none

/-- The body of an upsert: the fields, and that a missing document is created from them. -/
def upsertBody (d : Declaration) : Json :=
  .record [("doc", .object d.fields), ("doc_as_upsert", .bool true)]

/-! ## JSON form -/

/-- The JSON form of a declaration. -/
def toJson (d : Declaration) : Json :=
  .record
    [("index", .str d.index), ("doc_type", .str d.docType), ("id", .str d.id),
      ("payload", .orNull (d.payload.map .object)), ("is_delete", .bool d.isDelete)]

/-- A payload: the members of an object, or null for none. -/
def payload? : Json → Option (Option (FieldMap Json))
  | .null => some none
  | v => v.fields?.map some

/-- A declaration from the values of its fields. -/
def ofFields? (index docType id payload isDelete : Option Json) : Option Declaration := do
  let index ← (← index).text?
  let docType ← (← docType).text?
  let id ← (← id).text?
  let payload ← payload? (← payload)
  let isDelete ← (← isDelete).bool?
  return { index, docType, id, payload, isDelete }

/-- A declaration from its JSON form: an object, in which the payload may be missing and unknown
members are ignored, or an array of exactly the five fields. The type is taken as it stands. -/
def ofJson? : Json → Option Declaration
  | .obj members =>
    let field name := findEntry name members
    ofFields? (field "index") (field "doc_type") (field "id")
      (some (.orNull (field "payload"))) (field "is_delete")
  | .arr [index, docType, id, payload, isDelete] =>
    ofFields? (some index) (some docType) (some id) (some payload) (some isDelete)
  | _ => none

end Declaration

end CatalogSearch
