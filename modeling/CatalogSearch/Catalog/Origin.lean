import CatalogSearch.Catalog.Declaration

/-!
# Origins of declarations

The ways in which a caller comes by a declaration: it is made from its parts, or read from its JSON
form.
-/

namespace CatalogSearch

/-- How a declaration comes about. -/
inductive Origin where
  /-- It is made from its parts. -/
  | made (index docType id : String) (payload : Option (FieldMap Json)) (isDelete : Bool)
  /-- It is made to merge fields into a document. -/
  | upsert (index docType id : String) (payload : FieldMap Json)
  /-- It is made to delete a document. -/
  | delete (index docType id : String)
  /-- It is read from its JSON form. -/
  | read (v : Json)

namespace Origin

/-- The declaration that comes about, if the JSON form is one. -/
def declaration? : Origin → Option Declaration
  | .made index docType id payload isDelete => some (.make index docType id payload isDelete)
  | .upsert index docType id payload => some (.upsert index docType id payload)
  | .delete index docType id => some (.delete index docType id)
  | .read v => Declaration.ofJson? v

/-- The type that a JSON form gives: the member of this name of an object, or the second element of
an array. -/
def givenType? : Json → Option Json
  | .obj members => findEntry "doc_type" members
  | .arr (_ :: docType :: _) => some docType
  | _ => none

/-- Whether a declaration is read from a JSON form that gives an empty type. -/
def ReadsEmptyType : Origin → Prop
  | .read v => givenType? v = some (.str "")
  | _ => False

end Origin

end CatalogSearch
