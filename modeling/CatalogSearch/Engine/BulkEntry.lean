import CatalogSearch.Engine.Target

/-!
# Entries of a bulk request

What an engine reads off the lines of a bulk request. It takes an action line; the line behind the
action of an update is its source, whatever that line looks like, and a deletion has none.
-/

namespace CatalogSearch

/-- What a bulk request says of one document. -/
structure BulkEntry where
  /-- The document, and whether it is deleted. -/
  target : Target
  /-- The fields that are merged into it, unless it is deleted. -/
  fields : Option (FieldMap Json)
  deriving DecidableEq

namespace BulkEntry

/-- The fields that a source line gives for a document that may be missing. -/
def ofSource? (line : Json) : Option (FieldMap Json) :=
  if line.get? "doc_as_upsert" = some (.bool true) then (line.get? "doc").bind Json.fields?
  else none

/-- The entries of a list of lines, read from left to right to the end. -/
def read? : List Json → Option (List BulkEntry)
  | [] => some []
  | line :: lines =>
    match Target.ofAction? line with
    | none => none
    | some target =>
      if target.isDelete then (read? lines).map (⟨target, none⟩ :: ·)
      else
        match lines with
        | [] => none
        | source :: lines =>
          (ofSource? source).bind fun fields => (read? lines).map (⟨target, some fields⟩ :: ·)

end BulkEntry

end CatalogSearch
