import CatalogSearch.Batcher.Write
import CatalogSearch.Engine.Address

/-!
# Writes without a type

A typed engine is told of a type with every write: in the path of a single one, behind the index,
and in every action line of a bulk request.
-/

namespace CatalogSearch.Wire

/-- The type that a line of a bulk request names, if it is an action line. -/
def actionType? (line : Json) : Option Json :=
  ((line.get? "update").or (line.get? "delete")).bind (Json.get? "_type")

/-- Whether a write names an empty type to a typed engine: in its path nothing stands between the
index and the id but two slashes, or one of its action lines has an empty type. -/
def NamesEmptyType : Batcher.Write → Prop
  | .upsert d =>
    Protocol.typed.updatePath d.index d.docType d.id =
      "/" ++ d.index ++ "//" ++ d.id ++ "/_update"
  | .delete d => Protocol.typed.deletePath d.index d.docType d.id = "/" ++ d.index ++ "//" ++ d.id
  | .bulk ds _ => ∃ line ∈ Protocol.typed.bulkLines ds, actionType? line = some (.str "")

end CatalogSearch.Wire
