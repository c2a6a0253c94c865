import CatalogSearch.Batcher.Write
import CatalogSearch.Engine.Address
import CatalogSearch.Net.Http
import CatalogSearch.Reading.Dialogue

/-!
# Calls

What is asked of the engine, in the form in which any of its nodes can be asked: a method, a path,
parameters and a body. A bulk write without declarations asks for nothing, so there is no call for
it.
-/

namespace CatalogSearch.Wire

open Net (Method)

/-- A request that is not yet directed to a node. -/
structure Call where
  method : Method
  path : String
  parameters : List (String × String)
  body : String
  /-- How long the answer is waited for, if not for ever. -/
  timeout : Option Nat
  deriving DecidableEq

/-- The path of requests about scrolls that are open. -/
def scrollPath : String := "/_search/scroll"

/-- The path of a scroll that is opened: of one index, or of all. -/
def openScrollPath (p : Protocol) : Option Route → String
  | some route => p.searchPath route
  | none => "/_search"

/-- The call for a question. -/
def questionCall (p : Protocol) (timeout : Nat) : Question → Call
  | .search route body => ⟨.post, p.searchPath route, [], body.render, some timeout⟩
  | .get route id => ⟨.get, p.getPath route id, [], "", some timeout⟩
  | .multiGet route ids =>
    ⟨.post, p.multiGetPath route, [], (Json.record [("ids", .strings ids)]).render, some timeout⟩
  | .openScroll route body keepAlive =>
    ⟨.post, openScrollPath p route, [("scroll", keepAlive)], body.render, some timeout⟩
  | .nextScroll id keepAlive =>
    ⟨.post, scrollPath, [],
      (Json.record [("scroll", .str keepAlive), ("scroll_id", .str id)]).render, some timeout⟩
  | .clearScroll ids =>
    ⟨.delete, scrollPath, [], (Json.record [("scroll_id", .strings ids)]).render, some timeout⟩

/-- The body of a bulk request: its lines, each with a line end. -/
def bulkBody (p : Protocol) (ds : List Declaration) : String :=
  String.join ((p.bulkLines ds).map fun line => line.render ++ "\n")

/-- The time that the engine itself is given for a bulk request: whole seconds, at least one. -/
def bulkSeconds (timeout : Nat) : String := toString (max 1 (timeout / 1000)) ++ "s"

/-- The call for a write, if there is anything to write. -/
def writeCall (p : Protocol) (timeout : Nat) : Batcher.Write → Option Call
  | .upsert d =>
    some ⟨.post, p.updatePath d.index d.docType d.id, [], d.upsertBody.render, some timeout⟩
  | .delete d => some ⟨.delete, p.deletePath d.index d.docType d.id, [], "", some timeout⟩
  | .bulk [] _ => none
  | .bulk ds own =>
    some ⟨.post, "/_bulk", [("timeout", bulkSeconds own)], bulkBody p ds, some own⟩

/-- The call that asks whether the engine is well. -/
def healthCall (timeout : Nat) : Call := ⟨.get, "/_cluster/health", [], "", some timeout⟩

/-- The call that asks for the nodes there are. Its answer is waited for for ever. -/
def nodesCall : Call := ⟨.get, "/_nodes/http", [], "", none⟩

end CatalogSearch.Wire
