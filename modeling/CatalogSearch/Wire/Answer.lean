import CatalogSearch.Json.Parser
import CatalogSearch.Wire.Call

/-!
# Answers

What a response means. A call that gets no response is at fault with its connection. A response
with a status other than a success is an error of the engine, unless the call takes a missing
document for an answer; the body of any other response has to be JSON wherever it is looked at.
-/

namespace CatalogSearch.Wire

open Net (HttpResponse)

/-- What comes back of a call: a response, or nothing. -/
abbrev Outcome := Option HttpResponse

/-- The status of a response about a document that is not there. -/
def missing : Nat := 404

/-- No response has come. -/
def lost (kind : ErrorKind) : SearchError := .reported kind "the engine gave no response"

/-- The body of a response is not JSON. -/
def unreadable : SearchError := .reported .parse "the response is not JSON"

/-- A response with a status that is no success. -/
def failed (kind : ErrorKind) (operation : String) (r : HttpResponse) : SearchError :=
  .reported kind (operation ++ " failed with status " ++ r.statusLine ++ ": " ++ r.text)

/-- The JSON value that a response holds. -/
def bodyOf (r : HttpResponse) : Except SearchError Json :=
  match Json.parse? r.body with
  | some v => .ok v
  | none => .error unreadable

/-- What messages call the operation of a question. -/
def operationName : Question → String
  | .search .. => "search"
  | .get .. => "get"
  | .multiGet .. => "mget"
  | .openScroll .. | .nextScroll .. => "scroll"
  | .clearScroll _ => "clear scroll"

/-- Whether a question takes the status of a missing document for an answer: a document may not be
there, and a scroll may have ended by itself. -/
def takesMissing : Question → Bool
  | .get .. | .clearScroll _ => true
  | _ => false

/-- The reply to a question. -/
def reply (q : Question) : Outcome → Reply
  | none => .error (lost .connection)
  | some r =>
    if r.isSuccess ∨ (takesMissing q ∧ r.status = missing) then bodyOf r
    else .error (failed .query (operationName q) r)

/-- What became of a write. Deleting a document that is not there is a success. -/
def written (w : Batcher.Write) (outcome : Outcome) : Batcher.Written :=
  match w, outcome with
  | .bulk .., none => .error (lost .bulk)
  | _, none => .error (lost .connection)
  | .bulk ds _, some r =>
    if r.isSuccess then (bodyOf r).map fun body => Summary.ofResponse body ds.length
    else .error (failed .bulk "Bulk" r)
  | .upsert _, some r =>
    if r.isSuccess then .ok (.allSucceeded 1) else .error (failed .bulk "Update" r)
  | .delete _, some r =>
    if r.isSuccess ∨ r.status = missing then .ok (.allSucceeded 1)
    else .error (failed .bulk "Delete" r)

/-- The states in which an engine is well. -/
def wellStates : List String := ["green", "yellow"]

/-- Whether the engine is well. -/
def health : Outcome → Except SearchError Bool
  | none => .error (lost .connection)
  | some r =>
    if r.isSuccess then
      (bodyOf r).map fun body =>
        ((body.get? "status").bind Json.text?).any wellStates.contains
    else .ok false

/-- What follows the last slash of a text. -/
def afterLastSlash (s : String) : String :=
  String.ofList ((Text.splitAtEach (· == '/') s.toList).getLast?.getD [])

/-- The address of a node by what it publishes, which is an address alone or a name, a slash and an
address. -/
def nodeUrl? (scheme : String) (node : Json) : Option Net.Url := do
  let published ← (((node.get? "http").bind (Json.get? "publish_address")).bind Json.text?)
  (Net.Url.parse (scheme ++ "://" ++ afterLastSlash published)).toOption

/-- The addresses of the nodes that a response lists, those that cannot be read being left out. -/
def nodeUrls (scheme : String) (r : HttpResponse) : List Net.Url :=
  if r.isSuccess then
    match (Json.parse? r.body).bind (Json.get? "nodes") with
    | some (.obj nodes) => nodes.filterMap fun n => nodeUrl? scheme n.2
    | _ => []
  else []

end CatalogSearch.Wire
