import CatalogSearch.Json.Printer

/-!
# Summaries of bulk requests

An engine that takes a bulk request may still refuse some of its actions. The summary counts the
applied and the refused ones and says of each refused one what the engine says of it.
-/

namespace CatalogSearch

/-- An action that the engine refused. -/
structure Failure where
  /-- The id of the document. -/
  id : String
  /-- The status that the engine gives, zero if it gives none below 65536. -/
  status : Nat
  /-- The reason that the engine gives. -/
  reason : String
  deriving DecidableEq

/-- What became of the actions of a bulk request. -/
structure Summary where
  /-- How many actions were asked for. -/
  total : Nat
  /-- How many of them were applied. -/
  succeeded : Nat
  /-- How many of them were refused. -/
  failed : Nat
  /-- The refused ones that the engine lists. -/
  failures : List Failure
  deriving DecidableEq

namespace Summary

/-- The summary of a request whose actions were all applied. -/
def allSucceeded (total : Nat) : Summary := ⟨total, total, 0, []⟩

/-- The summary of a request without actions. -/
def nothing : Summary := allSucceeded 0

/-- Whether every action was applied. -/
def isComplete (s : Summary) : Bool := s.failed = 0

/-- The first member, in name order, of an item that is an object. -/
def itemResult? : Json → Option Json
  | .obj ((_, v) :: _) => some v
  | _ => none

/-- The status of a result. -/
def statusOf (result : Json) : Nat :=
  match (result.get? "status").bind Json.nat64? with
  | some n => if n < 65536 then n else 0
  | none => 0

/-- The reason of an error: its `reason`, or the text of the whole error. -/
def reasonOf (error : Json) : String :=
  ((error.get? "reason").bind Json.text?).getD error.render

/-- The failure that an item reports. An item without an `error` reports none, whatever its
status: deleting a missing document has status 404 and is no failure. -/
def itemFailure? (item : Json) : Option Failure := do
  let result ← itemResult? item
  let error ← result.get? "error"
  return ⟨((result.get? "_id").bind Json.text?).getD "", statusOf result, reasonOf error⟩

/-- The failures that an answer lists in its `items`. -/
def failuresOf (body : Json) : List Failure :=
  (((body.get? "items").bind Json.elements?).getD []).filterMap itemFailure?

/-- The summary of an answer to a request of `total` actions. -/
def ofResponse (body : Json) (total : Nat) : Summary :=
  let failures := failuresOf body
  let failed := min failures.length total
  ⟨total, total - failed, failed, failures⟩

end Summary

end CatalogSearch
