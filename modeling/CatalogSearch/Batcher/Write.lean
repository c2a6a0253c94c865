import CatalogSearch.Batcher.Error
import CatalogSearch.Engine.Summary

/-!
# Writes and their attempts

What the batcher asks the engine to do, and how often: a write that ends in an engine error is
tried once more after a pause, and never again.
-/

namespace CatalogSearch.Batcher

/-- A write that the engine is asked for. -/
inductive Write where
  /-- Merge fields into one document. -/
  | upsert (d : Declaration)
  /-- Delete one document. -/
  | delete (d : Declaration)
  /-- Apply a list of declarations, which may take so many milliseconds. -/
  | bulk (ds : List Declaration) (timeout : Nat)
  deriving DecidableEq

/-- The write of one declaration by itself. -/
def Write.single (d : Declaration) : Write := if d.isDelete then .delete d else .upsert d

/-- The declarations of a write. -/
def Write.declarations : Write → List Declaration
  | .upsert d | .delete d => [d]
  | .bulk ds _ => ds

@[simp] theorem Write.declarations_single (d : Declaration) :
    (Write.single d).declarations = [d] := by
  unfold Write.single
  split <;> rfl

/-- The engine's answer to a write. The write of one declaration that succeeds is summed up as one
applied action. -/
abbrev Written := Except SearchError Summary

/-- How far a write has got. -/
inductive Attempt where
  /-- The engine has been asked for the first time. -/
  | first
  /-- The first attempt failed; the second one starts at the given time. -/
  | pausing (wake : Nat)
  /-- The engine has been asked for the second time. -/
  | second
  deriving DecidableEq

namespace Attempt

/-- Whether the engine has been asked and has not answered. -/
def awaits : Attempt → Bool
  | .first | .second => true
  | .pausing _ => false

/-- What an answer at time `now` makes of an attempt: a pause of `delay` after an engine error of
the first one, and otherwise the end. -/
def after (now delay : Nat) (answer : Written) : Attempt → Option Attempt
  | .first =>
    match answer with
    | .error e => if e.isEngineError then some (.pausing (now + delay)) else none
    | .ok _ => none
  | _ => none

theorem after_eq_some {now delay : Nat} {answer : Written} {a b : Attempt} :
    a.after now delay answer = some b ↔
      a = .first ∧ (∃ e, answer = .error e ∧ e.isEngineError = true) ∧
        b = .pausing (now + delay) := by
  cases a <;> cases answer <;> simp [after, @eq_comm _ _ b]

/-- When the second attempt starts, if that is what is waited for. -/
def wake? : Attempt → Option Nat
  | .pausing wake => some wake
  | _ => none

end Attempt

end CatalogSearch.Batcher
