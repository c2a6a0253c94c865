import CatalogSearch.Catalog.Route
import CatalogSearch.Json.Basic

/-!
# Dialogues with the engine

A read is a dialogue: a question to the engine, then, depending on the answer, another question or
the result. A dialogue is a value, so the questions it asks of an engine, and what it makes of any
answers, can be followed without an engine. `Dialogue.run` holds it with an engine that answers
from a state.
-/

namespace CatalogSearch

/-- A question about documents. -/
inductive Question where
  /-- The first documents that a body asks for. -/
  | search (route : Route) (body : Json)
  /-- One document. -/
  | get (route : Route) (id : String)
  /-- Several documents. -/
  | multiGet (route : Route) (ids : List String)
  /-- The first page of a scroll, of one index or of all. -/
  | openScroll (route : Option Route) (body : Json) (keepAlive : String)
  /-- The next page of a scroll. -/
  | nextScroll (id keepAlive : String)
  /-- The end of scrolls. -/
  | clearScroll (ids : List String)
  deriving DecidableEq

/-- The engine's answer to a question. -/
abbrev Reply := Except SearchError Json

/-- A dialogue with the engine. -/
inductive Dialogue (α : Type) where
  /-- The dialogue is over. -/
  | done (result : α)
  /-- The engine is asked, and its answer decides how the dialogue goes on. -/
  | ask (question : Question) (next : Reply → Dialogue α)

namespace Dialogue

variable {α β : Type}

/-- Do something to the result of a dialogue. -/
def map (f : α → β) : Dialogue α → Dialogue β
  | .done a => .done (f a)
  | .ask q next => .ask q fun r => (next r).map f

/-- Go on with another dialogue, which the result decides. -/
def bind (f : α → Dialogue β) : Dialogue α → Dialogue β
  | .done a => f a
  | .ask q next => .ask q fun r => (next r).bind f

/-- Hold a dialogue with an engine: the result, the engine's state afterwards, and the questions
with their answers in order. -/
def run {σ : Type} (engine : σ → Question → Reply × σ) (s : σ) :
    Dialogue α → α × σ × List (Question × Reply)
  | .done a => (a, s, [])
  | .ask q next =>
    let (r, s) := engine s q
    let (a, s, log) := (next r).run engine s
    (a, s, (q, r) :: log)

section Held

variable {σ : Type} (engine : σ → Question → Reply × σ) (s : σ)

/-- The result of a dialogue with an engine. -/
def result (d : Dialogue α) : α := (d.run engine s).1

/-- The questions that are asked in a dialogue with an engine. -/
def questions (d : Dialogue α) : List Question := (d.run engine s).2.2.map Prod.fst

/-- The state of the engine after a dialogue. -/
def after (d : Dialogue α) : σ := (d.run engine s).2.1

@[simp] theorem result_done (a : α) : (done a).result engine s = a := rfl

@[simp] theorem questions_done (a : α) : (done a).questions engine s = [] := rfl

@[simp] theorem after_done (a : α) : (done a).after engine s = s := rfl

@[simp] theorem result_ask (q : Question) (next : Reply → Dialogue α) :
    (ask q next).result engine s = (next (engine s q).1).result engine (engine s q).2 := rfl

@[simp] theorem questions_ask (q : Question) (next : Reply → Dialogue α) :
    (ask q next).questions engine s =
      q :: (next (engine s q).1).questions engine (engine s q).2 := rfl

@[simp] theorem after_ask (q : Question) (next : Reply → Dialogue α) :
    (ask q next).after engine s = (next (engine s q).1).after engine (engine s q).2 := rfl

@[simp] theorem result_map (f : α → β) (d : Dialogue α) :
    (d.map f).result engine s = f (d.result engine s) := by
  induction d generalizing s with
  | done a => rfl
  | ask q next ih => exact ih _ _

@[simp] theorem questions_map (f : α → β) (d : Dialogue α) :
    (d.map f).questions engine s = d.questions engine s := by
  induction d generalizing s with
  | done a => rfl
  | ask q next ih => exact congrArg (q :: ·) (ih _ _)

@[simp] theorem result_bind (f : α → Dialogue β) (d : Dialogue α) :
    (d.bind f).result engine s =
      (f (d.result engine s)).result engine (d.after engine s) := by
  induction d generalizing s with
  | done a => rfl
  | ask q next ih => exact ih _ _

@[simp] theorem questions_bind (f : α → Dialogue β) (d : Dialogue α) :
    (d.bind f).questions engine s =
      d.questions engine s ++ (f (d.result engine s)).questions engine (d.after engine s) := by
  induction d generalizing s with
  | done a => rfl
  | ask q next ih => exact congrArg (q :: ·) (ih _ _)

end Held

end Dialogue

end CatalogSearch
