import CatalogSearch.Reading.Reader

/-!
# Reading all pages

A caller that wants all results reads one page after the other, each with the cursor that came with
the page before, until a page comes without one. An engine that serves pages shows the first one
when a scroll is opened, and each of the others when it is asked for the next page of the cursor
that it named last.
-/

namespace CatalogSearch

/-- A page as an engine has it. -/
structure Page where
  /-- How many documents match, on this page or not. -/
  total : Nat
  documents : List Json
  /-- The cursor that the engine names with this page, if it names one. -/
  cursor : Option String

namespace Page

/-- The cursor that was named last with some pages. -/
def latest? (pages : List Page) : Option String := (pages.filterMap cursor).getLast?

/-- The cursor that was named last with some pages, one of which came with a cursor. -/
def latest (pages : List Page) : String := (latest? pages).getD ""

/-- Whether an answer shows a page: it has a total, which is a number or an object with a number as
its value, and a hit for every document, and it names the cursor of the page and no other one. An
answer without a list of hits shows a page without documents. -/
structure ShownIn (p : Page) (answer : Json) : Prop where
  total : ∃ total, (answer.get? "hits").bind (Json.get? "total") = some total ∧
    (total = .nat p.total ∨ total.get? "value" = some (.nat p.total))
  inRange : p.total < 0x10000000000000000
  documents :
    ((((answer.get? "hits").bind (Json.get? "hits")).bind Json.elements?).getD []).map
      (fun hit => Json.orNull (hit.get? "_source")) = p.documents
  cursor : answer.get? "_scroll_id" = p.cursor.map .str

/-- An answer that shows a page. -/
def answer (p : Page) : Json :=
  .record <|
    ("hits", .record [("total", .nat p.total),
      ("hits", .arr (p.documents.map fun d => .record [("_source", d)]))]) ::
    p.cursor.toList.map fun id => ("_scroll_id", .str id)

/-- The question for the page that follows those that were served: the opening one as long as no
cursor was named. -/
def question (opening : Question) (served : List Page) : Question :=
  match latest? served with
  | none => opening
  | some id => .nextScroll id Reader.keepAlive

/-- An engine that has served some pages serves the others, one after the other. -/
def Served {σ : Type} (engine : σ → Question → Reply × σ) (opening : Question) :
    σ → List Page → List Page → Prop
  | _, _, [] => True
  | s, served, p :: others =>
    (∃ answer, (engine s (question opening served)).1 = .ok answer ∧ p.ShownIn answer) ∧
      Served engine opening (engine s (question opening served)).2 (served ++ [p]) others

end Page

/-- A value without the member of a name. -/
def Json.without (name : String) : Json → Json
  | .obj members => .obj (members.filter fun e => e.1 != name)
  | v => v

namespace Reader

/-- The question by which a caller opens a scroll: for the results of a search from the first one
on, without an offset. -/
def openingQuestion (route : Option Route) (query : Query) (size : Option Int)
    (sort : Option String) : Question :=
  .openScroll route ((Search.compose query none size sort none).body.without "from") keepAlive

/-- Read pages, the first one with a cursor if there is one, until there are no more: all their
documents. Whoever has read `n` pages and has not seen the last one gives up. -/
def readPages (route : Option Route) (query : Query) (size : Option Int) (sort : Option String) :
    Nat → Option String → Dialogue (Option (Except SearchError (List Json)))
  | 0, _ => .done none
  | n + 1, cursor =>
    (scroll route query size sort cursor).bind fun
      | .error e => .done (some (.error e))
      | .ok page =>
        match page.cursor with
        | none => .done (some (.ok page.documents))
        | some id =>
          (readPages route query size sort n (some id)).map
            (Option.map (Except.map (page.documents ++ ·)))

end Reader

end CatalogSearch
