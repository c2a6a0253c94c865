import CatalogSearch.Text.Blank
import CatalogSearch.Text.DecimalDigit

/-!
# Free text

What a person types into a search box: a list of catalog ids, or words. The text is cut into
tokens, every token is quoted as a phrase, and a list made only of ids is told from other text,
because ids are alternatives while words must all occur.

## Main definitions

* `FreeText.tokens`: the tokens of a text.
* `FreeText.classify`: the quoted text and whether all tokens are ids.
-/

namespace CatalogSearch.FreeText

open Text

/-- The text that matches every document. -/
def matchAll : String := "*"

/-- The marks that separate the items of a list. -/
def isListMark (c : Char) : Bool :=
  c == ';' || c == '|' || c == ',' || c == '\n' || c == '\t'

/-- The pieces of a text between separators. A separator is one list mark, or, where no list mark
stands, a run of two or more blanks. In `skipping` mode the scan is inside such a run. -/
def pieces (skipping : Bool) : List Char → List (List Char)
  | [] => [[]]
  | c :: cs =>
    if skipping && isBlank c then pieces true cs
    else if isListMark c then [] :: pieces false cs
    else if isBlank c && (cs.head?.any isBlank) then [] :: pieces true cs
    else
      match pieces false cs with
      | [] => [[c]]
      | p :: ps => (c :: p) :: ps

/-- The tokens of a text: the words of its pieces. -/
def tokenChars (cs : List Char) : List (List Char) :=
  (pieces false cs).flatMap words

/-- The tokens of a text. -/
def tokens (text : String) : List String :=
  (tokenChars text.toList).map String.ofList

/-- Whether a token starts like a catalog id, with a decimal digit. -/
def isId (token : String) : Bool :=
  token.toList.head?.any isDecimalDigit

/-- A token as a phrase in double quotes, a quote inside it escaped with a backslash. -/
def phrase (token : String) : String :=
  String.ofList
    ('"' :: token.toList.flatMap (fun c => if c = '"' then ['\\', '"'] else [c]) ++ ['"'])

/-- A text ready to be sent, with the way its tokens are joined. -/
structure Classified where
  /-- The phrases of the tokens, or the text that matches everything. -/
  text : String
  /-- Whether every token is an id. -/
  allIds : Bool
  deriving DecidableEq

/-- What a text without tokens, or the one that asks for everything, becomes. -/
def Classified.all : Classified := ⟨matchAll, true⟩

/-- Cut a text into tokens, quote them, and see whether all are ids. -/
def classify (text : String) : Classified :=
  let trimmed := trim text
  if trimmed = "" ∨ trimmed = matchAll then .all
  else
    match tokens trimmed with
    | [] => .all
    | ts => ⟨" ".intercalate (ts.map phrase), ts.all isId⟩

end CatalogSearch.FreeText
