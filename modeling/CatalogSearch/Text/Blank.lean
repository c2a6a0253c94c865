/-!
# Blank characters

The characters of the Unicode property White_Space, and the two ways in which texts are freed of
them: `trim` drops them at both ends, `words` splits a text at every run of them.
-/

namespace CatalogSearch.Text

/-- The Unicode property White_Space. -/
def isBlank (c : Char) : Bool :=
  let n := c.toNat
  (0x9 ≤ n && n ≤ 0xD) || n == 0x20 || n == 0x85 || n == 0xA0 || n == 0x1680 ||
    (0x2000 ≤ n && n ≤ 0x200A) || n == 0x2028 || n == 0x2029 || n == 0x202F || n == 0x205F ||
    n == 0x3000

/-- A sequence of characters without the blanks at its two ends. -/
def trimChars (cs : List Char) : List Char :=
  ((cs.dropWhile isBlank).reverse.dropWhile isBlank).reverse

/-- A text without the blanks at its two ends. -/
def trim (s : String) : String :=
  String.ofList (trimChars s.toList)

/-- The maximal runs of characters that satisfy `keep`, in order. -/
def runsOf (keep : Char → Bool) : List Char → List (List Char)
  | [] => []
  | c :: cs =>
    if keep c then
      match cs, runsOf keep cs with
      | d :: _, r :: rs => if keep d then (c :: r) :: rs else [c] :: r :: rs
      | _, rs => [c] :: rs
    else
      runsOf keep cs

/-- The pieces of a sequence between the characters that satisfy `cut`, empty pieces included:
there is one piece more than there are such characters. -/
def splitAtEach (cut : Char → Bool) : List Char → List (List Char)
  | [] => [[]]
  | c :: cs =>
    if cut c then [] :: splitAtEach cut cs
    else
      match splitAtEach cut cs with
      | [] => [[c]]
      | p :: ps => (c :: p) :: ps

/-- The words of a sequence: its maximal runs of characters that are not blank. -/
def words (cs : List Char) : List (List Char) :=
  runsOf (fun c => !isBlank c) cs

/-- Whether a text has no characters but blanks. -/
def isAllBlank (s : String) : Bool :=
  s.toList.all isBlank

/-- The comma-separated items of a text, trimmed, without the empty ones. -/
def items (s : String) : List String :=
  ((splitAtEach (· == ',') s.toList).map trimChars).filterMap fun cs =>
    if cs.isEmpty then none else some (String.ofList cs)

end CatalogSearch.Text
