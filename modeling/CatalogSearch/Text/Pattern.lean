/-!
# Patterns and runs

A pattern says how many characters at the beginning of a text match it. Of two alternatives the
first one that matches counts, and a repetition takes all that it can get. A text is cut at the
matches of a pattern from the left: the next match begins at the first place where there is one.

A text can also be cut into the longest runs of characters that belong together. `LongestRuns` says
what these are without a word on how they are found.
-/

namespace CatalogSearch.Text

/-- How many characters at the beginning of a text match, if the text matches. -/
abbrev Pattern := List Char → Option Nat

namespace Pattern

/-- One character that passes a test. -/
def one (test : Char → Bool) : Pattern
  | [] => none
  | c :: _ => if test c then some 1 else none

/-- So many characters that pass a test or more, as many as there are. -/
def atLeast (n : Nat) (test : Char → Bool) : Pattern := fun cs =>
  let run := cs.takeWhile test
  if n ≤ run.length then some run.length else none

/-- The first one of two alternatives that matches. -/
def orElse (m m' : Pattern) : Pattern := fun cs => m cs <|> m' cs

/-- The pieces of a text that begins with so many characters of a match. -/
def splitBehind (m : Pattern) : Nat → List Char → List (List Char)
  | _, [] => [[]]
  | n + 1, _ :: cs => splitBehind m n cs
  | 0, c :: cs =>
    match m (c :: cs) with
    | some (n + 1) => [] :: splitBehind m n cs
    | _ => (splitBehind m 0 cs).modifyHead (c :: ·)

/-- The pieces of a text between the matches of a pattern. -/
def split (m : Pattern) (cs : List Char) : List (List Char) := splitBehind m 0 cs

end Pattern

/-- The longest runs of characters that pass a test: nothing before a run passes it, and a run ends
at the end of the text or before a character that does not. -/
inductive LongestRuns (keep : Char → Bool) : List Char → List (List Char) → Prop
  | none {gap : List Char} (out : ∀ c ∈ gap, keep c = false) : LongestRuns keep gap []
  | cons {gap run rest : List Char} {runs : List (List Char)} (out : ∀ c ∈ gap, keep c = false)
      (some : run ≠ []) (kept : ∀ c ∈ run, keep c = true) (ends : rest.head?.any keep = false)
      (others : LongestRuns keep rest runs) : LongestRuns keep (gap ++ (run ++ rest)) (run :: runs)

end CatalogSearch.Text
