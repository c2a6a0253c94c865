import CatalogSearch.Text.Pattern
import CatalogSearch.Proofs.Query.Tokens

/-!
# Separators of free text

A separator is a semicolon, a bar, a comma or a blank. Tokens are found with a pattern for one list
mark or two or more blanks, and with a second cut at the blanks that are left; the scan of `pieces`
cuts where the pattern does (`split_separator`). So what is found are the longest runs of characters
that are no separators (`LongestRuns`, `longestRuns_iff`), whichever separators there are between
them.
-/

namespace CatalogSearch.Text

variable {keep : Char → Bool} {cs : List Char} {rs : List (List Char)}

/-! ## Longest runs -/

theorem LongestRuns.runsOf_eq (h : LongestRuns keep cs rs) : runsOf keep cs = rs := by
  induction h with
  | none out => exact runsOf_eq_nil out
  | @cons gap run rest runs out some kept ends others ih =>
    rw [runsOf_append_left out]
    cases rest with
    | nil =>
      obtain rfl : [] = runs := ih
      rw [List.append_nil]
      exact runsOf_eq_singleton some kept
    | cons d rest =>
      have out : keep d = false := ends
      rw [runsOf_append_cons run rest out, runsOf_eq_singleton some kept, ← ih,
        runsOf_cons_of_false out]
      rfl

/-- A text may begin with a run. -/
theorem LongestRuns.at_once {run rest : List Char} (some : run ≠ [])
    (kept : ∀ c ∈ run, keep c = true) (ends : rest.head?.any keep = false)
    (others : LongestRuns keep rest rs) : LongestRuns keep (run ++ rest) (run :: rs) := by
  have none : ∀ c ∈ ([] : List Char), keep c = false := nofun
  exact .cons none some kept ends others

/-- A character that does not pass the test goes to what lies before the first run. -/
theorem LongestRuns.skip {c : Char} (out : keep c = false) (h : LongestRuns keep cs rs) :
    LongestRuns keep (c :: cs) rs := by
  cases h with
  | none others => exact .none (List.forall_mem_cons.2 ⟨out, others⟩)
  | cons before some kept ends others =>
    exact .cons (List.forall_mem_cons.2 ⟨out, before⟩) some kept ends others

/-- A character before a run makes it longer. -/
theorem LongestRuns.extend {c : Char} (kept : keep c = true) (next : cs.head?.any keep = true)
    (h : LongestRuns keep cs rs) : LongestRuns keep (c :: cs) (rs.modifyHead (c :: ·)) := by
  -- the run begins at once, as the character behind `c` passes the test
  have atOnce (gap rest : List Char) (out : ∀ d ∈ gap, keep d = false)
      (next : (gap ++ rest).head?.any keep = true) : gap = [] := by
    cases gap with
    | nil => rfl
    | cons d gap => exact absurd next (by simp [out d List.mem_cons_self])
  cases h with
  | none out =>
    obtain rfl := atOnce _ [] out (by rwa [List.append_nil])
    cases next
  | @cons gap run rest runs out some others ends more =>
    obtain rfl := atOnce gap _ out next
    have longer : ∀ d ∈ c :: run, keep d = true := List.forall_mem_cons.2 ⟨kept, others⟩
    exact .at_once (List.cons_ne_nil c run) longer ends more

theorem longestRuns_runsOf (keep : Char → Bool) (cs : List Char) :
    LongestRuns keep cs (runsOf keep cs) := by
  induction cs with
  | nil => exact .none nofun
  | cons c cs ih =>
    rw [runsOf_cons]
    by_cases kept : keep c = true
    · rw [if_pos kept]
      by_cases next : cs.head?.any keep = true
      · rw [if_pos next]
        exact ih.extend kept next
      · rw [if_neg next]
        exact .at_once (List.cons_ne_nil c []) (by simpa using kept) (eq_false_of_ne_true next) ih
    · rw [if_neg kept]
      exact ih.skip (eq_false_of_ne_true kept)

/-- What the longest runs of a text are says which list they make. -/
theorem longestRuns_iff : LongestRuns keep cs rs ↔ runsOf keep cs = rs :=
  ⟨LongestRuns.runsOf_eq, fun h => h ▸ longestRuns_runsOf keep cs⟩

end CatalogSearch.Text

namespace CatalogSearch.FreeText

open Text

variable {c : Char} {cs : List Char}

/-! ## Separators -/

/-- Whether a character separates tokens. -/
def isSeparator (c : Char) : Bool := c == ';' || c == '|' || c == ',' || isBlank c

theorem isTokenChar_eq (c : Char) : isTokenChar c = !isSeparator c := by
  by_cases blank : isBlank c = true
  · simp [isTokenChar, isSeparator, blank]
  · have line : (c == '\n') = false := beq_false_of_ne fun h => blank (h ▸ rfl)
    have tab : (c == '\t') = false := beq_false_of_ne fun h => blank (h ▸ rfl)
    simp [isTokenChar, isSeparator, isListMark, blank, line, tab]

/-- The pattern of separators: one list mark, or two blanks or more. -/
def separator : Pattern := (Pattern.one isListMark).orElse (.atLeast 2 isBlank)

theorem separator_of_isListMark (mark : isListMark c = true) (cs : List Char) :
    separator (c :: cs) = some 1 := by
  simp [separator, Pattern.orElse, Pattern.one, mark]

/-- Where no list mark stands, only two blanks or more separate. -/
theorem separator_of_not_isListMark (mark : ¬isListMark c = true) (cs : List Char) :
    separator (c :: cs) =
      if isBlank c && cs.head?.any isBlank then some ((cs.takeWhile isBlank).length + 1)
      else none := by
  cases cs with
  | nil => cases blank : isBlank c <;> simp [separator, Pattern.orElse, Pattern.one,
      Pattern.atLeast, mark, blank]
  | cons d cs =>
    cases blank : isBlank c <;> cases next : isBlank d <;>
      simp [separator, Pattern.orElse, Pattern.one, Pattern.atLeast, mark, blank, next]

/-- The scan for pieces cuts a text at the matches of the pattern; in a run of blanks it is behind
the beginning of a match that takes them all. -/
theorem pieces_eq_splitBehind (cs : List Char) :
    pieces false cs = separator.splitBehind 0 cs ∧
      pieces true cs = separator.splitBehind (cs.takeWhile isBlank).length cs := by
  induction cs with
  | nil => exact ⟨rfl, rfl⟩
  | cons c cs ih =>
    obtain ⟨start, behind⟩ := ih
    have begins : pieces false (c :: cs) = separator.splitBehind 0 (c :: cs) := by
      rw [Pattern.splitBehind]
      by_cases mark : isListMark c = true
      · rw [separator_of_isListMark mark, pieces, if_neg (by simp), if_pos mark, start]
      · rw [separator_of_not_isListMark mark]
        by_cases double : (isBlank c && cs.head?.any isBlank) = true
        · rw [if_pos double, pieces, if_neg (by simp), if_neg mark, if_pos double, behind]
        · rw [if_neg double, pieces_cons (by simp) mark double, start]
    refine ⟨begins, ?_⟩
    by_cases blank : isBlank c = true
    · rw [pieces, if_pos (by simpa using blank), behind, List.takeWhile_cons_of_pos blank,
        List.length_cons, Pattern.splitBehind]
    · rw [List.takeWhile_cons_of_neg blank, List.length_nil, ← begins, pieces, pieces]
      simp [blank]

theorem split_separator (cs : List Char) : separator.split cs = pieces false cs :=
  (pieces_eq_splitBehind cs).1.symm

/-! ## Tokens -/

theorem map_toList_tokens (text : String) :
    (tokens text).map String.toList = runsOf (fun c => !isSeparator c) text.toList := by
  rw [tokens, List.map_map, tokenChars_eq_runsOf, ← funext isTokenChar_eq]
  simp [Function.comp_def]

theorem tokens_eq_iff {text : String} {ts : List String} :
    tokens text = ts ↔
      LongestRuns (fun c => !isSeparator c) text.toList (ts.map String.toList) := by
  rw [longestRuns_iff, ← map_toList_tokens]
  exact (List.map_inj_right fun _ _ => String.toList_inj.1).symm

/-- Every run of a text has a character, and all of them pass the test. -/
theorem of_mem_longestRuns {keep : Char → Bool} {rs : List (List Char)} {r : List Char}
    (h : LongestRuns keep cs rs) (mem : r ∈ rs) : r ≠ [] ∧ ∀ c ∈ r, keep c = true := by
  induction h with
  | none => cases mem
  | cons _ some kept _ _ ih =>
    rcases List.mem_cons.1 mem with rfl | other
    · exact ⟨some, kept⟩
    · exact ih other

/-- **Tokens are the longest runs between separators.** Cutting a text at the matches of the pattern
and the pieces at their blanks gives the longest runs of characters that are no separators, in
order: no token is empty or has a separator in it, together they are the text without its
separators, and trimming the text changes none of them. -/
theorem tokens_are_longest_runs (text : String) :
    tokens text = ((separator.split text.toList).flatMap words).map String.ofList ∧
      (∀ ts, tokens text = ts ↔
        LongestRuns (fun c => !isSeparator c) text.toList (ts.map String.toList)) ∧
      (∀ t ∈ tokens text, t ≠ "" ∧ ∀ c ∈ t.toList, isSeparator c = false) ∧
      ((tokens text).map String.toList).flatten = text.toList.filter (fun c => !isSeparator c) ∧
      tokens (trim text) = tokens text := by
  refine ⟨?_, fun ts => tokens_eq_iff, fun t mem => ?_, ?_, tokens_trim text⟩
  · rw [split_separator]
    rfl
  · obtain ⟨some, kept⟩ := of_mem_longestRuns (tokens_eq_iff.1 rfl) (List.mem_map_of_mem mem)
    exact ⟨fun empty => some (String.toList_eq_nil_iff.2 empty), by simpa using kept⟩
  · rw [map_toList_tokens, flatten_runsOf]

example : tokens "1;2|3,\t4 \n 5  ,6 7" = ["1", "2", "3", "4", "5", "6", "7"] := by decide

end CatalogSearch.FreeText
