import CatalogSearch.Proofs.Text.Runs
import CatalogSearch.Query.FreeText

/-!
# The tokens of a text

The tokens of a text are its longest runs of characters that are neither blanks nor list marks
(`tokenChars_eq_runsOf`), although they are found in two steps: pieces first, then the words of each
piece. So trimming a text does not change its tokens (`tokens_trim`), and the tokens are made of the
characters of the text that are neither blanks nor list marks (`flatten_tokens`).
-/

namespace CatalogSearch.FreeText

open Text

/-- Whether a character belongs to a token. -/
def isTokenChar (c : Char) : Bool := !isBlank c && !isListMark c

variable {c : Char} {cs u : List Char}

theorem isTokenChar_of_isBlank (blank : isBlank c = true) : isTokenChar c = false := by
  simp [isTokenChar, blank]

theorem isTokenChar_of_isListMark (mark : isListMark c = true) : isTokenChar c = false := by
  simp [isTokenChar, mark]

/-! ## Pieces and their words -/

theorem pieces_ne_nil (skipping : Bool) (cs : List Char) : pieces skipping cs ≠ [] := by
  induction cs generalizing skipping with
  | nil => exact List.cons_ne_nil _ _
  | cons c cs ih =>
    rw [pieces]
    split
    · exact ih true
    · split
      · exact List.cons_ne_nil _ _
      · split
        · exact List.cons_ne_nil _ _
        · split <;> exact List.cons_ne_nil _ _

/-- A character that separates nothing goes to the first piece. -/
theorem pieces_cons {skipping : Bool} (goesOn : ¬(skipping && isBlank c) = true)
    (mark : ¬isListMark c = true) (single : ¬(isBlank c && cs.head?.any isBlank) = true) :
    pieces skipping (c :: cs) = (pieces false cs).modifyHead (c :: ·) := by
  rw [pieces, if_neg goesOn, if_neg mark, if_neg single]
  cases rest : pieces false cs with
  | nil => exact absurd rest (pieces_ne_nil false cs)
  | cons p ps => rfl

/-- Where no list mark stands, words are divided as tokens are. -/
theorem words_eq_runsOf (unmarked : ∀ c ∈ u, isListMark c = false) :
    words u = runsOf isTokenChar u :=
  runsOf_congr fun c mem => by simp [isTokenChar, unmarked c mem]

theorem modifyHead_nil_append (ps : List (List Char)) : ps.modifyHead ([] ++ ·) = ps := by
  cases ps <;> rfl

/-- The scan of a text whose first piece has already got the characters `u`. A run of blanks is
skipped only behind a separator, where the piece is still empty. -/
theorem flatMap_words_pieces {skipping : Bool} (unmarked : ∀ c ∈ u, isListMark c = false)
    (fresh : skipping = true → u = []) :
    ((pieces skipping cs).modifyHead (u ++ ·)).flatMap words = runsOf isTokenChar (u ++ cs) := by
  induction cs generalizing skipping u with
  | nil => simp [pieces, words_eq_runsOf unmarked]
  | cons c cs ih =>
    have restart (s : Bool) : (pieces s cs).flatMap words = runsOf isTokenChar cs := by
      rw [← modifyHead_nil_append (pieces s cs)]
      exact ih (by simp) fun _ => rfl
    -- the character is skipped, ends the piece as a mark or as the first of two blanks, or joins it
    by_cases skips : (skipping && isBlank c) = true
    · obtain ⟨behind, blank⟩ := Bool.and_eq_true_iff.1 skips
      rw [fresh behind, List.nil_append, runsOf_cons_of_false (isTokenChar_of_isBlank blank),
        ← restart true, pieces, if_pos skips]
      cases pieces true cs <;> rfl
    · by_cases mark : isListMark c = true
      · rw [runsOf_append_cons u cs (isTokenChar_of_isListMark mark), ← restart false, pieces,
          if_neg skips, if_pos mark, ← words_eq_runsOf unmarked]
        simp
      · by_cases double : (isBlank c && cs.head?.any isBlank) = true
        · have blank := (Bool.and_eq_true_iff.1 double).1
          rw [runsOf_append_cons u cs (isTokenChar_of_isBlank blank), ← restart true, pieces,
            if_neg skips, if_neg mark, if_pos double, ← words_eq_runsOf unmarked]
          simp
        · have grown : ∀ d ∈ u ++ [c], isListMark d = false := by
            simpa [or_imp, forall_and, mark] using unmarked
          rw [pieces_cons skips mark double, List.modifyHead_modifyHead, ← List.singleton_append,
            ← List.append_assoc, ← ih grown fun h => absurd h Bool.false_ne_true]
          simp [Function.comp_def]

/-! ## Tokens -/

/-- **The tokens of a text are its longest runs of characters that are neither blanks nor list
marks.** -/
theorem tokenChars_eq_runsOf (cs : List Char) : tokenChars cs = runsOf isTokenChar cs := by
  rw [tokenChars, ← modifyHead_nil_append (pieces false cs)]
  exact flatMap_words_pieces (by simp) fun _ => rfl

/-- Trimming a text does not change its tokens. -/
theorem tokens_trim (text : String) : tokens (trim text) = tokens text := by
  rw [tokens, tokens, tokenChars_eq_runsOf, tokenChars_eq_runsOf, trim, String.toList_ofList,
    runsOf_trimChars fun c => isTokenChar_of_isBlank]

/-- Together the tokens are the characters of the text that are neither blanks nor list marks. -/
theorem flatten_tokens (text : String) :
    ((tokens text).map String.toList).flatten = text.toList.filter isTokenChar := by
  rw [tokens, List.map_map, ← flatten_runsOf, ← tokenChars_eq_runsOf]
  simp [Function.comp_def]

end CatalogSearch.FreeText
