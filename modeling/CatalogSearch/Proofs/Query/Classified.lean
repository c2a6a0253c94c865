import CatalogSearch.Query.Render
import CatalogSearch.Proofs.Engine.Documents
import CatalogSearch.Proofs.Query.Separators
import CatalogSearch.Proofs.Text.Trim

/-!
# Classified text and its tokens

Classified text is made of the tokens of a text, unless the text asks for everything: because it has
no tokens, or because nothing but blanks stands around a `*` (`classify_eq`). A `*` between other
separators is a token like any other. So of two texts with the same tokens one can ask for
everything and the other one for a phrase (`same_tokens_classify_iff`).

Apart from that, two texts with a separator between them are classified as each of them is
(`classify_of_separated`).
-/

namespace CatalogSearch.FreeText

open Text

variable {a b text : String} {c : Char}

/-! ## What asks for everything -/

/-- Whether a text asks for everything. -/
def IsMatchAll (text : String) : Prop := trim text = matchAll ∨ tokens text = []

instance (text : String) : Decidable (IsMatchAll text) :=
  inferInstanceAs (Decidable (_ ∨ _))

/-- A text that is trimmed to a `*` has no other token. -/
theorem tokens_of_trim (star : trim text = matchAll) : tokens text = [matchAll] := by
  rw [← tokens_trim, star]
  decide

theorem tokens_of_trim_eq_empty (blank : trim text = "") : tokens text = [] := by
  rw [← tokens_trim, blank]
  rfl

/-- What a text is classified as, by its tokens. -/
theorem classify_eq (text : String) :
    classify text =
      if IsMatchAll text then .all
      else ⟨" ".intercalate ((tokens text).map phrase), (tokens text).all isId⟩ := by
  unfold classify
  dsimp only
  rw [tokens_trim]
  by_cases blank : trim text = ""
  · have everything : IsMatchAll text := .inr (tokens_of_trim_eq_empty blank)
    rw [if_pos (.inl blank), if_pos everything]
  · by_cases star : trim text = matchAll
    · have everything : IsMatchAll text := .inl star
      rw [if_pos (.inr star), if_pos everything]
    · rw [if_neg (by simp [blank, star])]
      by_cases everything : IsMatchAll text
      · rw [if_pos everything, everything.resolve_left star]
      · have some_token : tokens text ≠ [] := fun empty => everything (.inr empty)
        rw [if_neg everything]
        cases cut : tokens text with
        | nil => exact absurd cut some_token
        | cons t ts => rfl

/-- A `*` that is a token like any other is a phrase, and not an id. -/
theorem classified_star_ne :
    (⟨" ".intercalate ([matchAll].map phrase), [matchAll].all isId⟩ : Classified) ≠ .all := by
  decide

/-! ## The query string of a text -/

/-- A member of what a query string is rendered as. -/
def queryStringMember? (text : String) (fields : List String) (name : String) : Option Json :=
  ((Query.ofFreeText text fields).render.get? "query_string").bind (Json.get? name)

theorem queryStringMember?_query (text : String) (fields : List String) :
    queryStringMember? text fields "query" = some (.str (classify text).text) := by
  cases fields <;>
    simp [queryStringMember?, Query.ofFreeText, Query.render, Query.tagged, Query.present]

theorem queryStringMember?_operator (text : String) (fields : List String) :
    queryStringMember? text fields "default_operator" =
      some (.str (if (classify text).allIds then "OR" else "AND")) := by
  cases join : (classify text).allIds <;> cases fields <;>
    simp [queryStringMember?, Query.ofFreeText, Query.render, Query.tagged, Query.present, join,
      Join.name]

/-- Two texts are rendered alike only if they are classified alike. -/
theorem render_ofFreeText_eq_iff (fields : List String) :
    (Query.ofFreeText a fields).render = (Query.ofFreeText b fields).render ↔
      classify a = classify b := by
  constructor
  · intro same
    have member (name : String) :
        queryStringMember? a fields name = queryStringMember? b fields name := by
      unfold queryStringMember?
      rw [same]
    have text := member "query"
    have join := member "default_operator"
    rw [queryStringMember?_query, queryStringMember?_query] at text
    rw [queryStringMember?_operator, queryStringMember?_operator] at join
    have ids : (classify a).allIds = (classify b).allIds := by
      revert join
      cases (classify a).allIds <;> cases (classify b).allIds <;> simp
    cases first : classify a
    cases second : classify b
    simp_all
  · intro same
    rw [Query.ofFreeText, Query.ofFreeText, same]

/-! ## Texts with the same tokens -/

/-- Of two texts with the same tokens both ask for everything if one does, or their only token is a
`*` with nothing but blanks around it in the one, and other separators in the other. -/
theorem classify_eq_iff_of_tokens (same : tokens a = tokens b) :
    classify a = classify b ↔ (trim a = matchAll ↔ trim b = matchAll) := by
  have particular {a b : String} (same : tokens a = tokens b) (star : trim a = matchAll)
      (other : trim b ≠ matchAll) : classify a ≠ classify b := by
    have token : tokens b = [matchAll] := same ▸ tokens_of_trim star
    rw [classify_eq a, if_pos (.inl star), classify_eq b,
      if_neg (by simp [IsMatchAll, other, token]), token]
    exact classified_star_ne.symm
  by_cases first : trim a = matchAll <;> by_cases second : trim b = matchAll
  · rw [classify_eq, classify_eq, if_pos (.inl first), if_pos (.inl second)]
    simp [first, second]
  · simp [first, second, particular same first second]
  · simp [first, second, (particular same.symm second first).symm]
  · simp [classify_eq, IsMatchAll, first, second, same]

/-- **When only the tokens matter.** Two texts with the same tokens are classified alike, and their
query strings rendered alike, if and only if both or none of them are a `*` with nothing but blanks
around it; they always are if the tokens are others than a single `*`. A text with this single token
asks for everything if and only if nothing but blanks stands around it. -/
theorem same_tokens_classify_iff (same : tokens a = tokens b) :
    (classify a = classify b ↔ (trim a = matchAll ↔ trim b = matchAll)) ∧
      (∀ fields, (Query.ofFreeText a fields).render = (Query.ofFreeText b fields).render ↔
        (trim a = matchAll ↔ trim b = matchAll)) ∧
      (tokens a ≠ [matchAll] → classify a = classify b) ∧
      (tokens a = [matchAll] → (classify a = .all ↔ trim a = matchAll)) := by
  have law := classify_eq_iff_of_tokens same
  refine ⟨law, fun fields => (render_ofFreeText_eq_iff fields).trans law, fun others => ?_,
    fun star => ?_⟩
  · refine law.2 (iff_of_false (fun first => others (tokens_of_trim first)) fun second => others ?_)
    rw [same, tokens_of_trim second]
  · by_cases alone : trim a = matchAll
    · simp [classify_eq a, IsMatchAll, alone]
    · rw [classify_eq a, if_neg (by simp [IsMatchAll, alone, star]), star]
      exact iff_of_false classified_star_ne alone

/-- Which separators stand around words does not matter. -/
theorem same_tokens_classify_of_words :
    tokens " love;; song" = tokens "love song" ∧
      classify " love;; song" = classify "love song" := by
  have same : tokens " love;; song" = tokens "love song" := by decide
  exact ⟨same, (same_tokens_classify_iff same).2.2.1 (by decide)⟩

/-- A semicolon before a `*` makes a phrase of it, though the tokens stay the same. -/
theorem classify_of_marked_star :
    tokens ";*" = tokens "*" ∧ classify "*" = .all ∧ classify ";*" = ⟨"\"*\"", false⟩ ∧
      ∀ fields, (Query.ofFreeText ";*" fields).render ≠ (Query.ofFreeText "*" fields).render := by
  refine ⟨by decide, by decide, by decide, fun fields same => ?_⟩
  exact absurd ((render_ofFreeText_eq_iff fields).1 same) (by decide)

/-! ## Texts with a separator between them -/

/-- Two texts with a separator between them have the tokens of both. -/
theorem tokens_of_separated (separates : isSeparator c = true) (a b : String) :
    tokens (a ++ String.singleton c ++ b) = tokens a ++ tokens b := by
  have out : isTokenChar c = false := by rw [isTokenChar_eq, separates]; rfl
  have whole : (a ++ String.singleton c ++ b).toList = a.toList ++ c :: b.toList := by simp
  rw [tokens, tokens, tokens, whole, tokenChars_eq_runsOf, tokenChars_eq_runsOf,
    tokenChars_eq_runsOf, runsOf_append_cons _ _ out, List.map_append]

/-- A token that begins with a decimal digit is taken for an id. -/
theorem isId_iff {t : String} :
    isId t = true ↔ ∃ d rest, t.toList = d :: rest ∧ isDecimalDigit d = true := by
  unfold isId
  cases t.toList <;> simp

theorem allIds_classify (text : String) :
    (classify text).allIds = true ↔ IsMatchAll text ∨ ∀ t ∈ tokens text, isId t = true := by
  rw [classify_eq]
  by_cases all : IsMatchAll text
  · simp [all, Classified.all]
  · simp [all]

/-- A text with tokens that is not a `*` with blanks around it is classified by its tokens. -/
theorem classify_of_tokens (words : tokens text ≠ []) (other : trim text ≠ matchAll) :
    classify text = ⟨" ".intercalate ((tokens text).map phrase), (tokens text).all isId⟩ := by
  rw [classify_eq, if_neg (by simp [IsMatchAll, words, other])]

/-- **Classification goes part by part.** Two texts that have tokens and are not a `*` with blanks
around it, and a separator between them, are classified as one after the other: their phrases are
put together with a space, and all of them are ids if all in each of them are. So the tokens of a
query string are alternatives if it asks for everything or each of its tokens begins with a decimal
digit, and must all occur otherwise. -/
theorem classify_of_separated :
    (∀ a b c, isSeparator c = true → tokens a ≠ [] → tokens b ≠ [] → trim a ≠ matchAll →
      trim b ≠ matchAll →
        (classify (a ++ String.singleton c ++ b)).text =
            (classify a).text ++ " " ++ (classify b).text ∧
          (classify (a ++ String.singleton c ++ b)).allIds =
            ((classify a).allIds && (classify b).allIds)) ∧
      ∀ text fields,
        (queryStringMember? text fields "default_operator" = some (.str "OR") ↔
          IsMatchAll text ∨
            ∀ t ∈ tokens text, ∃ d rest, t.toList = d :: rest ∧ isDecimalDigit d = true) ∧
        (queryStringMember? text fields "default_operator" = some (.str "AND") ↔
          ¬(IsMatchAll text ∨
            ∀ t ∈ tokens text, ∃ d rest, t.toList = d :: rest ∧ isDecimalDigit d = true)) := by
  refine ⟨fun a b c separates words more other different => ?_, fun text fields => ?_⟩
  · have cut := tokens_of_separated separates a b
    have whole : tokens (a ++ String.singleton c ++ b) ≠ [] := by rw [cut]; simp [words]
    have several : trim (a ++ String.singleton c ++ b) ≠ matchAll := by
      intro star
      have single := cut.symm.trans (tokens_of_trim star)
      have count := congrArg List.length single
      have first := List.length_pos_iff.2 words
      have second := List.length_pos_iff.2 more
      simp only [List.length_append, List.length_singleton] at count
      omega
    rw [classify_of_tokens whole several, classify_of_tokens words other,
      classify_of_tokens more different, cut, List.map_append, List.all_append]
    exact ⟨String.intercalate_append_of_ne_nil (by simpa using words) (by simpa using more), rfl⟩
  · simp only [← isId_iff, ← allIds_classify, queryStringMember?_operator]
    cases (classify text).allIds <;> simp

/-- Two words and two ids, with a semicolon between them. -/
theorem classify_of_separated_words :
    (classify ("love" ++ String.singleton ';' ++ "song")).text =
        (classify "love").text ++ " " ++ (classify "song").text ∧
      (classify ("12" ++ String.singleton ';' ++ "7")).allIds =
        ((classify "12").allIds && (classify "7").allIds) :=
  ⟨(classify_of_separated.1 "love" "song" ';' (by decide) (by decide) (by decide) (by decide)
      (by decide)).1,
    (classify_of_separated.1 "12" "7" ';' (by decide) (by decide) (by decide) (by decide)
      (by decide)).2⟩

end CatalogSearch.FreeText
