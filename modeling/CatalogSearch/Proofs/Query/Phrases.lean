import CatalogSearch.Proofs.Query.Tokens
import CatalogSearch.Query.Phrases

/-!
# Reading back classified text

Only quotes are escaped in a phrase. So a token without a backslash is read back as it was
(`readOpen?_opened`). A token with one is not, and this is a matter of lengths: a reader consumes
two characters for every quote and every backslash that it returns (`length_of_readOpen?`), while a
backslash is written as one character (`length_opened`).
-/

namespace CatalogSearch.FreeText

open Text

variable {c : Char} {cs t : List Char} {ts ps : List (List Char)} {text : String}

/-! ## The text of phrases -/

/-- The characters of a token as they stand in its phrase. -/
def escaped (t : List Char) : List Char :=
  t.flatMap fun c => if c = '"' then ['\\', '"'] else [c]

/-- What stands behind the first quote of a list of phrases. -/
def opened (t : List Char) : List (List Char) → List Char
  | [] => escaped t ++ ['"']
  | u :: ts => escaped t ++ '"' :: ' ' :: '"' :: opened u ts

theorem toList_phrase (token : String) :
    (phrase token).toList = '"' :: escaped token.toList ++ ['"'] :=
  String.toList_ofList

theorem toList_intercalate_phrase (token : String) (tokens : List String) :
    (" ".intercalate ((token :: tokens).map phrase)).toList =
      '"' :: opened token.toList (tokens.map String.toList) := by
  rw [String.toList_intercalate]
  induction tokens generalizing token with
  | nil => simp [opened, toList_phrase]
  | cons u tokens ih =>
    rw [List.map_cons, List.map_cons, List.intercalate_cons_of_ne_nil (by simp), ih u]
    simp [opened, toList_phrase]

/-- The text of a list of phrases has one character for each character of a token, one more for
each quote, and three for each token. -/
theorem length_opened (t : List Char) (ts : List (List Char)) :
    (opened t ts).length + 2 =
      (t :: ts).flatten.length + (t :: ts).flatten.count '"' + 3 * (t :: ts).length := by
  have single (t : List Char) : (escaped t).length = t.length + t.count '"' := by
    induction t with
    | nil => rfl
    | cons c t ih =>
      by_cases quote : c = '"'
      · simp [escaped, quote] at ih ⊢
        omega
      · simp [escaped, quote] at ih ⊢
        omega
  induction ts generalizing t with
  | nil => simp [opened, single]
  | cons u ts ih =>
    have rest := ih u
    simp only [opened, List.length_append, List.length_cons, List.flatten_cons, List.count_append,
      single] at rest ⊢
    omega

/-! ## Reading -/

theorem readOpen?_cons (quote : c ≠ '"') (backslash : c ≠ '\\') (cs : List Char) :
    readOpen? (c :: cs) = (readOpen? cs).map (·.modifyHead (c :: ·)) :=
  readOpen?.eq_7 c cs (fun h => absurd h quote) (fun _ h => absurd h quote) quote
    (fun _ _ h => absurd h backslash) fun h => absurd h backslash

/-- A token without a backslash is read from what stands for it. -/
theorem readOpen?_escaped (plain : '\\' ∉ t) (cs : List Char) :
    readOpen? (escaped t ++ cs) = (readOpen? cs).map (·.modifyHead (t ++ ·)) := by
  induction t with
  | nil =>
    rw [funext modifyHead_nil_append]
    simp [escaped]
  | cons c t ih =>
    have rest := ih fun mem => plain (List.mem_cons_of_mem c mem)
    have grow : (readOpen? (escaped t ++ cs)).map (·.modifyHead (c :: ·)) =
        (readOpen? cs).map (·.modifyHead (c :: t ++ ·)) := by
      rw [rest, Option.map_map]
      simp [Function.comp_def]
    by_cases quote : c = '"'
    · subst quote
      exact grow
    · have backslash : c ≠ '\\' := fun h => plain (h ▸ List.mem_cons_self)
      rw [← grow, ← readOpen?_cons quote backslash]
      simp [escaped, quote]

/-- Phrases of tokens without a backslash are read back. -/
theorem readOpen?_opened (plain : ∀ u ∈ t :: ts, '\\' ∉ u) :
    readOpen? (opened t ts) = some (t :: ts) := by
  induction ts generalizing t with
  | nil =>
    rw [opened, readOpen?_escaped (plain t List.mem_cons_self)]
    simp [readOpen?]
  | cons u ts ih =>
    rw [opened, readOpen?_escaped (plain t List.mem_cons_self), readOpen?,
      ih fun v mem => plain v (List.mem_cons_of_mem t mem)]
    simp

/-- A reader consumes one character for each character that it returns, one more for each quote and
each backslash, and three for each phrase. -/
theorem length_of_readOpen? (read : readOpen? cs = some ps) :
    ps.flatten.length + ps.flatten.count '"' + ps.flatten.count '\\' + 3 * ps.length ≤
      cs.length + 2 := by
  induction cs using readOpen?.induct generalizing ps with
  | case1 => simp [readOpen?] at read
  | case2 =>
    obtain rfl : [[]] = ps := by simpa [readOpen?] using read
    simp
  | case3 cs ih =>
    rw [readOpen?] at read
    obtain ⟨qs, rest, rfl⟩ := Option.map_eq_some_iff.1 read
    have shorter := ih rest
    simp only [List.flatten_cons, List.nil_append, List.length_cons]
    omega
  | case4 cs more next => simp [readOpen?.eq_4 cs more next] at read
  | case5 c cs ih =>
    rw [readOpen?] at read
    obtain ⟨qs, rest, rfl⟩ := Option.map_eq_some_iff.1 read
    have shorter := ih rest
    have once : (if c == '"' then 1 else 0) + (if c == '\\' then 1 else 0) ≤ 1 := by
      by_cases quote : c = '"'
      · simp [quote]
      · by_cases backslash : c = '\\' <;> simp [quote, backslash]
    cases qs with
    | nil => simp
    | cons q qs =>
      simp only [List.modifyHead_cons, List.flatten_cons, List.cons_append, List.length_cons,
        List.count_cons] at shorter ⊢
      omega
  | case6 => simp [readOpen?] at read
  | case7 c cs _ _ quote pair single ih =>
    have backslash : c ≠ '\\' := by
      rintro rfl
      cases cs with
      | nil => exact single rfl rfl
      | cons d cs => exact pair d cs rfl rfl
    rw [readOpen?_cons quote backslash] at read
    obtain ⟨qs, rest, rfl⟩ := Option.map_eq_some_iff.1 read
    have shorter := ih rest
    cases qs with
    | nil => simp
    | cons q qs =>
      simp only [List.modifyHead_cons, List.flatten_cons, List.cons_append, List.length_cons,
        List.count_cons_of_ne quote, List.count_cons_of_ne backslash] at shorter ⊢
      omega

/-- Phrases are read back as the tokens they stand for exactly if no token has a backslash. -/
theorem readOpen?_opened_eq_iff (t : List Char) (ts : List (List Char)) :
    readOpen? (opened t ts) = some (t :: ts) ↔ '\\' ∉ (t :: ts).flatten := by
  constructor
  · intro read
    have consumed := length_of_readOpen? read
    have written := length_opened t ts
    exact List.count_eq_zero.1 (by omega)
  · intro plain
    exact readOpen?_opened fun u mem found => plain (List.mem_flatten.2 ⟨u, mem, found⟩)

theorem phrases?_eq_some_iff {tokens : List String} (quote : text.toList = '"' :: cs) :
    phrases? text = some tokens ↔ readOpen? cs = some (tokens.map String.toList) := by
  have read : phrases? text = (readOpen? cs).map (·.map String.ofList) := by
    rw [phrases?, quote]
    rfl
  rw [read, Option.map_eq_some_iff]
  constructor
  · rintro ⟨ps, all, rfl⟩
    rw [all, List.map_map]
    simp [Function.comp_def]
  · intro all
    refine ⟨_, all, ?_⟩
    rw [List.map_map]
    simp [Function.comp_def]

/-! ## Classified text -/

/-- The text of a search that does not ask for everything is the phrases of its tokens. -/
theorem classify_text (particular : classify text ≠ .all) :
    ∃ t ts, tokens text = t :: ts ∧
      (classify text).text.toList = '"' :: opened t.toList (ts.map String.toList) := by
  unfold classify at particular ⊢
  dsimp only at particular ⊢
  split at particular
  · exact absurd rfl particular
  · rename_i wanted
    rw [if_neg wanted]
    rw [tokens_trim] at particular ⊢
    cases cut : tokens text with
    | nil => rw [cut] at particular; exact absurd rfl particular
    | cons t ts => exact ⟨t, ts, rfl, toList_intercalate_phrase t ts⟩

/-- **Classified text is read back as its tokens exactly if the text has no backslash.** -/
theorem classify_reads_back_iff (particular : classify text ≠ .all) :
    phrases? (classify text).text = some (tokens text) ↔ '\\' ∉ text.toList := by
  obtain ⟨t, ts, cut, written⟩ := classify_text particular
  have whole := flatten_tokens text
  have belongs : isTokenChar '\\' = true := by decide
  rw [cut] at whole ⊢
  rw [phrases?_eq_some_iff written, List.map_cons, readOpen?_opened_eq_iff, ← List.map_cons, whole,
    List.mem_filter, and_iff_left belongs]

/-- Quotes inside a token are read back. -/
theorem classify_reads_back_of_quotes :
    classify "say\"hi\" 42" ≠ .all ∧
      phrases? (classify "say\"hi\" 42").text = some (tokens "say\"hi\" 42") :=
  ⟨by decide, (classify_reads_back_iff (by decide)).2 (by decide)⟩

/-- A backslash is not read back. At the end of a token it makes the closing quote literal, before
a quote of the token it makes the phrase end there, and elsewhere it is lost. -/
theorem classify_of_backslash :
    classify "a\\" ≠ .all ∧ (classify "a\\").text = "\"a\\\"" ∧
      phrases? (classify "a\\").text = none ∧ phrases? (classify "a\\\"b").text = none ∧
      phrases? (classify "a\\b").text = some ["ab"] ∧ tokens "a\\b" = ["a\\b"] := by
  decide

end CatalogSearch.FreeText
