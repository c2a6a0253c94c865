import Mathlib.Data.List.DropRight
import CatalogSearch.Proofs.Text.Runs

/-!
# Trimmed texts

A trimmed text has no blank at either end, so that trimming it again changes nothing
(`trim_trim`), and nothing is left of a text if and only if it is blank (`trim_eq_empty_iff`). The
items of a text are trimmed and not empty (`of_mem_items`).
-/

namespace CatalogSearch.Text

variable {c : Char} {cs : List Char} {s item : String}

/-! ## Characters -/

theorem trimChars_eq_rdropWhile (cs : List Char) :
    trimChars cs = (cs.dropWhile isBlank).rdropWhile isBlank := rfl

theorem mem_of_mem_trimChars (mem : c ∈ trimChars cs) : c ∈ cs := by
  obtain ⟨before, behind, whole, -⟩ := exists_eq_trimChars cs
  rw [whole]
  simp [mem]

theorem trimChars_eq_nil_iff : trimChars cs = [] ↔ ∀ c ∈ cs, isBlank c = true := by
  constructor
  · intro none
    obtain ⟨before, behind, whole, front, back⟩ := exists_eq_trimChars cs
    rw [whole, none]
    simpa [or_imp, forall_and] using ⟨front, back⟩
  · intro blank
    rw [trimChars_eq_rdropWhile, List.rdropWhile_eq_nil_iff]
    intro c mem
    exact blank c ((List.dropWhile_suffix _).subset mem)

/-- Nothing is dropped at the front of a text that has been trimmed. -/
theorem dropWhile_trimChars (cs : List Char) :
    (trimChars cs).dropWhile isBlank = trimChars cs := by
  have front : trimChars cs <+: cs.dropWhile isBlank :=
    List.rdropWhile_prefix isBlank _
  refine List.dropWhile_eq_self_iff.2 fun some => ?_
  rw [front.getElem some]
  exact List.dropWhile_get_zero_not isBlank cs _

theorem trimChars_trimChars (cs : List Char) : trimChars (trimChars cs) = trimChars cs := by
  rw [trimChars_eq_rdropWhile (trimChars cs), dropWhile_trimChars, trimChars_eq_rdropWhile]
  exact List.rdropWhile_idempotent _ _

/-- Blanks in front of a text are dropped. -/
theorem trimChars_append_left {front : List Char} (blank : ∀ c ∈ front, isBlank c = true)
    (cs : List Char) : trimChars (front ++ cs) = trimChars cs := by
  rw [trimChars, List.dropWhile_append_of_pos blank, ← trimChars]

/-- Blanks behind a text are dropped. -/
theorem trimChars_append_right {back : List Char} (blank : ∀ c ∈ back, isBlank c = true)
    (cs : List Char) : trimChars (cs ++ back) = trimChars cs := by
  have nothing : back.dropWhile isBlank = [] := List.dropWhile_eq_nil_iff.2 blank
  have reversed : ∀ c ∈ back.reverse, isBlank c = true :=
    fun c mem => blank c (List.mem_reverse.1 mem)
  rw [trimChars, trimChars, List.dropWhile_append]
  cases rest : cs.dropWhile isBlank with
  | nil => simp [nothing]
  | cons c rest =>
    rw [List.isEmpty_cons, if_neg Bool.false_ne_true, List.reverse_append,
      List.dropWhile_append_of_pos reversed]

/-! ## Texts -/

theorem trim_ofList (cs : List Char) : trim (String.ofList cs) = String.ofList (trimChars cs) := by
  rw [trim, String.toList_ofList]

theorem trim_trim (s : String) : trim (trim s) = trim s := by
  rw [trim.eq_def s, trim_ofList, trimChars_trimChars]

theorem trim_eq_empty_iff : trim s = "" ↔ isAllBlank s = true := by
  rw [trim, isAllBlank, List.all_eq_true, ← trimChars_eq_nil_iff, ← String.toList_eq_nil_iff,
    String.toList_ofList]

/-- The items of a text are trimmed, and none is empty. -/
theorem of_mem_items (mem : item ∈ items s) : item ≠ "" ∧ trim item = item := by
  obtain ⟨trimmed, there, read⟩ := List.mem_filterMap.1 mem
  obtain ⟨piece, -, rfl⟩ := List.mem_map.1 there
  obtain ⟨some, rfl⟩ : trimChars piece ≠ [] ∧ String.ofList (trimChars piece) = item := by
    simpa using read
  refine ⟨?_, by rw [trim_ofList, trimChars_trimChars]⟩
  rwa [Ne, ← String.toList_eq_nil_iff, String.toList_ofList]

end CatalogSearch.Text
