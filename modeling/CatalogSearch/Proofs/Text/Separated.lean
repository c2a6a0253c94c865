import CatalogSearch.Text.Blank

/-!
# Texts with separators

A text that is made of pieces with a separator between them comes apart into the same pieces where
none of them contains the separator (`splitOn_eq_iff`, `cut_unique`). The decimal text of an integer
may itself begin with the hyphen that separates the parts of document ids; where it ends can be
seen all the same (`decimal_cut_unique`).
-/

namespace CatalogSearch.Text

universe u

section Pieces

variable {α : Type u} [BEq α] [LawfulBEq α] {a : α}

/-- The pieces of a sequence do not contain the separator. -/
theorem notMem_of_mem_splitOn {l p : List α} (mem : p ∈ l.splitOn a) : a ∉ p := by
  induction l generalizing p with
  | nil =>
    rw [List.splitOn_nil, List.mem_singleton] at mem
    subst mem
    exact List.not_mem_nil
  | cons x l ih =>
    rw [List.splitOn_cons_eq_if_modifyHead] at mem
    split at mem
    · rcases List.mem_cons.1 mem with rfl | mem
      · exact List.not_mem_nil
      · exact ih mem
    · next other =>
      -- the first piece grows by `x`, the others stay as they are
      cases pieces : l.splitOn a with
      | nil => exact absurd pieces (List.splitOn_ne_nil a l)
      | cons q qs =>
        rw [pieces] at ih mem
        rcases List.mem_cons.1 mem with rfl | mem
        · have ne : a ≠ x := fun same => other (beq_iff_eq.2 same.symm)
          exact List.not_mem_cons_of_ne_of_not_mem ne (ih List.mem_cons_self)
        · exact ih (List.mem_cons_of_mem _ mem)

/-- Which pieces a sequence has: those that make it up and do not contain the separator. -/
theorem splitOn_eq_iff {l : List α} {ps : List (List α)} (some : ps ≠ []) :
    l.splitOn a = ps ↔ [a].intercalate ps = l ∧ ∀ p ∈ ps, a ∉ p := by
  constructor
  · rintro rfl
    exact ⟨List.intercalate_splitOn a, fun _ => notMem_of_mem_splitOn⟩
  · rintro ⟨rfl, free⟩
    exact List.splitOn_intercalate a free some

/-- Where the first separator is and what follows it can be told from the whole. -/
theorem cut_unique {x y rest rest' : List α} (hx : a ∉ x) (hy : a ∉ y)
    (h : x ++ a :: rest = y ++ a :: rest') : x = y ∧ rest = rest' := by
  have pieces : x :: rest.splitOn a = y :: rest'.splitOn a := by
    rw [← List.splitOn_append_cons_self_of_not_mem hx, h,
      List.splitOn_append_cons_self_of_not_mem hy]
  obtain ⟨first, others⟩ := List.cons.inj pieces
  refine ⟨first, ?_⟩
  have whole : [a].intercalate (rest.splitOn a) = rest := List.intercalate_splitOn a
  rw [← whole, others, List.intercalate_splitOn]

/-- The first piece of a sequence and those behind it can be told from the whole. -/
theorem intercalate_cons_unique {x y : List α} {ps qs : List (List α)} (hx : a ∉ x) (hy : a ∉ y)
    (some : ps ≠ []) (some' : qs ≠ [])
    (h : [a].intercalate (x :: ps) = [a].intercalate (y :: qs)) :
    x = y ∧ [a].intercalate ps = [a].intercalate qs := by
  rw [List.intercalate_cons_of_ne_nil some, List.intercalate_cons_of_ne_nil some'] at h
  exact cut_unique hx hy (by simpa using h)

end Pieces

/-! ## Decimal texts of integers -/

/-- The characters of the decimal text of an integer. -/
def decimal (n : Int) : List Char := (toString n).toList

theorem decimal_of_nonneg {n : Int} (h : 0 ≤ n) : decimal n = Nat.toDigits 10 n.toNat := by
  rw [decimal, Int.toString_eq_repr, Int.repr_eq_if, if_pos h, Nat.toList_repr]

theorem decimal_of_neg {n : Int} (h : ¬0 ≤ n) :
    decimal n = '-' :: Nat.toDigits 10 (-n).toNat := by
  rw [decimal, Int.toString_eq_repr, Int.repr_eq_if, if_neg h, String.toList_append,
    Nat.toList_repr]
  rfl

theorem isDigit_of_mem_digits {c : Char} {n : Nat} (mem : c ∈ Nat.toDigits 10 n) :
    c.isDigit = true :=
  Nat.isDigit_of_mem_toDigits (by decide) (by decide) mem

theorem hyphen_notMem_digits (n : Nat) : '-' ∉ Nat.toDigits 10 n :=
  fun mem => absurd (isDigit_of_mem_digits mem) (by decide)

theorem digits_injective {m n : Nat} (h : Nat.toDigits 10 m = Nat.toDigits 10 n) : m = n := by
  rw [← Nat.ofDigitChars_ten_toDigits (n := m), h, Nat.ofDigitChars_ten_toDigits]

/-- A decimal text has no characters but digits and a hyphen. -/
theorem hyphen_or_digit_of_mem_decimal {c : Char} {n : Int} (mem : c ∈ decimal n) :
    c = '-' ∨ c.isDigit = true := by
  by_cases sign : 0 ≤ n
  · rw [decimal_of_nonneg sign] at mem
    exact .inr (isDigit_of_mem_digits mem)
  · rw [decimal_of_neg sign] at mem
    exact (List.mem_cons.1 mem).imp_right isDigit_of_mem_digits

theorem decimal_ne_nil (n : Int) : decimal n ≠ [] := by
  by_cases sign : 0 ≤ n
  · rw [decimal_of_nonneg sign]
    exact Nat.toDigits_ne_nil
  · rw [decimal_of_neg sign]
    exact List.cons_ne_nil _ _

theorem not_isBlank_of_isDigit {c : Char} (digit : c.isDigit = true) : isBlank c = false := by
  obtain ⟨low, high⟩ : 48 ≤ c.toNat ∧ c.toNat ≤ 57 := by
    simpa [Char.isDigit, UInt32.le_iff_toNat_le] using digit
  simp only [isBlank, Bool.or_eq_false_iff, Bool.and_eq_false_iff, decide_eq_false_iff_not,
    beq_eq_false_iff_ne, ne_eq]
  omega

/-- A decimal text has no blanks. -/
theorem not_isBlank_of_mem_decimal {c : Char} {n : Int} (mem : c ∈ decimal n) :
    isBlank c = false := by
  rcases hyphen_or_digit_of_mem_decimal mem with rfl | digit
  · decide
  · exact not_isBlank_of_isDigit digit

/-- The digits of a number do not begin with the sign of another one. -/
theorem digits_append_ne_hyphen_cons (n : Nat) (l l' : List Char) :
    Nat.toDigits 10 n ++ l ≠ '-' :: l' := by
  intro h
  cases digits : Nat.toDigits 10 n with
  | nil => exact Nat.toDigits_ne_nil digits
  | cons c cs =>
    rw [digits] at h
    have first : c = '-' := (List.cons.inj h).1
    exact hyphen_notMem_digits n (by rw [digits, first]; exact List.mem_cons_self)

/-- An integer that is followed by a hyphen can be told from the whole, and so can what follows. -/
theorem decimal_cut_unique {m n : Int} {rest rest' : List Char}
    (h : decimal m ++ '-' :: rest = decimal n ++ '-' :: rest') : m = n ∧ rest = rest' := by
  by_cases hm : 0 ≤ m <;> by_cases hn : 0 ≤ n
  · rw [decimal_of_nonneg hm, decimal_of_nonneg hn] at h
    obtain ⟨digits, rest⟩ := cut_unique (hyphen_notMem_digits _) (hyphen_notMem_digits _) h
    have same := digits_injective digits
    exact ⟨by omega, rest⟩
  · rw [decimal_of_nonneg hm, decimal_of_neg hn] at h
    exact absurd h (digits_append_ne_hyphen_cons _ _ _)
  · rw [decimal_of_neg hm, decimal_of_nonneg hn] at h
    exact absurd h.symm (digits_append_ne_hyphen_cons _ _ _)
  · rw [decimal_of_neg hm, decimal_of_neg hn] at h
    have behind := (List.cons.inj h).2
    obtain ⟨digits, rest⟩ := cut_unique (hyphen_notMem_digits _) (hyphen_notMem_digits _) behind
    have same := digits_injective digits
    exact ⟨by omega, rest⟩

/-- Different integers have different decimal texts. -/
theorem decimal_injective {m n : Int} (h : decimal m = decimal n) : m = n :=
  (decimal_cut_unique (congrArg (· ++ ['-']) h)).1

end CatalogSearch.Text
