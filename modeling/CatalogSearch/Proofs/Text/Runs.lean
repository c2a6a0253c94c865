import CatalogSearch.Text.Blank

/-!
# Runs of characters

A character that does not belong to a run divides the runs before it from those behind it
(`runsOf_append_cons`); everything else about runs follows from this and from what one run is
(`runsOf_eq_singleton`). So characters at the ends of a text that belong to no run can be left out
(`runsOf_trimChars`), and the runs of a text are made of all its characters that belong to one
(`flatten_runsOf`).
-/

namespace CatalogSearch.Text

variable {keep : Char → Bool} {c : Char} {cs xs ys : List Char}

/-! ## Runs -/

theorem runsOf_cons_ne_nil (kept : keep c = true) (cs : List Char) :
    runsOf keep (c :: cs) ≠ [] := by
  rw [runsOf.eq_def]
  dsimp only
  rw [if_pos kept]
  split
  · split <;> exact List.cons_ne_nil _ _
  · exact List.cons_ne_nil _ _

/-- A character before a run belongs to it if it belongs to one at all. -/
theorem runsOf_cons (keep : Char → Bool) (c : Char) (cs : List Char) :
    runsOf keep (c :: cs) =
      if keep c then
        if cs.head?.any keep then (runsOf keep cs).modifyHead (c :: ·) else [c] :: runsOf keep cs
      else runsOf keep cs := by
  rw [runsOf.eq_def]
  cases cs with
  | nil => rfl
  | cons d cs =>
    cases runs : runsOf keep (d :: cs) with
    | nil =>
      have out : keep d = false :=
        eq_false_of_ne_true fun next => runsOf_cons_ne_nil next cs runs
      simp [runs, out]
    | cons r rs => simp [runs]

theorem runsOf_cons_of_false (out : keep c = false) : runsOf keep (c :: cs) = runsOf keep cs := by
  rw [runsOf_cons, if_neg (by simp [out])]

/-- A character that stands alone is a run. -/
theorem runsOf_cons_of_head (kept : keep c = true) (alone : cs.head?.any keep = false) :
    runsOf keep (c :: cs) = [c] :: runsOf keep cs := by
  rw [runsOf_cons, if_pos kept, if_neg (by simp [alone])]

theorem runsOf_cons_cons {d : Char} (kept : keep c = true) (next : keep d = true) :
    runsOf keep (c :: d :: cs) = (runsOf keep (d :: cs)).modifyHead (c :: ·) := by
  rw [runsOf_cons, if_pos kept, if_pos (by simpa using next)]

/-- **Runs are divided by a character that belongs to none.** -/
theorem runsOf_append_cons (xs ys : List Char) (out : keep c = false) :
    runsOf keep (xs ++ c :: ys) = runsOf keep xs ++ runsOf keep ys := by
  induction xs with
  | nil => exact runsOf_cons_of_false out
  | cons x xs ih =>
    by_cases kept : keep x = true
    · cases xs with
      | nil =>
        rw [List.nil_append] at ih
        rw [List.singleton_append, runsOf_cons_of_head kept (by simpa using out), ih,
          runsOf_cons_of_head kept rfl, List.cons_append]
      | cons d xs =>
        by_cases next : keep d = true
        · have some := runsOf_cons_ne_nil next xs
          rw [List.cons_append] at ih
          rw [List.cons_append, List.cons_append, runsOf_cons_cons kept next, ih,
            runsOf_cons_cons kept next]
          cases runs : runsOf keep (d :: xs) with
          | nil => exact absurd runs some
          | cons r rs => simp
        · rw [List.cons_append, runsOf_cons_of_head kept (by simpa using next), ih,
            runsOf_cons_of_head kept (by simpa using next), List.cons_append]
    · have skip : keep x = false := eq_false_of_ne_true kept
      rw [List.cons_append, runsOf_cons_of_false skip, ih, runsOf_cons_of_false skip]

theorem runsOf_eq_nil (out : ∀ c ∈ cs, keep c = false) : runsOf keep cs = [] := by
  induction cs with
  | nil => rfl
  | cons c cs ih =>
    rw [runsOf_cons_of_false (out c List.mem_cons_self)]
    exact ih fun d mem => out d (List.mem_cons_of_mem c mem)

/-- Characters that belong together are one run. -/
theorem runsOf_eq_singleton (some : cs ≠ []) (kept : ∀ c ∈ cs, keep c = true) :
    runsOf keep cs = [cs] := by
  induction cs with
  | nil => exact absurd rfl some
  | cons c cs ih =>
    have own := kept c List.mem_cons_self
    cases cs with
    | nil => exact runsOf_cons_of_head own rfl
    | cons d cs =>
      have others : ∀ e ∈ d :: cs, keep e = true := fun e mem => kept e (List.mem_cons_of_mem c mem)
      rw [runsOf_cons_cons own (others d List.mem_cons_self), ih (List.cons_ne_nil d cs) others,
        List.modifyHead_cons]

/-- Together the runs are the characters that belong to one. -/
theorem flatten_runsOf (keep : Char → Bool) (cs : List Char) :
    (runsOf keep cs).flatten = cs.filter keep := by
  induction cs with
  | nil => rfl
  | cons c cs ih =>
    by_cases kept : keep c = true
    · rw [List.filter_cons_of_pos kept, ← ih]
      cases cs with
      | nil => rw [runsOf_cons_of_head kept rfl]; rfl
      | cons d cs =>
        by_cases next : keep d = true
        · rw [runsOf_cons_cons kept next]
          cases runs : runsOf keep (d :: cs) with
          | nil => exact absurd runs (runsOf_cons_ne_nil next cs)
          | cons r rs => simp
        · rw [runsOf_cons_of_head kept (by simpa using next)]
          rfl
    · rw [runsOf_cons_of_false (eq_false_of_ne_true kept), ih, List.filter_cons_of_neg kept]

/-- Two tests that agree on a text have the same runs in it. -/
theorem runsOf_congr {keep' : Char → Bool} (agree : ∀ c ∈ cs, keep c = keep' c) :
    runsOf keep cs = runsOf keep' cs := by
  induction cs with
  | nil => rfl
  | cons c cs ih =>
    have others := ih fun d mem => agree d (List.mem_cons_of_mem c mem)
    have own := agree c List.mem_cons_self
    have next : cs.head?.any keep = cs.head?.any keep' := by
      cases cs with
      | nil => rfl
      | cons d cs => exact agree d (List.mem_cons_of_mem c List.mem_cons_self)
    rw [runsOf_cons, runsOf_cons, others, own, next]

/-! ## The ends of a text -/

theorem runsOf_append_left (out : ∀ c ∈ xs, keep c = false) :
    runsOf keep (xs ++ ys) = runsOf keep ys := by
  induction xs with
  | nil => rfl
  | cons x xs ih =>
    rw [List.cons_append, runsOf_cons_of_false (out x List.mem_cons_self)]
    exact ih fun c mem => out c (List.mem_cons_of_mem x mem)

theorem runsOf_append_right (out : ∀ c ∈ ys, keep c = false) :
    runsOf keep (xs ++ ys) = runsOf keep xs := by
  cases ys with
  | nil => rw [List.append_nil]
  | cons y ys =>
    have rest : ∀ c ∈ ys, keep c = false := fun c mem => out c (List.mem_cons_of_mem y mem)
    rw [runsOf_append_cons xs ys (out y List.mem_cons_self), runsOf_eq_nil rest, List.append_nil]

theorem isBlank_of_mem_takeWhile (mem : c ∈ cs.takeWhile isBlank) : isBlank c = true :=
  List.all_eq_true.1 List.all_takeWhile c mem

/-- A text is its trimmed text with blanks around it. -/
theorem exists_eq_trimChars (cs : List Char) :
    ∃ before behind, cs = before ++ trimChars cs ++ behind ∧
      (∀ c ∈ before, isBlank c = true) ∧ ∀ c ∈ behind, isBlank c = true := by
  refine ⟨cs.takeWhile isBlank, ((cs.dropWhile isBlank).reverse.takeWhile isBlank).reverse, ?_,
    fun c => isBlank_of_mem_takeWhile, fun c mem => ?_⟩
  · rw [List.append_assoc, trimChars, ← List.reverse_append, List.takeWhile_append_dropWhile,
      List.reverse_reverse, List.takeWhile_append_dropWhile]
  · exact isBlank_of_mem_takeWhile (List.mem_reverse.1 mem)

/-- Trimming a text does not change its runs, if no blank belongs to one. -/
theorem runsOf_trimChars (solid : ∀ c, isBlank c = true → keep c = false) (cs : List Char) :
    runsOf keep (trimChars cs) = runsOf keep cs := by
  obtain ⟨before, behind, whole, front, back⟩ := exists_eq_trimChars cs
  have right : runsOf keep (before ++ trimChars cs ++ behind) =
      runsOf keep (before ++ trimChars cs) :=
    runsOf_append_right fun c mem => solid c (back c mem)
  have left : runsOf keep (before ++ trimChars cs) = runsOf keep (trimChars cs) :=
    runsOf_append_left fun c mem => solid c (front c mem)
  rw [← left, ← right, ← whole]

end CatalogSearch.Text
