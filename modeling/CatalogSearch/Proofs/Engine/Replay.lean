import CatalogSearch.Proofs.Engine.Documents

/-!
# Writing again what was written

A declaration that is applied once more later might as well not have been applied before, whatever
is applied in between: it removes the document, or writes the same fields again. Until then it hides
the difference (`Documents.Hides`). So declarations that are applied before a list that contains
them make no difference (`Documents.applyAll_absorb`).
-/

namespace CatalogSearch

/-! ## Fields -/

namespace FieldMap

universe u

variable {α : Type u}

/-- Fields that are written a second time are as after the first time. -/
theorem extend_extend_self (m : FieldMap α) (l : List (String × α)) :
    (m.extend l).extend l = m.extend l := by
  refine eq_of_get? fun k => ?_
  rw [get?_extend, get?_extend m l]
  cases (ofList l).get? k <;> rfl

/-- What is hidden by writing some fields stays so when others were written before. -/
theorem extend_congr {m n : FieldMap α} {l : List (String × α)} (h : m.extend l = n.extend l)
    (l' : List (String × α)) : (m.extend l').extend l = (n.extend l').extend l := by
  refine eq_of_get? fun k => ?_
  have same : (m.extend l).get? k = (n.extend l).get? k := by rw [h]
  simp only [get?_extend] at same ⊢
  cases written : (ofList l).get? k with
  | some x => rfl
  | none =>
    rw [written] at same
    have same : m.get? k = n.get? k := by simpa using same
    rw [same]

end FieldMap

namespace Documents

variable {docs docs' : Documents} {d : Declaration}

/-! ## Hiding -/

theorem change_change (d : Declaration) (x : Option (FieldMap Json)) :
    change d (change d x) = change d x := by
  unfold change
  split
  · rfl
  · rw [Option.getD_some, FieldMap.extend_extend_self]

/-- What a declaration hides stays hidden when another one changes the document before. -/
theorem change_congr {x y : Option (FieldMap Json)} (h : change d x = change d y)
    (e : Declaration) : change d (change e x) = change d (change e y) := by
  unfold change at h ⊢
  split
  · rfl
  · next merges =>
    rw [if_neg merges, if_neg merges, Option.some.injEq] at h
    split
    · rfl
    · rw [Option.getD_some, Option.getD_some, FieldMap.extend_congr h]

/-- A declaration hides the difference between documents: they are the same but for the one that it
changes, of which it makes the same. -/
structure Hides (d : Declaration) (docs docs' : Documents) : Prop where
  others : ∀ k, k ≠ keyOf d → docs.find? k = docs'.find? k
  own : change d (docs.find? (keyOf d)) = change d (docs'.find? (keyOf d))

namespace Hides

theorem apply_self (docs : Documents) (d : Declaration) : Hides d (docs.apply d) docs where
  others k other := by rw [find?_apply, if_neg other]
  own := by rw [find?_apply, if_pos rfl, change_change]

theorem apply (h : Hides d docs docs') (e : Declaration) :
    Hides d (docs.apply e) (docs'.apply e) where
  others k other := by rw [find?_apply, find?_apply, h.others k other]
  own := by
    rw [find?_apply, find?_apply]
    split
    · exact change_congr h.own e
    · exact h.own

theorem eq (h : Hides d docs docs') (sorted : docs.Sorted) (sorted' : docs'.Sorted) :
    docs.apply d = docs'.apply d := by
  refine eq_of_find? (sorted.apply d) (sorted'.apply d) fun k => ?_
  rw [find?_apply, find?_apply]
  split
  · next own =>
    rw [own]
    exact h.own
  · next other => exact h.others k other

/-- What a declaration hides makes no difference to a list of declarations that contains it. -/
theorem applyAll (h : Hides d docs docs') (sorted : docs.Sorted) (sorted' : docs'.Sorted)
    {ds : List Declaration} (mem : d ∈ ds) : docs.applyAll ds = docs'.applyAll ds := by
  induction ds generalizing docs docs' with
  | nil => cases mem
  | cons e ds ih =>
    rcases List.mem_cons.1 mem with rfl | later
    · exact congrArg (Documents.applyAll · ds) (h.eq sorted sorted')
    · exact ih (h.apply e) (sorted.apply e) (sorted'.apply e) later

end Hides

/-- Declarations that are applied before a list that contains them make no difference. -/
theorem applyAll_absorb (sorted : docs.Sorted) {ds ds' : List Declaration} (sub : ds ⊆ ds') :
    (docs.applyAll ds).applyAll ds' = docs.applyAll ds' := by
  induction ds generalizing docs with
  | nil => rfl
  | cons d ds ih =>
    obtain ⟨mem, rest⟩ := List.cons_subset.1 sub
    calc ((docs.apply d).applyAll ds).applyAll ds'
      _ = (docs.apply d).applyAll ds' := ih (sorted.apply d) rest
      _ = docs.applyAll ds' := (Hides.apply_self docs d).applyAll (sorted.apply d) sorted mem

/-! ## What is still to be applied -/

/-- Documents become the same by whatever is applied to them, if it contains the given
declarations. -/
def AgreeAfter (ds : List Declaration) (docs docs' : Documents) : Prop :=
  ∀ ds', ds ⊆ ds' → docs.applyAll ds' = docs'.applyAll ds'

namespace AgreeAfter

variable {ds rest : List Declaration}

theorem refl (ds : List Declaration) (docs : Documents) : AgreeAfter ds docs docs := fun _ _ => rfl

theorem eq (h : AgreeAfter [] docs docs') : docs = docs' := h [] (List.nil_subset _)

/-- What is applied on both sides is no longer to be applied. -/
theorem applyAll {done : List Declaration} (h : AgreeAfter ds docs docs')
    (sub : ds ⊆ done ++ rest) : AgreeAfter rest (docs.applyAll done) (docs'.applyAll done) := by
  intro ds' contains
  rw [← applyAll_append, ← applyAll_append]
  refine h _ fun d mem => List.mem_append.2 ?_
  exact (List.mem_append.1 (sub mem)).imp_right fun later => contains later

/-- What is applied on one side only is to be applied once more. -/
theorem spill {spilled : List Declaration} (h : AgreeAfter ds docs docs') (sorted : docs.Sorted)
    (sub : ds ⊆ rest) (again : spilled ⊆ rest) : AgreeAfter rest (docs.applyAll spilled) docs' := by
  intro ds' contains
  rw [applyAll_absorb sorted fun d mem => contains (again mem)]
  exact h ds' fun d mem => contains (sub mem)

end AgreeAfter

end Documents

end CatalogSearch
