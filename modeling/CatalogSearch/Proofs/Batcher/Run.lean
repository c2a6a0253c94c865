import Mathlib.Data.List.Induction
import CatalogSearch.Batcher.Timeline
import CatalogSearch.Proofs.Batcher.Transition

/-!
# Runs of a batcher

`Reaches c s s' es`: some run leads from `s` to `s'` with history `es`. Invariants are proved by
induction on it: what every step keeps, every run keeps.

What is observed along a run is not in its history. Where it matters, the induction is on the run
itself, from its last step (`run_induction`), which adds to what is observed (`observe_concat`). Two
runs, one after the other, are a run (`run_append`), and what is observed along them adds up
(`observe_append`).
-/

namespace CatalogSearch.Batcher

/-- Some run leads from one batcher to another one, with a history. -/
inductive Reaches (c : Deployment) (s₀ : State) : State → List Event → Prop
  | start : Reaches c s₀ s₀ []
  | step {s s' : State} {a : Action} {es new : List Event} (before : Reaches c s₀ s es)
      (next : step c s a = some (s', new)) : Reaches c s₀ s' (es ++ new)

namespace Reaches

variable {c : Deployment} {s s' s'' : State} {es es' : List Event}

theorem one {a : Action} (h : Batcher.step c s a = some (s', es)) : Reaches c s s' es :=
  .step .start h

theorem trans (h : Reaches c s s' es) (h' : Reaches c s' s'' es') :
    Reaches c s s'' (es ++ es') := by
  induction h' with
  | start => simpa using h
  | step _ next ih =>
    rw [← List.append_assoc]
    exact ih.step next

theorem of_run {as : List Action} (h : run c s as = some (s', es)) : Reaches c s s' es := by
  induction as generalizing s es with
  | nil =>
    cases h
    exact .start
  | cons a as ih =>
    rw [run] at h
    split at h
    · cases h
    · next mid new next =>
      obtain ⟨⟨final, rest⟩, hrun, heq⟩ := Option.map_eq_some_iff.1 h
      obtain ⟨rfl, rfl⟩ := Prod.mk.inj heq
      exact (one next).trans (ih hrun)

end Reaches

/-! ## Parts of a run -/

variable {c : Deployment} {s s' t : State} {as bs : List Action} {es : List Event}

theorem run_singleton (c : Deployment) (s : State) (a : Action) : run c s [a] = step c s a := by
  cases next : step c s a <;> simp [run, next]

/-- A run is two shorter runs, one after the other. -/
theorem run_append :
    run c s (as ++ bs) = some (s', es) ↔
      ∃ t before after, run c s as = some (t, before) ∧ run c t bs = some (s', after) ∧
        es = before ++ after := by
  induction as generalizing s es with
  | nil => simp [run]
  | cons a as ih =>
    cases first : step c s a with
    | none => simp [run, first]
    | some m =>
      simp only [List.cons_append, run, first, Option.map_eq_some_iff, Prod.exists, Prod.mk.injEq]
      constructor
      · rintro ⟨final, rest, whole, rfl, rfl⟩
        obtain ⟨t, before, after, ran, ran', rfl⟩ := ih.1 whole
        exact ⟨t, m.2 ++ before, after, ⟨t, before, ran, rfl, rfl⟩, ran', by simp⟩
      · rintro ⟨t, before, after, ⟨t', before', ran, rfl, rfl⟩, ran', rfl⟩
        exact ⟨s', before' ++ after, ih.2 ⟨t', before', after, ran, ran', rfl⟩, rfl, by simp⟩

/-- A run is a first step and a shorter run. -/
theorem run_cons {a : Action} :
    run c s (a :: as) = some (s', es) ↔
      ∃ t new after, step c s a = some (t, new) ∧ run c t as = some (s', after) ∧
        es = new ++ after := by
  rw [← List.singleton_append, run_append]
  simp only [run_singleton]

/-- What is observed along a run is what is observed along its two parts. -/
theorem observe_append {α : Type} {view : State → Action → List Event → List α}
    (h : run c s as = some (t, es)) :
    observe view c s (as ++ bs) = observe view c s as ++ observe view c t bs := by
  induction as generalizing s es with
  | nil =>
    cases h
    rfl
  | cons a as ih =>
    cases first : step c s a with
    | none => simp [run, first] at h
    | some m =>
      simp only [run, first, Option.map_eq_some_iff] at h
      obtain ⟨⟨final, rest⟩, ran, same⟩ := h
      obtain ⟨rfl, -⟩ := Prod.mk.inj same
      simp only [List.cons_append, observe, first]
      rw [ih ran, List.append_assoc]

/-! ## The last step of a run -/

/-- A run is a shorter run and a last step. -/
theorem run_concat {a : Action} :
    run c s (as ++ [a]) = some (s', es) ↔
      ∃ t before new, run c s as = some (t, before) ∧ step c t a = some (s', new) ∧
        es = before ++ new := by
  simp only [run_append, run_singleton]

/-- What holds at the start, and is kept by every step that follows a run, holds after every run. -/
@[elab_as_elim]
theorem run_induction {motive : List Action → State → List Event → Prop} (start : motive [] s [])
    (last : ∀ {as t es a t' new}, run c s as = some (t, es) → step c t a = some (t', new) →
      motive as t es → motive (as ++ [a]) t' (es ++ new))
    (h : run c s as = some (s', es)) : motive as s' es := by
  induction as using List.reverseRecOn generalizing s' es with
  | nil =>
    cases h
    exact start
  | append_singleton as a ih =>
    obtain ⟨t, before, new, ran, next, rfl⟩ := run_concat.1 h
    exact last ran next (ih ran)

section Observed

variable {a : Action} {new : List Event}

/-- What is observed along a run is what is observed before its last step, and of this step. -/
theorem observe_concat {α : Type} {view : State → Action → List Event → List α}
    (h : run c s as = some (t, es)) (next : step c t a = some (s', new)) :
    observe view c s (as ++ [a]) = observe view c s as ++ view t a new := by
  rw [observe_append h]
  simp [observe, next]

theorem dialogue_concat {who : Asker} (h : run c s as = some (t, es))
    (next : step c t a = some (s', new)) :
    dialogue who c s (as ++ [a]) = dialogue who c s as ++ exchange who t a new :=
  observe_concat h next

theorem punctual_concat (h : run c s as = some (t, es))
    (next : step c t a = some (s', new)) :
    Punctual c s (as ++ [a]) ↔ Punctual c s as ∧ a.isPunctual t = true := by
  simp [Punctual, observe_concat h next, or_imp, forall_and]

end Observed

end CatalogSearch.Batcher
