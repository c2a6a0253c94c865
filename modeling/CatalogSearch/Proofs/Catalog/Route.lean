import CatalogSearch.Catalog.Route
import CatalogSearch.Proofs.Text.Trim

/-!
# Routes

A route that a text names can be asked (`Route.isUsable_of_parse`): it names one index, and a type.
So can the default routes (`Routes.isUsable_defaultRoute`).
-/

namespace CatalogSearch

theorem typeOrDefault_ne_empty (docType : String) : typeOrDefault docType ≠ "" := by
  unfold typeOrDefault
  split
  · decide
  · assumption

namespace Route

/-- A route that names one index, and a type inside it. -/
structure IsUsable (r : Route) : Prop where
  index : r.index ≠ ""
  single : '/' ∉ r.index.toList
  docType : r.docType ≠ ""

theorem docType_make_ne_empty (index docType : String) : (make index docType).docType ≠ "" :=
  typeOrDefault_ne_empty docType

theorem slash_notMem_cut (cs : List Char) : '/' ∉ (cut cs).1 := by
  intro mem
  have kept := List.mem_takeWhile_imp mem
  simp at kept

theorem isUsable_of_parse {s : String} {r : Route} (h : parse s = .ok r) : r.IsUsable := by
  simp only [parse] at h
  split at h
  · cases h
  · next some =>
    obtain rfl := Except.ok.inj h
    refine ⟨some, fun mem => ?_, docType_make_ne_empty _ _⟩
    rw [make, String.toList_ofList] at mem
    exact slash_notMem_cut _ (Text.mem_of_mem_trimChars mem)

end Route

/-- The default routes can be asked. -/
theorem Routes.isUsable_defaultRoute (p : Protocol) (kind : Kind) :
    (defaultRoute p kind).IsUsable := by
  cases p <;> cases kind <;> exact ⟨by decide, by decide, by decide⟩

end CatalogSearch
