import CatalogSearch.Proofs.Engine.Documents

/-!
# Views of JSON values

What a view of a value gives is what the value is.
-/

namespace CatalogSearch.Json

variable {v : Json}

theorem nat64?_eq_some {n : Nat} : v.nat64? = some n ↔ n < 0x10000000000000000 ∧ v = .nat n := by
  constructor
  · intro read
    cases v with
    | int m =>
      rw [nat64?] at read
      split at read
      · next inRange =>
        obtain rfl := Option.some.inj read
        have same : (m.toNat : Int) = m := Int.toNat_of_nonneg inRange.1
        exact ⟨by omega, by rw [nat, same]⟩
      · cases read
    | _ => cases read
  · rintro ⟨small, rfl⟩
    exact nat64?_nat small

theorem text?_eq_some {s : String} : v.text? = some s ↔ v = .str s := by
  cases v <;> simp [text?]

theorem elements?_eq_some {elements : List Json} :
    v.elements? = some elements ↔ v = .arr elements := by
  cases v <;> simp [elements?]

section Given

variable {given : Option Json}

theorem bind_text?_eq_some {s : String} : given.bind text? = some s ↔ given = some (.str s) := by
  simp [Option.bind_eq_some_iff, text?_eq_some]

theorem bind_elements?_eq_some {elements : List Json} :
    given.bind elements? = some elements ↔ given = some (.arr elements) := by
  simp [Option.bind_eq_some_iff, elements?_eq_some]

theorem bind_elements?_eq_none :
    given.bind elements? = none ↔ ∀ elements, given ≠ some (.arr elements) := by
  simp only [Option.eq_none_iff_forall_ne_some, ne_eq, bind_elements?_eq_some]

theorem bind_nat64?_eq_some {n : Nat} :
    given.bind nat64? = some n ↔ n < 0x10000000000000000 ∧ given = some (.nat n) := by
  simp [Option.bind_eq_some_iff, nat64?_eq_some, and_left_comm]

end Given

end CatalogSearch.Json
