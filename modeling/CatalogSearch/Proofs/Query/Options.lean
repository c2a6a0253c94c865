import CatalogSearch.Proofs.Query.Boosts
import CatalogSearch.Query.Options

/-!
# Options are set independently

A setting in front of others gives a value that lasts unless a later one gives another
(`withLatest_cons`), so a sequence of settings leaves the values that are given last
(`setAll_eq`). What is given last of one option can be seen from the settings of this option alone
(`filterMap_given_congr`), so that it makes no difference how the settings of different options are
mixed (`options_are_independent`).
-/

namespace CatalogSearch.Query

variable {β : Type} {l l' : List Setting}

/-! ## The last of several settings -/

theorem latest?_cons (given? : Setting → Option β) (s : Setting) (l : List Setting) :
    latest? given? (s :: l) = (latest? given? l).or (given? s) := by
  simp only [latest?, List.getLast?_filterMap, List.reverse_cons, List.findSome?_append,
    List.findSome?_singleton]

/-- Boosts that are given one after the other are added one after the other. -/
theorem extend_append (bs : FieldMap Double) (added added' : List (String × Double)) :
    bs.extend (added ++ added') = (bs.extend added).extend added' :=
  List.foldl_append

theorem withLatest_nil (q : Query) : q.withLatest [] = q := by
  cases q <;> rfl

/-- A setting in front of others lasts unless a later one sets the same option. -/
theorem withLatest_cons (q : Query) (s : Setting) (l : List Setting) :
    q.withLatest (s :: l) = (q.set s).withLatest l := by
  -- every kind of query against every operation: the setting is the query's own, or is passed over
  cases q <;> cases s <;>
    simp [withLatest, latest?_cons, List.filterMap_cons, extend_append, set, withBoost,
      withFuzziness, withJoin, withFieldBoosts, withMinimum, Setting.boost?, Setting.fuzziness?,
      Setting.join?, Setting.fieldBoosts?, Setting.minimum?]

/-- A sequence of settings leaves of each option the value that is given last. -/
theorem setAll_eq (q : Query) (l : List Setting) : q.setAll l = q.withLatest l := by
  induction l generalizing q with
  | nil => exact (withLatest_nil q).symm
  | cons s l ih =>
    rw [withLatest_cons, ← ih]
    rfl

/-! ## Settings of different options -/

/-- What is given of an option can be seen from the settings of this option alone. -/
theorem filterMap_given_congr {given? : Setting → Option β} {o : OptionName}
    (own : ∀ s, s.option ≠ o → given? s = none)
    (same : l.filter (·.option = o) = l'.filter (·.option = o)) :
    l.filterMap given? = l'.filterMap given? := by
  have restricted (l : List Setting) :
      (l.filter (·.option = o)).filterMap given? = l.filterMap given? := by
    rw [List.filterMap_filter]
    congr 1
    funext s
    by_cases mine : s.option = o
    · simp [mine]
    · simp [mine, own s mine]
  rw [← restricted l, same, restricted l']

/-- A setting gives values of its own option only. -/
theorem given_eq_none (s : Setting) :
    (s.option ≠ .boost → s.boost? = none) ∧ (s.option ≠ .fuzziness → s.fuzziness? = none) ∧
      (s.option ≠ .join → s.join? = none) ∧ (s.option ≠ .fieldBoosts → s.fieldBoosts? = none) ∧
      (s.option ≠ .minimum → s.minimum? = none) := by
  cases s <;> simp [Setting.option, Setting.boost?, Setting.fuzziness?, Setting.join?,
    Setting.fieldBoosts?, Setting.minimum?]

theorem withLatest_congr (same : ∀ o, l.filter (·.option = o) = l'.filter (·.option = o))
    (q : Query) : q.withLatest l = q.withLatest l' := by
  have boosts := filterMap_given_congr (fun s => (given_eq_none s).1) (same .boost)
  have fuzziness := filterMap_given_congr (fun s => (given_eq_none s).2.1) (same .fuzziness)
  have joins := filterMap_given_congr (fun s => (given_eq_none s).2.2.1) (same .join)
  have fieldBoosts := filterMap_given_congr (fun s => (given_eq_none s).2.2.2.1) (same .fieldBoosts)
  have minima := filterMap_given_congr (fun s => (given_eq_none s).2.2.2.2) (same .minimum)
  cases q <;> simp only [withLatest, latest?, boosts, fuzziness, joins, fieldBoosts, minima]

/-! ## Settings of options that a query has not -/

theorem set_of_notMem {q : Query} {s : Setting} (other : s.option ∉ q.options) : q.set s = q := by
  -- a setting of another option falls to the last case of `set`; one of its own is excluded
  cases q <;> cases s <;> first | rfl | simp [Setting.option, options] at other

theorem setAll_of_notMem {q : Query} (others : ∀ s ∈ l, s.option ∉ q.options) :
    q.setAll l = q := by
  induction l with
  | nil => rfl
  | cons s l ih =>
    have unchanged : q.set s = q := set_of_notMem (others s List.mem_cons_self)
    rw [setAll, List.foldl_cons, unchanged]
    exact ih fun s mem => others s (List.mem_cons_of_mem _ mem)

/-- **Options are set independently, and the last value stays.** A sequence of settings leaves a
query as it was, the queries in it included, but for its own options: each of them has the value
that the sequence gives it last, if it gives one, and each field has the boost that it is given
last. So two sequences leave the same query, and the same rendered query, if they have the same
settings of each option in the same order, however those of different options are mixed; and
settings of options that a query does not have leave it as it was. -/
theorem options_are_independent :
    (∀ (q : Query) (l : List Setting), q.setAll l = q.withLatest l) ∧
    (∀ (boosts : FieldMap Double) (l : List Setting) (field : String),
      (boosts.extend (l.filterMap Setting.fieldBoosts?).flatten).get? field =
        latestBoost? boosts (l.filterMap Setting.fieldBoosts?) field) ∧
    (∀ (q : Query) (l l' : List Setting),
      (∀ o, l.filter (·.option = o) = l'.filter (·.option = o)) →
      q.setAll l = q.setAll l' ∧ (q.setAll l).render = (q.setAll l').render) ∧
    ∀ (q : Query) (l : List Setting), (∀ s ∈ l, s.option ∉ q.options) → q.setAll l = q := by
  refine ⟨setAll_eq, fun boosts l field => get?_extend_flatten boosts _ field, ?_, ?_⟩
  · intro q l l' same
    have queries : q.setAll l = q.setAll l' := by
      rw [setAll_eq, withLatest_congr same, setAll_eq]
    exact ⟨queries, congrArg render queries⟩
  · intro q l others
    exact setAll_of_notMem others

/-- A combination keeps the queries in it and takes the last number of alternatives, wherever the
settings stand that are none of its own. -/
theorem options_are_independent_of_combination :
    let two := Double.ofInt 2
    let q : Query := .bool [containing "name" (.str "jay")] [] [exactly "status" (.nat 0)] none
    let l : List Setting := [.minimum 1, .boost two, .minimum 3, .fuzziness .auto]
    let l' : List Setting := [.fuzziness .auto, .minimum 1, .minimum 3, .boost two]
    q.setAll l = .bool [containing "name" (.str "jay")] [] [exactly "status" (.nat 0)] (some 3) ∧
      q.setAll l = q.setAll l' ∧ q.setAll [.boost two, .fuzziness .auto] = q := by
  intro two q l l'
  obtain ⟨latest, -, mixed, others⟩ := options_are_independent
  have same (o : OptionName) : l.filter (·.option = o) = l'.filter (·.option = o) := by
    cases o <;> rfl
  refine ⟨(latest q l).trans rfl, (mixed q l l' same).1, others q _ ?_⟩
  simp [Setting.option, q, options]

end CatalogSearch.Query
