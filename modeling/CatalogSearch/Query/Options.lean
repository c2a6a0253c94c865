import CatalogSearch.Query.Clauses

/-!
# Options of queries

Which options a query has, and what a sequence of settings leaves: of each option the value that is
given last, and of the boosts of fields all, the later ones in place of the earlier.

## Main definitions

* `Query.options`: the options that a query has.
* `Query.withLatest`: a query with the values that a sequence of settings gives last.
-/

namespace CatalogSearch

/-- The options that can be set. -/
inductive OptionName where
  | boost
  | fuzziness
  | join
  | fieldBoosts
  | minimum
  deriving DecidableEq

namespace Query

/-- The options that a query has. -/
def options : Query → List OptionName
  | .term .. => [.boost]
  | .matchText .. => [.boost, .fuzziness, .join]
  | .multiMatch .. => [.fuzziness, .fieldBoosts]
  | .bool .. => [.minimum]
  | .terms .. | .range .. | .wildcard .. | .queryString .. => []

namespace Setting

/-- The option that is set. -/
def option : Setting → OptionName
  | .boost _ => .boost
  | .fuzziness _ => .fuzziness
  | .join _ => .join
  | .fieldBoosts _ => .fieldBoosts
  | .minimum _ => .minimum

/-- The boost that is given, if one is. -/
def boost? : Setting → Option Double
  | .boost b => some b
  | _ => none

/-- The fuzziness that is given, if one is. -/
def fuzziness? : Setting → Option Fuzziness
  | .fuzziness z => some z
  | _ => none

/-- The join that is given, if one is. -/
def join? : Setting → Option Join
  | .join j => some j
  | _ => none

/-- The boosts of fields that are given, if any are. -/
def fieldBoosts? : Setting → Option (List (String × Double))
  | .fieldBoosts l => some l
  | _ => none

/-- The least number of alternatives that is given, if one is. -/
def minimum? : Setting → Option Nat
  | .minimum n => some n
  | _ => none

end Setting

/-- Set options one after the other. -/
def setAll (q : Query) (l : List Setting) : Query := l.foldl set q

/-- What a sequence of settings gives last. -/
def latest? {β : Type} (given? : Setting → Option β) (l : List Setting) : Option β :=
  (l.filterMap given?).getLast?

/-- A query in which each of its options has the value that is given last, if one is, and the
boosts of fields are those of all settings. -/
def withLatest (l : List Setting) : Query → Query
  | .term f v b => .term f v ((latest? Setting.boost? l).or b)
  | .matchText f v b z j =>
    .matchText f v ((latest? Setting.boost? l).or b) ((latest? Setting.fuzziness? l).or z)
      ((latest? Setting.join? l).or j)
  | .multiMatch fs v bs z =>
    .multiMatch fs v (bs.extend (l.filterMap Setting.fieldBoosts?).flatten)
      ((latest? Setting.fuzziness? l).or z)
  | .bool m s x n => .bool m s x ((latest? Setting.minimum? l).or n)
  | q => q

end Query

end CatalogSearch
