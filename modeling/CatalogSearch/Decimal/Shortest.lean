import CatalogSearch.Decimal.Binary

/-!
# Shortest decimals

The fewest decimal digits that read back as a given finite number: of all decimals in the interval
of reals that round to the number, one with the fewest digits is taken, of those the nearest to
the number, and of two equally near ones the one whose last digit is even.

Everything is exact arithmetic on natural numbers. A decimal of `k` digits lies on a grid of step
`10 ^ s`; if a point of that grid lies in the interval, so does one of the two neighbours of the
number on it, so only those are tried.
-/

namespace CatalogSearch.Decimal

/-- The decimal digits of a natural number, from the highest to the lowest. -/
def digits (n : Nat) : List Nat :=
  (Nat.toDigits 10 n).map fun c => c.toNat - 48

/-- The integer `e` with `10 ^ e ≤ num / den < 10 ^ (e + 1)`, for positive `num` and `den`. -/
def decimalLog (num den : Nat) : Int :=
  if den ≤ num then ((digits (num / den)).length : Int) - 1
  else -((digits ((den - 1) / num)).length : Int)

/-- The reals that round to a positive number, all in one unit: the number is `value * num / den`,
and the interval goes from `low * num / den` to `high * num / den`. -/
structure Interval where
  /-- The number itself. -/
  value : Nat
  /-- The lower end. -/
  low : Nat
  /-- The upper end. -/
  high : Nat
  /-- Whether the two ends belong to the interval. -/
  closed : Bool
  /-- The numerator of the unit. -/
  num : Nat
  /-- The denominator of the unit. -/
  den : Nat

/-- The interval of a finite number other than zero. Its ends are half-way to the neighbouring
numbers; below a power of two the neighbour is half as far. An end rounds to the number when its
mantissa is even. -/
def Interval.around (x : Double) : Interval :=
  let m := x.mantissa
  let narrow := m = 0x10000000000000 ∧ 1 < x.exponentField
  let (num, den) := match x.exponent - 2 with
    | .ofNat k => (Nat.pow 2 k, 1)
    | .negSucc k => (1, Nat.pow 2 (k + 1))
  { value := 4 * m, low := 4 * m - (if narrow then 1 else 2), high := 4 * m + 2,
    closed := m % 2 = 0, num, den }

/-- Whether the interval has the point `c * den` of a grid, the ends being scaled by `num`. -/
def Interval.has (i : Interval) (num den c : Nat) : Bool :=
  if i.closed then i.low * num ≤ c * den && c * den ≤ i.high * num
  else i.low * num < c * den && c * den < i.high * num

/-- The distance of the number to the point `c * den` of a grid, scaled by `num`. -/
def Interval.distance (i : Interval) (num den c : Nat) : Nat :=
  (c * den - i.value * num) + (i.value * num - c * den)

/-- The point of a grid that is taken for the number, if one of its two neighbours on the grid
lies in the interval. -/
def Interval.pick (i : Interval) (num den : Nat) : Option Nat :=
  let c := i.value * num / den
  let d := i.distance num den c
  let d' := i.distance num den (c + 1)
  match i.has num den c, i.has num den (c + 1) with
  | true, true => if d < d' ∨ (d = d' ∧ c % 2 = 0) then some c else some (c + 1)
  | true, false => some c
  | false, true => some (c + 1)
  | false, false => none

/-- A positive decimal: its digits from the highest on and the power of ten of the first. -/
structure Written where
  /-- The digits. The first is not zero, nor is the last. -/
  digits : List Nat
  /-- The power of ten that the first digit counts. -/
  exponent : Int
  deriving DecidableEq

/-- The decimal `c * 10 ^ scale`. -/
def Written.ofScaled (c : Nat) (scale : Int) : Written :=
  let ds := Decimal.digits c
  ⟨(ds.reverse.dropWhile (· == 0)).reverse, scale + ds.length - 1⟩

/-- Try grids of `k`, `k + 1`, … digits; `fuel` of them. -/
def searchGrids (i : Interval) (log : Int) : Nat → Nat → Written
  | 0, k => Written.ofScaled (i.value * i.num / i.den) (log - k)
  | fuel + 1, k =>
    let scale : Int := log - k + 1
    let (num, den) := match scale with
      | .ofNat s => (i.num, i.den * Nat.pow 10 s)
      | .negSucc s => (i.num * Nat.pow 10 (s + 1), i.den)
    match i.pick num den with
    | some c => Written.ofScaled c scale
    | none => searchGrids i log fuel (k + 1)

/-- The shortest decimal of a finite number other than zero, without its sign. Seventeen digits
always suffice. -/
def shortest (x : Double) : Written :=
  let i := Interval.around x
  searchGrids i (decimalLog (i.value * i.num) i.den) 17 1

end CatalogSearch.Decimal
