import CatalogSearch.Decimal.Shortest

/-!
# Layouts of decimals

How the shortest decimal of a number is laid out as text. What differs from one use to another is
one record: which exponents are written positionally, and whether a whole number gets `.0`.
-/

namespace CatalogSearch.Decimal

/-- The choices that turn a decimal into text. -/
structure Layout where
  /-- The exponents `e` with `lo ≤ e < hi` are written positionally, or all of them. -/
  positional : Option (Int × Int)
  /-- Whether a whole number in positional form ends in `.0`. -/
  wholePoint : Bool

/-- The text of a list of digits. -/
def digitText (ds : List Nat) : String :=
  String.ofList (ds.map fun d => Char.ofNat (48 + d))

/-- A decimal written out with a point and no exponent. -/
def Written.positional (w : Written) (wholePoint : Bool) : String :=
  match w.exponent with
  | .negSucc z => "0." ++ digitText (List.replicate z 0 ++ w.digits)
  | .ofNat e =>
    let whole := w.digits.take (e + 1)
    let zeros := List.replicate (e + 1 - w.digits.length) 0
    let rest := w.digits.drop (e + 1)
    let tail := if rest.isEmpty then (if wholePoint then ".0" else "") else "." ++ digitText rest
    digitText (whole ++ zeros) ++ tail

/-- A decimal written with one digit before the point and a signed exponent. -/
def Written.scientific (w : Written) : String :=
  let rest := w.digits.drop 1
  let point := if rest.isEmpty then "" else "." ++ digitText rest
  let sign := if w.exponent < 0 then "e-" else "e+"
  digitText (w.digits.take 1) ++ point ++ sign ++ toString w.exponent.natAbs

/-- A decimal in a layout. -/
def Layout.write (l : Layout) (w : Written) : String :=
  let inside := match l.positional with
    | none => true
    | some (lo, hi) => lo ≤ w.exponent && w.exponent < hi
  if inside then w.positional l.wholePoint else w.scientific

/-- The text of a number in a layout: the shortest decimal that reads back as it. -/
def Layout.text (l : Layout) (x : Double) : String :=
  let sign := if x.isNegative then "-" else ""
  if x.isFinite then
    if x.magnitude = 0 then sign ++ (if l.wholePoint then "0.0" else "0")
    else sign ++ l.write (shortest x)
  else if x.isInfinite then sign ++ "inf"
  else "NaN"

end CatalogSearch.Decimal
