/-!
# Binary numbers of 64 bits

A `Double` is a number in the 64-bit binary format, held as its bit pattern: one sign bit, eleven
exponent bits and fifty-two mantissa bits. A finite one is `± mantissa * 2 ^ exponent` with natural
`mantissa` and an integer `exponent`, so everything here is exact arithmetic on natural numbers.

## Main definitions

* `Double.mantissa`, `Double.exponent`: the value of a finite number.
* `Double.nearest`: the number nearest to a quotient of natural numbers, of two the one with the
  even mantissa.
* `Double.ofScaled`: the number read for a significand and a power of ten.
-/

namespace CatalogSearch

/-- A number in the 64-bit binary format, by its bit pattern. -/
structure Double where
  /-- Sign, exponent and mantissa, from the highest bit to the lowest. -/
  bits : UInt64
  deriving DecidableEq, Inhabited

namespace Double

/-- The bit pattern as a natural number. -/
def pattern (x : Double) : Nat := x.bits.toNat

/-- Whether the sign bit is set. -/
def isNegative (x : Double) : Bool := 0x8000000000000000 ≤ x.pattern

/-- The pattern without the sign bit. -/
def magnitude (x : Double) : Nat := x.pattern % 0x8000000000000000

/-- The pattern of an infinite magnitude: all exponent bits and no mantissa bit. -/
def infiniteMagnitude : Nat := 0x7FF0000000000000

/-- Whether the number is neither infinite nor NaN. -/
def isFinite (x : Double) : Bool := x.magnitude < infiniteMagnitude

/-- Whether the number is infinite. -/
def isInfinite (x : Double) : Bool := x.magnitude == infiniteMagnitude

/-- The eleven exponent bits. -/
def exponentField (x : Double) : Nat := x.magnitude / 0x10000000000000

/-- The natural number that a finite number is a multiple of a power of two of. -/
def mantissa (x : Double) : Nat :=
  if x.exponentField = 0 then x.magnitude else x.magnitude % 0x10000000000000 + 0x10000000000000

/-- The power of two that goes with `mantissa`. -/
def exponent (x : Double) : Int :=
  (max x.exponentField 1 : Nat) - 1075

/-- The number of a sign and a magnitude pattern. -/
def ofMagnitude (negative : Bool) (magnitude : Nat) : Double :=
  ⟨UInt64.ofNat ((if negative then 0x8000000000000000 else 0) + magnitude)⟩

/-- Plus or minus infinity. -/
def infinity (negative : Bool) : Double := ofMagnitude negative infiniteMagnitude

/-- The number that is not a number. -/
def nan : Double := ofMagnitude false (infiniteMagnitude + 0x8000000000000)

/-- The quotient rounded to the nearest natural number, a half to the even neighbour. -/
def roundDiv (num den : Nat) : Nat :=
  let q := num / den
  let r := num % den
  if 2 * r < den then q else if den < 2 * r then q + 1 else q + q % 2

/-- The integer `e` with `2 ^ e ≤ num / den < 2 ^ (e + 1)`, for positive `num` and `den`. -/
def binaryLog (num den : Nat) : Int :=
  let e : Int := (Nat.log2 num : Int) - Nat.log2 den
  let below : Bool := match e with
    | .ofNat k => num < den * Nat.pow 2 k
    | .negSucc k => num * Nat.pow 2 (k + 1) < den
  if below then e - 1 else e

/-- The number nearest to `num / den`; infinite when that is past the largest finite one. -/
def nearest (negative : Bool) (num den : Nat) : Double :=
  if num = 0 then ofMagnitude negative 0
  else
    let q : Int := max (binaryLog num den - 52) (-1074)
    let m := match q with
      | .ofNat k => roundDiv num (den * Nat.pow 2 k)
      | .negSucc k => roundDiv (num * Nat.pow 2 (k + 1)) den
    let magnitude := (q + 1074).toNat * 0x10000000000000 + m
    if infiniteMagnitude ≤ magnitude then infinity negative else ofMagnitude negative magnitude

/-- The number nearest to an integer. -/
def ofInt (n : Int) : Double := nearest (n < 0) n.natAbs 1

/-- The value of a finite magnitude as a quotient of natural numbers. -/
def quotient (x : Double) : Nat × Nat :=
  match x.exponent with
  | .ofNat k => (x.mantissa * Nat.pow 2 k, 1)
  | .negSucc k => (x.mantissa, Nat.pow 2 (k + 1))

/-- The product of two positive numbers, rounded. -/
def times (x y : Double) : Double :=
  if x.isFinite && y.isFinite then
    nearest false (x.quotient.1 * y.quotient.1) (x.quotient.2 * y.quotient.2)
  else infinity false

/-- The quotient of two positive numbers, rounded. -/
def dividedBy (x y : Double) : Double :=
  nearest false (x.quotient.1 * y.quotient.2) (x.quotient.2 * y.quotient.1)

/-- The number nearest to a power of ten. -/
def powerOfTen (n : Nat) : Double := nearest false (Nat.pow 10 n) 1

/-- The greatest power of ten that is a finite number. -/
def maxPowerOfTen : Nat := 308

/-- A positive number divided by `10 ^ k`, in steps of at most `maxPowerOfTen`. -/
def scaleDown (x : Double) (k : Nat) : Double :=
  if x.magnitude = 0 then x
  else if k ≤ maxPowerOfTen then x.dividedBy (powerOfTen k)
  else scaleDown (x.dividedBy (powerOfTen maxPowerOfTen)) (k - maxPowerOfTen)
termination_by k
decreasing_by
  have : 0 < maxPowerOfTen := by decide
  omega

/-- The number read for `± significand * 10 ^ scale`: the significand is rounded first and the
result is then multiplied or divided by a rounded power of ten. There is none when the result is
past the largest finite number. -/
def ofScaled (negative : Bool) (significand : Nat) (scale : Int) : Option Double :=
  let x := nearest false significand 1
  let signed (y : Double) : Double := ofMagnitude negative y.magnitude
  match scale with
  | .ofNat k =>
    if k ≤ maxPowerOfTen then
      let y := x.times (powerOfTen k)
      if y.isFinite then some (signed y) else none
    else if significand = 0 then some (signed x)
    else none
  | .negSucc k => some (signed (scaleDown x (k + 1)))

end Double

end CatalogSearch
