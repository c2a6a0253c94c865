/-!
# Punycode

A label of a host name that is not in ASCII is written in ASCII: its ASCII characters come first,
and the others follow as a sequence of numbers in increasing order of code points, each telling how
far the next insertion is from the last one. The numbers are written with digits of varying weight,
least weight first, so that no separator is needed between them.
-/

namespace CatalogSearch.Net.Punycode

/-- The digit of a number below 36. -/
def digit (n : Nat) : Char := Char.ofNat (if n < 26 then 0x61 + n else 0x30 + (n - 26))

/-- The least number that is not the last digit at a place, `place` being 36 for the first digit
and 36 more for each further one. -/
def threshold (bias place : Nat) : Nat := min 26 (max 1 (place - bias))

theorem threshold_pos (bias place : Nat) : 1 ≤ threshold bias place := by
  unfold threshold; omega

/-- A number in digits of varying weight. -/
def number (bias place n : Nat) : List Char :=
  let t := threshold bias place
  if _h : n < t then [digit n]
  else digit (t + (n - t) % (36 - t)) :: number bias (place + 36) ((n - t) / (36 - t))
termination_by n
decreasing_by
  have := threshold_pos bias place
  exact Nat.lt_of_le_of_lt (Nat.div_le_self _ _) (by omega)

/-- How the bias follows the size of the numbers. -/
def settle (delta place : Nat) : Nat :=
  if h : 455 < delta then settle (delta / 35) (place + 36)
  else place + 36 * delta / (delta + 38)
termination_by delta
decreasing_by omega

/-- The bias after a number has been written, `count` characters being placed by then. -/
def adapt (delta count : Nat) (first : Bool) : Nat :=
  let scaled := if first then delta / 700 else delta / 2
  settle (scaled + scaled / count) 0

/-- The state of the writer. -/
structure Writer where
  /-- What is written, the last character first. -/
  out : List Char
  /-- How far the next insertion is from the last one. -/
  delta : Nat
  bias : Nat
  /-- How many characters have been placed. -/
  placed : Nat
  /-- No number has been written. -/
  first : Bool

/-- One character of the label is looked at while those of one code point are placed. -/
def Writer.look (code : Nat) (w : Writer) (c : Char) : Writer :=
  if c.toNat < code then { w with delta := w.delta + 1 }
  else if c.toNat = code then
    { out := (number w.bias 36 w.delta).reverse ++ w.out
      delta := 0
      bias := adapt w.delta (w.placed + 1) w.first
      placed := w.placed + 1
      first := false }
  else w

/-- Place the characters of the given code points, which increase from `lowest` on. -/
def Writer.place (label : List Char) (lowest : Nat) (w : Writer) : List Nat → Writer
  | [] => w
  | code :: codes =>
    let skipped := { w with delta := w.delta + (code - lowest) * (w.placed + 1) }
    let passed := label.foldl (Writer.look code) skipped
    Writer.place label (code + 1) { passed with delta := passed.delta + 1 } codes

/-- The code points of a label that are not of ASCII, in increasing order. -/
def foreignCodes (label : List Char) : List Nat :=
  (((label.filter fun c => 0x80 ≤ c.toNat).map Char.toNat).mergeSort (· ≤ ·)).eraseDups

/-- A label in ASCII. -/
def encode (label : List Char) : List Char :=
  let basic := label.filter fun c => c.toNat < 0x80
  let start : Writer := ⟨[], 0, 72, basic.length, true⟩
  basic ++ (if basic.isEmpty then [] else ['-']) ++
    (Writer.place label 0x80 start (foreignCodes label)).out.reverse

/-- A label of a host name: one that is not in ASCII is encoded and marked. -/
def label (cs : List Char) : List Char :=
  if cs.all fun c => c.toNat < 0x80 then cs else 'x' :: 'n' :: '-' :: '-' :: encode cs

end CatalogSearch.Net.Punycode
