import CatalogSearch.Json.Basic
import CatalogSearch.Text.Hex

/-!
# Reading JSON text

`Json.parse?` reads a whole text as one value. Between tokens it skips spaces, tabs and line ends.
Integers from `-2 ^ 63` to `2 ^ 64 - 1` stay integers, all other numbers (and `-0`) become binary
numbers; a number past the largest binary number is refused, and so are lone surrogates, control
characters in strings, and values nested more than `maxDepth` deep. Of two members with the same
name the later one stays.
-/

namespace CatalogSearch.Json

/-- Arrays and objects may be nested this deep. -/
def maxDepth : Nat := 127

/-- Whether a character may stand between tokens. -/
def isSpace (c : Char) : Bool := c == ' ' || c == '\n' || c == '\t' || c == '\r'

/-- A text without the space at its start. -/
def skipSpace (cs : List Char) : List Char := cs.dropWhile isSpace

/-! ## Numbers -/

/-- The value of a decimal digit. -/
def digitValue (c : Char) : Nat := c.toNat - 48

/-- The greatest integer that is kept as one. -/
def maxInteger : Nat := 0xFFFFFFFFFFFFFFFF

/-- Add digits to a significand as long as it does not pass `maxInteger`; the rest of the text
starts with the first digit that does not fit, or with the first character that is no digit. The
count says how many digits were added. -/
def takeDigits (significand count : Nat) : List Char → Nat × Nat × List Char
  | [] => (significand, count, [])
  | c :: cs =>
    if c.isDigit && significand * 10 + digitValue c ≤ maxInteger then
      takeDigits (significand * 10 + digitValue c) (count + 1) cs
    else (significand, count, c :: cs)

/-- The digits at the start of a text as a number, and the text after them. -/
def digitRun (cs : List Char) : List Char × List Char := cs.span Char.isDigit

/-- The greatest exponent that is looked at. -/
def maxExponent : Nat := 0x7FFFFFFF

/-- A number with the significand read so far, after its exponent sign `e`. -/
def readExponent (negative : Bool) (significand : Nat) (scale : Int) (cs : List Char) :
    Option (Double × List Char) :=
  let (down, cs) := match cs with
    | '+' :: cs => (false, cs)
    | '-' :: cs => (true, cs)
    | cs => (false, cs)
  let (ds, rest) := digitRun cs
  if ds.isEmpty then none
  else
    let e := ds.foldl (fun n c => n * 10 + digitValue c) 0
    if maxExponent < e then
      if significand = 0 || down then some (Double.ofMagnitude negative 0, rest) else none
    else
      (Double.ofScaled negative significand (if down then scale - e else scale + e)).map (·, rest)

/-- A number with the significand read so far, after the digits that were taken or dropped. -/
def readScaled (negative : Bool) (significand : Nat) (scale : Int) :
    List Char → Option (Double × List Char)
  | 'e' :: cs | 'E' :: cs => readExponent negative significand scale cs
  | cs => (Double.ofScaled negative significand scale).map (·, cs)

/-- A number with the significand read so far, after its decimal point. Digits past the greatest
significand are dropped. -/
def readFraction (negative : Bool) (significand : Nat) (scale : Int) (cs : List Char) :
    Option (Double × List Char) :=
  let (significand', count, rest) := takeDigits significand 0 cs
  let (dropped, rest) := digitRun rest
  if count = 0 && dropped.isEmpty then none
  else readScaled negative significand' (scale - count) rest

/-- A number after its sign. -/
def readNumber (negative : Bool) (cs : List Char) : Option (Json × List Char) :=
  let asFloat (r : Option (Double × List Char)) : Option (Json × List Char) :=
    r.map fun (x, rest) => (.float x, rest)
  let (significand, count, rest) := takeDigits 0 0 cs
  let leadingZero := cs.head? = some '0'
  if count = 0 || (leadingZero && 1 < count) then none
  else
    match rest with
    | '.' :: rest => asFloat (readFraction negative significand 0 rest)
    | 'e' :: rest | 'E' :: rest => asFloat (readExponent negative significand 0 rest)
    | c :: _ =>
      if c.isDigit then
        if leadingZero then none
        else
          let (dropped, rest) := digitRun rest
          match rest with
          | '.' :: rest => asFloat (readFraction negative significand dropped.length rest)
          | rest => asFloat (readScaled negative significand dropped.length rest)
      else integer significand rest
    | [] => integer significand rest
where
  /-- An integer; the negative of zero or of a number past `2 ^ 63` is a binary number. -/
  integer (significand : Nat) (rest : List Char) : Option (Json × List Char) :=
    if negative then
      if significand = 0 || 0x8000000000000000 < significand then
        some (.float (Double.nearest true significand 1), rest)
      else some (.int (-significand), rest)
    else some (.int significand, rest)

/-! ## Strings -/

/-- The 16-bit unit of four hexadecimal digits. -/
def hexUnit? (a b c d : Char) : Option Nat := do
  let a ← Text.hexValue? a
  let b ← Text.hexValue? b
  let c ← Text.hexValue? c
  let d ← Text.hexValue? d
  return a * 4096 + b * 256 + c * 16 + d

/-- The character of an escape of one letter. -/
def shortEscape (c : Char) : Option Char :=
  if c = '"' || c = '\\' || c = '/' then some c
  else if c = 'b' then some (Char.ofNat 8)
  else if c = 'f' then some (Char.ofNat 12)
  else if c = 'n' then some '\n'
  else if c = 'r' then some '\r'
  else if c = 't' then some '\t'
  else none

/-- The rest of a string after its opening quote, `done` holding the characters read so far in
reverse. -/
def readString (done : List Char) : List Char → Option (String × List Char)
  | [] => none
  | '"' :: rest => some (String.ofList done.reverse, rest)
  | '\\' :: 'u' :: a :: b :: c :: d :: rest =>
    match hexUnit? a b c d with
    | none => none
    | some n =>
      if 0xD800 ≤ n && n < 0xDC00 then
        match rest with
        | '\\' :: 'u' :: a' :: b' :: c' :: d' :: rest' =>
          match hexUnit? a' b' c' d' with
          | none => none
          | some n' =>
            if 0xDC00 ≤ n' && n' < 0xE000 then
              readString
                (Char.ofNat (0x10000 + (n - 0xD800) * 1024 + (n' - 0xDC00)) :: done) rest'
            else none
        | _ => none
      else if 0xDC00 ≤ n && n < 0xE000 then none
      else readString (Char.ofNat n :: done) rest
  | '\\' :: c :: rest =>
    match shortEscape c with
    | some c => readString (c :: done) rest
    | none => none
  | c :: rest => if c.toNat < 32 || c = '\\' then none else readString (c :: done) rest

/-! ## Values -/

/-- The text after a given word. -/
def afterWord (w : List Char) (cs : List Char) : Option (List Char) :=
  if w.isPrefixOf cs then some (cs.drop w.length) else none

mutual

/-- A value at the start of a text. Each call takes one of `fuel`, and each pair of calls takes a
character. -/
def readValue (depth : Nat) : Nat → List Char → Option (Json × List Char)
  | 0, _ => none
  | fuel + 1, cs =>
    match skipSpace cs with
    | 'n' :: cs => (afterWord ['u', 'l', 'l'] cs).map (.null, ·)
    | 't' :: cs => (afterWord ['r', 'u', 'e'] cs).map (.bool true, ·)
    | 'f' :: cs => (afterWord ['a', 'l', 's', 'e'] cs).map (.bool false, ·)
    | '"' :: cs => (readString [] cs).map fun (s, rest) => (.str s, rest)
    | '-' :: cs => readNumber true cs
    | '[' :: cs =>
      match depth, skipSpace cs with
      | 0, _ => none
      | _, ']' :: rest => some (.arr [], rest)
      | depth + 1, cs =>
        (readElements depth fuel cs).map fun (vs, rest) => (.arr vs, rest)
    | '\x7b' :: cs =>
      match depth, skipSpace cs with
      | 0, _ => none
      | _, '\x7d' :: rest => some (.obj [], rest)
      | depth + 1, cs =>
        (readMembers depth fuel cs).map fun (ms, rest) => (record ms, rest)
    | cs => readNumber false cs

/-- The elements of an array up to its closing bracket. -/
def readElements (depth : Nat) : Nat → List Char → Option (List Json × List Char)
  | 0, _ => none
  | fuel + 1, cs =>
    match readValue depth fuel cs with
    | none => none
    | some (v, rest) =>
      match skipSpace rest with
      | ',' :: rest => (readElements depth fuel rest).map fun (vs, rest) => (v :: vs, rest)
      | ']' :: rest => some ([v], rest)
      | _ => none

/-- The members of an object up to its closing brace. -/
def readMembers (depth : Nat) : Nat → List Char → Option (List (String × Json) × List Char)
  | 0, _ => none
  | fuel + 1, cs =>
    match skipSpace cs with
    | '"' :: cs =>
      match readString [] cs with
      | none => none
      | some (k, rest) =>
        match skipSpace rest with
        | ':' :: rest =>
          match readValue depth fuel rest with
          | none => none
          | some (v, rest) =>
            match skipSpace rest with
            | ',' :: rest =>
              (readMembers depth fuel rest).map fun (ms, rest) => ((k, v) :: ms, rest)
            | '\x7d' :: rest => some ([(k, v)], rest)
            | _ => none
        | _ => none
    | _ => none

end

/-- The value of a whole text. -/
def parse? (text : String) : Option Json :=
  let cs := text.toList
  match readValue maxDepth (2 * cs.length + 2) cs with
  | some (v, rest) => if (skipSpace rest).isEmpty then some v else none
  | none => none

end CatalogSearch.Json
