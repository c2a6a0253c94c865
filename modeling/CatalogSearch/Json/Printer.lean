import CatalogSearch.Json.Basic
import CatalogSearch.Decimal.Layout
import CatalogSearch.Text.Hex

/-!
# Writing JSON text

The compact text of a value: no spaces, members in name order, numbers by the fewest digits that
read back. In strings the quote, the backslash and the control characters below U+0020 are
escaped; all other characters are written as they are, or as `\u` escapes where only ASCII is
wanted.
-/

namespace CatalogSearch.Json

/-- Binary numbers are written positionally when the power of ten of the first digit is from -5 to
15, with at least one digit after the point, and in scientific form otherwise. -/
def numberLayout : Decimal.Layout := ⟨some (-5, 16), true⟩

/-- The four hexadecimal digits of a 16-bit unit. -/
def hexUnit (n : Nat) : List Char :=
  [n / 4096 % 16, n / 256 % 16, n / 16 % 16, n % 16].map Text.hexDigit

/-- The `\u` escape of a 16-bit unit. -/
def unitEscape (n : Nat) : List Char := '\\' :: 'u' :: hexUnit n

/-- The escape of a character: one unit, or two surrogates past the first 65536 code points. -/
def charEscape (c : Char) : List Char :=
  let n := c.toNat
  if n < 0x10000 then unitEscape n
  else unitEscape (0xD800 + (n - 0x10000) / 1024) ++ unitEscape (0xDC00 + (n - 0x10000) % 1024)

/-- How a character is written inside a string. -/
def writeChar (asciiOnly : Bool) (c : Char) : List Char :=
  if c = '"' then ['\\', '"']
  else if c = '\\' then ['\\', '\\']
  else if c = '\n' then ['\\', 'n']
  else if c = '\r' then ['\\', 'r']
  else if c = '\t' then ['\\', 't']
  else if c = Char.ofNat 8 then ['\\', 'b']
  else if c = Char.ofNat 12 then ['\\', 'f']
  else if c.toNat < 32 then unitEscape c.toNat
  else if asciiOnly && 127 ≤ c.toNat then charEscape c
  else [c]

/-- A string in quotes. -/
def writeString (asciiOnly : Bool) (s : String) : String :=
  String.ofList ('"' :: s.toList.flatMap (writeChar asciiOnly) ++ ['"'])

mutual

/-- The text of a value. -/
def write (asciiOnly : Bool) : Json → String
  | .null => "null"
  | .bool true => "true"
  | .bool false => "false"
  | .int n => toString n
  | .float x => if x.isFinite then numberLayout.text x else "null"
  | .str s => writeString asciiOnly s
  | .arr elements => "[" ++ writeElements asciiOnly elements ++ "]"
  | .obj members => "\x7b" ++ writeMembers asciiOnly members ++ "\x7d"

/-- The elements of an array, with commas between them. -/
def writeElements (asciiOnly : Bool) : List Json → String
  | [] => ""
  | [v] => write asciiOnly v
  | v :: vs => write asciiOnly v ++ "," ++ writeElements asciiOnly vs

/-- The members of an object, with commas between them. -/
def writeMembers (asciiOnly : Bool) : List (String × Json) → String
  | [] => ""
  | [(k, v)] => writeString asciiOnly k ++ ":" ++ write asciiOnly v
  | (k, v) :: rest =>
    writeString asciiOnly k ++ ":" ++ write asciiOnly v ++ "," ++ writeMembers asciiOnly rest

end

/-- The compact text of a value. -/
def render (v : Json) : String := write false v

/-- The compact text of a value in ASCII characters. -/
def renderAscii (v : Json) : String := write true v

end CatalogSearch.Json
