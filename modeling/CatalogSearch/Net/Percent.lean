import CatalogSearch.Text.Hex

/-!
# Percent-encoding

A character that may not stand in some part of an address is written as the bytes of its UTF-8
form, each byte as a percent sign and two hexadecimal digits. Form-encoding, the way in which
parameters are written into a query, differs only in the characters it keeps and in writing a plus
sign for a space.
-/

namespace CatalogSearch.Net

/-- The bytes of a text in UTF-8. -/
def utf8Bytes (cs : List Char) : List UInt8 := cs.flatMap String.utf8EncodeChar

/-- A byte as a percent sign and two digits. -/
def percentByte (b : UInt8) : List Char :=
  ['%', Text.capitalHexDigit (b.toNat / 16), Text.capitalHexDigit (b.toNat % 16)]

/-- A character with each of its bytes percent-encoded. -/
def percentChar (c : Char) : List Char := (String.utf8EncodeChar c).flatMap percentByte

/-- Percent-encode the characters that must not stand as they are. -/
def percentEncode (escaped : Char → Bool) (cs : List Char) : List Char :=
  cs.flatMap fun c => if escaped c then percentChar c else [c]

/-- The bytes of a percent-encoded text. A percent sign that two digits do not follow stands for
itself. -/
def percentDecode : List Char → List UInt8
  | [] => []
  | c :: cs =>
    match c, cs with
    | '%', h :: l :: rest =>
      match Text.hexValue? h, Text.hexValue? l with
      | some a, some b => UInt8.ofNat (16 * a + b) :: percentDecode rest
      | _, _ => String.utf8EncodeChar '%' ++ percentDecode (h :: l :: rest)
    | c, cs => String.utf8EncodeChar c ++ percentDecode cs

/-- The text of bytes in UTF-8, if they are such. -/
def textOfBytes? (bytes : List UInt8) : Option String := String.fromUTF8? ⟨bytes.toArray⟩

/-- Whether a character is a control of ASCII or not of ASCII at all: it is escaped everywhere. -/
def isControlOrForeign (c : Char) : Bool := c.toNat < 0x20 || 0x7F ≤ c.toNat

/-- The characters escaped in a fragment. -/
def escapedInFragment (c : Char) : Bool :=
  isControlOrForeign c || [' ', '"', '<', '>', '`'].contains c

/-- The characters escaped in the segments of a path. -/
def escapedInPath (c : Char) : Bool :=
  escapedInFragment c || ['#', '?', '\x7b', '\x7d'].contains c

/-- The characters escaped in a query. -/
def escapedInQuery (c : Char) : Bool :=
  isControlOrForeign c || [' ', '"', '#', '<', '>'].contains c

/-- The characters escaped in the query of an address of the web. -/
def escapedInWebQuery (c : Char) : Bool := escapedInQuery c || c == '\x27'

/-- The characters escaped in a user name or a password. -/
def escapedInUser (c : Char) : Bool :=
  escapedInPath c || ['/', ':', ';', '=', '@', '[', '\\', ']', '^', '|'].contains c

/-- Whether a character of a form stands for itself. -/
def keptInForm (c : Char) : Bool :=
  (c.toNat < 0x80 && c.isAlphanum) || ['*', '-', '.', '_'].contains c

/-- Form-encode a text. -/
def formEncode (cs : List Char) : List Char :=
  cs.flatMap fun c => if c = ' ' then ['+'] else if keptInForm c then [c] else percentChar c

/-- A parameter of a query. -/
def formPair (name value : String) : List Char :=
  formEncode name.toList ++ '=' :: formEncode value.toList

end CatalogSearch.Net
