import CatalogSearch.Net.Percent
import CatalogSearch.Net.Punycode
import CatalogSearch.Text.Blank
import CatalogSearch.Text.LetterCase

/-!
# Hosts

The host of an address is a name, an address of version 4, or an address of version 6 in brackets.
Each host has one written form: names are in small letters, addresses of version 4 are four
decimal numbers, and the longest run of zeros in an address of version 6 is left out.
-/

namespace CatalogSearch.Net

/-- What is wrong with a text that is to be an address. -/
inductive AddressError where
  /-- It has no scheme, and there is nothing that it is relative to. -/
  | relativeWithoutBase
  /-- It is relative to an address without hierarchy. -/
  | relativeToFlatBase
  | emptyHost
  | invalidPort
  | invalidIpv4
  | invalidIpv6
  /-- A name has a character that names do not have. -/
  | invalidName
  /-- A host has a character that no host has. -/
  | invalidCharacter
  deriving DecidableEq

/-- What is said of the fault of an address. -/
def AddressError.message : AddressError → String
  | .relativeWithoutBase => "relative URL without a base"
  | .relativeToFlatBase => "relative URL with a cannot-be-a-base base"
  | .emptyHost => "empty host"
  | .invalidPort => "invalid port number"
  | .invalidIpv4 => "invalid IPv4 address"
  | .invalidIpv6 => "invalid IPv6 address"
  | .invalidName => "invalid international domain name"
  | .invalidCharacter => "invalid domain character"

/-- A host. -/
inductive Host where
  | name (text : String)
  /-- An address of version 4, as a number below 2³². -/
  | ipv4 (address : Nat)
  /-- An address of version 6, as eight numbers below 2¹⁶. -/
  | ipv6 (pieces : List Nat)
  deriving DecidableEq

/-- The number that digits of a base stand for, if all of them are such. -/
def numberOfDigits? (base : Nat) (cs : List Char) : Option Nat :=
  cs.foldl
    (fun acc c => do
      let n ← acc
      let d ← Text.hexValue? c
      if d < base then some (n * base + d) else none)
    (some 0)

/-! ## Version 4 -/

namespace Ipv4

/-- A part of an address: a number in decimal, after `0x` in hexadecimal, after `0` in octal. -/
def part? : List Char → Option Nat
  | [] => none
  | '0' :: 'x' :: ds | '0' :: 'X' :: ds => numberOfDigits? 16 ds
  | ['0'] => some 0
  | '0' :: ds => numberOfDigits? 8 ds
  | ds => numberOfDigits? 10 ds

/-- The parts of a name, without the empty one after a dot at the end. -/
def parts (cs : List Char) : List (List Char) :=
  let all := Text.splitAtEach (· == '.') cs
  if all.getLast? = some [] then all.dropLast else all

/-- Whether a name ends in a number, and so has to be an address. -/
def endsInNumber (cs : List Char) : Bool :=
  match (parts cs).getLast? with
  | none => false
  | some last => (!last.isEmpty && last.all Char.isDigit) || (part? last).isSome

/-- The address that some numbers stand for: each but the last fills one byte, and the last one
fills the bytes that are left. -/
def ofNumbers? (numbers : List Nat) : Option Nat :=
  match numbers.getLast? with
  | none => none
  | some last =>
    let leading := numbers.dropLast
    if 4 < numbers.length ∨ leading.any (255 < ·) ∨ Nat.pow 256 (4 - leading.length) ≤ last then none
    else
      some (leading.foldl (fun n b => n * 256 + b) 0 * Nat.pow 256 (4 - leading.length) + last)

/-- The address that a name writes. -/
def parse? (cs : List Char) : Option Nat := (parts cs).mapM part? >>= ofNumbers?

/-- An address as four decimal numbers. -/
def render (address : Nat) : String :=
  String.intercalate "."
    ([address / 16777216, address / 65536 % 256, address / 256 % 256, address % 256].map toString)

end Ipv4

/-! ## Version 6 -/

namespace Ipv6

/-- A group of one to four hexadecimal digits. -/
def group? (cs : List Char) : Option Nat :=
  if cs.isEmpty ∨ 4 < cs.length then none else numberOfDigits? 16 cs

/-- A decimal number below 256 without superfluous zeros. -/
def byte? (cs : List Char) : Option Nat :=
  match cs with
  | [] => none
  | '0' :: _ :: _ => none
  | ds => (numberOfDigits? 10 ds).filter (· < 256)

/-- The two pieces of an address of version 4 that stands at the end of one of version 6. -/
def embedded? (cs : List Char) : Option (List Nat) :=
  match (Text.splitAtEach (· == '.') cs).mapM byte? with
  | some [a, b, c, d] => some [a * 256 + b, c * 256 + d]
  | _ => none

/-- The pieces of some groups. The last one may be an address of version 4 if `tail` says so. -/
def groups? (tail : Bool) : List (List Char) → Option (List Nat)
  | [] => some []
  | [g] => if tail && g.contains '.' then embedded? g else (group? g).map ([·])
  | g :: gs => do return (← group? g) :: (← groups? tail gs)

/-- The pieces of a text between colons. -/
def pieces? (tail : Bool) (cs : List Char) : Option (List Nat) :=
  if cs.isEmpty then some [] else groups? tail (Text.splitAtEach (· == ':') cs)

/-- The parts of a text before and after its first pair of colons. -/
def cutAtGap? : List Char → Option (List Char × List Char)
  | [] => none
  | c :: cs =>
    match c, cs with
    | ':', ':' :: rest => some ([], rest)
    | c, cs => (cutAtGap? cs).map fun (before, after) => (c :: before, after)

/-- The eight pieces that a text writes. A pair of colons stands for at least one zero. -/
def parse? (cs : List Char) : Option (List Nat) :=
  match cutAtGap? cs with
  | none => (pieces? true cs).filter (·.length = 8)
  | some (before, after) => do
    let left ← pieces? false before
    let right ← pieces? true after
    if left.length + right.length < 8 then
      return left ++ List.replicate (8 - left.length - right.length) 0 ++ right
    else none

/-- How many zeros a list starts with. -/
def zeroRun (pieces : List Nat) : Nat := (pieces.takeWhile (· = 0)).length

/-- Where the first of the longest runs of zeros starts, and how long it is. -/
def longestRun (pieces : List Nat) : Nat × Nat :=
  (List.range pieces.length).foldl
    (fun best i =>
      let n := zeroRun (pieces.drop i)
      if best.2 < n then (i, n) else best)
    (0, 0)

/-- Pieces in hexadecimal with colons between them. -/
def renderPieces (pieces : List Nat) : String :=
  String.intercalate ":" (pieces.map fun n => String.ofList (Nat.toDigits 16 n))

/-- An address with its longest run of zeros left out, if that is longer than one zero. -/
def render (pieces : List Nat) : String :=
  let (start, length) := longestRun pieces
  if length < 2 then renderPieces pieces
  else
    renderPieces (pieces.take start) ++ "::" ++ renderPieces (pieces.drop (start + length))

end Ipv6

namespace Host

/-- The characters that no host has as they are. -/
def isForbidden (c : Char) : Bool :=
  ['\x00', '\t', '\n', '\r', ' ', '#', '/', ':', '<', '>', '?', '@', '[', '\\', ']', '^',
    '|'].contains c

/-- The characters that no name has. -/
def isForbiddenInName (c : Char) : Bool :=
  isForbidden c || c.toNat < 0x20 || c.toNat == 0x7F || c == '%'

/-- A name in its written form: in small letters, each label in ASCII. -/
def canonicalName (cs : List Char) : List Char :=
  List.intercalate ['.']
    ((Text.splitAtEach (· == '.') (cs.map Char.toLower)).map Punycode.label)

/-- The host in brackets that a text writes. -/
def parseBracketed (cs : List Char) : Except AddressError Host :=
  match cs.getLast?, Ipv6.parse? (cs.drop 1).dropLast with
  | some ']', some pieces => .ok (.ipv6 pieces)
  | _, _ => .error .invalidIpv6

/-- The host of an address of the web. -/
def parse (cs : List Char) : Except AddressError Host :=
  if cs.head? = some '[' then parseBracketed cs
  else
    match textOfBytes? (percentDecode cs) with
    | none => .error .invalidName
    | some text =>
      let name := canonicalName text.toList
      if name.any isForbiddenInName then .error .invalidName
      else if name.isEmpty then .error .emptyHost
      else if Ipv4.endsInNumber name then
        match Ipv4.parse? name with
        | some address => .ok (.ipv4 address)
        | none => .error .invalidIpv4
      else .ok (.name (String.ofList name))

/-- The host of an address of another scheme, whose names are kept as they are. -/
def parseForeign (cs : List Char) : Except AddressError Host :=
  if cs.head? = some '[' then parseBracketed cs
  else if cs.any isForbidden then .error .invalidCharacter
  else .ok (.name (String.ofList (percentEncode isControlOrForeign cs)))

/-- The written form of a host. -/
def render : Host → String
  | .name text => text
  | .ipv4 address => Ipv4.render address
  | .ipv6 pieces => "[" ++ Ipv6.render pieces ++ "]"

end Host

end CatalogSearch.Net
