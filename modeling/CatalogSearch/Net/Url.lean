import CatalogSearch.Net.Base64
import CatalogSearch.Net.Host

/-!
# Addresses

An address has a scheme, perhaps an authority, a path, and perhaps a query and a fragment. It is
read from a text by itself, or relative to another address, and it is kept in the one form in which
it is written: letter case, default ports, dot segments and escapes are settled by reading.

## Main definitions

* `Url.parse`: read an address.
* `Url.join`: read an address relative to another one.
* `Url.render`: write an address.
-/

namespace CatalogSearch.Net

/-- Who is asked, and as whom. -/
structure Authority where
  /-- The user name, percent-encoded; empty if there is none. -/
  username : String
  /-- The password, percent-encoded. -/
  password : Option String
  host : Host
  /-- The port, if it is not the default one of the scheme. -/
  port : Option Nat
  deriving DecidableEq

/-- The path of an address. -/
inductive Path where
  /-- A path without hierarchy. -/
  | flat (text : String)
  /-- A list of segments, each with a slash before it. -/
  | segments (list : List String)
  deriving DecidableEq

/-- An address. -/
structure Url where
  scheme : String
  authority : Option Authority
  path : Path
  query : Option String
  fragment : Option String
  deriving DecidableEq

/-- The port that a scheme of the web has unless another is given. -/
def defaultPort? (scheme : String) : Option Nat :=
  [("http", 80), ("https", 443), ("ws", 80), ("wss", 443), ("ftp", 21)].lookup scheme

/-- The families of schemes that are read by rules of their own. -/
inductive SchemeFamily where
  /-- There always is a host. -/
  | web
  /-- The host may be missing. -/
  | file
  /-- Any other scheme. -/
  | foreign
  deriving DecidableEq

/-- The family of a scheme. -/
def SchemeFamily.of (scheme : String) : SchemeFamily :=
  if scheme = "file" then .file
  else if (defaultPort? scheme).isSome then .web
  else .foreign

/-- Whether a character parts segments. -/
def SchemeFamily.isSlash (f : SchemeFamily) (c : Char) : Bool :=
  c == '/' || (c == '\\' && f ≠ .foreign)

/-- Whether a character ends the authority. -/
def SchemeFamily.endsAuthority (f : SchemeFamily) (c : Char) : Bool :=
  f.isSlash c || c == '?' || c == '#'

/-! ## Writing -/

namespace Authority

/-- The user and the password, if there are any, as they stand before the host. -/
def renderUser (a : Authority) : String :=
  match a.password with
  | some password => a.username ++ ":" ++ password ++ "@"
  | none => if a.username = "" then "" else a.username ++ "@"

/-- The written form of an authority. -/
def render (a : Authority) : String :=
  a.renderUser ++ a.host.render ++
    match a.port with
    | some port => ":" ++ toString port
    | none => ""

end Authority

/-- The written form of a path. -/
def Path.render : Path → String
  | .flat text => text
  | .segments list => String.join (list.map ("/" ++ ·))

namespace Url

/-- The written form of an address. -/
def render (u : Url) : String :=
  u.scheme ++ ":" ++
    (match u.authority with
      | some a => "//" ++ a.render
      | none => "") ++
    u.path.render ++
    (match u.query with
      | some q => "?" ++ q
      | none => "") ++
    (match u.fragment with
      | some f => "#" ++ f
      | none => "")

/-! ## Reading -/

/-- What of a text is read: controls and spaces at the two ends are dropped, and tabs and line
breaks everywhere. -/
def cleaned (s : String) : List Char :=
  let isEdge : Char → Bool := fun c => c.toNat ≤ 0x20
  (((s.toList.dropWhile isEdge).reverse.dropWhile isEdge).reverse).filter fun c =>
    c ≠ '\t' ∧ c ≠ '\n' ∧ c ≠ '\r'

/-- Whether a character may stand in a scheme after its first letter. -/
def isSchemeChar (c : Char) : Bool := c.isAlphanum || c == '+' || c == '-' || c == '.'

/-- The scheme that a text starts with, in small letters, and what follows its colon. -/
def cutScheme? (cs : List Char) : Option (String × List Char) :=
  match cs with
  | [] => none
  | c :: _ =>
    match c.isAlpha, cs.dropWhile isSchemeChar with
    | true, ':' :: rest =>
      some (String.ofList ((cs.takeWhile isSchemeChar).map Char.toLower), rest)
    | _, _ => none

/-- The parts of a text before and after its last at sign. -/
def cutUser? (cs : List Char) : Option (List Char × List Char) :=
  match (Text.splitAtEach (· == '@') cs).reverse with
  | last :: user :: earlier =>
    some (List.intercalate ['@'] (user :: earlier).reverse, last)
  | _ => none

/-- The host of a text and what follows the colon after it. Colons in brackets belong to the
host. -/
def cutPort (inside : Bool) : List Char → List Char × Option (List Char)
  | [] => ([], none)
  | c :: cs =>
    if c = ':' ∧ !inside then ([], some cs)
    else
      let (host, port) := cutPort (if c = '[' then true else if c = ']' then false else inside) cs
      (c :: host, port)

/-- The port that digits write, if it is not the default one. -/
def parsePort (scheme : String) (cs : List Char) : Except AddressError (Option Nat) :=
  match numberOfDigits? 10 cs with
  | none => .error .invalidPort
  | some n =>
    if 65535 < n then .error .invalidPort
    else if cs.isEmpty ∨ defaultPort? scheme = some n then .ok none
    else .ok (some n)

/-- The user name and the password of a text, percent-encoded. -/
def parseUser (cs : List Char) : String × Option String :=
  let encode (part : List Char) := String.ofList (percentEncode escapedInUser part)
  match cs.span (· ≠ ':') with
  | (user, _ :: c :: password) => (encode user, some (encode (c :: password)))
  | (user, _) => (encode user, none)

/-- The host that a text writes. -/
def parseHost (f : SchemeFamily) (cs : List Char) : Except AddressError Host :=
  match f with
  | .web => if cs.isEmpty then .error .emptyHost else Host.parse cs
  | .foreign => Host.parseForeign cs
  | .file =>
    if cs.isEmpty then .ok (.name "")
    else (Host.parse cs).map fun h => if h = .name "localhost" then .name "" else h

/-- The authority that a text writes. -/
def parseAuthority (scheme : String) (cs : List Char) : Except AddressError Authority := do
  let f := SchemeFamily.of scheme
  let (user, place) := (cutUser? cs).getD ([], cs)
  let (username, password) := parseUser user
  let (hostText, portText) := cutPort false place
  let host ← parseHost f hostText
  if host = .name "" ∧ (portText.isSome ∨ username ≠ "" ∨ password.isSome) then .error .emptyHost
  else
    let port ← parsePort scheme (portText.getD [])
    return ⟨username, password, host, port⟩

/-- Whether a segment stands for the segment it is in, dots being written in any way. -/
def isSingleDot (segment : List Char) : Bool :=
  ["." , "%2e"].contains (String.ofList (segment.map Char.toLower))

/-- Whether a segment stands for the segment above. -/
def isDoubleDot (segment : List Char) : Bool :=
  ["..", ".%2e", "%2e.", "%2e%2e"].contains (String.ofList (segment.map Char.toLower))

/-- Walk along some segments from a place that is given by its segments, the last one first. A dot
segment at the end leads to a place that ends in a slash. -/
def walk (place : List String) : List (List Char) → List String
  | [] => place
  | segment :: rest =>
    if isDoubleDot segment then
      walk (if rest.isEmpty then "" :: place.tail else place.tail) rest
    else if isSingleDot segment then
      walk (if rest.isEmpty then "" :: place else place) rest
    else
      walk (String.ofList (percentEncode escapedInPath segment) :: place) rest

/-- The segments that are reached from a place along a text. -/
def follow (f : SchemeFamily) (place : List String) (cs : List Char) : List String :=
  (walk place.reverse (Text.splitAtEach f.isSlash cs)).reverse

/-- The path after an authority. -/
def parsePath (f : SchemeFamily) (cs : List Char) : List String :=
  match cs with
  | [] => if f = .foreign then [] else [""]
  | c :: rest => if f.isSlash c then follow f [] rest else follow f [] cs

/-- A text with the query and the fragment at its end. -/
structure Tail where
  before : List Char
  query : Option (List Char)
  fragment : Option (List Char)

/-- Cut the query and the fragment off a text. -/
def Tail.cut (cs : List Char) : Tail :=
  let (front, fragment) := cs.span (· ≠ '#')
  let (before, query) := front.span (· ≠ '?')
  ⟨before, query.tail?, fragment.tail?⟩

/-- Give an address the query and the fragment at the end of a text. -/
def withTail (u : Url) (t : Tail) : Url :=
  let escaped := if SchemeFamily.of u.scheme = .foreign then escapedInQuery else escapedInWebQuery
  { u with
    query := t.query.map fun q => String.ofList (percentEncode escaped q)
    fragment := t.fragment.map fun f => String.ofList (percentEncode escapedInFragment f) }

/-- The address of a scheme that a text after the two slashes writes. -/
def parseHierarchy (scheme : String) (cs : List Char) : Except AddressError Url := do
  let f := SchemeFamily.of scheme
  let (place, rest) := cs.span fun c => !f.endsAuthority c
  let authority ← parseAuthority scheme place
  let tail := Tail.cut rest
  return withTail ⟨scheme, some authority, .segments (parsePath f tail.before), none, none⟩ tail

/-- The address that the text after a scheme writes. -/
def parseAfterScheme (scheme : String) (cs : List Char) : Except AddressError Url :=
  let tail := Tail.cut cs
  match SchemeFamily.of scheme with
  | .web => parseHierarchy scheme (cs.dropWhile (SchemeFamily.isSlash .web))
  | .file =>
    if 2 ≤ (cs.takeWhile (SchemeFamily.isSlash .file)).length then
      parseHierarchy scheme (cs.drop 2)
    else
      .ok (withTail
        ⟨scheme, some ⟨"", none, .name "", none⟩, .segments (parsePath .file tail.before), none,
          none⟩ tail)
  | .foreign =>
    match cs with
    | '/' :: '/' :: rest => parseHierarchy scheme rest
    | '/' :: _ =>
      .ok (withTail ⟨scheme, none, .segments (parsePath .foreign tail.before), none, none⟩ tail)
    | _ =>
      let text := String.ofList (percentEncode isControlOrForeign tail.before)
      .ok (withTail ⟨scheme, none, .flat text, none, none⟩ tail)

/-- Read an address. -/
def parse (s : String) : Except AddressError Url :=
  match cutScheme? (cleaned s) with
  | some (scheme, rest) => parseAfterScheme scheme rest
  | none => .error .relativeWithoutBase

/-- The segments of a path, none if it has no hierarchy. -/
def segmentsOf : Path → List String
  | .flat _ => []
  | .segments list => list

/-- The address that a text without a scheme writes relative to a base with hierarchy. -/
def parseRelative (base : Url) (cs : List Char) : Except AddressError Url :=
  let f := SchemeFamily.of base.scheme
  let tail := Tail.cut cs
  match tail.before with
  | [] =>
    if tail.query.isSome then .ok (withTail base tail)
    else .ok { withTail base tail with query := base.query }
  | c :: rest =>
    if f.isSlash c then
      if rest.head?.any f.isSlash then
        parseHierarchy base.scheme
          (if f = .web then cs.dropWhile f.isSlash else cs.drop 2)
      else .ok (withTail { base with path := .segments (follow f [] rest) } tail)
    else
      .ok (withTail
        { base with path := .segments (follow f (segmentsOf base.path).dropLast (c :: rest)) } tail)

/-- Read an address relative to another one. -/
def join (base : Url) (s : String) : Except AddressError Url :=
  let cs := cleaned s
  match cutScheme? cs with
  | some (scheme, rest) =>
    if scheme = base.scheme ∧ SchemeFamily.of scheme = .web ∧
        (rest.takeWhile (SchemeFamily.isSlash .web)).length < 2 then
      parseRelative base rest
    else parseAfterScheme scheme rest
  | none =>
    match base.path, cs with
    | .flat _, '#' :: _ => parseRelative base cs
    | .flat _, _ => .error .relativeToFlatBase
    | .segments _, _ => parseRelative base cs

/-! ## Changing -/

/-- An address whose path ends in a slash. -/
def asDirectory (u : Url) : Url :=
  match u.path with
  | .segments list =>
    if list.getLast? = some "" then u else { u with path := .segments (list ++ [""]) }
  | .flat _ => u

/-- Add parameters to the query. -/
def withParameters (u : Url) (parameters : List (String × String)) : Url :=
  let added := String.ofList
    (List.intercalate ['&'] (parameters.map fun p => formPair p.1 p.2))
  let query := match u.query with
    | none => added
    | some q => if q = "" ∨ added = "" then q ++ added else q ++ "&" ++ added
  { u with query := if query = "" then none else some query }

/-- Whether an address is one that HTTP requests can be sent to. -/
def isHttp (u : Url) : Bool := u.scheme = "http" ∨ u.scheme = "https"

/-- The user that an address names, and the password, percent-decoded. An address with a user name
that is no text names nobody. -/
def userInfo? (u : Url) : Option (String × Option String) := do
  let a ← u.authority
  let username ← textOfBytes? (percentDecode a.username.toList)
  let password := a.password.bind fun p => textOfBytes? (percentDecode p.toList)
  if username = "" ∧ password.isNone then none else some (username, password)

/-- An address without its user and its password. -/
def withoutUser (u : Url) : Url :=
  { u with authority := u.authority.map fun a => { a with username := "", password := none } }

end Url

end CatalogSearch.Net
