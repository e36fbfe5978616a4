import LayeredSettings.Octets.Base64
import LayeredSettings.Octets.Utf8
import LayeredSettings.Text.Template
import LayeredSettings.World.Ipv4
import LayeredSettings.World.Ipv6

set_option autoImplicit false

/-! # Addresses of web requests

`Url.ofText?` reads an address the way the URL standard does and gives the form that is sent: the
host in lower case, the default port left out, dot segments resolved, and characters that may not
stand in a path or query percent-encoded. What stands in front of the host is not part of that form;
it is sent in a header (`Url.Authority.basic?`). Host names beyond ASCII are written in it by a table that is
not part of this library (`HostNames`). -/

namespace LayeredSettings

/-- How names of hosts that are not plain ASCII are written in it; none for what is no name. -/
abbrev HostNames := String → Option String

/-- The scheme of a web address. -/
inductive Url.Scheme where
  | http
  | https
deriving DecidableEq, Repr

namespace Url.Scheme

/-- The name of a scheme. -/
def name : Scheme → String
  | http => "http"
  | https => "https"

/-- The port that is left out of an address. -/
def defaultPort : Scheme → Nat
  | http => 80
  | https => 443

/-- The scheme of a name, in any case. -/
def ofChars? (cs : List Char) : Option Scheme :=
  [http, https].find? fun scheme => cs.map Text.lowerChar == scheme.name.toList

end Url.Scheme

/-- Who is asked at an address. -/
structure Url.Authority where
  /-- What is written in front of the at sign. -/
  user : List Char := []
  host : String
  port : Option Nat := none
deriving DecidableEq, Repr

/-- A web address. Its path and query are in the form that is sent. -/
structure Url where
  scheme : Url.Scheme
  authority : Url.Authority
  path : String
  query : Option String
deriving DecidableEq, Repr

namespace Url

/-- The text of an address as it is sent. -/
def text (u : Url) : String :=
  u.scheme.name ++ "://" ++ u.authority.host
    ++ (match u.authority.port with | some p => ":" ++ toString p | none => "")
    ++ u.path
    ++ (match u.query with | some q => "?" ++ q | none => "")

/-! ## Percent-encoding -/

/-- An octet as a percent sign and two hexadecimal digits. -/
def escapeOctet (octet : UInt8) : List Char :=
  let digit (n : Nat) : Char := (Nat.digitChar n).toUpper
  ['%', digit (octet.toNat / 16), digit (octet.toNat % 16)]

/-- A character as it is, or its octets escaped. -/
def escapeChar (mustEscape : Char → Bool) (c : Char) : List Char :=
  if mustEscape c then (String.utf8EncodeChar c).flatMap escapeOctet else [c]

/-- The text with the characters of a set escaped. -/
def escape (mustEscape : Char → Bool) (cs : List Char) : List Char :=
  cs.flatMap (escapeChar mustEscape)

/-- The octets of a text in which escapes stand for octets; a percent sign without two digits behind
    it stands for itself. -/
def unescapeOctets : List Char → List UInt8
  | '%' :: a :: b :: rest =>
    match Text.digitValue? 16 a, Text.digitValue? 16 b with
    | some x, some y => UInt8.ofNat (x * 16 + y) :: unescapeOctets rest
    | _, _ => String.utf8EncodeChar '%' ++ unescapeOctets (a :: b :: rest)
  | c :: rest => String.utf8EncodeChar c ++ unescapeOctets rest
  | [] => []

/-- The text that escapes write, if their octets are well formed. -/
def unescape? (cs : List Char) : Option String :=
  Utf8.decode? (unescapeOctets cs)

/-- Controls and characters beyond ASCII. -/
def isControlOrWide (c : Char) : Bool :=
  c.toNat < 0x20 || 0x7E < c.toNat

/-- The characters escaped in a path. -/
def escapedInPath (c : Char) : Bool :=
  isControlOrWide c || " \"#<>?\x60\x7b\x7d".toList.contains c

/-- The characters escaped in a query. -/
def escapedInQuery (c : Char) : Bool :=
  isControlOrWide c || " \"#<>'".toList.contains c

/-! ## Parts of an address -/

/-- Slash or backslash, which mean the same in a web address. -/
def isSlash (c : Char) : Bool :=
  c == '/' || c == '\\'

/-- The address without blanks and controls at its ends, and without tabs and line ends. -/
def cleaned (cs : List Char) : List Char :=
  (Text.stripWhile (fun c => c.toNat ≤ 0x20) cs).filter
    fun c => !(c == '\t' || c == '\n' || c == '\r')

/-- The scheme, and what follows it and the slashes behind it. -/
def behindScheme? (cs : List Char) : Option (Scheme × List Char) :=
  let scheme := cs.takeWhile (· != ':')
  if scheme.length < cs.length then
    (Scheme.ofChars? scheme).map fun s => (s, (cs.drop (scheme.length + 1)).dropWhile isSlash)
  else none

/-! ### Hosts -/

/-- A character that a host name may not hold. -/
def forbiddenInHost (c : Char) : Bool :=
  c.toNat ≤ 0x20 || 0x7E < c.toNat || "#%/:<>?@[\\]^|".toList.contains c

/-- A label that writes a name beyond ASCII. -/
def isEncodedLabel (label : String) : Bool :=
  (Text.behind? "xn--" (Text.lower label)).isSome

/-- Whether a name is written in ASCII and stands for itself. -/
def isPlainName (name : String) : Bool :=
  name.toList.all (·.toNat < 0x80) && !(Text.fieldsOn '.' name).any isEncodedLabel

/-- The form in which a host name is sent. -/
def hostName? (names : HostNames) (name : String) : Option String :=
  if !isPlainName name then names name
  else if name.toList.any forbiddenInHost then none
  else some (Text.lower name)

/-- The host at the start of a text: up to a slash, or a colon outside of square brackets. -/
def hostOf (bracketed : Bool) : List Char → List Char
  | [] => []
  | c :: rest =>
    if c == '/' || (c == ':' && !bracketed) then []
    else c :: hostOf (if c == '[' then true else if c == ']' then false else bracketed) rest

/-- The form in which a host is sent: an address in square brackets or between dots, or a name, which
    may not be empty. -/
def host? (names : HostNames) (cs : List Char) : Option String :=
  match cs with
  | '[' :: _ => (Ipv6.bracketed? cs).map String.ofList
  | _ => do
    let name ← hostName? names (← unescape? cs)
    if name == "" then none
    else if Ipv4.isNumeric name.toList then Ipv4.text? name.toList
    else some name

/-! ### Authorities -/

/-- The port that digits name: none for the default of the scheme, and at most `65535`. -/
def port? (scheme : Scheme) (digits : List Char) : Option (Option Nat) :=
  if digits.isEmpty then some none
  else if digits.all Text.isDigit then
    let n := Text.decimalValue digits
    if 65535 < n then none else some (if n = scheme.defaultPort then none else some n)
  else none

/-- The authority that a text writes: the host and the port stand behind the last at sign. -/
def authority? (names : HostNames) (scheme : Scheme) (cs : List Char) : Option Authority := do
  let hostPort := (cs.reverse.takeWhile (· != '@')).reverse
  let written := hostOf false hostPort
  let host ← host? names written
  let port ← port? scheme (hostPort.drop (written.length + 1))
  some ⟨cs.take (cs.length - hostPort.length - 1), host, port⟩

/-! ### Paths -/

/-- A segment that stays in its directory, dots perhaps escaped. -/
def isDot (segment : List Char) : Bool :=
  segment.map Text.lowerChar == ['.'] || segment.map Text.lowerChar == "%2e".toList

/-- A segment that goes up a directory, dots perhaps escaped. -/
def isDoubleDot (segment : List Char) : Bool :=
  [ "..", ".%2e", "%2e.", "%2e%2e" ].any fun s => segment.map Text.lowerChar == s.toList

/-- A segment that starts with the letter of a drive: it is never gone up from. -/
def isDrive : List Char → Bool
  | letter :: sign :: rest =>
    Text.isLetter letter && (sign == ':' || sign == '|')
      && (rest.isEmpty || rest.head? == some '\\')
  | _ => false

/-- The segments, the last one first, of the directory above. -/
def parent : List (List Char) → List (List Char)
  | [] => []
  | segment :: outer => if isDrive segment then segment :: outer else outer

/-- The segments of a path with dot segments resolved; `reversed` holds those so far. A dot segment
    at the end leaves an empty last segment. -/
def resolveDots (reversed : List (List Char)) : List (List Char) → List (List Char)
  | [] => reversed.reverse
  | [last] =>
    if isDoubleDot last then ([] :: parent reversed).reverse
    else if isDot last then ([] :: reversed).reverse
    else (last :: reversed).reverse
  | segment :: rest =>
    if isDoubleDot segment then resolveDots (parent reversed) rest
    else if isDot segment then resolveDots reversed rest
    else resolveDots (segment :: reversed) rest

/-- The path that is sent, for the text from the first slash on. -/
def sentPath (cs : List Char) : String :=
  let segments := Text.pieces isSlash (if cs.isEmpty then [] else cs.drop 1)
  let sent := (resolveDots [] segments).map (escape escapedInPath)
  String.ofList (sent.flatMap fun s => '/' :: s)

/-- The address that a text writes. A fragment is not sent. -/
def ofText? (names : HostNames) (s : String) : Option Url := do
  let (scheme, rest) ← behindScheme? (cleaned s.toList)
  let rest := rest.takeWhile (· != '#')
  let front := rest.takeWhile (· != '?')
  let query :=
    match rest.drop front.length with
    | [] => none
    | _ :: q => some (String.ofList (escape escapedInQuery q))
  let written := front.takeWhile fun c => !isSlash c
  let authority ← authority? names scheme written
  some ⟨scheme, authority, sentPath (front.drop written.length), query⟩

/-! ## User names and passwords -/

/-- The header value for the user of an address: a name and perhaps a password behind a colon, escapes
    decoded. A name that encodes no text is not sent at all, and neither is such a password. -/
def Authority.basic? (a : Authority) : Option String := do
  let written := a.user.takeWhile (· != ':')
  let name ← unescape? written
  let password? := match a.user.drop (written.length + 1) with
    | [] => none
    | cs => unescape? cs
  if name == "" && password?.isNone then none
  else some ("Basic " ++ Base64.encode (Utf8.encode (name ++ ":" ++ password?.getD "")))

end Url

end LayeredSettings
