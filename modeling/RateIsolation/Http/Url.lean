/-
  Addresses of requests.

  * `Url.parse` reads an address: it splits it into its components, checks
    them, and writes each in its encoded form, with the scheme and the host in
    lower case, the default port left out, and dot segments resolved;
  * `UrlFault` says why a text is no address, `UrlFault.message` in words;
  * `Url.toText` writes an address, `Url.decodedPath` gives the path that a
    server matches;
  * `Url.resolve` gives the address that a request is sent to: one without a
    host keeps only its path and query.
-/
import RateIsolation.Http.HostAddress
import RateIsolation.Http.HostName
import RateIsolation.Http.Percent
import RateIsolation.Number.Reading
import RateIsolation.Table
import RateIsolation.Text.Quoted
import RateIsolation.Text.UpperCase

namespace RateIsolation

/-- Why a text is no address. -/
inductive UrlFault where
  /-- More than 65536 characters. -/
  | tooLong
  /-- More than 65536 characters in the path. -/
  | pathTooLong
  /-- A control character, at that position. -/
  | notPrintable (c : Char) (position : Nat)
  /-- A port that is no number. -/
  | port (text : String)
  /-- A host of four numbers that is no address. -/
  | ipv4 (text : String)
  /-- A host in brackets that is no address. -/
  | ipv6 (text : String)
  /-- A host outside ASCII that has no written form. -/
  | hostName (text : String)
  /-- A host followed by something other than a slash. -/
  | pathNotRooted
  /-- A path alone that starts with two slashes. -/
  | relativeSlashes
  /-- A path alone that starts with a colon. -/
  | relativeColon
deriving DecidableEq, Repr

/-- The words for a fault. -/
def UrlFault.message : UrlFault → String
  | tooLong => "URL too long"
  | pathTooLong => "URL component 'path' too long"
  | notPrintable c position =>
    "Invalid non-printable ASCII character in URL, " ++ Text.quoted (String.ofList [c]) ++
      " at position " ++ toString position ++ "."
  | port text => "Invalid port: " ++ Text.quoted text
  | ipv4 text => "Invalid IPv4 address: " ++ Text.quoted text
  | ipv6 text => "Invalid IPv6 address: " ++ Text.quoted text
  | hostName text => "Invalid IDNA hostname: " ++ Text.quoted text
  | pathNotRooted => "For absolute URLs, path must be empty or begin with '/'"
  | relativeSlashes => "Relative URLs cannot have a path starting with '//'"
  | relativeColon => "Relative URLs cannot have a path starting with ':'"

/-- An address with all components in encoded form. -/
structure Url where
  scheme : String := ""
  userinfo : String := ""
  host : String := ""
  port : Option Int := none
  path : String := ""
  query : Option String := none
  fragment : Option String := none
deriving DecidableEq, Repr, Inhabited

namespace Url

/-! ## Characters that components admit -/

/-- The characters that a fragment admits. -/
def fragmentSafe : Char → Bool := Percent.visibleExcept [' ', '"', '<', '>', '\x60']

/-- The characters that a query admits. -/
def querySafe : Char → Bool := Percent.visibleExcept [' ', '"', '#', '<', '>']

/-- The characters that a path admits. -/
def pathSafe : Char → Bool :=
  Percent.visibleExcept [' ', '"', '#', '<', '>', '?', '\x60', '\x7b', '\x7d']

/-- The characters that the part before the host admits. -/
def userinfoSafe : Char → Bool :=
  Percent.visibleExcept [' ', '"', '#', '<', '>', '?', '\x60', '\x7b', '\x7d', '/', ';', '=', '@',
    '[', '\\', ']', '^', '|']

/-- The characters that a host name admits. -/
def hostSafe (c : Char) : Bool :=
  Percent.subDelims c || ['"', '\x60', '\x7b', '\x7d', '%', '|', '\\'].contains c

/-! ## Splitting -/

/-- The raw components of an address. -/
structure Parts where
  scheme : List Char
  authority : List Char
  path : List Char
  query : Option (List Char)
  fragment : Option (List Char)
deriving Repr

/-- Whether a character may stand in a scheme after its first. -/
def schemeChar (c : Char) : Bool := c.isAlphanum || c == '+' || c == '.' || c == '-'

/-- The scheme, if the text starts with one and a colon; it may be empty. -/
def takeScheme (cs : List Char) : List Char × List Char :=
  let name := cs.takeWhile schemeChar
  match cs.drop name.length with
  | ':' :: rest =>
    match name with
    | [] => ([], rest)
    | c :: _ => if c.isAlpha then (name, rest) else ([], cs)
  | _ => ([], cs)

/-- Split at the first occurrence of a character. -/
def cutAt (sep : Char) (cs : List Char) : List Char × Option (List Char) :=
  match cs.dropWhile (· != sep) with
  | [] => (cs, none)
  | _ :: rest => (cs.takeWhile (· != sep), some rest)

/-- The components of a text. -/
def split (cs : List Char) : Parts :=
  let (scheme, rest) := takeScheme cs
  let (rest, fragment) := cutAt '#' rest
  let (rest, query) := cutAt '?' rest
  match rest with
  | '/' :: '/' :: rest' =>
    ⟨scheme, rest'.takeWhile (· != '/'), rest'.dropWhile (· != '/'), query, fragment⟩
  | _ => ⟨scheme, [], rest, query, fragment⟩

/-- Split at the last occurrence of a character. -/
def cutAtLast (sep : Char) (cs : List Char) : Option (List Char × List Char) :=
  let after := cs.reverse.takeWhile (· != sep)
  if after.length = cs.length then none
  else some (cs.take (cs.length - after.length - 1), after.reverse)

/-- The host of an authority without its user, and the text of its port. -/
def takeHost (cs : List Char) : List Char × List Char :=
  let dropColon : List Char → List Char
    | ':' :: rest => rest
    | rest => rest
  let bracketed : Option (List Char × List Char) := match cs with
    | '[' :: _ => (cutAtLast ']' cs).map fun (before, after) => (before ++ [']'], after)
    | _ => none
  match bracketed with
  | some (host, after) => (host, dropColon after)
  | none =>
    let host := cs.takeWhile (· != ':')
    (host, dropColon (cs.drop host.length))

/-! ## Components -/

/-- The encoded form of a host. -/
def encodeHost (host : List Char) : Except UrlFault String :=
  let text := String.ofList host
  if host.isEmpty then .ok ""
  else if HostAddress.looksLikeIpv4 host then
    if HostAddress.isIpv4 host then .ok text else .error (.ipv4 text)
  else if host.head? == some '[' && host.getLast? == some ']' then
    let inner := (host.drop 1).dropLast
    if HostAddress.isIpv6 inner then .ok (String.ofList inner) else .error (.ipv6 text)
  else if host.all (·.toNat < 128) then .ok (Percent.encode hostSafe (Text.toAsciiLower text))
  else
    match HostName.encode? text with
    | some name => .ok name
    | none => .error (.hostName text)

/-- The port that a scheme has without being told. -/
def defaultPort (scheme : String) : Option Int :=
  Table.get? scheme [("ftp", 21), ("http", 80), ("https", 443), ("ws", 80), ("wss", 443)]

/-- The port of an address, none if it is the scheme's own. -/
def readPort (scheme : String) (text : List Char) : Except UrlFault (Option Int) :=
  if text.isEmpty then .ok none
  else
    match readInt? (String.ofList text) with
    | none => .error (.port (String.ofList text))
    | some port => .ok (if defaultPort scheme = some port then none else some port)

/-- Add one segment to those before it, which are in reverse. -/
def addSegment (kept : List (List Char)) (segment : List Char) : List (List Char) :=
  if segment = ['.'] then kept
  else if segment = ['.', '.'] then
    match kept with
    | [] => []
    | [first] => if first.isEmpty then [first] else []
    | _ :: rest => rest
  else segment :: kept

/-- The segments with a slash between each two. -/
def joinSegments : List (List Char) → List Char
  | [] => []
  | [s] => s
  | s :: rest => s ++ '/' :: joinSegments rest

/-- The path without dot segments. -/
def resolveDots (path : List Char) : List Char :=
  let segments := HostAddress.splitAt '/' path
  if segments.contains ['.'] || segments.contains ['.', '.'] then
    joinSegments (segments.foldl addSegment []).reverse
  else path

/-- Check where a path may stand. -/
def checkPath (hasScheme hasAuthority : Bool) (path : List Char) : Except UrlFault Unit :=
  if hasAuthority then
    match path with
    | [] => .ok ()
    | '/' :: _ => .ok ()
    | _ => .error .pathNotRooted
  else if hasScheme then .ok ()
  else
    match path with
    | '/' :: '/' :: _ => .error .relativeSlashes
    | ':' :: _ => .error .relativeColon
    | _ => .ok ()

/-- The greatest length of an address. -/
def maxLength : Nat := 65536

/-- A control character of ASCII, the delete character among them. -/
def isControl (c : Char) : Bool := c.toNat < 32 || c.toNat == 127

/-- The first control character and its position. -/
def firstControl (cs : List Char) : Option (Char × Nat) :=
  let before := cs.takeWhile fun c => !isControl c
  (cs.drop before.length).head?.map fun c => (c, before.length)

/-- Check and encode the components. -/
def ofParts (parts : Parts) : Except UrlFault Url := do
  let (user, hostAndPort) := match cutAtLast '@' parts.authority with
    | some (user, rest) => (user, rest)
    | none => ([], parts.authority)
  let (host, port) := takeHost hostAndPort
  let scheme := String.ofList parts.scheme
  let userinfo := Percent.encode userinfoSafe (String.ofList user)
  let host ← encodeHost host
  let port ← readPort scheme port
  let hasScheme := !parts.scheme.isEmpty
  let hasAuthority := !userinfo.isEmpty || !host.isEmpty || port.isSome
  checkPath hasScheme hasAuthority parts.path
  let path := if hasScheme || hasAuthority then resolveDots parts.path else parts.path
  return {
    scheme := Text.toAsciiLower scheme
    userinfo := userinfo
    host := host
    port := port
    path := Percent.encode pathSafe (String.ofList path)
    query := parts.query.map fun q => Percent.encode querySafe (String.ofList q)
    fragment := parts.fragment.map fun f => Percent.encode fragmentSafe (String.ofList f) }

/-- Read an address. -/
def parse (s : String) : Except UrlFault Url :=
  let cs := s.toList
  if cs.length > maxLength then .error .tooLong
  else
    match firstControl cs with
    | some (c, position) => .error (.notPrintable c position)
    | none => ofParts (split cs)

/-! ## Views -/

/-- The host with brackets where it holds colons. -/
def bracketedHost (u : Url) : String :=
  if u.host.toList.contains ':' then "[" ++ u.host ++ "]" else u.host

/-- The host and the port. -/
def hostAndPort (u : Url) : String :=
  u.bracketedHost ++ match u.port with
    | some p => ":" ++ toString p
    | none => ""

/-- The text of an address. -/
def toText (u : Url) : String :=
  let scheme := if u.scheme.isEmpty then "" else u.scheme ++ ":"
  let user := if u.userinfo.isEmpty then "" else u.userinfo ++ "@"
  let authority := user ++ u.hostAndPort
  let query := match u.query with
    | some q => "?" ++ q
    | none => ""
  let fragment := match u.fragment with
    | some f => "#" ++ f
    | none => ""
  scheme ++ (if authority.isEmpty then "" else "//" ++ authority) ++ u.path ++ query ++ fragment

/-- The path that a server sees: decoded, and a slash where it is empty. -/
def decodedPath (u : Url) : String := if u.path.isEmpty then "/" else Percent.decode u.path

/-- The user and password of an address, if one of them is not empty. -/
def login? (u : Url) : Option (String × String) :=
  let (user, password) := cutAt ':' u.userinfo.toList
  let user := Percent.decode (String.ofList user)
  let password := Percent.decode (String.ofList (password.getD []))
  if user.isEmpty && password.isEmpty then none else some (user, password)

/-- Whether an address names a server. -/
def isAbsolute (u : Url) : Bool := !u.scheme.isEmpty && !u.host.isEmpty

/-- The characters without the slashes at the start. -/
def dropLeadingSlashes (cs : List Char) : List Char := cs.dropWhile (· == '/')

/-- The address that a text means under a base, to whose slash its path is appended. -/
def under (base : Url) (s : String) : Except UrlFault Url := do
  let u ← parse s
  if u.isAbsolute then return u
  let path := '/' :: dropLeadingSlashes u.path.toList
  if path.length > maxLength then throw .pathTooLong
  let path := if base.isAbsolute then resolveDots path else path
  return { base with path := String.ofList path, query := u.query, fragment := none }

/-- The address that a request is sent to. -/
def resolve (s : String) : Except UrlFault Url := under {} s

end Url

end RateIsolation
