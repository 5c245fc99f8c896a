import HttpFetch.Host.Name
import HttpFetch.Url.Basic

/-!
# Reading URLs

A text is cut into scheme, authority, path, query and fragment; the authority into user
information, host and port. Then every part is brought into its normal form, and the first part
that has none refuses the text.
-/

namespace HttpFetch.Url

/-- The longest text that is read as a URL. -/
def maxLength : Nat := 65536

/-- The parts of a text before they are looked at. -/
structure Parts where
  scheme : Text
  authority : Text
  path : Text
  query : Option Text
  fragment : Option Text

def isSchemeChar (c : Char) : Bool := c.isAlphanum || c = '+' || c = '.' || c = '-'

/-- A text cut after its scheme. A scheme starts with a letter; it may be empty. -/
def cutScheme (s : Text) : Text × Text :=
  match Text.cut ':' s with
  | (_, none) => ([], s)
  | (scheme, some rest) =>
    if scheme.all isSchemeChar && (scheme.isEmpty || scheme.head?.any Char.isAlpha) then
      (scheme, rest)
    else ([], s)

/-- A text cut into its parts. -/
def Parts.ofText (s : Text) : Parts :=
  let (scheme, rest) := cutScheme s
  let (authority, rest) := match rest with
    | '/' :: '/' :: rest =>
      let ends := fun c => c = '/' || c = '?' || c = '#'
      (rest.takeWhile (!ends ·), rest.dropWhile (!ends ·))
    | rest => ([], rest)
  let (rest, fragment) := Text.cut '#' rest
  let (path, query) := Text.cut '?' rest
  ⟨scheme, authority, path, query, fragment⟩

/-- The parts of an authority. -/
structure AuthorityParts where
  userinfo : Text
  host : Text
  port : Text

/-- An authority cut into its parts. The host goes to the last closing bracket when it starts with
an opening one, and otherwise to the first colon. -/
def AuthorityParts.ofText (s : Text) : AuthorityParts :=
  let (userinfo, rest) := (Text.cutLast '@' s).getD ([], s)
  let (host, rest) := match rest, Text.cutLast ']' rest with
    | '[' :: _, some (inner, after) => (inner ++ [']'], after)
    | _, _ => (rest.takeWhile (· != ':'), rest.dropWhile (· != ':'))
  match rest with
  | ':' :: port => ⟨userinfo, host, port⟩
  | port => ⟨userinfo, host, port⟩

/-- Characters that no part escapes. -/
def isUnreserved (c : Char) : Bool :=
  (c.toNat < 128 && c.isAlphanum) || "-._~".toList.elem c

def isSafeIn (unsafeChars : String) (c : Char) : Bool :=
  0x20 ≤ c.toNat && c.toNat < 0x7f && !unsafeChars.toList.elem c

def pathSafe : Char → Bool := isSafeIn " \"#<>?`\x7b\x7d"
def querySafe : Char → Bool := isSafeIn " \"#<>"
def fragmentSafe : Char → Bool := isSafeIn " \"<>`"
def userinfoSafe : Char → Bool := isSafeIn " \"#<>?`\x7b\x7d/;=@[\\]^|"
def hostSafe (c : Char) : Bool :=
  isUnreserved c || "!$&'()*+,;=\"`\x7b\x7d%|\\".toList.elem c

/-- Whether a host has to be an IPv4 address: four numbers with points between them. -/
def looksLikeIpv4 (host : Text) : Bool :=
  let numbers := Text.splitOn (· == '.') host
  numbers.length == 4 && numbers.all fun n => !n.isEmpty && n.all Host.isAsciiDigit

/-- A host in its normal form. -/
def normalHost (host : Text) : Except UrlDefect Text :=
  if host.isEmpty then .ok []
  else if looksLikeIpv4 host then
    if Host.isIpv4 host then .ok host else .error (.ipv4 host)
  else if host.head? = some '[' && 1 < host.length && host.getLast? = some ']' then
    let inner := host.tail.dropLast
    if Host.isIpv6 inner then .ok inner else .error (.ipv6 host)
  else if isAscii host then .ok (Percent.encode hostSafe (host.map Char.toLower))
  else
    match Host.ascii? host.lower with
    | some ascii => .ok ascii
    | none => .error (.hostName host)

def defaultPort? (scheme : Text) : Option Int :=
  if scheme = "ftp".toList then some 21
  else if scheme = "http".toList ∨ scheme = "ws".toList then some 80
  else if scheme = "https".toList ∨ scheme = "wss".toList then some 443
  else none

/-- A port in its normal form. The default port is left out when the scheme is in lower case. -/
def normalPort (scheme port : Text) : Except UrlDefect (Option Int) :=
  if port.isEmpty then .ok none
  else
    match Integer.parse port with
    | .ok n => .ok (if defaultPort? scheme = some n then none else some n)
    | .error _ => .error (.port port)

/-- One segment of a path, after those in reverse. -/
def resolveSegment (before : List Text) (segment : Text) : List Text :=
  if segment = ['.'] then before
  else if segment = ['.', '.'] then
    if before = [] ∨ before = [[]] then before else before.tail
  else segment :: before

/-- A path without the segments that are points. -/
def resolveDots (path : Text) : Text :=
  let segments := Text.splitOn (· == '/') path
  if segments.elem ['.'] || segments.elem ['.', '.'] then
    ['/'].intercalate (segments.foldl resolveSegment []).reverse
  else path

/-- A path in its normal form, if it can follow what precedes it. -/
def normalPath (path : Text) (hasScheme hasAuthority : Bool) : Except UrlDefect Text :=
  if hasAuthority && !path.isEmpty && path.head? != some '/' then
    .error .relativePathAfterAuthority
  else if !hasScheme && !hasAuthority && ['/', '/'].isPrefixOf path then .error .pathLikeAuthority
  else if !hasScheme && !hasAuthority && [':'].isPrefixOf path then .error .pathLikeScheme
  else
    .ok (Percent.encode pathSafe (if hasScheme || hasAuthority then resolveDots path else path))

/-- The first control character of a text, and where it stands. -/
def unprintable? (s : Text) : Option (Char × Nat) :=
  let isControl := fun (c : Char) => c.toNat < 0x20 || c.toNat = 0x7f
  match s.dropWhile (!isControl ·) with
  | [] => none
  | c :: _ => some (c, (s.takeWhile (!isControl ·)).length)

/-- The URL that a text denotes. -/
def parse (s : Text) : Except UrlDefect Url :=
  if s.length > maxLength then .error .tooLong
  else
    match unprintable? s with
    | some (c, position) => .error (.unprintable c position)
    | none => do
      let parts := Parts.ofText s
      let authority := AuthorityParts.ofText parts.authority
      let userinfo := Percent.encode userinfoSafe authority.userinfo
      let host ← normalHost authority.host
      let port ← normalPort parts.scheme authority.port
      let path ← normalPath parts.path (!parts.scheme.isEmpty)
        (!userinfo.isEmpty || !host.isEmpty || port.isSome)
      pure {
        scheme := parts.scheme.map Char.toLower
        userinfo := userinfo
        host := host
        port := port
        path := path
        query := parts.query.map (Percent.encode querySafe)
        fragment := parts.fragment.map (Percent.encode fragmentSafe) }

end HttpFetch.Url
