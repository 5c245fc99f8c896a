import HttpFetch.Url.Parse

/-!
# Joining URLs

A reference is read against the URL it was found at. Both are cut once more as texts, the
reference takes over what it does not give itself, and its path is resolved against the
directory of the base. Schemes differ in whether references may be relative, whether they have
an authority, and whether the last path segment has parameters.
-/

namespace HttpFetch.Url

/-- Schemes whose references may be relative. -/
def relativeSchemes : List String :=
  ["", "ftp", "http", "gopher", "nntp", "imap", "wais", "file", "https", "shttp", "mms",
    "prospero", "rtsp", "rtspu", "sftp", "svn", "svn+ssh", "ws", "wss"]

/-- Schemes whose URLs have an authority. -/
def authoritySchemes : List String :=
  ["", "ftp", "http", "gopher", "nntp", "telnet", "imap", "wais", "file", "mms", "https", "shttp",
    "snews", "prospero", "rtsp", "rtspu", "rsync", "svn", "svn+ssh", "sftp", "nfs",
    "git", "git+ssh", "ws", "wss"]

/-- Schemes whose last path segment has parameters. -/
def parameterSchemes : List String :=
  ["", "ftp", "hdl", "prospero", "http", "imap", "https", "shttp", "rtsp", "rtspu",
    "sip", "sips", "mms", "sftp", "tel"]

def isOneOf (schemes : List String) (scheme : Text) : Bool := schemes.any (·.toList == scheme)

/-- A reference as it is joined: the parts of a URL, parameters apart. Absent is empty. -/
structure Reference where
  scheme : Text
  netloc : Text
  path : Text
  params : Text
  query : Text
  fragment : Text

/-- Whether a host may stand in brackets: an address of a future version, or an IPv6 address. -/
def isBracketable (host : Text) : Bool :=
  match host with
  | 'v' :: version =>
    match Text.cut '.' version with
    | (number, some address) =>
      !number.isEmpty && number.all (fun c => (Digit.asciiHex? c).isSome) && !address.isEmpty
    | _ => false
  | _ => !Host.isIpv4 host && Host.isIpv6 host

/-- Whether a network location uses brackets as it may: for all of the host, before the port. Once
there are brackets anywhere, a host without them has to be one that could stand in them. -/
def bracketsAllowed (netloc : Text) : Bool :=
  if netloc.elem '[' && netloc.elem ']' then
    let host := ((Text.cutLast '@' netloc).map (·.2)).getD netloc
    match Text.cut '[' host with
    | (before, some bracketed) =>
      let (inner, after) := Text.cut ']' bracketed
      before.isEmpty && (after.getD []).head?.all (· == ':') && isBracketable inner
    | (host, none) => isBracketable (Text.cut ':' host).1
  else !netloc.elem '[' && !netloc.elem ']'

/-- Characters that turn into a delimiter of a network location under compatible composition. -/
def delimiterLike : List Nat :=
  [0x2047, 0x2048, 0x2049, 0x2100, 0x2101, 0x2105, 0x2106, 0x2a74, 0xfe13, 0xfe16, 0xfe55, 0xfe56,
    0xfe5f, 0xfe6b, 0xff03, 0xff0f, 0xff1a, 0xff1f, 0xff20]

/-- The last segment of a path cut at its parameters. -/
def cutParams (path : Text) : Text × Text :=
  let (before, segment) := match Text.cutLast '/' path with
    | none => ([], path)
    | some (directory, segment) => (directory ++ ['/'], segment)
  match Text.cut ';' segment with
  | (_, none) => (path, [])
  | (segment, some params) => (before ++ segment, params)

/-- A reference cut into parts; the scheme of the base stands in for its own. -/
def Reference.ofText? (base s : Text) : Option Reference :=
  let s := s.dropWhile (·.toNat ≤ 0x20)
  let (scheme, rest) := match Text.cut ':' s with
    | (scheme, some rest) =>
      if scheme.head?.any Char.isAlpha && scheme.all isSchemeChar then
        (scheme.map Char.toLower, rest)
      else (base, s)
    | _ => (base, s)
  let (netloc, rest) := match rest with
    | '/' :: '/' :: rest =>
      let ends := fun c => c = '/' || c = '?' || c = '#'
      (rest.takeWhile (!ends ·), rest.dropWhile (!ends ·))
    | rest => ([], rest)
  if !bracketsAllowed netloc || netloc.any (fun c => delimiterLike.elem c.toNat) then none
  else
    let (rest, fragment) := Text.cut '#' rest
    let (path, query) := Text.cut '?' rest
    let (path, params) := if isOneOf parameterSchemes scheme then cutParams path else (path, [])
    some ⟨scheme, netloc, path, params, query.getD [], fragment.getD []⟩

/-- A part with the sign in front that announces it, unless it is empty. -/
def announcedUnlessEmpty (sign : Char) (part : Text) : Text :=
  if part.isEmpty then [] else sign :: part

/-- The text of a reference. -/
def Reference.text (r : Reference) : Text :=
  let path := r.path ++ announcedUnlessEmpty ';' r.params
  let path :=
    if !r.netloc.isEmpty || (!r.scheme.isEmpty && isOneOf authoritySchemes r.scheme
        && !(['/', '/'].isPrefixOf path)) then
      '/' :: '/' :: r.netloc
        ++ (if path.isEmpty || path.head? = some '/' then path else '/' :: path)
    else path
  (if r.scheme.isEmpty then path else r.scheme ++ ':' :: path)
    ++ announcedUnlessEmpty '?' r.query ++ announcedUnlessEmpty '#' r.fragment

/-- The segments of a path as they are resolved: those of the directory of the base come first,
unless the path starts at the root, and inner ones that are empty are left out then. -/
def joinSegments (base path : Text) : List Text :=
  let segments := Text.splitOn (· == '/') path
  if path.head? = some '/' then segments
  else
    let directory := Text.splitOn (· == '/') base
    let directory := if directory.getLast? = some [] then directory else directory.dropLast
    match directory ++ segments with
    | [] => []
    | first :: rest => first :: rest.dropLast.filter (!·.isEmpty) ++ rest.getLast?.toList

/-- The path that a relative path denotes at the path of a base. -/
def joinPath (base path : Text) : Text :=
  let segments := joinSegments base path
  let resolved := segments.foldl (fun before segment =>
    if segment = ['.', '.'] then before.tail
    else if segment = ['.'] then before
    else segment :: before) []
  let resolved :=
    match segments.getLast? with
    | some last => if last = ['.'] ∨ last = ['.', '.'] then [] :: resolved else resolved
    | none => resolved
  let joined := ['/'].intercalate resolved.reverse
  if joined.isEmpty then ['/'] else joined

/-- What a reference denotes at a base, both as texts. -/
def joinText? (base s : Text) : Option Text :=
  if base.isEmpty then some s
  else if s.isEmpty then some base
  else do
    let b ← Reference.ofText? [] base
    let r ← Reference.ofText? b.scheme s
    if r.scheme ≠ b.scheme ∨ !isOneOf relativeSchemes r.scheme then some s
    else if isOneOf authoritySchemes r.scheme && !r.netloc.isEmpty then some r.text
    else
      let netloc := if isOneOf authoritySchemes r.scheme then b.netloc else r.netloc
      if r.path.isEmpty && r.params.isEmpty then
        let query := if r.query.isEmpty then b.query else r.query
        some { r with netloc, path := b.path, params := b.params, query }.text
      else some { r with netloc, path := joinPath b.path r.path }.text

/-- The URL that a reference denotes at a base, if it denotes one. -/
def join? (base : Url) (reference : Text) : Option Url :=
  match parse reference with
  | .error _ => none
  | .ok url =>
    match joinText? base.text url.text with
    | none => none
    | some joined => (parse joined).toOption

/-- The URL that a redirect leads to. -/
def redirect (base : Url) (location : Text) : Except Failure Url :=
  match base.join? location with
  | some url => .ok url
  | none => .error (.redirection location)

end HttpFetch.Url
