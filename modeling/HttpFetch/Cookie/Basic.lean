import HttpFetch.Failure
import HttpFetch.Header
import HttpFetch.Number.Double
import HttpFetch.OrderedMap
import HttpFetch.Text.Percent

/-!
# Cookies

A cookie belongs to a domain and a path. It is sent to hosts whose name ends with the domain, for
paths that start with its path when the server named one, and only over TLS when it is secure.
Its name is sent as it is, so that only a token can be sent; its value is escaped.
-/

namespace HttpFetch

structure Cookie where
  name : Text
  value : Text
  domain : Text
  initialDot : Bool
  path : Text
  pathSpecified : Bool
  secure : Bool
  expires : Option Int
  rest : OrderedMap Text (Option Text)
  deriving DecidableEq, Repr

namespace Cookie

/-- Whether a cookie is dropped at the end of the session: it does not say when it expires. -/
def discard (cookie : Cookie) : Bool := cookie.expires.isNone

/-- Whether a cookie has expired. -/
def isExpired (now : Int) (cookie : Cookie) : Bool := cookie.expires.any (· ≤ now)

/-- Whether a cookie is sent to a host for a path. -/
def applies (cookie : Cookie) (host path : Text) (overTls : Bool) : Bool :=
  !cookie.domain.isEmpty && cookie.domain.lower.isSuffixOf host.lower
    && (!cookie.pathSpecified || cookie.path.isPrefixOf path)
    && (!cookie.secure || overTls)

/-- The characters of tokens. -/
def isTokenChar (c : Char) : Bool :=
  (c.toNat < 128 && c.isAlphanum) || "!#$%&'*+-.^_`|~".toList.elem c

/-- Whether a name can be sent: a token, or a token and a line feed. -/
def isSendable (name : Text) : Bool :=
  let token := if name.getLast? = some '\n' then name.dropLast else name
  !token.isEmpty && token.all isTokenChar

/-- Characters of a value that are sent as they are. -/
def isValueChar (c : Char) : Bool :=
  0x21 ≤ c.toNat && c.toNat < 0x7f && !"\",;\\%".toList.elem c

/-- A name and a value as they are sent. -/
def encode (name value : Text) : Except Failure Text :=
  if isSendable name then .ok (name ++ '=' :: Percent.encode isValueChar value)
  else .error (.value (.cookieName name))

/-- The header field that sends a cookie. -/
def field (cookie : Cookie) : Except Failure Field :=
  (encode cookie.name cookie.value).map fun pair => ⟨"Cookie".toList, pair⟩

/-- A moment of expiry as it is kept: as a double holds it. -/
def keptExpiry : Option Int → Except Failure (Option Int)
  | none => .ok none
  | some time =>
    match Double.wholeInt? time with
    | some kept => .ok (some kept)
    | none => .error .doubleRange

/-- A cookie as it is kept, with its domain in lower case. -/
def keep (cookie : Cookie) : Except Failure Cookie :=
  (keptExpiry cookie.expires).map fun expires =>
    { cookie with domain := cookie.domain.lower, expires := expires }

end Cookie

end HttpFetch
