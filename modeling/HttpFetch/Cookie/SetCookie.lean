import HttpFetch.Cookie.Basic
import HttpFetch.Cookie.Date

/-!
# Set-Cookie

The first segment of a value is the cookie's name and value, every later one an attribute. Known
attributes are recognised in any case; of the others name and value are kept. Where the text
nowhere says `domain=`, the host is put in as the domain, so that every cookie has one.
-/

namespace HttpFetch.SetCookie

/-- An attribute of a cookie. -/
inductive Attribute
  | domain (value : Option Text)
  | path (value : Option Text)
  | secure
  | maxAge (value : Option Text)
  | expires (time : Option Int)
  | unused
  | other (name : Text) (value : Option Text)
  deriving DecidableEq, Repr

/-- A segment cut at its first equals sign, both parts trimmed. -/
def pair (segment : Text) : Text × Option Text :=
  let (name, value) := Text.cut '=' segment.trim
  (name.trim, value.map Text.trim)

/-- A text without a quote at either end. -/
def dropQuotes (s : Text) : Text :=
  let s := if s.head? = some '"' then s.tail else s
  if s.getLast? = some '"' then s.dropLast else s

/-- A text without the quotes around it. -/
def unwrap (s : Text) : Text :=
  if 2 ≤ s.length ∧ s.head? = some '"' ∧ s.getLast? = some '"' then s.tail.dropLast else s

/-- The attribute that a segment is; one without a name is none. -/
def attribute? (now : Int) (segment : Text) : Except Failure (Option Attribute) :=
  let (name, value) := pair segment
  let lower := name.lower
  if name.isEmpty then .ok none
  else if lower = "domain".toList then .ok (some (.domain value))
  else if lower = "path".toList then .ok (some (.path value))
  else if lower = "secure".toList then .ok (some .secure)
  else if lower = "max-age".toList then .ok (some (.maxAge value))
  else if lower = "expires".toList then
    match value with
    | none => .ok (some (.expires none))
    | some date => (CookieDate.parse now (dropQuotes date)).map fun time => some (.expires time)
  else if lower = "version".toList ∨ lower = "port".toList then .ok (some .unused)
  else .ok (some (.other name value))

/-- What the attributes of a cookie say. -/
structure Attributes where
  domain : Text
  path : Option Text
  secure : Bool
  maxAge : Option Int
  expires : Option Int
  rest : OrderedMap Text (Option Text)

/-- A value that is there and not empty. -/
def nonempty (value : Option Text) : Option Text := value.filter (!·.isEmpty)

/-- The attributes with one more. Later ones win; a Max-Age that is no number does not count. -/
def Attributes.add (host : Text) (all : Attributes) : Attribute → Attributes
  | .domain value => { all with domain := (nonempty value).getD host }
  | .path value => { all with path := nonempty value }
  | .secure => { all with secure := true }
  | .maxAge value =>
    match Integer.parse (value.getD []) with
    | .ok seconds => { all with maxAge := some seconds }
    | .error _ => all
  | .expires time => { all with expires := time }
  | .unused => all
  | .other name value => { all with rest := OrderedMap.insert all.rest name value }

/-- A cookie with the given name and value. Max-Age counts from now and goes before Expires. -/
def Attributes.cookie (all : Attributes) (now : Int) (name value : Text) : Cookie where
  name := Percent.decode name
  value := Percent.decode (unwrap value)
  domain := all.domain.dropWhile (· = '.')
  initialDot := all.domain.head? = some '.'
  path := all.path.getD ['/']
  pathSpecified := all.path.isSome
  secure := all.secure
  expires := (all.maxAge.map (now + ·)) <|> all.expires
  rest := all.rest

/-- The segments of a value, the host being added as a domain where the text has none. -/
def segments (host value : Text) : List Text :=
  let value :=
    if Text.occursIn "domain=".toList value.lower then value
    else value ++ "; Domain=".toList ++ host
  Text.splitOn (· == ';') value

/-- The cookie that a Set-Cookie value of a host sets, if it sets one. -/
def parse (now : Int) (host value : Text) : Except Failure (Option Cookie) :=
  match segments host value with
  | [] => .ok none
  | first :: others =>
    match pair first with
    | ([], _) => .ok none
    | (name, value) => do
      let attributes ← others.mapM (attribute? now)
      match value with
      | none => pure none
      | some value =>
        let all := (attributes.filterMap id).foldl (Attributes.add host)
          ⟨host, none, false, none, none, []⟩
        some <$> (all.cookie now name value).keep

end HttpFetch.SetCookie
