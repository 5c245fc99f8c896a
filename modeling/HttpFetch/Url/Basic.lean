import HttpFetch.Failure
import HttpFetch.Text.Percent

/-!
# URLs

A URL as its normalised parts: scheme and host in lower case, default ports left out, unsafe
characters escaped. Absent and empty differ for the query and the fragment only.
-/

namespace HttpFetch

structure Url where
  scheme : Text
  userinfo : Text
  host : Text
  port : Option Int
  path : Text
  query : Option Text
  fragment : Option Text
  deriving DecidableEq, Repr

namespace Url

/-- The host as it is written: in brackets when it holds a colon. -/
def writtenHost (url : Url) : Text :=
  if url.host.elem ':' then '[' :: url.host ++ [']'] else url.host

/-- Host and port, the port when it is not the default one. -/
def netloc (url : Url) : Text :=
  url.writtenHost ++ match url.port with
    | none => []
    | some port => ':' :: Text.ofInt port

/-- User information, host and port. -/
def authority (url : Url) : Text :=
  (if url.userinfo.isEmpty then [] else url.userinfo ++ ['@']) ++ url.netloc

/-- A part with the sign in front that announces it, when it is there. -/
def announced (sign : Char) : Option Text → Text
  | none => []
  | some part => sign :: part

/-- The text of a URL. -/
def text (url : Url) : Text :=
  (if url.scheme.isEmpty then [] else url.scheme ++ [':'])
    ++ (if url.authority.isEmpty then [] else '/' :: '/' :: url.authority)
    ++ url.path ++ announced '?' url.query ++ announced '#' url.fragment

/-- The path, of which there always is one. -/
def writtenPath (url : Url) : Text := if url.path.isEmpty then ['/'] else url.path

/-- The path with its escapes read. -/
def decodedPath (url : Url) : Text := Percent.decode url.writtenPath

/-- What a request line asks for. -/
def target (url : Url) : Text := url.writtenPath ++ announced '?' url.query

def isAscii (s : Text) : Bool := s.all (·.toNat < 128)

/-- The host as names are looked up by it, which is in ASCII unless a scope is not. -/
def hostname (url : Url) : Except Failure Text :=
  if isAscii url.host then .ok url.host else .error (.unencodable .ascii url.host)

/-- Whether the scheme is the one for TLS. -/
def isSecure (url : Url) : Bool := url.scheme.lower = "https".toList

end Url

end HttpFetch
