import HttpFetch.Header
import HttpFetch.Number.Double
import HttpFetch.Url.Basic

/-!
# Requests

What the requests of one chain of redirects have in common, and what is written before the body:
the request line, the host unless the caller names one, the fields of the caller, those of the
cookies, and a blank line.
-/

namespace HttpFetch

structure Request where
  headers : Headers
  connectTimeout : Option Double
  readTimeout : Option Double
  writeTimeout : Option Double

namespace Request

/-- The request line. -/
def line (method : Text) (url : Url) : Text :=
  method ++ ' ' :: url.target ++ " HTTP/1.1".toList

/-- The field that names the host, unless the caller has set it. -/
def hostField (request : Request) (url : Url) : Headers :=
  if request.headers.has "host".toList then [] else [⟨"Host".toList, url.netloc⟩]

/-- All lines before the blank one. -/
def preludeLines (request : Request) (method : Text) (url : Url) (cookies : Headers) : List Text :=
  line method url :: (request.hostField url ++ request.headers ++ cookies).map Field.line

/-- Everything before the body. It cannot be written when the host has to be named and is not in
ASCII. -/
def prelude (request : Request) (method : Text) (url : Url) (cookies : Headers) :
    Except Failure Bytes :=
  if !request.headers.has "host".toList && !Url.isAscii url.netloc then
    .error (.unencodable .ascii url.netloc)
  else
    .ok (Utf8.encode
      (("\r\n".toList.intercalate (request.preludeLines method url cookies))
        ++ "\r\n\r\n".toList))

end Request

end HttpFetch
