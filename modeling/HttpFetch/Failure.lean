import HttpFetch.Charset
import HttpFetch.Fault
import HttpFetch.Number.Integer

/-!
# Failures

Everything that can end a request, by its cause. The wording is in one function,
`Failure.message`, and the category in another, so that the steps of a request only name causes.
-/

namespace HttpFetch

/-- Why a text is not a URL. -/
inductive UrlDefect
  | tooLong
  | unprintable (c : Char) (position : Nat)
  | port (written : Text)
  | ipv4 (host : Text)
  | ipv6 (host : Text)
  | hostName (host : Text)
  | relativePathAfterAuthority
  | pathLikeAuthority
  | pathLikeScheme
  deriving DecidableEq, Repr

namespace UrlDefect

def message : UrlDefect → Text
  | tooLong => "URL too long".toList
  | unprintable c position =>
    "Invalid non-printable ASCII character in URL, ".toList ++ Text.quoted [c]
      ++ " at position ".toList ++ Text.ofNat position ++ ".".toList
  | port written => "Invalid port: ".toList ++ written.quoted
  | ipv4 host => "Invalid IPv4 address: ".toList ++ host.quoted
  | ipv6 host => "Invalid IPv6 address: ".toList ++ host.quoted
  | hostName host => "Invalid IDNA hostname: ".toList ++ host.quoted
  | relativePathAfterAuthority =>
    "For absolute URLs, path must be empty or begin with '/'".toList
  | pathLikeAuthority => "Relative URLs cannot have a path starting with '//'".toList
  | pathLikeScheme => "Relative URLs cannot have a path starting with ':'".toList

end UrlDefect

/-- Why a response has no head. -/
inductive HeadDefect
  | empty
  | statusLine (line : Text)
  | tooManyLines
  deriving DecidableEq, Repr

/-- Where a connection ended or went wrong inside a body. -/
inductive BodyDefect
  | cutBody (missing : Nat)
  | cutBlock (missing : Nat)
  | cutChunks
  | chunkSize (line : Text)
  deriving DecidableEq, Repr

namespace BodyDefect

def message : BodyDefect → Text
  | cutBody missing =>
    "connection closed with ".toList ++ Text.ofNat missing
      ++ " body bytes outstanding".toList
  | cutBlock missing =>
    "connection closed with ".toList ++ Text.ofNat missing ++ " bytes outstanding".toList
  | cutChunks => "connection closed inside chunked body".toList
  | chunkSize line => "invalid chunk size line: ".toList ++ line.quoted

end BodyDefect

/-- Values that a server or caller wrote and that denote nothing. -/
inductive ValueDefect
  | integer (written : Text) (defect : Integer.Defect)
  | tooLarge
  | month (name : Text)
  | year (n : Int)
  | cookieName (name : Text)
  deriving DecidableEq, Repr

namespace ValueDefect

def message : ValueDefect → Text
  | integer written .malformed =>
    "invalid literal for int() with base 10: ".toList ++ written.quoted.take 200
  | integer _ (.tooManyDigits count) =>
    "Exceeds the limit (4300 digits) for integer string conversion: value has ".toList
      ++ Text.ofNat count
      ++ " digits; use sys.set_int_max_str_digits() to increase the limit".toList
  | tooLarge =>
    "Exceeds the limit (4300 digits) for integer string conversion; ".toList
      ++ "use sys.set_int_max_str_digits() to increase the limit".toList
  | month name => name.quoted ++ " is not in list".toList
  | year n => "year ".toList ++ Text.ofInt n ++ " is out of range".toList
  | cookieName name => "invalid cookie name: ".toList ++ name.quoted

end ValueDefect

/-- What an encoding is looked up for. -/
inductive CharsetUsage
  | decoding
  | encoding
  deriving DecidableEq, Repr

/-- What can end a request, or one step of it. -/
inductive Failure
  | fault (cause : Fault)
  | unknownScheme (scheme : Text)
  | unresolved (detail : Text)
  | noAddress (host : Text)
  | unconnected (detail : Text)
  | serverName (host : Text)
  | redirection (location : Text)
  | tooManyRedirects
  | head (defect : HeadDefect)
  | body (defect : BodyDefect)
  | url (defect : UrlDefect)
  | value (defect : ValueDefect)
  | doubleRange
  | indexRange
  | clockRange
  | clockYear
  | unencodable (charset : Charset) (text : Text)
  | undecodable (charset : Charset)
  | charsetName (name : Text) (defect : Charset.NameDefect) (usage : CharsetUsage)
  | responseConsumed
  | payloadConsumed
  | exhausted
  | blankHeader
  | blankPayload
  | blankBudget
  deriving DecidableEq, Repr

namespace Failure

/-- A connection that ends before a number of octets. The failure tells the number unless it has more
digits than decimal integers may have. -/
def ofMissing (missing : Nat) : Failure :=
  if Nat.pow 10 Integer.maxDigits ≤ missing then value .tooLarge else body (.cutBlock missing)

/-- The number of a character inside an escape of a message about encoding. -/
def escapeNumber (c : Char) : Text :=
  if c.toNat < 0x100 then '\\' :: 'x' :: Text.padded 16 2 c.toNat
  else if c.toNat < 0x10000 then '\\' :: 'u' :: Text.padded 16 4 c.toNat
  else '\\' :: 'U' :: Text.padded 16 8 c.toNat

/-- The first characters of a text that a set lacks, and where they stand. -/
def encodingMessage (charset : Charset) (s : Text) : Text :=
  let start := (s.takeWhile charset.covers).length
  let lacking := (s.dropWhile charset.covers).takeWhile (!charset.covers ·)
  let run := if charset.namesRuns then lacking else lacking.take 1
  let which := match run with
    | [c] => "character '".toList ++ escapeNumber c ++ "' in position ".toList ++ Text.ofNat start
    | _ => "characters in position ".toList ++ Text.ofNat start ++ ['-']
      ++ Text.ofNat (start + run.length - 1)
  "'".toList ++ charset.name.toList ++ "' codec can't encode ".toList ++ which
    ++ ": ".toList ++ charset.lack.toList

/-- What is wrong with the name of an encoding. -/
def charsetMessage (name : Text) (defect : Charset.NameDefect) (usage : CharsetUsage) : Text :=
  match defect with
  | .hasNull => "embedded null character".toList
  | .unknown => "unknown encoding: ".toList ++ name
  | .notText =>
    let function := match usage with
      | .decoding => "codecs.decode()"
      | .encoding => "codecs.encode()"
    '\'' :: name.take 400 ++ "' is not a text encoding; use ".toList ++ function.toList
      ++ " to handle arbitrary codecs".toList

/-- The text of a failure. -/
def message : Failure → Text
  | fault cause => cause.message
  | unknownScheme scheme => scheme
  | unresolved detail => detail
  | noAddress host => "No ip address for ".toList ++ host
  | unconnected detail => detail
  | serverName host => "Invalid TLS name: ".toList ++ host
  | redirection location => "Bad redirection: ".toList ++ location
  | tooManyRedirects => "too many redirects".toList
  | head .empty => "empty response".toList
  | head (.statusLine line) => "Bad status line: ".toList ++ line.quoted
  | head .tooManyLines => "too many header lines".toList
  | body defect => defect.message
  | url defect => defect.message
  | value defect => defect.message
  | doubleRange => "int too large to convert to float".toList
  | indexRange => "cannot fit 'int' into an index-sized integer".toList
  | clockRange => "timestamp out of range for platform time_t".toList
  | clockYear => "[Errno 75] Value too large for defined data type".toList
  | unencodable charset text => encodingMessage charset text
  | undecodable charset => charset.name.toList ++ " cannot be decoded".toList
  | charsetName name defect usage => charsetMessage name defect usage
  | responseConsumed => "response body already consumed".toList
  | payloadConsumed => "payload already consumed".toList
  | exhausted => "generator raised StopIteration".toList
  | blankHeader => "'list' object has no attribute 'partition'".toList
  | blankPayload => "a bytes-like object is required, not 'list'".toList
  | blankBudget => "'<=' not supported between instances of 'list' and 'int'".toList

/-- How a failure is reported. -/
def category : Failure → Category
  | fault cause => cause.category
  | unknownScheme _ => .unknownScheme
  | unresolved _ | noAddress _ => .dnsFailed
  | unconnected _ | serverName _ => .connectionFailed
  | redirection _ => .badUrl
  | tooManyRedirects => .tooManyRedirects
  | head _ => .badStatus
  | body _ => .connectionFailed
  | clockYear => .ioError
  | url _ | value _ | doubleRange | indexRange | clockRange | unencodable .. | undecodable _ | charsetName ..
  | responseConsumed | payloadConsumed | exhausted | blankHeader | blankPayload
  | blankBudget => .unknownError

/-- A failure as it comes out of the pieces of a body: there, a fault that says that nothing is left
would pass for the end of the pieces, so it gives way to a failure of its own. -/
def amongPieces : Failure → Failure
  | fault cause => if cause.family = .exhaustion then exhausted else fault cause
  | failure => failure

/-- Whether a failure is an error of the request, and not an interrupt of the program. -/
def isError : Failure → Bool
  | fault cause => cause.family.isError
  | _ => true

end Failure

end HttpFetch
