import HttpFetch.Text.Quoted

/-!
# Faults

What the network or the source of a payload may throw at a request. A fault has a name, belongs
to a family, and carries values that tell more: mostly none, a text, or a number with a text.
Families decide how a fault is categorised, how its values are put into words, and which steps
turn it into a failure of their own.
-/

namespace HttpFetch

/-- The categories under which failures are reported. -/
inductive Category
  | unknownScheme
  | dnsFailed
  | connectionFailed
  | badUrl
  | tooManyRedirects
  | badStatus
  | timeout
  | ioError
  | unknownError
  | noError
  deriving DecidableEq, Repr

/-- The family of a fault. The first seven are faults of the operating system. -/
inductive FaultFamily
  | timeout
  | resolution
  | tls
  | tlsClosed
  | certificate
  | connection
  | system
  | request (category : Category)
  | value
  | key
  | exhaustion
  | grammar
  | interrupt
  | other
  deriving DecidableEq, Repr

/-- One thing that a fault tells about itself. -/
inductive FaultValue
  | nothing
  | truth (b : Bool)
  | number (n : Int)
  | text (s : Text)
  deriving DecidableEq, Repr

structure Fault where
  family : FaultFamily
  name : Text
  values : List FaultValue
  deriving DecidableEq, Repr

namespace FaultValue

/-- A value by itself. -/
def plain : FaultValue → Text
  | nothing => "None".toList
  | truth b => if b then "True".toList else "False".toList
  | number n => Text.ofInt n
  | text s => s

/-- A value among others, where texts are quoted. -/
def quoted : FaultValue → Text
  | text s => s.quoted
  | value => value.plain

/-- Values in parentheses. -/
def listed : List FaultValue → Text
  | [] => "()".toList
  | [value] => "(".toList ++ value.quoted ++ ",)".toList
  | values => "(".toList ++ ", ".toList.intercalate (values.map quoted) ++ ")".toList

/-- Values in words: one by itself, several in parentheses. -/
def worded : List FaultValue → Text
  | [] => []
  | [value] => value.plain
  | values => listed values

end FaultValue

/-- What a fault of the operating system tells: a number, what it stands for, and files. -/
structure SystemDetail where
  code : FaultValue
  reason : FaultValue
  files : List FaultValue

namespace SystemDetail

/-- Two to five values make up a detail. The third and the fifth are files, of which the second one
counts only beside the first. -/
def ofValues? : List FaultValue → Option SystemDetail
  | [code, reason] => some ⟨code, reason, []⟩
  | [code, reason, file] | [code, reason, file, _] =>
    some ⟨code, reason, if file = .nothing then [] else [file]⟩
  | [code, reason, file, _, other] =>
    some ⟨code, reason, if file = .nothing then []
      else if other = .nothing then [file] else [file, other]⟩
  | _ => none

/-- The detail of a fault that tells a count where others tell a file. -/
def counting (detail : SystemDetail) : SystemDetail :=
  match detail.files with
  | .number _ :: _ | .truth _ :: _ => { detail with files := [] }
  | _ => detail

/-- A detail in words. -/
def message (detail : SystemDetail) : Text :=
  let files := match detail.files with
    | [] => []
    | files => ": ".toList ++ " -> ".toList.intercalate (files.map FaultValue.quoted)
  "[Errno ".toList ++ detail.code.plain ++ "] ".toList ++ detail.reason.plain ++ files

end SystemDetail

namespace FaultFamily

/-- Faults of the operating system, those of TLS and of name resolution among them. -/
def isSystem : FaultFamily → Bool
  | timeout | resolution | tls | tlsClosed | certificate | connection | system => true
  | _ => false

def isTls : FaultFamily → Bool
  | tls | tlsClosed | certificate => true
  | _ => false

/-- Faults in a value, which a rejected certificate is as well. -/
def isValue : FaultFamily → Bool
  | value | certificate => true
  | _ => false

/-- Every fault is an error of the request except an interrupt of the whole program. -/
def isError : FaultFamily → Bool
  | interrupt => false
  | _ => true

/-- The families by the names of their members. -/
def members : List (FaultFamily × List String) :=
  [(.timeout, ["TimeoutError"]),
    (.resolution, ["gaierror", "herror"]),
    (.tls, ["SSLError", "SSLEOFError", "SSLWantReadError", "SSLWantWriteError",
      "SSLSyscallError"]),
    (.tlsClosed, ["SSLZeroReturnError"]),
    (.certificate, ["SSLCertVerificationError"]),
    (.connection, ["ConnectionError", "ConnectionResetError", "ConnectionRefusedError",
      "ConnectionAbortedError", "BrokenPipeError"]),
    (.system, ["OSError", "PermissionError", "FileNotFoundError", "FileExistsError",
      "BlockingIOError", "ChildProcessError", "InterruptedError", "IsADirectoryError",
      "NotADirectoryError", "ProcessLookupError"]),
    (.request .unknownError, ["HttpWireError"]),
    (.request .unknownScheme, ["UnknownScheme"]),
    (.request .dnsFailed, ["DnsFailed"]),
    (.request .connectionFailed, ["ConnectionFailed"]),
    (.request .badUrl, ["BadUrl"]),
    (.request .tooManyRedirects, ["TooManyRedirects"]),
    (.request .badStatus, ["BadStatus"]),
    (.value, ["ValueError", "UnicodeError", "UnicodeEncodeError", "UnicodeDecodeError",
      "UnicodeTranslateError", "CookieEncodeError", "JSONDecodeError"]),
    (.key, ["KeyError"]),
    (.exhaustion, ["StopIteration"]),
    (.grammar, ["SyntaxError", "IndentationError", "TabError"]),
    (.interrupt, ["KeyboardInterrupt", "SystemExit", "GeneratorExit", "BaseException"])]

def ofName (name : Text) : FaultFamily :=
  ((members.find? fun member => member.2.any (·.toList == name)).map (·.1)).getD .other

end FaultFamily

namespace Fault

/-- The names of system faults by their numbers. -/
def systemNames : List (Int × String) :=
  [(1, "PermissionError"), (2, "FileNotFoundError"), (3, "ProcessLookupError"),
    (4, "InterruptedError"), (10, "ChildProcessError"), (11, "BlockingIOError"),
    (13, "PermissionError"), (17, "FileExistsError"), (20, "NotADirectoryError"),
    (21, "IsADirectoryError"), (32, "BrokenPipeError"), (103, "ConnectionAbortedError"),
    (104, "ConnectionResetError"), (108, "BrokenPipeError"), (110, "TimeoutError"),
    (111, "ConnectionRefusedError"), (114, "BlockingIOError"), (115, "BlockingIOError")]

/-- Second names of faults. -/
def otherNames : List (String × String) :=
  [("timeout", "TimeoutError"), ("CertificateError", "SSLCertVerificationError"),
    ("IOError", "OSError"), ("EnvironmentError", "OSError"), ("error", "OSError"),
    ("socket_error", "OSError")]

/-- The proper name of a fault, which is not its second name; and a plain system fault that has a
known number with something said of it is named for the number. -/
def properName (name : Text) (values : List FaultValue) : Text :=
  let name := (((otherNames.find? (·.1.toList == name)).map (·.2.toList))).getD name
  match (SystemDetail.ofValues? values).map SystemDetail.code with
  | some (.number code) =>
    if name = "OSError".toList then ((systemNames.lookup code).map String.toList).getD name
    else name
  | _ => name

/-- The fault with a given name, which decides its family. -/
def named (name : Text) (values : List FaultValue) : Fault :=
  let name := properName name values
  ⟨.ofName name, name, values⟩

/-- What a fault of TLS says: the reason if it is a text, or else the values in parentheses. -/
def tlsMessage (values : List FaultValue) : Text :=
  match SystemDetail.ofValues? values with
  | some ⟨_, .text reason, _⟩ => reason
  | some ⟨code, reason, _ :: _⟩ => FaultValue.listed [code, reason]
  | _ => FaultValue.listed values

/-- What a fault of the operating system says. -/
def systemMessage (name : Text) (values : List FaultValue) : Text :=
  match SystemDetail.ofValues? values with
  | some detail =>
    (if name = "BlockingIOError".toList then detail.counting else detail).message
  | none => FaultValue.worded values

/-- The text of a fault. -/
def message (fault : Fault) : Text :=
  match fault.family, fault.values with
  | .request .tooManyRedirects, [] => "too many redirects".toList
  | .grammar, [] => "None".toList
  | .grammar, value :: _ => value.plain
  | .key, [value] => value.quoted
  | family, values =>
    if family.isTls then tlsMessage values
    else if family.isSystem then systemMessage fault.name values
    else FaultValue.worded values

/-- How a fault is reported. -/
def category (fault : Fault) : Category :=
  match fault.family with
  | .request category => category
  | .timeout => .timeout
  | .resolution => .dnsFailed
  | .tls | .tlsClosed | .certificate | .connection => .connectionFailed
  | .system => .ioError
  | .value | .key | .exhaustion | .grammar | .interrupt | .other => .unknownError

end Fault

namespace Category

/-- All categories, in the order in which they are listed. -/
def all : List Category :=
  [unknownScheme, dnsFailed, connectionFailed, badUrl, tooManyRedirects, badStatus, timeout,
    ioError, unknownError, noError]

def name : Category → String
  | unknownScheme => "UNKNOWN_SCHEME"
  | dnsFailed => "DNS_FAILED"
  | connectionFailed => "CONNECTION_FAILED"
  | badUrl => "BAD_URL"
  | tooManyRedirects => "TOO_MANY_REDIRECTS"
  | badStatus => "BAD_STATUS"
  | timeout => "TIMEOUT"
  | ioError => "IO_ERROR"
  | unknownError => "UNKNOWN_ERROR"
  | noError => "NONE"

/-- The reason that a user reads. -/
def reason : Category → String
  | unknownScheme => "Unsupported URL scheme"
  | dnsFailed => "DNS resolution failure"
  | connectionFailed => "Could not connect to host"
  | badUrl => "Invalid URL"
  | tooManyRedirects => "Redirect limit reached"
  | badStatus => "Malformed response from server"
  | timeout => "Network timeout"
  | ioError => "Network I/O failure"
  | unknownError => "Request failed"
  | noError => ""

/-- The reason for a category given by name: no name has no reason, and a name that is not a
category's has the general one. -/
def reasonOfName (named : Option Text) : String :=
  match named with
  | none => ""
  | some text => ((all.find? (·.name.toList == text)).map reason).getD unknownError.reason

end Category

end HttpFetch
