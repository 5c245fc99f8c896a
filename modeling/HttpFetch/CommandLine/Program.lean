import HttpFetch.Client
import HttpFetch.CommandLine.Arguments
import HttpFetch.Log

/-!
# The program

A run of the program issues one request and writes what was decoded: the head of the response
when it is asked for, and the body up to its end or failure. Notes and the reason of a failure go
to the other output. What the command line leaves open, the environment decides.
-/

namespace HttpFetch.CommandLine

/-- The variables of the environment that the program takes notice of. -/
def environmentNames : List String :=
  ["HTTPWIRE_TIMEOUT_CONNECT", "HTTPWIRE_TIMEOUT_READ", "HTTPWIRE_TIMEOUT_WRITE",
    "HTTPWIRE_MAX_REDIRECTS", "HTTPWIRE_USER_AGENT", "HTTPWIRE_LOG_LEVEL"]

/-- How a run of the program ends: with the response written out, with a failure that it reports,
with one that it does not report, or before there was a request. -/
inductive Ending
  | done
  | failed (failure : Failure)
  | interrupted (failure : Failure)
  | stopped (stop : Stop)
  deriving DecidableEq, Repr

namespace Ending

/-- The code that the program ends with. -/
def code : Ending → Nat
  | done => 0
  | failed _ => 1
  | interrupted failure => if failure.isError then 1 else 130
  | stopped .helped => 0
  | stopped (.refused _) => 2

end Ending

/-- What a run of the program leaves. -/
structure Report where
  ending : Ending
  output : Bytes
  errors : Text
  network : Network

namespace Stop

/-- What the program writes to its output when it stops before the request. -/
def output : Stop → Text
  | helped => help.toList
  | refused _ => []

/-- What it writes to the other one. -/
def errors : Stop → Text
  | helped => []
  | refused defect => usage.toList ++ "httpwire: error: ".toList ++ defect.message ++ ['\n']

end Stop

namespace Report

/-- A run that ended before the request. -/
def ofStop (network : Network) (stop : Stop) : Report where
  ending := .stopped stop
  output := Utf8.encode stop.output
  errors := stop.errors
  network := network

end Report

/-- The lines of a head as the program writes them. -/
def headLines (head : ResponseHead) : List Text :=
  Text.trimRight Text.isBlank
      (head.version ++ ' ' :: Text.ofInt head.status ++ ' ' :: head.reason)
    :: head.headers.map Field.line ++ [[]]

/-- A head as the program writes it. -/
def headText (head : ResponseHead) : Bytes :=
  Utf8.encode ((headLines head).flatMap (· ++ ['\n']))

/-- What the program writes about a failure. -/
def failureLine (failure : Failure) : Text :=
  "error: ".toList ++ failure.category.reason.toList ++ ": ".toList ++ failure.message ++ ['\n']

namespace Arguments

/-- The settings of an environment with what the arguments say instead. -/
def settings (arguments : Arguments) (environment : Environment) : Settings :=
  let settings := Settings.ofEnvironment environment
  { settings with
    connectTimeout := arguments.connectTimeout.resolve settings.connectTimeout .zero
    readTimeout := arguments.readTimeout.resolve settings.readTimeout .zero }

/-- The header field that a line is. -/
def field : Option Text → Except Ending Field
  | none => .error (.interrupted .blankHeader)
  | some line =>
    match Field.ofLine? line with
    | some field => .ok field
    | none => .error (.stopped (.refused (.header line)))

/-- The header fields that the arguments give. -/
def fields (arguments : Arguments) : Except Ending Headers := arguments.headers.mapM field

/-- The method of the request: the one given, or what there is to send decides. -/
def methodName (arguments : Arguments) : Text :=
  match arguments.method, arguments.data with
  | .value (c :: name), _ => c :: name
  | _, .unsaid => "GET".toList
  | _, _ => "POST".toList

/-- The redirects that the call may follow, if the arguments say so; a blank number is none. -/
def budget (arguments : Arguments) : Option Int :=
  match arguments.maxRedirects with
  | .unsaid => none
  | .blank => some 0
  | .value n => some n

/-- The failure of a call. Where the number of redirects is blank, it is that and no limit which
stops the first one. -/
def explain (arguments : Arguments) (failure : Failure) : Failure :=
  match failure, arguments.maxRedirects with
  | .tooManyRedirects, .blank => .blankBudget
  | failure, _ => failure

/-- The call that the arguments ask for. -/
def call (arguments : Arguments) (headers : Headers) : Call where
  method := arguments.methodName
  destination := .written arguments.url
  headers := .pairs (headers.map fun field => (.text field.name, .text field.value))
  payload := (arguments.data.value?.map Payload.ofText).getD Payload.empty
  ownJar := none
  maxRedirects := arguments.budget

end Arguments

/-- What a run wrote to its output, how it ended, and the network after it. -/
structure Transfer where
  ending : Ending
  output : Bytes
  network : Network

namespace Transfer

/-- How a run ends with a failure. -/
def endingOf : Option Failure → Ending
  | none => .done
  | some failure => if failure.isError then .failed failure else .interrupted failure

/-- Writes a response out and closes it. -/
def ofResponse (network : Network) (showHead : Bool) (response : Response) : Transfer :=
  let drained := response.drain
  { ending := endingOf drained.failure
    output := (if showHead then headText response.head else []) ++ drained.pieces.flatten
    network := network.retire drained.response.close.reader.transport.socket }

/-- Writes out what a call came to. -/
def ofAnswer (showHead : Bool) (answer : Answer) : Transfer :=
  match answer.result with
  | .ok response => ofResponse answer.network showHead response
  | .error failure => ⟨endingOf (some failure), [], answer.network⟩

/-- What the program writes about the end. -/
def lastWords : Ending → Text
  | .failed failure => failureLine failure
  | _ => []

/-- The report of a run, with the notes that its loggers let through. -/
def report (transfer : Transfer) (loggers : Loggers) : Report where
  ending := transfer.ending
  output := transfer.output
  errors := loggers.render transfer.network.notes ++ lastWords transfer.ending
  network := transfer.network

end Transfer

/-- Issues the request that arguments ask for. Blank data cannot be sent. -/
def transfer (arguments : Arguments) (headers : Headers) (environment : Environment)
    (clock : Clock) (network : Network) : Transfer :=
  match arguments.data with
  | .blank => ⟨.failed .blankPayload, [], network⟩
  | _ =>
    let client := Client.ofSettings (arguments.settings environment)
    let answer := client.issue (arguments.call headers) clock network
    .ofAnswer arguments.showHead
      { answer with result := answer.result.mapError arguments.explain }

/-- What comes of arguments. -/
def perform (arguments : Arguments) (environment : Environment) (clock : Clock)
    (network : Network) : Report :=
  match arguments.fields with
  | .error (.stopped stop) => Report.ofStop network stop
  | .error ending => ⟨ending, [], [], network⟩
  | .ok headers =>
    (transfer arguments headers environment clock network).report
      (Loggers.setup environment arguments.logLevel.value?)

/-- Runs the program on the words of its command line. -/
def run (words : List Text) (environment : Environment) (clock : Clock) (network : Network) :
    Report :=
  match Arguments.parse words with
  | .error stop => Report.ofStop network stop
  | .ok arguments => perform arguments environment clock network

end HttpFetch.CommandLine
