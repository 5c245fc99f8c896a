import HttpFetch.Exchange
import HttpFetch.Settings

/-!
# Clients

A client issues requests under its settings. Its jar serves every call that does not bring one of
its own, and it says who it is unless the caller does. A call leaves behind, beside the response
or the failure, everything that it worked on: the jars, the payload and the network.
-/

namespace HttpFetch

structure Client where
  settings : Settings
  jar : Jar

/-- Where a request goes: a URL, or the text of one. -/
inductive Destination
  | parsed (url : Url)
  | written (s : Text)

namespace Destination

def resolve : Destination → Except Failure Url
  | parsed url => .ok url
  | written s =>
    match Url.parse s with
    | .ok url => .ok url
    | .error defect => .error (.url defect)

end Destination

/-- A request as a caller makes it. -/
structure Call where
  method : Text
  destination : Destination
  headers : LooseHeaders
  payload : Payload
  ownJar : Option Jar
  maxRedirects : Option Int

/-- What a call comes to, and what it leaves. -/
structure Answer where
  result : Except Failure Response
  client : Client
  ownJar : Option Jar
  payload : Payload
  network : Network

namespace Settings

/-- What all hops of a request have in common. -/
def request (settings : Settings) (headers : Headers) : Request where
  headers :=
    if headers.any (Field.isNamed "user-agent".toList) then headers
    else headers ++ [⟨"User-Agent".toList, settings.userAgent⟩]
  connectTimeout := some settings.connectTimeout
  readTimeout := some settings.readTimeout
  writeTimeout := some settings.writeTimeout

end Settings

namespace Call

/-- The hop that a call begins with. -/
def firstHop (call : Call) (settings : Settings) (url : Url) (clock : Clock) : Hop where
  request := settings.request call.headers.normalize
  method := call.method.upper
  url := url
  budget := call.maxRedirects.getD settings.maxRedirects
  clock := clock

/-- Runs the hops of a call over what an exchange starts with. -/
def run (call : Call) (settings : Settings) (clock : Clock) : Step Exchange Response :=
  fun exchange =>
    match call.destination.resolve with
    | .error failure => .error failure exchange
    | .ok url => exchange.run (call.firstHop settings url clock)

end Call

namespace Client

/-- A client with an empty jar. -/
def ofSettings (settings : Settings) : Client := ⟨settings, Jar.empty⟩

/-- What is left once the exchange of a call is over. -/
def conclude (client : Client) (call : Call) (result : Except Failure Response)
    (exchange : Exchange) : Answer where
  result := result
  client :=
    if call.ownJar.isSome then client else { client with jar := exchange.jar.getD client.jar }
  ownJar := call.ownJar.bind fun _ => exchange.jar
  payload := exchange.callerPayload
  network := exchange.network

/-- Issues a call over a network, by a clock. -/
def issue (client : Client) (call : Call) (clock : Clock) (network : Network) : Answer :=
  let exchange := Exchange.start network (some (call.ownJar.getD client.jar)) call.payload
  match call.run client.settings clock exchange with
  | .ok response exchange => client.conclude call (.ok response) exchange
  | .error failure exchange => client.conclude call (.error failure) exchange

end Client

end HttpFetch
