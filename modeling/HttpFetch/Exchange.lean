import HttpFetch.Cookie.Jar
import HttpFetch.Network
import HttpFetch.Payload.Upload
import HttpFetch.Response.Body
import HttpFetch.Url.Join

/-!
# Exchanges

A request is a chain of hops. Every hop connects anew, writes what precedes the body, reads the
head of the response and stores its cookies. A response that leads elsewhere is followed while
the budget lasts; one with a status that turns the request into a GET takes the payload first, and
later hops have none. The last hop sends the payload and hands the open connection to the
response. The first failure ends the chain and closes the connection of its hop.

Time goes on meanwhile. Every hop looks at the clock when it selects its cookies, and again for
each value that sets one, so that a cookie may expire between two hops of one request.
-/

namespace HttpFetch

/-- What a chain of hops works on. The payload of the caller is set aside once a hop has taken it
on the way. -/
structure Exchange where
  network : Network
  jar : Option Jar
  payload : Payload
  setAside : Option Payload

/-- What the clock shows on a hop: when its cookies are selected, and when each of the values that
set cookies is read. -/
structure Readings where
  selecting : Int
  storing : Nat → Int

/-- What the clock shows on the hops of a chain, one after the other. -/
def Clock : Type := Nat → Readings

namespace Clock

/-- A clock that stands still. -/
def still (now : Int) : Clock := fun _ => ⟨now, fun _ => now⟩

/-- What the clock shows on the first hop. -/
def first (clock : Clock) : Readings := clock 0

/-- What the clock shows on the hops after the first one. -/
def later (clock : Clock) : Clock := fun hop => clock (hop + 1)

end Clock

/-- What one hop is for, and what the clock shows on it and on those it leads to. -/
structure Hop where
  request : Request
  method : Text
  url : Url
  budget : Int
  clock : Clock

/-- A hop under way: its connection, and what the chain works on beside the network. -/
structure HopState where
  reader : Reader
  jar : Option Jar
  payload : Payload
  ignored : Nat

/-- How a hop ends when it does not fail. -/
inductive HopEnd
  | final (head : ResponseHead)
  | follow (head : ResponseHead) (next : Url)

namespace Hop

/-- The statuses that turn a request into a GET without payload. -/
def toGetStatuses : List Int := [301, 302, 303]

def becomesGet (head : ResponseHead) : Bool := toGetStatuses.elem head.status

/-- The host that cookies are matched with, and whether they go over TLS. -/
def cookieHost (host : Text) : Text := if host.isEmpty then "localhost".toList else host

/-- Writes what precedes the body. -/
def sendPrelude (hop : Hop) (cookies : Headers) : Step HopState Unit := fun state =>
  match hop.request.prelude hop.method hop.url cookies with
  | .error failure => .error failure state
  | .ok octets =>
    match Transport.write octets state.reader.transport with
    | .ok () transport => .ok () { state with reader := state.reader.withTransport transport }
    | .error failure transport =>
      .error failure { state with reader := state.reader.withTransport transport }

/-- Reads the head of the response. -/
def readHead : Step HopState ResponseHead := fun state =>
  match ResponseHead.read state.reader with
  | .ok head reader => .ok head { state with reader := reader }
  | .error failure reader => .error failure { state with reader := reader }

/-- The values of a head that set cookies, each with what the clock shows when it is read. -/
def offers (hop : Hop) (head : ResponseHead) : List Jar.Offer :=
  (head.headers.values "set-cookie".toList).mapIdx fun i value =>
    ⟨hop.clock.first.storing i, value⟩

/-- Stores the cookies that a head sets, when there is a jar. -/
def storeCookies (hop : Hop) (host : Text) (head : ResponseHead) : Step HopState Unit :=
  fun state =>
    match state.jar with
    | none => .ok () state
    | some jar =>
      let stored := jar.store host (hop.offers head)
      let state := { state with jar := some stored.jar, ignored := stored.ignored }
      match stored.failure with
      | none => .ok () state
      | some failure => .error failure state

/-- Sends the payload. -/
def sendPayload (hop : Hop) : Step HopState Unit := fun state =>
  match Upload.send hop.request ⟨state.payload, state.reader.transport⟩ with
  | .ok _ upload =>
    .ok () { state with
      payload := upload.payload
      reader := state.reader.withTransport upload.transport }
  | .error failure upload =>
    .error failure { state with
      payload := upload.payload
      reader := state.reader.withTransport upload.transport }

/-- Where a redirect leads, if the budget lasts. -/
def target (hop : Hop) (head : ResponseHead) : Except Failure Url :=
  if hop.budget ≤ 0 then .error .tooManyRedirects
  else hop.url.redirect ((head.headers.value? "location".toList).getD [])

/-- What is done over the connection of a hop. -/
def perform (hop : Hop) (host : Text) (cookies : Headers) : Step HopState HopEnd := do
  hop.sendPrelude cookies
  let head ← readHead
  hop.storeCookies host head
  if head.isRedirect then
    match hop.target head with
    | .error failure => throw failure
    | .ok next =>
      if becomesGet head then hop.sendPayload
      pure (.follow head next)
  else
    hop.sendPayload
    pure (.final head)

theorem target_budget {hop : Hop} {head : ResponseHead} {next : Url}
    (h : hop.target head = .ok next) : 0 < hop.budget := by
  unfold target at h
  split at h
  · cases h
  · omega

/-- Only a hop with budget left leads to another. -/
theorem perform_budget {hop : Hop} {host : Text} {cookies : Headers} {head : ResponseHead}
    {next : Url} {state state' : HopState}
    (h : hop.perform host cookies state = .ok (.follow head next) state') : 0 < hop.budget := by
  unfold perform at h
  simp only [bind, EStateM.bind] at h
  split at h
  · split at h
    · split at h
      · split at h
        · cases ht : hop.target _ with
          | error => rw [ht] at h; cases h
          | ok => exact target_budget ht
        · unfold EStateM.bind at h
          split at h <;> cases h
      · cases h
    · cases h
  · cases h

/-- The note on a redirect that is followed. -/
def followNote (hop : Hop) (head : ResponseHead) (next : Url) : Text :=
  "Following ".toList ++ Text.ofInt head.status ++ " redirect from ".toList ++ hop.url.text
    ++ " to ".toList ++ next.text ++ " (".toList ++ Text.ofInt (hop.budget - 1)
    ++ " left)".toList

/-- The hop that follows, at a later time. -/
def following (hop : Hop) (head : ResponseHead) (next : Url) : Hop :=
  { hop with
    method := if becomesGet head then "GET".toList else hop.method
    url := next
    budget := hop.budget - 1
    clock := hop.clock.later }

end Hop

namespace Exchange

/-- An exchange of a payload that nobody has taken. -/
def start (network : Network) (jar : Option Jar) (payload : Payload) : Exchange :=
  ⟨network, jar, payload, none⟩

/-- The payload of the caller as the exchange leaves it. -/
def callerPayload (exchange : Exchange) : Payload := exchange.setAside.getD exchange.payload

/-- The exchange without the cookies that have expired. -/
def purge (now : Int) (exchange : Exchange) : Exchange :=
  { exchange with jar := exchange.jar.map (Jar.purge now) }

/-- Notes on the cookies that apply and cannot be sent. -/
def noteOmissions (exchange : Exchange) (omissions : List Failure) : Exchange :=
  { exchange with
    network := omissions.foldl (fun network failure => network.note .cookies
      ("Skipping cookie that cannot be encoded: ".toList ++ failure.message)) exchange.network }

/-- The exchange after the connection of a hop, the notes on ignored cookies included. -/
def absorb (exchange : Exchange) (host : Text) (state : HopState) : Exchange :=
  { exchange with
    jar := state.jar
    payload := state.payload
    network := (List.replicate state.ignored ()).foldl (fun network _ => network.note .cookies
      ("Ignoring unparseable Set-Cookie value from ".toList ++ host)) exchange.network }

/-- The exchange with a connection closed and given up. -/
def giveUp (exchange : Exchange) (reader : Reader) : Exchange :=
  { exchange with network := exchange.network.retire reader.close.transport.socket }

/-- The exchange once a redirect is followed: a payload that was taken is set aside. -/
def continueAfter (exchange : Exchange) (head : ResponseHead) : Exchange :=
  if Hop.becomesGet head then
    { exchange with
      payload := Payload.empty
      setAside := exchange.setAside <|> some exchange.payload }
  else exchange

/-- Runs a hop and those it leads to. -/
def run (hop : Hop) (exchange : Exchange) : EStateM.Result Failure Exchange Response :=
  match hop.url.hostname with
  | .error failure => .error failure exchange
  | .ok hostname =>
    let host := Hop.cookieHost hostname
    let exchange := exchange.purge hop.clock.first.selecting
    let jar := exchange.jar.getD Jar.empty
    let cookies := jar.fields host hop.url.decodedPath hop.url.isSecure
    let exchange := exchange.noteOmissions (jar.omissions host hop.url.decodedPath hop.url.isSecure)
    match Network.connect hop.request hop.url exchange.network with
    | .error failure network => .error failure { exchange with network := network }
    | .ok transport network =>
      let exchange := { exchange with network := network }
      let begun : HopState := ⟨Reader.ofTransport transport, exchange.jar, exchange.payload, 0⟩
      match _h : hop.perform host cookies begun with
      | .error failure state => .error failure ((exchange.absorb host state).giveUp state.reader)
      | .ok (.final head) state =>
        .ok { Response.ofHead head (some hop.url) hop.method state.reader with attached := true }
          (exchange.absorb host state)
      | .ok (.follow head next) state =>
        let exchange := ((exchange.absorb host state).giveUp state.reader).continueAfter head
        run (hop.following head next) { exchange with
          network := exchange.network.note .pipeline (hop.followNote head next) }
termination_by hop.budget.toNat
decreasing_by
  have := Hop.perform_budget (by assumption)
  simp only [Hop.following]
  omega

end Exchange

end HttpFetch
