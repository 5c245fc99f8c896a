import HttpFetch.Request
import HttpFetch.Host.Name
import HttpFetch.Stream.Transport

/-!
# The network

What a client meets when it connects: the answers to its look-ups and scripts for the sockets it
will create, and beside them what it did, namely the names it looked up, the sockets it is done
with, and notes on its way. A transport in use owns its socket; when it is given up, the socket
joins the others (`retire`).

A host is looked up anew for every connection. Its answers are given in order, each once, but for
the last one, which stays; so a host with a single answer always has that.

A connection goes to the first address of the host and to no other. Over TLS the host has to be a
name that a certificate can be for, which is checked before it is looked up.
-/

namespace HttpFetch

/-- What looking up a host name gives. -/
inductive Lookup
  | addresses (list : List (AddressFamily × Text))
  | fault (cause : Fault)
  deriving DecidableEq, Repr

/-- The parts of the library that write notes. -/
inductive NoteSource
  | connector
  | cookies
  | pipeline
  deriving DecidableEq, Repr

/-- A note on the way of a request. -/
structure Note where
  source : NoteSource
  text : Text
  deriving DecidableEq, Repr

structure Network where
  scripts : List SocketScript
  hosts : List (Text × Lookup)
  lookups : List (Text × Int)
  sockets : List Socket
  notes : List Note

namespace Network

/-- A network in which nothing has happened. -/
def ofScripts (scripts : List SocketScript) (hosts : List (Text × Lookup)) : Network :=
  ⟨scripts, hosts, [], [], []⟩

def note (network : Network) (source : NoteSource) (text : Text) : Network :=
  { network with notes := network.notes ++ [⟨source, text⟩] }

/-- The network after a socket has been given up. -/
def retire (network : Network) (socket : Socket) : Network :=
  { network with sockets := network.sockets ++ [socket] }

/-- Where hosts are that have no answer. -/
def elsewhere : Lookup := .addresses [(.inet, "192.0.2.1".toList)]

/-- What a socket meets beyond the last script. -/
def refusal : SocketScript where
  arrivals := []
  sendFault := none
  connectFault :=
    some (Fault.named "ConnectionRefusedError".toList [.text "no scripted connection".toList])
  wrapFault := none

/-- A new socket, and the network without its script. -/
def create (network : Network) : Socket × Network :=
  (Socket.ofScript (network.scripts.headD refusal),
    { network with scripts := network.scripts.tail })

/-- The answers that are left once a host has been looked up. -/
def answersAfter (host : Text) (hosts : List (Text × Lookup)) : List (Text × Lookup) :=
  let rest := hosts.eraseP (·.1 = host)
  if (rest.lookup host).isSome then rest else hosts

theorem answersAfter_subset (host : Text) (hosts : List (Text × Lookup)) :
    answersAfter host hosts ⊆ hosts := by
  unfold answersAfter
  dsimp only
  split
  · exact List.eraseP_subset
  · exact List.Subset.refl hosts

/-- The network after a host has been looked up. -/
def ask (network : Network) (host : Text) (port : Int) : Network :=
  { network with
    hosts := answersAfter host network.hosts
    lookups := network.lookups ++ [(host, port)] }

/-- The addresses of a host, in the order in which they are known. -/
def resolve (host : Text) (port : Int) : Step Network (List (AddressFamily × Text)) :=
  fun network =>
    let asked := network.ask host port
    match (network.hosts.lookup host).getD elsewhere with
    | .addresses list => .ok list asked
    | .fault cause =>
      if cause.family.isSystem then .error (.unresolved cause.message) asked
      else .error (.fault cause) asked

/-- The text of a failure to connect: that of the fault, or its name when it has none. -/
def refusalText (cause : Fault) : Text :=
  if cause.message.isEmpty then cause.name else cause.message

/-- A socket connected to an address within a timeout, which no longer holds afterwards. A system
fault closes the socket. -/
def dial (timeout : Option Double) (address : Address) : Step Network Socket := fun network =>
  let (socket, network) := network.create
  let socket := match effectiveTimeout timeout with
    | none => socket
    | some seconds => socket.setTimeout (some seconds)
  match Socket.connect address socket with
  | .ok () socket => .ok (socket.setTimeout none) network
  | .error (.fault cause) socket =>
    if cause.family.isSystem then
      .error (.unconnected (refusalText cause)) (network.retire socket.close)
    else .error (.fault cause) (network.retire socket)
  | .error failure socket => .error failure (network.retire socket)

/-- A socket connected to the first address of a host. -/
def dialHost (request : Request) (host : Text) (port : Int) : Step Network Socket :=
  fun network =>
    match resolve host port network with
    | .error failure network => .error failure network
    | .ok [] network => .error (.noAddress host) network
    | .ok ((family, ip) :: _) network =>
      dial request.connectTimeout ⟨family, ip, port⟩
        (network.note .connector ("Connecting to ".toList ++ host ++ ':' :: Text.ofInt port
          ++ " via ".toList ++ ip))

/-- The default ports by scheme. -/
def defaultPorts : List (String × Int) := [("http", 80), ("https", 443)]

/-- The port that a URL leads to; no port and port zero stand for the default one of a scheme. -/
def portOf (url : Url) (scheme : String) : Int :=
  let default := (defaultPorts.lookup scheme).getD 0
  match url.port with
  | some port => if port = 0 then default else port
  | none => default

/-- A plain connection to the host of a URL. -/
def connectPlain (request : Request) (host : Text) (url : Url) : Step Network Transport :=
  fun network =>
    match dialHost request host (portOf url "http") network with
    | .ok socket network =>
      .ok (Transport.make socket false request.readTimeout request.writeTimeout) network
    | .error failure network => .error failure network

/-- A connection over TLS to the host of a URL. A fault of TLS or in a value closes the socket. -/
def connectTls (request : Request) (host : Text) (url : Url) : Step Network Transport :=
  fun network =>
    if !Host.isServerName host then .error (.serverName host) network
    else
      match dialHost request host (portOf url "https") network with
      | .error failure network => .error failure network
      | .ok socket network =>
        match Socket.wrap host socket with
        | .ok () socket =>
          .ok (Transport.make socket true request.readTimeout request.writeTimeout) network
        | .error (.fault cause) socket =>
          if cause.family.isTls || cause.family.isValue then
            .error (.unconnected cause.message) (network.retire socket.close)
          else .error (.fault cause) (network.retire socket)
        | .error failure socket => .error failure (network.retire socket)

/-- A connection to the host of a URL, over TLS or not as its scheme says. -/
def connect (request : Request) (url : Url) : Step Network Transport := fun network =>
  let scheme := url.scheme.lower
  if scheme = "http".toList ∨ scheme = "https".toList then
    match url.hostname with
    | .error failure => .error failure network
    | .ok host =>
      if url.isSecure then connectTls request host url network
      else connectPlain request host url network
  else .error (.unknownScheme url.scheme) network

end Network

end HttpFetch
