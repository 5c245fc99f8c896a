import HttpFetch.Failure
import HttpFetch.Number.Double

/-!
# Sockets

A socket holds what its peer will do and records what was done with it. The peer delivers items
of data one at a time and may fault between two of them; sending may fault from some point on.
Every call is an event, so that what was sent, how often data was asked for and under which
timeouts are all views of one history.

The script that remains gets smaller with every item of data received (`receive_pending`), which
is what ends every reading loop.
-/

namespace HttpFetch

/-- What the peer of a connection delivers next. -/
inductive Arrival
  | data (octets : Bytes)
  | fault (cause : Fault)
  deriving DecidableEq, Repr

/-- The two families of addresses. -/
inductive AddressFamily
  | inet
  | inet6
  deriving DecidableEq, Repr

/-- An address to connect to. -/
structure Address where
  family : AddressFamily
  ip : Text
  port : Int
  deriving DecidableEq, Repr

/-- What the peer of one connection will do. -/
structure SocketScript where
  arrivals : List Arrival
  sendFault : Option (Nat × Fault)
  connectFault : Option Fault
  wrapFault : Option Fault
  deriving DecidableEq, Repr

/-- A call on a socket. A call to receive keeps what it got, and one to send or connect whether it
succeeded. -/
inductive SocketEvent
  | setTimeout (seconds : Option Double)
  | connect (address : Address) (succeeded : Bool)
  | wrap (serverName : Text) (succeeded : Bool)
  | receive (size : Nat) (got : Option Bytes)
  | send (octets : Bytes) (succeeded : Bool)
  | close

/-- A socket: the script that remains, and the history of calls. -/
structure Socket where
  script : SocketScript
  history : List SocketEvent

/-- A step over a state, which a failing step leaves changed as well. -/
abbrev Step (σ α : Type) := EStateM Failure σ α

namespace Arrival

/-- The share of an item in the length of a script. -/
def weight : Arrival → Nat
  | data octets => octets.length + 1
  | fault _ => 1

/-- The length of a script. -/
def totalWeight : List Arrival → Nat
  | [] => 0
  | arrival :: rest => arrival.weight + totalWeight rest

end Arrival

namespace Socket

def ofScript (script : SocketScript) : Socket := ⟨script, []⟩

/-- The length of what the peer still delivers. -/
def pending (socket : Socket) : Nat := Arrival.totalWeight socket.script.arrivals

def record (socket : Socket) (event : SocketEvent) : Socket :=
  { socket with history := socket.history ++ [event] }

def withArrivals (socket : Socket) (arrivals : List Arrival) : Socket :=
  { socket with script := { socket.script with arrivals := arrivals } }

def setTimeout (socket : Socket) (seconds : Option Double) : Socket :=
  socket.record (.setTimeout seconds)

def connect (address : Address) : Step Socket Unit := fun socket =>
  match socket.script.connectFault with
  | none => .ok () (socket.record (.connect address true))
  | some cause => .error (.fault cause) (socket.record (.connect address false))

def wrap (serverName : Text) : Step Socket Unit := fun socket =>
  match socket.script.wrapFault with
  | none => .ok () (socket.record (.wrap serverName true))
  | some cause => .error (.fault cause) (socket.record (.wrap serverName false))

/-- The first of the remaining items taken, up to a size: data or a fault, and what remains. An
item is delivered in parts when it is longer, items are not joined, and empty ones are passed
over. -/
def take (size : Nat) : List Arrival → Except Fault Bytes × List Arrival
  | [] => (.ok [], [])
  | .fault cause :: rest => (.error cause, rest)
  | .data [] :: rest => take size rest
  | .data octets :: rest =>
    let left := octets.drop size
    (.ok (octets.take size), if left.isEmpty then rest else .data left :: rest)

/-- At most `size` octets, or none at the end of what the peer sends. -/
def receive (size : Nat) : Step Socket Bytes := fun socket =>
  match take size socket.script.arrivals with
  | (.ok octets, rest) =>
    .ok octets ((socket.withArrivals rest).record (.receive size (some octets)))
  | (.error cause, rest) =>
    .error (.fault cause) ((socket.withArrivals rest).record (.receive size none))

/-- Sends all the octets, or none when sending faults. -/
def send (octets : Bytes) : Step Socket Unit := fun socket =>
  match socket.script.sendFault with
  | none => .ok () (socket.record (.send octets true))
  | some (0, cause) => .error (.fault cause) (socket.record (.send octets false))
  | some (k + 1, cause) =>
    .ok () { socket.record (.send octets true) with
      script := { socket.script with sendFault := some (k, cause) } }

/-- Closing does not end what the peer delivers. -/
def close (socket : Socket) : Socket := socket.record .close

@[simp] theorem pending_setTimeout (socket : Socket) (seconds : Option Double) :
    (socket.setTimeout seconds).pending = socket.pending := rfl

@[simp] theorem pending_close (socket : Socket) : socket.close.pending = socket.pending := rfl

@[simp] theorem pending_record (socket : Socket) (event : SocketEvent) :
    (socket.record event).pending = socket.pending := rfl

/-- Taking data shortens what remains. -/
theorem take_weight {size : Nat} {arrivals rest : List Arrival} {octets : Bytes}
    (h : take size arrivals = (.ok octets, rest)) (nonempty : octets ≠ []) :
    Arrival.totalWeight rest < Arrival.totalWeight arrivals := by
  fun_induction take size arrivals with
  | case1 => simp_all
  | case2 => simp at h
  | case3 rest' ih => simp only [Arrival.totalWeight, Arrival.weight]; have := ih h; omega
  | case4 octets' rest' hne left =>
    simp only [Prod.mk.injEq, Except.ok.injEq] at h
    obtain ⟨rfl, rfl⟩ := h
    split
    · simp [Arrival.totalWeight, Arrival.weight]
    · have hlen : (octets'.take size).length ≠ 0 := by simpa using nonempty
      simp only [List.length_take] at hlen
      simp only [Arrival.totalWeight, Arrival.weight, left, List.length_drop]
      omega

/-- Taking anything leaves no more than what remained, less what was taken. -/
theorem take_le (size : Nat) (arrivals : List Arrival) :
    Arrival.totalWeight (take size arrivals).2
        + (match (take size arrivals).1 with | .ok octets => octets.length | .error _ => 0)
      ≤ Arrival.totalWeight arrivals := by
  fun_induction take size arrivals with
  | case1 => simp
  | case2 => simp [Arrival.totalWeight]
  | case3 rest ih => simp only [Arrival.totalWeight, Arrival.weight]; omega
  | case4 octets rest hne left =>
    simp only [left]
    split
    · simp only [Arrival.totalWeight, Arrival.weight, List.length_take]
      omega
    · simp only [Arrival.totalWeight, Arrival.weight, List.length_take,
        List.length_drop]
      omega

theorem receive_weight {size : Nat} {socket socket' : Socket} {octets : Bytes}
    (h : receive size socket = .ok octets socket') :
    socket'.pending + octets.length ≤ socket.pending := by
  unfold receive at h
  split at h
  · rename_i o r hr
    injection h with h1 h2
    subst h1 h2
    have := take_le size socket.script.arrivals
    rw [hr] at this
    simpa [pending, withArrivals, record] using this
  · cases h

theorem receive_error_pending {size : Nat} {socket socket' : Socket} {failure : Failure}
    (h : receive size socket = .error failure socket') : socket'.pending ≤ socket.pending := by
  unfold receive at h
  split at h
  · cases h
  · rename_i e r hr
    injection h with h1 h2
    subst h1 h2
    have := take_le size socket.script.arrivals
    rw [hr] at this
    simpa [pending, withArrivals, record] using this

/-- Receiving data shortens the script. -/
theorem receive_pending {size : Nat} {socket socket' : Socket} {octets : Bytes}
    (h : receive size socket = .ok octets socket') (nonempty : octets ≠ []) :
    socket'.pending < socket.pending := by
  unfold receive at h
  split at h
  · rename_i o r hr
    injection h with h1 h2
    subst h1 h2
    exact take_weight hr nonempty
  · cases h

/-! The views of a history. -/

/-- The octets of every successful send. -/
def sent (socket : Socket) : List Bytes :=
  socket.history.filterMap fun
    | .send octets true => some octets
    | _ => none

/-- How often data was asked for. -/
def receiveCount (socket : Socket) : Nat :=
  (socket.history.filter fun
    | .receive .. => true
    | _ => false).length

/-- All timeouts set, in order. -/
def timeouts (socket : Socket) : List (Option Double) :=
  socket.history.filterMap fun
    | .setTimeout seconds => some seconds
    | _ => none

def isClosed (socket : Socket) : Bool :=
  socket.history.any fun
    | .close => true
    | _ => false

/-- The address that the socket was last told to connect to. -/
def peer? (socket : Socket) : Option Address :=
  (socket.history.filterMap fun
    | .connect address _ => some address
    | _ => none).getLast?

/-- The server name under which TLS was last asked for. -/
def tlsName? (socket : Socket) : Option Text :=
  (socket.history.filterMap fun
    | .wrap serverName _ => some serverName
    | _ => none).getLast?

end Socket

end HttpFetch
