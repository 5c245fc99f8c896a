import HttpFetch.Stream.Socket

/-!
# Transports

A transport is a connected socket with a timeout for reading and one for writing, each set anew
before every call. Over TLS the peer may say that it is done, which reads as the end of the data.
-/

namespace HttpFetch

/-- The longest piece of data asked for at once. -/
def readChunkSize : Nat := 65536

/-- A timeout as it takes effect: none, zero and less are no timeout. -/
def effectiveTimeout (seconds : Option Double) : Option Double :=
  match seconds with
  | none => none
  | some s => if s.isAtMostZero then none else some s

structure Transport where
  socket : Socket
  isTls : Bool
  readTimeout : Option Double
  writeTimeout : Option Double

namespace Transport

/-- A transport over a socket, with the timeouts as they take effect. -/
def make (socket : Socket) (isTls : Bool) (readTimeout writeTimeout : Option Double) : Transport :=
  ⟨socket, isTls, effectiveTimeout readTimeout, effectiveTimeout writeTimeout⟩

def withSocket (transport : Transport) (socket : Socket) : Transport :=
  { transport with socket := socket }

/-- At most `size` octets, or none at the end of the data. -/
def read (size : Nat) : Step Transport Bytes := fun transport =>
  match Socket.receive size (transport.socket.setTimeout transport.readTimeout) with
  | .ok octets socket => .ok octets (transport.withSocket socket)
  | .error (.fault cause) socket =>
    if transport.isTls && cause.family == .tlsClosed then .ok [] (transport.withSocket socket)
    else .error (.fault cause) (transport.withSocket socket)
  | .error failure socket => .error failure (transport.withSocket socket)

/-- Sends all the octets. -/
def write (octets : Bytes) : Step Transport Unit := fun transport =>
  match Socket.send octets (transport.socket.setTimeout transport.writeTimeout) with
  | .ok () socket => .ok () (transport.withSocket socket)
  | .error failure socket => .error failure (transport.withSocket socket)

def close (transport : Transport) : Transport := transport.withSocket transport.socket.close

/-- Reading data shortens the script. -/
theorem read_pending {size : Nat} {transport transport' : Transport} {octets : Bytes}
    (h : read size transport = .ok octets transport') (nonempty : octets ≠ []) :
    transport'.socket.pending < transport.socket.pending := by
  unfold read at h
  split at h
  · rename_i o s hs
    injection h with h1 h2
    subst h1 h2
    simpa [withSocket] using Socket.receive_pending hs nonempty
  · split at h
    · injection h with h1 _
      exact absurd h1.symm nonempty
    · cases h
  · cases h

/-- What is read no longer counts towards the script. -/
theorem read_weight {size : Nat} {transport transport' : Transport} {octets : Bytes}
    (h : read size transport = .ok octets transport') :
    transport'.socket.pending + octets.length ≤ transport.socket.pending := by
  unfold read at h
  split at h
  · rename_i o s hs
    injection h with h1 h2
    subst h1 h2
    simpa [withSocket] using Socket.receive_weight hs
  · rename_i hs
    split at h
    · injection h with h1 h2
      subst h1 h2
      simpa [withSocket] using Socket.receive_error_pending hs
    · cases h
  · cases h

end Transport

end HttpFetch
