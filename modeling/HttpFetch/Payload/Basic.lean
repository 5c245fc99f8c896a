import HttpFetch.Payload.Source

/-!
# Payloads

The body of a request: nothing, or a source of data with a size that may be known. A payload is
taken once.
-/

namespace HttpFetch

structure Payload where
  source : Option Source
  size : Option Int
  consumed : Bool
  deriving DecidableEq, Repr

namespace Payload

/-- The payload without data. -/
def empty : Payload := ⟨none, some 0, false⟩

def ofSource (source : Source) (size : Option Int) : Payload := ⟨some source, size, false⟩

def ofBytes (octets : Bytes) : Payload := ofSource (.memory octets) (some octets.length)

/-- A text in UTF-8. -/
def ofText (s : Text) : Payload := ofBytes (Utf8.encode s)

/-- A text in an encoding given by name. -/
def ofTextIn (encoding s : Text) : Except Failure Payload :=
  match Charset.ofName encoding with
  | .error defect => .error (.charsetName encoding defect .encoding)
  | .ok charset =>
    match charset.encode? s with
    | some octets => .ok (ofBytes octets)
    | none => .error (.unencodable charset s)

def ofPieces (pieces : List Bytes) (size : Option Int) : Payload :=
  ofSource (.pieces [] pieces) size

def isEmpty (payload : Payload) : Bool := payload.source.isNone

/-- Takes the payload: its size, if it is known. -/
def consume : Step Payload (Option Int) := fun payload =>
  if payload.consumed then .error .payloadConsumed payload
  else .ok payload.size { payload with consumed := true }

/-- What the source of a payload gives next; a payload without data is like an empty memory. -/
def read (size : Int) : Step Payload Bytes := fun payload =>
  match payload.source with
  | none => if Source.isIndex size then .ok [] payload else .error .indexRange payload
  | some source =>
    match source.read size with
    | .ok octets source => .ok octets { payload with source := some source }
    | .error failure source => .error failure { payload with source := some source }

/-- The length of what a payload still gives. -/
def pending (payload : Payload) : Nat := (payload.source.map Source.pending).getD 0

theorem read_pending {size : Int} {payload payload' : Payload} {octets : Bytes}
    (h : read size payload = .ok octets payload') :
    payload'.pending + octets.length ≤ payload.pending := by
  unfold read at h
  split at h
  · split at h
    · injection h with h1 h2
      subst h1 h2
      simp
    · cases h
  · rename_i source hs
    split at h
    · rename_i hr
      injection h with h1 h2
      subst h1 h2
      simpa [pending, hs] using Source.read_pending hr
    · cases h

end Payload

end HttpFetch
