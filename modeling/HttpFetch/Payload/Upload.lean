import HttpFetch.Chunked
import HttpFetch.Payload.Basic
import HttpFetch.Request

/-!
# Uploads

A payload is sent as it is or in chunked coding. The caller's Transfer-Encoding decides; without
one, a payload of unknown size or of more than a mebibyte is chunked, a Content-Length standing
in for a size that is not known.
-/

namespace HttpFetch

/-- The longest piece that is asked of a source, and the longest payload sent as it is. -/
def uploadChunkSize : Nat := 1048576

/-- Whether a payload of a given size is sent in chunked coding. -/
def Request.usesChunked (request : Request) (size : Option Int) : Bool :=
  match request.headers.value? "transfer-encoding".toList with
  | some encoding => encoding.lower = "chunked".toList
  | none =>
    let size := size <|> (request.headers.value? "content-length".toList).map fun length =>
      match Integer.parse length with
      | .ok n => n
      | .error _ => 0
    match size with
    | none => true
    | some n => uploadChunkSize < n

/-- A payload on its way into a transport. -/
structure Upload where
  payload : Payload
  transport : Transport

namespace Upload

/-- Copies what the source of the payload gives, and counts it. -/
def pipe (write : Bytes → Step Transport Unit) (total : Nat) (upload : Upload) :
    EStateM.Result Failure Upload Nat :=
  match _h : upload.payload.read uploadChunkSize with
  | .error failure payload => .error failure { upload with payload := payload }
  | .ok [] payload => .ok total { upload with payload := payload }
  | .ok (b :: octets) payload =>
    match write (b :: octets) upload.transport with
    | .ok () transport => pipe write (total + (octets.length + 1)) ⟨payload, transport⟩
    | .error failure transport => .error failure ⟨payload, transport⟩
termination_by upload.payload.pending
decreasing_by
  have := Payload.read_pending _h
  simp only [List.length_cons] at this
  omega

/-- Sends the payload, and counts its octets. -/
def send (request : Request) : Step Upload Nat := fun upload =>
  match upload.payload.consume with
  | .error failure payload => .error failure { upload with payload := payload }
  | .ok size payload =>
    let upload := { upload with payload := payload }
    if request.usesChunked size then
      match upload.pipe Chunked.write 0 with
      | .error failure upload => .error failure upload
      | .ok total upload =>
        match Chunked.finish upload.transport with
        | .ok () transport => .ok total { upload with transport := transport }
        | .error failure transport => .error failure { upload with transport := transport }
    else upload.pipe Transport.write 0

end Upload

end HttpFetch
