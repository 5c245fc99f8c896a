import HttpFetch.Response.Head
import HttpFetch.Url.Basic

/-!
# Responses and their bodies

A response owns the reader that its head came from. Its body is read once, piece by piece: a
cursor says where the reading stands, and `Response.advance` gives the next piece or the end.
The connection is closed when the body ends or fails. Every piece takes something from the
reader (`advance_unread`), so reading a whole body ends.
-/

namespace HttpFetch

structure Response where
  head : ResponseHead
  url : Option Url
  method : Text
  reader : Reader
  attached : Bool
  consumed : Bool

/-- Where the reading of a body stands. -/
inductive Cursor
  | start (size : Int)
  | counted (size remaining : Int)
  | chunks (insideLine : Bool)
  | rest (size : Int)
  | finished
  deriving DecidableEq, Repr

namespace Response

/-- A response whose body cannot be read yet. -/
def ofHead (head : ResponseHead) (url : Option Url) (method : Text) (reader : Reader) :
    Response :=
  ⟨head, url, method, reader, false, false⟩

def withReader (response : Response) (reader : Reader) : Response :=
  { response with reader := reader }

/-- A response that has given up its connection, if it had not before. -/
def close (response : Response) : Response :=
  if response.attached then
    { response with reader := response.reader.close, attached := false }
  else response

/-- The piece after a chunk's, whose line may have to be ended first. -/
def nextChunk (insideLine : Bool) (reader : Reader) :
    EStateM.Result Failure Reader (Option Bytes) :=
  if insideLine then
    match reader.readLine Chunked.lineLimit with
    | .ok _ reader => Chunked.next reader
    | .error failure reader => .error failure reader
  else Chunked.next reader

/-- The next piece that a cursor leads to, and where it leads then. -/
def piece (cursor : Cursor) : Step Reader (Option Bytes × Cursor) := fun reader =>
  match cursor with
  | .counted size remaining =>
    if remaining ≤ 0 then .ok (none, .finished) reader
    else
      match reader.read (min size remaining) with
      | .ok [] reader => .error (.body (.cutBody remaining.toNat)) reader
      | .ok octets reader =>
        .ok (some octets, .counted size (remaining - octets.length)) reader
      | .error failure reader => .error failure reader
  | .chunks insideLine =>
    match nextChunk insideLine reader with
    | .ok (some octets) reader => .ok (some octets, .chunks true) reader
    | .ok none reader => .ok (none, .finished) reader
    | .error failure reader => .error failure reader
  | .rest size =>
    match reader.read size with
    | .ok [] reader => .ok (none, .finished) reader
    | .ok octets reader => .ok (some octets, .rest size) reader
    | .error failure reader => .error failure reader
  | .start _ | .finished => .ok (none, .finished) reader

/-- The next piece of a body that has begun. At its end and on failure the connection is
closed. -/
def resume (cursor : Cursor) : Step Response (Option Bytes × Cursor) := fun response =>
  match piece cursor response.reader with
  | .ok (some octets, cursor) reader =>
    .ok (some octets, cursor) (response.withReader reader)
  | .ok (none, cursor) reader => .ok (none, cursor) (response.withReader reader).close
  | .error failure reader => .error failure.amongPieces (response.withReader reader).close

/-- The cursor at the start of a body that is read in pieces of at most `size` octets. -/
def Framing.cursor (size : Int) : Framing → Except Failure Cursor
  | .none => .ok (.counted size 0)
  | .chunked => .ok (.chunks false)
  | .length octets => .ok (.counted size octets)
  | .badLength written defect => .error (.value (.integer written defect))
  | .untilEnd => .ok (.rest size)

/-- The first piece of a body, which can be read only once. -/
def begin (size : Int) : Step Response (Option Bytes × Cursor) := fun response =>
  if response.consumed then .error .responseConsumed response
  else
    let response := { response with consumed := true }
    if !response.attached then .ok (none, .finished) response
    else
      match Framing.cursor size (Framing.ofHead response.head response.method) with
      | .ok cursor => resume cursor response
      | .error failure => .error failure response.close

/-- The next piece of a body, and the cursor after it. -/
def advance (cursor : Cursor) : Step Response (Option Bytes × Cursor) :=
  match cursor with
  | .start size => begin size
  | .finished => pure (none, .finished)
  | cursor => resume cursor

/-- Ends the reading of a body early. -/
def abandon (cursor : Cursor) (response : Response) : Response :=
  match cursor with
  | .start _ | .finished => response
  | _ => response.close

theorem piece_unread {cursor cursor' : Cursor} {reader reader' : Reader} {octets : Bytes}
    (h : piece cursor reader = .ok (some octets, cursor') reader') :
    reader'.unread < reader.unread := by
  unfold piece at h
  split at h
  · split at h
    · cases h
    · split at h
      · cases h
      · rename_i octets' r hne hr
        injection h with h1 h2
        subst h2
        have := Reader.read_unread hr
        have := List.length_pos_iff.mpr (fun h => hne h)
        omega
      · cases h
  · split at h
    · rename_i hn
      injection h with h1 h2
      subst h2
      unfold nextChunk at hn
      split at hn
      · split at hn
        · rename_i hl
          have := Chunked.next_unread hn
          have := Reader.readLine_unread hl
          omega
        · cases hn
      · exact Chunked.next_unread hn
    · cases h
    · cases h
  · split at h
    · cases h
    · rename_i octets' r hne hr
      injection h with h1 h2
      subst h2
      have := Reader.read_unread hr
      have := List.length_pos_iff.mpr (fun h => hne h)
      omega
    · cases h
  · cases h
  · cases h

theorem resume_unread {cursor cursor' : Cursor} {response response' : Response} {octets : Bytes}
    (h : resume cursor response = .ok (some octets, cursor') response') :
    response'.reader.unread < response.reader.unread := by
  unfold resume at h
  split at h
  · rename_i hp
    injection h with h1 h2
    cases h1
    subst h2
    exact piece_unread hp
  · cases h
  · cases h

/-- Every piece takes something from the reader. -/
theorem advance_unread {cursor cursor' : Cursor} {response response' : Response} {octets : Bytes}
    (h : advance cursor response = .ok (some octets, cursor') response') :
    response'.reader.unread < response.reader.unread := by
  unfold advance at h
  split at h
  · unfold begin at h
    split at h
    · cases h
    · simp only at h
      split at h
      · cases h
      · split at h
        · simpa using resume_unread h
        · cases h
  · cases h
  · exact resume_unread h

/-- A body as it was read: its pieces, and the failure that ended it, if one did. -/
structure Drained where
  pieces : List Bytes
  failure : Option Failure
  response : Response

/-- The pieces from a cursor to the end of the body. -/
def drainFrom (cursor : Cursor) (response : Response) : Drained :=
  match _h : advance cursor response with
  | .ok (some octets, cursor) response =>
    let rest := drainFrom cursor response
    { rest with pieces := octets :: rest.pieces }
  | .ok (none, _) response => ⟨[], none, response⟩
  | .error failure response => ⟨[], some failure, response⟩
termination_by response.reader.unread
decreasing_by exact advance_unread (by assumption)

/-- All pieces of a body. -/
def drain (response : Response) : Drained := drainFrom (.start readChunkSize) response

/-- The whole body. -/
def read : Step Response Bytes := fun response =>
  let drained := response.drain
  match drained.failure with
  | none => .ok drained.pieces.flatten drained.response
  | some failure => .error failure drained.response

/-- The whole body as text in an encoding given by name, which is looked up after reading. A body
without octets is the empty text whatever the name, unless there is a null in it. -/
def readText (encoding : Text) : Step Response Text := do
  let octets ← read
  match Charset.ofName encoding with
  | .error defect =>
    if octets.isEmpty && defect != .hasNull then pure []
    else throw (.charsetName encoding defect .decoding)
  | .ok charset =>
    if octets.isEmpty then pure []
    else
      match charset.decode? octets with
      | some s => pure s
      | none => throw (.undecodable charset)

end Response

end HttpFetch
