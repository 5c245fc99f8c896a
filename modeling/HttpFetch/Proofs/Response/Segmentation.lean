import HttpFetch.Proofs.Response.BodyDecoding
import HttpFetch.Proofs.Response.HeadDecoding

/-!
# Cuts do not matter

What a caller sees of a response is its head and the octets of its body, or the failure in place of
either.  `Response.receive_eq_decode` says that this is a function of the octets that arrive as long
as no line passes the limit of readers, and `Response.receive_eq_of_delivers` that two connections
over which the same octets arrive give the same: however they are cut, whatever the size of the
pieces asked for, and whether the data ends with the connection or with the closing of TLS.
-/

namespace HttpFetch

namespace Response

/-- What a caller sees of a response that arrives over a transport, its body read in pieces of at
most `size` octets: why there is no head, or the head, the octets of the body and the failure that
ends them. -/
def receive (method : Text) (url : Option Url) (size : Int) (transport : Transport) :
    Except Failure (ResponseHead × Bytes × Option Failure) :=
  match ResponseHead.read (Reader.ofTransport transport) with
  | .error failure _ => .error failure
  | .ok head reader =>
    let body := drainFrom (.start size) { ofHead head url method reader with attached := true }
    .ok (head, body.pieces.flatten, body.failure)

/-- The same of a response on a wire, and what is left of the wire. -/
def decode (method : Text) (wire : Wire) :
    Except Failure (ResponseHead × Bytes × Option Failure) × Wire :=
  match ResponseHead.decode wire with
  | .error failure wire => (.error failure, wire)
  | .ok head wire =>
    let body := (Framing.ofHead head method).decode wire
    (.ok (head, body.pieces.flatten, body.failure), body.left)

/-- The lines that a response takes off the octets that arrive: those of its head, and the size
lines, the ends of blocks and the trailer of a chunked body. -/
def linesTaken (method : Text) (octets : Bytes) : List Bytes :=
  (decode method (Wire.ofBytes octets)).2.lines

theorem cursor_isBegun
    {framing : HttpFetch.Framing} {size : Int} {cursor : Cursor}
    (h : Framing.cursor size framing = .ok cursor) : cursor.isBegun = true := by
  cases framing <;> cases h <;> rfl

theorem drainFrom_start
    {size : Int} {cursor : Cursor} {response : Response} (hfresh : response.consumed = false)
    (hattached : response.attached = true)
    (hcursor : Framing.cursor size (Framing.ofHead response.head response.method) = .ok cursor) :
    drainFrom (.start size) response = drainFrom cursor { response with consumed := true } := by
  have hbegun := cursor_isBegun hcursor
  have hbegin : advance (.start size) response =
      advance cursor { response with consumed := true } := by
    rw [advance_of_isBegun hbegun]
    simp [advance, begin, hfresh, hattached, hcursor]
  rw [drainFrom_eq, drainFrom_eq, hbegin]

/-- Draining a response gives the octets and the failure that its framing decodes. -/
theorem drain_agrees
    {head : ResponseHead} (url : Option Url) {method : Text} {size : Int} (hsize : 1 ≤ size)
    {reader : Reader} {wire : Wire} (hsupplies : reader.Supplies wire.rest)
    (hlimit : ((HttpFetch.Framing.ofHead head method).decode wire).left.WithinLimit) :
    let body := drainFrom (.start size) { ofHead head url method reader with attached := true }
    let decoded := (HttpFetch.Framing.ofHead head method).decode wire
    body.pieces.flatten = decoded.pieces.flatten ∧ body.failure = decoded.failure := by
  intro body decoded
  cases hcursor : Framing.cursor size (HttpFetch.Framing.ofHead head method) with
  | error failure =>
      -- Only a length that cannot be read as a number is refused before anything is read.
      have hbody : body = ⟨[], some failure,
          { ofHead head url method reader with attached := true, consumed := true }.close⟩ := by
        simp only [body]
        rw [drainFrom_eq]
        simp [advance, begin, ofHead, hcursor]
      rw [hbody]
      cases hframing : HttpFetch.Framing.ofHead head method with
      | badLength written defect =>
          simp only [decoded]
          rw [hframing] at hcursor ⊢
          cases hcursor
          exact ⟨rfl, rfl⟩
      | none | chunked | length | untilEnd =>
          rw [hframing] at hcursor
          cases hcursor
  | ok cursor =>
      have hagrees := HttpFetch.Framing.collect_agrees hsize hcursor hsupplies hlimit
      have hbegun := cursor_isBegun hcursor
      have hbody : body = _ :=
        (drainFrom_start rfl rfl hcursor).trans (drainFrom_of_isBegun hbegun _)
      rw [hbody]
      refine ⟨hagrees.octets_eq, ?_⟩
      rw [← HttpFetch.Framing.decode_failure, ← hagrees.failure_eq]
      rfl

/-- Receiving a response over any connection is decoding the octets that arrive. -/
theorem receive_eq_decode
    {method : Text} {url : Option Url} {size : Int} (hsize : 1 ≤ size)
    {transport : Transport} {octets : Bytes} (hdelivers : transport.Delivers octets)
    (hlimit : (decode method (Wire.ofBytes octets)).2.WithinLimit) :
    receive method url size transport = (decode method (Wire.ofBytes octets)).1 := by
  have hagrees := ResponseHead.read_refines.agrees (Reader.ofTransport transport)
    (Wire.ofBytes octets) hdelivers.supplies
  unfold receive
  unfold decode at hlimit ⊢
  cases hdecode : ResponseHead.decode (Wire.ofBytes octets) with
  | error failure after =>
      rw [hdecode] at hagrees hlimit
      obtain ⟨reader, hread, -⟩ := (hagrees hlimit).of_error
      rw [hread]
  | ok head after =>
      rw [hdecode] at hagrees hlimit
      have hhead : after.WithinLimit :=
        hlimit.of_prefix (HttpFetch.Framing.decode_keepsLines _ after)
      obtain ⟨reader, hread, hrest⟩ := (hagrees hhead).of_ok
      rw [hread]
      obtain ⟨hoctets, hfailure⟩ := drain_agrees url hsize hrest hlimit
      simp only [hoctets, hfailure]

/-- Neither the cuts of a response nor the way it ends nor the size of the pieces asked for is
seen by its reader. -/
theorem receive_eq_of_delivers
    {method : Text} {url url' : Option Url} {size size' : Int} (hsize : 1 ≤ size)
    (hsize' : 1 ≤ size') {transport transport' : Transport} {octets : Bytes}
    (hdelivers : transport.Delivers octets) (hdelivers' : transport'.Delivers octets)
    (hlines : ∀ line ∈ linesTaken method octets, line.length ≤ 65536) :
    receive method url size transport = receive method url' size' transport' := by
  have hlimit : (decode method (Wire.ofBytes octets)).2.WithinLimit := by
    intro line hline
    have := hlines line hline
    unfold Chunked.lineLimit
    omega
  rw [receive_eq_decode hsize hdelivers hlimit, receive_eq_decode hsize' hdelivers' hlimit]

/-- A chunked body, cut inside a line end and inside a block, and the same at once over TLS. -/
theorem receive_eq_of_delivers_chunked :
    receive "GET".toList none 1 (.ofArrivals false
        (["HTTP/1.1 200 OK\r", "\nTransfer-Encoding: chunked\r\n\r\n2\r\na", "b\r\n0\r\n\r\n"].map
          fun item => .data (Utf8.encode item.toList))) =
      receive "GET".toList none 4096 (.ofArrivals true
        [.data (Utf8.encode
            "HTTP/1.1 200 OK\r\nTransfer-Encoding: chunked\r\n\r\n2\r\nab\r\n0\r\n\r\n".toList),
          .fault (Fault.named "SSLZeroReturnError".toList [])]) := by
  apply receive_eq_of_delivers (by decide) (by decide)
  · exact ⟨_, rfl, Or.inl (List.map_map ..).symm⟩
  · exact ⟨[_], rfl, Or.inr ⟨rfl, _, by decide, rfl⟩⟩
  · decide +kernel

end Response

end HttpFetch
