import HttpFetch.Proofs.Chunked.RoundTrip
import HttpFetch.Proofs.Payload.Sending

/-!
# Uploads are received as they were meant

What an upload sends, a peer can take for what it is.  Sent as it is, the payload is what arrives;
in chunked coding it is what the blocks join to, over any connection and whatever follows, because
every piece is sent as one block and is never empty.
-/

namespace HttpFetch

namespace Upload

theorem flatten_framing_false (pieces : List Bytes) :
    (framing false pieces).flatten = pieces.flatten := by
  have hmap : pieces.map (framed false) = pieces := List.map_id pieces
  rw [framing, hmap, ending, if_neg Bool.false_ne_true, List.append_nil]

theorem flatten_framing_true (pieces : List Bytes) :
    (framing true pieces).flatten = Chunked.coded pieces := by
  rw [framing, List.flatten_append]
  exact congrArg ((pieces.map Chunked.block).flatten ++ ·) (List.append_nil _)

theorem framing_ne_nil {pieces : List Bytes} (hne : ∀ piece ∈ pieces, piece ≠ [])
    (chunked : Bool) : ∀ octets ∈ framing chunked pieces, octets ≠ [] := by
  cases chunked with
  | false =>
      intro octets hoctets
      rw [framing, ending, if_neg Bool.false_ne_true, List.append_nil] at hoctets
      obtain ⟨piece, hpiece, rfl⟩ := List.mem_map.mp hoctets
      exact hne piece hpiece
  | true =>
      intro octets hoctets
      rw [framing, List.mem_append] at hoctets
      rcases hoctets with hblock | hend
      · obtain ⟨piece, -, rfl⟩ := List.mem_map.mp hblock
        simp [framed, Chunked.block, Chunked.lineEnd]
      · rw [ending, if_pos rfl, List.mem_singleton] at hend
        rw [hend]
        decide

theorem send_of_gives
    {payload : Payload} {data : Bytes} (hgives : payload.Gives data)
    (hfresh : payload.consumed = false) (request : Request) {transport : Transport}
    (hready : transport.socket.script.sendFault = none) :
    ∃ upload', send request ⟨payload, transport⟩ = .ok data.length upload' ∧
      upload'.transport.socket.sent = transport.socket.sent ++
        framing (request.usesChunked payload.size) payload.contents.pieces := by
  cases hsend : send request ⟨payload, transport⟩ with
  | error failure upload' =>
      obtain ⟨pieces, -, -, hsource⟩ := send_error hsend
      exact absurd hgives.unfailing (hsource hready hfresh)
  | ok total upload' =>
      obtain ⟨-, htotal, htransfers⟩ := send_ok hsend
      rw [hgives.flatten_eq] at htotal
      exact ⟨upload', by rw [htotal], htransfers.sent_eq⟩

/-- What is sent of a payload is its data, or decodes to it over any connection and leaves what
follows. -/
theorem send_of_carries
    {payload : Payload} {data : Bytes} (hcarries : payload.Carries data) (request : Request)
    {transport : Transport} (hready : transport.socket.script.sendFault = none) :
    ∃ sends upload', send request ⟨payload, transport⟩ = .ok data.length upload' ∧
      upload'.transport.socket.sent = transport.socket.sent ++ sends ∧
      (∀ octets ∈ sends, octets ≠ []) ∧
      (request.usesChunked payload.size = false → sends.flatten = data) ∧
      (request.usesChunked payload.size = true →
        ∀ (rest : Bytes) (receiving : Transport), receiving.Delivers (sends.flatten ++ rest) →
          let body := Response.collect (.chunks false) (Reader.ofTransport receiving)
          body.failure = none ∧ body.pieces.flatten = data ∧ body.left.leftover = rest) := by
  have hgives := hcarries.gives
  have hne := payload.ne_nil_of_mem_contents
  obtain ⟨upload', hsend, hsent⟩ := send_of_gives hgives hcarries.fresh request hready
  refine ⟨_, upload', hsend, hsent, framing_ne_nil hne _, ?_, ?_⟩
  · intro hplain
    rw [hplain, flatten_framing_false, hgives.flatten_eq]
  · intro hchunked rest receiving hdelivers
    rw [hchunked, flatten_framing_true] at hdelivers
    obtain ⟨hpieces, hfailure, hleft⟩ :=
      Chunked.collect_coded hne hgives.length_lt hdelivers.supplies
    refine ⟨hfailure, ?_, hleft⟩
    rw [hpieces, hgives.flatten_eq]

/-- Pieces that hold a line end and a zero, with an empty one between them. -/
theorem send_of_carries_pieces :
    ∃ sends upload', send ⟨[], none, none, none⟩
        ⟨.ofPieces [[97, 13, 10], [], [48]] none, .ofArrivals false []⟩ = .ok 4 upload' ∧
      upload'.transport.socket.sent = sends ∧
      ∀ (rest : Bytes) (receiving : Transport), receiving.Delivers (sends.flatten ++ rest) →
        let body := Response.collect (.chunks false) (Reader.ofTransport receiving)
        body.failure = none ∧ body.pieces.flatten = [97, 13, 10, 48] ∧
          body.left.leftover = rest := by
  obtain ⟨sends, upload', hsend, hsent, -, -, hchunked⟩ :=
    send_of_carries (.pieces [[97, 13, 10], [], [48]] none) ⟨[], none, none, none⟩
      (show (Transport.ofArrivals false []).socket.script.sendFault = none from rfl)
  exact ⟨sends, upload', hsend, hsent, hchunked (by decide)⟩

end Upload

end HttpFetch
