import HttpFetch.Proofs.Chunked.RoundTrip
import HttpFetch.Proofs.Payload.Sending

/-!
# Uploads that fail are cut short

A chunked upload that fails has sent the blocks of a beginning of its pieces and never what ends the
body, whether the source failed, or a send, or the very last send.  So a peer that takes what was
sent for a body gets these pieces and then sees that the connection ended inside it.
-/

namespace HttpFetch

/-- What a source gives at once is in memory, so its length is a number that can count octets. Of
memory and of pieces no more is given than was asked for. -/
def Source.Held : Source → Prop
  | .script items => ∀ octets, .data octets ∈ items → isIndex octets.length = true
  | .memory _ | .pieces _ _ => True

theorem Source.Held.of_read
    {source source' : Source} {octets : Bytes} (h : source.Held)
    (hread : source.read uploadChunkSize = .ok octets source') :
    source'.Held ∧ octets.length < 16 ^ 16 := by
  cases source with
  | memory data =>
      cases hread
      refine ⟨trivial, ?_⟩
      rw [List.length_take, granted, if_neg (by decide), Int.toNat_natCast, uploadChunkSize]
      omega
  | pieces waiting rest =>
      obtain ⟨piece, waiting', rest', hpieces, -, hsmall, -⟩ :=
        Payload.readPieces_append waiting rest
      simp only [read, hpieces] at hread
      cases hread
      exact ⟨trivial, hsmall⟩
  | script items =>
      cases items with
      | nil =>
          cases hread
          exact ⟨h, by simp⟩
      | cons item items =>
          cases item with
          | fault cause => cases hread
          | data data =>
              cases hread
              have hindex := h octets List.mem_cons_self
              rw [isIndex, Bool.and_eq_true, decide_eq_true_eq, decide_eq_true_eq] at hindex
              exact ⟨fun more hmore => h more (List.mem_cons_of_mem _ hmore), by omega⟩

namespace Payload

def Held (payload : Payload) : Prop := ∀ source ∈ payload.source, source.Held

theorem Held.of_read
    {payload payload' : Payload} {octets : Bytes} (h : payload.Held)
    (hread : payload.read uploadChunkSize = .ok octets payload') :
    payload'.Held ∧ octets.length < 16 ^ 16 := by
  unfold read at hread
  split at hread
  next hnone =>
    split at hread
    next =>
      cases hread
      exact ⟨h, by simp⟩
    next => cases hread
  next source hsource =>
    split at hread
    next source' hgiven =>
      cases hread
      obtain ⟨hheld, hsmall⟩ := (h source hsource).of_read hgiven
      refine ⟨?_, hsmall⟩
      rintro _ ⟨⟩
      exact hheld
    next => cases hread

theorem Held.length_lt {payload : Payload} (h : payload.Held) :
    ∀ piece ∈ payload.contents.pieces, piece.length < 16 ^ 16 := by
  fun_induction contents payload with
  | case1 | case2 => exact fun piece hpiece => absurd hpiece List.not_mem_nil
  | case3 payload b octets payload' hread ih =>
      obtain ⟨hheld, hsmall⟩ := h.of_read hread
      rw [List.forall_mem_cons]
      exact ⟨hsmall, ih hheld⟩

end Payload

namespace Upload

/-- What a failed chunked upload has sent is read as the pieces that were sent, and then as a body
that is cut short. -/
theorem collect_of_send_error
    {request : Request} {payload : Payload} {transport : Transport} {failure : Failure}
    {upload' : Upload} (hheld : payload.Held)
    (hchunked : request.usesChunked payload.size = true)
    (hfailed : send request ⟨payload, transport⟩ = .error failure upload') :
    ∃ pieces, pieces <+: payload.contents.pieces ∧
      upload'.transport.socket.sent = transport.socket.sent ++ pieces.map Chunked.block ∧
      Chunked.terminator ∉ pieces.map Chunked.block ∧
      ∀ receiving : Transport, receiving.Delivers (pieces.map Chunked.block).flatten →
        let body := Response.collect (.chunks false) (Reader.ofTransport receiving)
        body.pieces = pieces ∧ body.failure = some (.body .cutChunks) := by
  obtain ⟨pieces, hbegins, htransfers, -⟩ := send_error hfailed
  rw [hchunked] at htransfers
  have hne : ∀ piece ∈ pieces, piece ≠ [] :=
    fun piece hpiece => payload.ne_nil_of_mem_contents piece (hbegins.subset hpiece)
  have hlength : ∀ piece ∈ pieces, piece.length < 16 ^ 16 :=
    fun piece hpiece => hheld.length_lt piece (hbegins.subset hpiece)
  refine ⟨pieces, hbegins, htransfers.sent_eq, Chunked.terminator_notMem_blocks hne, ?_⟩
  intro receiving hdelivers
  exact Chunked.collect_blocks hne hlength hdelivers.supplies

/-- A piece that looks like the end of a body, over a socket that takes one send. -/
def interrupted : Upload where
  payload := .ofPieces [[48, 13, 10, 13, 10]] none
  transport := .make
    (.ofScript ⟨[], some (1, .named "BrokenPipeError".toList []), none, none⟩) false none none

/-- Here it is the end of the body that is not sent. -/
theorem collect_of_send_error_ending :
    interrupted.payload.Held ∧
      ∃ (failure : Failure) (upload' : Upload) (pieces : List Bytes),
        send ⟨[], none, none, none⟩ interrupted = .error failure upload' ∧
          pieces.map Chunked.block = [Chunked.block [48, 13, 10, 13, 10]] ∧
          ∀ receiving : Transport, receiving.Delivers (pieces.map Chunked.block).flatten →
            let body := Response.collect (.chunks false) (Reader.ofTransport receiving)
            body.pieces = pieces ∧ body.failure = some (.body .cutChunks) := by
  have hheld : interrupted.payload.Held := by
    rintro _ ⟨⟩
    trivial
  have hsent : (Step.left (send ⟨[], none, none, none⟩ interrupted)).transport.socket.sent =
      [Chunked.block [48, 13, 10, 13, 10]] := by decide +kernel
  have hfails : Step.failure? (send ⟨[], none, none, none⟩ interrupted) =
      some (.fault (.named "BrokenPipeError".toList [])) := by decide +kernel
  have hsend := Step.eq_error_of_failure? hfails
  obtain ⟨pieces, -, hblocks, -, hreceived⟩ := collect_of_send_error hheld rfl hsend
  rw [hblocks] at hsent
  exact ⟨hheld, _, _, pieces, hsend, hsent, hreceived⟩

end Upload

end HttpFetch
