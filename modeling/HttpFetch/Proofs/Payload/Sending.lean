import HttpFetch.Proofs.Payload.Contents
import HttpFetch.Proofs.Stream.Transfer

/-!
# What an upload sends

Sending a payload is one send for each of its pieces, in chunked coding a block each, and then what
ends the body.  When a send or the source fails, what was sent is the same for a beginning of the
pieces, and nothing that would end the body.
-/

namespace HttpFetch

namespace Upload

def framed (chunked : Bool) (piece : Bytes) : Bytes :=
  if chunked then Chunked.block piece else piece

/-- What is sent after all pieces. -/
def ending (chunked : Bool) : List Bytes := if chunked then [Chunked.terminator] else []

/-- All that is sent of a payload. -/
def framing (chunked : Bool) (pieces : List Bytes) : List Bytes :=
  pieces.map (framed chunked) ++ ending chunked

def writer (chunked : Bool) : Bytes → Step Transport Unit :=
  if chunked then Chunked.write else Transport.write

theorem writer_eq (chunked : Bool) {piece : Bytes} (hne : piece ≠ []) :
    writer chunked piece = Transport.write (framed chunked piece) := by
  cases chunked with
  | false => rfl
  | true =>
      have hfilled : ¬ piece.isEmpty = true := by
        rwa [List.isEmpty_iff]
      simp only [writer, framed, if_true, Chunked.write, if_neg hfilled]

/-- Copying that comes to its end has written every piece and counted its octets. -/
theorem pipe_ok
    (chunked : Bool) {total count : Nat} {upload upload' : Upload}
    (h : pipe (writer chunked) total upload = .ok count upload') :
    upload.payload.contents.failure = none ∧
      count = total + upload.payload.contents.pieces.flatten.length ∧
      upload.transport.socket.Transfers (upload.payload.contents.pieces.map (framed chunked))
        upload'.transport.socket := by
  fun_induction pipe (writer chunked) total upload with
  | case1 => cases h
  | case2 total upload payload hread =>
      cases h
      rw [Payload.contents_of_end hread]
      exact ⟨rfl, rfl, .refl _⟩
  | case3 total upload b octets payload hread transport hwrite ih =>
      have hne := List.cons_ne_nil b octets
      rw [writer_eq chunked hne] at hwrite
      obtain ⟨hfailure, hcount, hrest⟩ := ih h
      rw [Payload.contents_of_piece hne hread]
      refine ⟨hfailure, ?_, (Transport.transfers_of_write_ok hwrite).trans hrest⟩
      simp only [hcount, List.flatten_cons, List.length_append, List.length_cons]
      omega
  | case4 => cases h

/-- Copying that fails has written a beginning of the pieces; it is the source that failed when
every send succeeds. -/
theorem pipe_error
    (chunked : Bool) {total : Nat} {upload upload' : Upload} {failure : Failure}
    (h : pipe (writer chunked) total upload = .error failure upload') :
    ∃ pieces, pieces <+: upload.payload.contents.pieces ∧
      upload.transport.socket.Transfers (pieces.map (framed chunked))
        upload'.transport.socket ∧
      (upload.transport.socket.script.sendFault = none →
        upload.payload.contents.failure ≠ none) := by
  fun_induction pipe (writer chunked) total upload with
  | case1 total upload failure' payload hread =>
      cases h
      refine ⟨[], List.nil_prefix, .refl _, fun _ => ?_⟩
      rw [Payload.contents_of_error hread]
      exact Option.some_ne_none _
  | case2 => cases h
  | case3 total upload b octets payload hread transport hwrite ih =>
      have hne := List.cons_ne_nil b octets
      rw [writer_eq chunked hne] at hwrite
      have hfirst := Transport.transfers_of_write_ok hwrite
      obtain ⟨pieces, hprefix, hrest, hsource⟩ := ih h
      rw [Payload.contents_of_piece hne hread]
      refine ⟨(b :: octets) :: pieces, ?_, hfirst.trans hrest, ?_⟩
      · rw [List.cons_prefix_cons]
        exact ⟨rfl, hprefix⟩
      · intro hready
        exact hsource (hfirst.ready hready)
  | case4 total upload b octets payload hread failure' transport hwrite =>
      cases h
      rw [writer_eq chunked (List.cons_ne_nil b octets)] at hwrite
      obtain ⟨hnone, hfault⟩ := Transport.transfers_of_write_error hwrite
      exact ⟨[], List.nil_prefix, hnone, fun hready => absurd hready hfault⟩

/-- An upload that succeeds has sent the whole payload. -/
theorem send_ok
    {request : Request} {upload upload' : Upload} {total : Nat}
    (h : send request upload = .ok total upload') :
    upload.payload.contents.failure = none ∧
      total = upload.payload.contents.pieces.flatten.length ∧
      upload.transport.socket.Transfers
        (framing (request.usesChunked upload.payload.size) upload.payload.contents.pieces)
        upload'.transport.socket := by
  obtain ⟨payload, transport⟩ := upload
  have htaken := Payload.contents_of_consumed payload true
  unfold send Payload.consume at h
  by_cases hconsumed : payload.consumed = true
  · rw [if_pos hconsumed] at h
    cases h
  · rw [if_neg hconsumed] at h
    simp only at h
    split at h
    next hchunked =>
      split at h
      next => cases h
      next total' between hpipe =>
        obtain ⟨hfailure, hcount, hpieces⟩ := pipe_ok true hpipe
        rw [htaken] at hfailure hcount hpieces
        split at h
        next transport' hfinish =>
          cases h
          refine ⟨hfailure, by simpa using hcount, ?_⟩
          rw [hchunked]
          exact hpieces.trans (Transport.transfers_of_write_ok hfinish)
        next => cases h
    next hplain =>
      obtain ⟨hfailure, hcount, hpieces⟩ := pipe_ok false h
      rw [htaken] at hfailure hcount hpieces
      refine ⟨hfailure, by simpa using hcount, ?_⟩
      rw [Bool.not_eq_true] at hplain
      rw [hplain, framing, ending, if_neg Bool.false_ne_true, List.append_nil]
      exact hpieces

/-- An upload that fails has sent a beginning of the payload, and not what ends it. When every send
succeeds and nobody has taken the payload, it is the source that failed. -/
theorem send_error
    {request : Request} {upload upload' : Upload} {failure : Failure}
    (h : send request upload = .error failure upload') :
    ∃ pieces, pieces <+: upload.payload.contents.pieces ∧
      upload.transport.socket.Transfers
        (pieces.map (framed (request.usesChunked upload.payload.size)))
        upload'.transport.socket ∧
      (upload.transport.socket.script.sendFault = none → upload.payload.consumed = false →
        upload.payload.contents.failure ≠ none) := by
  obtain ⟨payload, transport⟩ := upload
  have htaken := Payload.contents_of_consumed payload true
  unfold send Payload.consume at h
  by_cases hconsumed : payload.consumed = true
  · rw [if_pos hconsumed] at h
    cases h
    refine ⟨[], List.nil_prefix, .refl _, fun _ hfresh => ?_⟩
    rw [hconsumed] at hfresh
    cases hfresh
  · rw [if_neg hconsumed] at h
    simp only at h
    split at h
    next hchunked =>
      split at h
      next between hpipe =>
        cases h
        obtain ⟨pieces, hprefix, hpieces, hsource⟩ := pipe_error true hpipe
        rw [htaken] at hprefix hsource
        rw [hchunked]
        exact ⟨pieces, hprefix, hpieces, fun hready _ => hsource hready⟩
      next total between hpipe =>
        obtain ⟨-, -, hpieces⟩ := pipe_ok true hpipe
        rw [htaken] at hpieces
        split at h
        next => cases h
        next failure' transport' hfinish =>
          cases h
          obtain ⟨hnone, hfault⟩ := Transport.transfers_of_write_error hfinish
          rw [hchunked]
          refine ⟨_, List.prefix_refl _, ?_, fun hready => absurd (hpieces.ready hready) hfault⟩
          simpa only [List.append_nil] using hpieces.trans hnone
    next hplain =>
      rw [Bool.not_eq_true] at hplain
      obtain ⟨pieces, hprefix, hpieces, hsource⟩ := pipe_error false h
      rw [htaken] at hprefix hsource
      rw [hplain]
      exact ⟨pieces, hprefix, hpieces, fun hready _ => hsource hready⟩

end Upload

end HttpFetch
