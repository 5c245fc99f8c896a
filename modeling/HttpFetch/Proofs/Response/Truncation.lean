import HttpFetch.Proofs.Chunked.RoundTrip
import HttpFetch.Proofs.Chunked.Truncation
import HttpFetch.Proofs.Response.Grammar
import HttpFetch.Proofs.Response.Segmentation

/-!
# Bodies that are cut short

The head of a response tells how long its body is, by a number of octets or by chunked coding.  A
connection that ends before the body does should be told from one that ends with it.
`DeclaredBody.read_of_cut` says when it is: reading a beginning of a body gives the whole data or
a failure, unless the beginning ends inside zeros in front of the size of a chunk.  These pass for
the size that ends the body, and the data before them for the whole.
-/

namespace HttpFetch

namespace Response

/-- Reading a body gives the data that its framing decodes, or the failure that it decodes. -/
theorem read_eq
    {head : ResponseHead} {method : Text} (url : Option Url) {reader : Reader} {wire : Wire}
    (hsupplies : reader.Supplies wire.rest) {decoded : Collected Wire}
    (hdecode : (HttpFetch.Framing.ofHead head method).decode wire = decoded)
    (hlimit : decoded.left.WithinLimit) :
    ∃ finished, read { ofHead head url method reader with attached := true } =
      match decoded.failure with
      | none => .ok decoded.pieces.flatten finished
      | some failure => .error failure finished := by
  subst hdecode
  have hsize : (1 : Int) ≤ readChunkSize := by decide
  obtain ⟨hoctets, hfailure⟩ := drain_agrees url hsize hsupplies hlimit
  rw [← hoctets, ← hfailure]
  exact ⟨_, rfl⟩

end Response

/-- The body that a head declares, with its length, for a method. -/
inductive DeclaredBody (method : Text) (head : ResponseHead)
  | counted (digits : Text) (octets : Bytes) (has_body : ¬ Bodiless method head.status)
    (length_eq : head.headers.value? "content-length".toList = some digits)
    (coding_eq : head.headers.value? "transfer-encoding".toList = none)
    (digits_ne_nil : digits ≠ []) (digits_over : digits.Over Text.decimalDigits)
    (digits_length : digits.length ≤ 4300)
    (count_eq : octets.length = Digit.value 10 (digits.filterMap Digit.decimal?))
  | chunked (coding : Text) (body : Chunked.Body) (has_body : ¬ Bodiless method head.status)
    (coding_eq : head.headers.value? "transfer-encoding".toList = some coding)
    (names_chunked : Text.occursIn "chunked".toList coding.lower = true)

namespace DeclaredBody

variable {method : Text} {head : ResponseHead}

def octets : DeclaredBody method head → Bytes
  | counted _ octets .. => octets
  | chunked _ body .. => body.written

def lines : DeclaredBody method head → List Bytes
  | counted .. => []
  | chunked _ body .. => body.lines

/-- What is written, without its coding. -/
def content : DeclaredBody method head → Bytes
  | counted _ octets .. => octets
  | chunked _ body .. => body.pieces.flatten

def framing : DeclaredBody method head → Framing
  | counted _ octets .. => .length octets.length
  | chunked .. => .chunked

theorem ofHead_eq (body : DeclaredBody method head) :
    Framing.ofHead head method = body.framing := by
  cases body with
  | counted digits octets hsome hlength hcoding hne hover hdigits hcount =>
      rw [framing, hcount]
      exact Framing.ofHead_length hsome (not_namesChunked hcoding) hlength hne hover hdigits
  | chunked coding body hsome hcoding hchunked =>
      exact Framing.ofHead_chunked hsome ⟨coding, hcoding, Text.occursIn_iff.mp hchunked⟩

/-- Whether a beginning of a body ends inside zeros in front of the size of a chunk, some data being
that of the chunks before. -/
def PassesFor (received data : Bytes) : DeclaredBody method head → Prop
  | counted .. => False
  | chunked _ body .. => ∃ earlier, Chunked.EndsInZeros body.chunks received earlier ∧
      (earlier.map Chunked.Chunk.octets).flatten = data

/-- Whether a chunk has more octets than can be told in decimal. -/
def HasHugeChunk : DeclaredBody method head → Prop
  | counted .. => False
  | chunked _ body .. =>
      ∃ chunk ∈ body.chunks, Nat.pow 10 Integer.maxDigits ≤ chunk.octets.length

/-- How the reading of a body that is cut should end.  A failure that does not tell of the body
needs a chunk too large for its size to be written in decimal. -/
inductive SoundEnd (body : DeclaredBody method head) : EStateM.Result Failure Response Bytes → Prop
  | whole (finished : Response) : SoundEnd body (.ok body.content finished)
  | cut (defect : BodyDefect) (finished : Response) : SoundEnd body (.error (.body defect) finished)
  | huge (hhuge : body.HasHugeChunk) (finished : Response) :
      SoundEnd body (.error (.value .tooLarge) finished)

/-- Data that a beginning passes for lacks the chunk that the beginning ends in. -/
theorem PassesFor.length_lt {body : DeclaredBody method head} {received data : Bytes}
    (h : body.PassesFor received data) : data.length < body.content.length := by
  cases body with
  | counted => exact h.elim
  | chunked coding body =>
      obtain ⟨earlier, ⟨chunk, later, zeros, hchunks, -⟩, rfl⟩ := h
      have hpos := List.length_pos_iff.mpr chunk.octets_ne_nil
      simp only [content, Chunked.Body.pieces, hchunks, List.map_append, List.map_cons,
        List.flatten_append, List.flatten_cons, List.length_append]
      omega

/-- Reading a beginning of a body, if that is all that arrives, gives the whole data or a failure,
unless the beginning ends inside zeros in front of the size of a chunk: then it gives the data of
the chunks before. -/
theorem read_of_cut
    (body : DeclaredBody method head) (hlines : ∀ line ∈ body.lines, line.length ≤ 65536)
    {received : Bytes} (hreceived : received <+: body.octets) {reader : Reader}
    (hsupplies : reader.Supplies received) (url : Option Url) :
    let result := Response.read { Response.ofHead head url method reader with attached := true }
    (∀ data, body.PassesFor received data →
      data.length < body.content.length ∧ ∃ finished, result = .ok data finished) ∧
    ((∀ data, ¬ body.PassesFor received data) → body.SoundEnd result) := by
  intro result
  have hwire : reader.Supplies (Wire.ofBytes received).rest := hsupplies
  have hdecode := congrArg (Framing.decode · (Wire.ofBytes received)) body.ofHead_eq
  cases body with
  | counted digits octets =>
      obtain ⟨finished, hread⟩ := Response.read_eq url hwire hdecode
        (fun line hline => absurd hline List.not_mem_nil)
      have hresult : result = _ := hread
      refine ⟨fun data hpasses => hpasses.elim, fun _ => ?_⟩
      rw [hresult]
      simp only [framing, Framing.decode, Wire.ofBytes, List.flatten_singleton]
      by_cases hlong : octets.length ≤ received.length
      · have hwhole : received = octets := hreceived.eq_of_length_le hlong
        simp only [hlong, if_true]
        rw [hwhole, List.take_length]
        exact .whole finished
      · simp only [hlong, if_false]
        exact .cut _ finished
  | chunked coding body =>
      obtain ⟨htruncated, htakes⟩ := Chunked.decodeAll_of_cut body hreceived []
      obtain ⟨finished, hread⟩ := Response.read_eq url hwire hdecode (htakes.withinLimit hlines)
      have hresult : result = _ := hread
      simp only [framing, Framing.decode, Wire.ofBytes] at hresult
      constructor
      · intro data hpasses
        refine ⟨hpasses.length_lt, finished, ?_⟩
        obtain ⟨earlier, hends, rfl⟩ := hpasses
        obtain ⟨left, hzeros⟩ := Chunked.decodeAll_of_endsInZeros hends []
        rw [hresult, hzeros]
      · intro hnone
        rw [hresult]
        generalize Chunked.decodeAll false ⟨received, []⟩ = decoded at htruncated
        cases htruncated with
        | zeros hends => exact absurd ⟨_, hends, rfl⟩ (hnone _)
        | whole => exact .whole finished
        | cut => exact .cut _ finished
        | large chunk hmem hlarge =>
            refine .huge ?_ finished
            exact ⟨chunk, hmem, hlarge⟩

def chunkedHead : ResponseHead :=
  ⟨200, "OK".toList, "HTTP/1.1".toList, [⟨"Transfer-Encoding".toList, "chunked".toList⟩]⟩

/-- Five octets in chunked coding, their size written with a zero in front of it. -/
def ofPaddedSize : DeclaredBody "GET".toList chunkedHead :=
  .chunked "chunked".toList
    { chunks :=
        [{ Chunked.Chunk.ofOctets (Utf8.encode "hello".toList) (by decide) with
           sizeLine :=
            { Chunked.SizeLine.ofLength 5 with
              digits := "05".toList
              digits_ne_nil := by decide
              digits_over := by decide }
           size_eq := rfl }]
      closing := .plain }
    (by unfold Bodiless; decide +kernel) (by decide +kernel) (by decide)

/-- A cut inside the octets of a chunk, the data itself cut inside a line end. -/
theorem read_of_cut_inside_octets :
    ofPaddedSize.SoundEnd (Response.read { Response.ofHead chunkedHead none "GET".toList
      (.ofTransport (.ofArrivals false
        [.data (Utf8.encode "05\r".toList), .data (Utf8.encode "\nhel".toList)])) with
      attached := true }) := by
  have hdelivers : Transport.Delivers (.ofArrivals false
      [.data (Utf8.encode "05\r".toList), .data (Utf8.encode "\nhel".toList)])
      (Utf8.encode "05\r\nhel".toList) :=
    ⟨[Utf8.encode "05\r".toList, Utf8.encode "\nhel".toList], by decide, Or.inl rfl⟩
  refine (read_of_cut ofPaddedSize (by decide +kernel) (by decide +kernel) hdelivers.supplies
    none).2 ?_
  rintro data ⟨earlier, ⟨chunk, later, zeros, hchunks, -, -, hzeros, hpart⟩, -⟩
  cases earlier with
  | nil =>
      -- A five arrives, and zeros have none.
      have hfive : (53 : UInt8) ∉ Utf8.encode zeros :=
        Latin.notMem_encode (fun c hc => hzeros c hc ▸ by decide)
          (fun hmem => absurd (hzeros _ hmem) (by decide))
      rw [List.map_nil, List.flatten_nil, List.nil_append] at hpart
      rw [← hpart] at hfive
      exact hfive (by decide)
  | cons first earlier => simp at hchunks

/-- Without the end of its line, a zero in front of a size ends a body before its octets. -/
theorem read_takes_zero_for_end :
    Utf8.encode "0".toList <+: ofPaddedSize.octets ∧
      ofPaddedSize.content = Utf8.encode "hello".toList ∧
      ∃ finished, Response.read { Response.ofHead chunkedHead none "GET".toList
        (.ofTransport (.ofArrivals false [.data (Utf8.encode "0".toList)])) with
        attached := true } = .ok [] finished := by
  have hdelivers : Transport.Delivers (.ofArrivals false [.data (Utf8.encode "0".toList)])
      (Utf8.encode "0".toList) := ⟨[Utf8.encode "0".toList], by decide, Or.inl rfl⟩
  have hwire : Reader.Supplies (.ofTransport (.ofArrivals false [.data (Utf8.encode "0".toList)]))
      (Wire.ofBytes (Utf8.encode "0".toList)).rest := hdelivers.supplies
  let decoded := ofPaddedSize.framing.decode (Wire.ofBytes (Utf8.encode "0".toList))
  have hdecode : (Framing.ofHead chunkedHead "GET".toList).decode
      (Wire.ofBytes (Utf8.encode "0".toList)) = decoded := by rw [ofPaddedSize.ofHead_eq]
  obtain ⟨finished, hread⟩ := Response.read_eq none hwire hdecode (by decide +kernel)
  have hsound : decoded.failure = none ∧ decoded.pieces.flatten = [] := by decide +kernel
  rw [hsound.1, hsound.2] at hread
  exact ⟨by decide +kernel, by decide, finished, hread⟩

end DeclaredBody

end HttpFetch
