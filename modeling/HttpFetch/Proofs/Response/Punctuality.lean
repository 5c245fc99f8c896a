import HttpFetch.Proofs.Response.Grammar
import HttpFetch.Proofs.Response.Segmentation

/-!
# Responses are read in time

A client that asks for data after a response has arrived waits for a peer that may never send any.
`WrittenResponse.read_punctual` says that it does not: a response that is written as its grammar
says is read as it is written, whatever follows it and however it is cut, and each time that data
is asked for, a part of the response has not been received.
-/

namespace HttpFetch

namespace Response

/-- Reading a body is collecting it; at its end the connection is closed. -/
theorem read_of_collect
    (head : ResponseHead) (url : Option Url) (method : Text) (reader : Reader) {cursor : Cursor}
    (hcursor : Framing.cursor readChunkSize (HttpFetch.Framing.ofHead head method) = .ok cursor)
    (hfailure : (collect cursor reader).failure = none) :
    ∃ finished, read { ofHead head url method reader with attached := true } =
        .ok (collect cursor reader).pieces.flatten finished ∧
      finished.reader = (collect cursor reader).left.close := by
  have hdrain : drain { ofHead head url method reader with attached := true } = _ :=
    (drainFrom_start rfl rfl hcursor).trans (drainFrom_of_isBegun (cursor_isBegun hcursor) _)
  simp only [ofHead] at hdrain
  simp only [read, ofHead, hdrain, hfailure, Option.map_none]
  exact ⟨_, rfl, rfl⟩

end Response

namespace WrittenBody

variable {method : Text} {head : ResponseHead}

/-- A body is collected while the message that ends with it arrives. -/
theorem collect_of_receives
    (body : WrittenBody method head) {past : List SocketEvent} {message more : Bytes}
    {reader : Reader} {lines : List Bytes}
    (hreader : reader.Receives past message more (body.octets ++ more))
    (hlines : Wire.HasLines ⟨more, lines ++ body.lines⟩) :
    ∃ cursor, Response.Framing.cursor readChunkSize body.framing = .ok cursor ∧
      (Response.collect cursor reader).pieces.flatten = body.content ∧
      (Response.collect cursor reader).failure = none ∧
      (Response.collect cursor reader).left.Receives past message more more := by
  have hsize : (1 : Int) ≤ readChunkSize := by decide
  cases body with
  | bodiless hnone =>
      obtain ⟨hflatten, hfailure, hleft⟩ :=
        Response.collect_counted_of_receives hsize (le_refl 0) hreader (by simp)
      exact ⟨_, rfl, hflatten, hfailure, hleft⟩
  | counted digits octets =>
      obtain ⟨hflatten, hfailure, hleft⟩ :=
        Response.collect_counted_of_receives hsize (Int.natCast_nonneg octets.length) hreader
          (by rw [Int.toNat_natCast, List.length_append]; exact le_rfl)
      rw [Int.toNat_natCast] at hflatten hleft
      refine ⟨_, rfl, hflatten.trans List.take_left, hfailure, ?_⟩
      rwa [WrittenBody.octets, List.drop_left] at hleft
  | chunked coding body =>
      have hdecode := Chunked.decodeAll_body body more lines
      have hwire : reader.Receives past message more (Wire.rest ⟨body.written ++ more, lines⟩) :=
        hreader
      have hsound : (Chunked.decodeAll false ⟨body.written ++ more, lines⟩).failure = none := by
        rw [hdecode]
      obtain ⟨hpieces, hfailure, hleft⟩ :=
        Chunked.collect_chunks_of_receives hwire hsound (by rwa [hdecode]) (by rw [hdecode])
      rw [hdecode] at hpieces hleft
      exact ⟨_, rfl, congrArg List.flatten hpieces, hfailure, hleft⟩

end WrittenBody

namespace WrittenResponse

variable {method : Text}

/-- The octets of a response arrive first, then more octets, and then whatever may come. -/
theorem read_punctual
    (response : WrittenResponse method) (url : Option Url) {transport : Transport}
    {items : List Bytes} {more : Bytes} (hitems : items.flatten = response.octets ++ more)
    {later : List Arrival}
    (harrivals : transport.socket.script.arrivals = items.map .data ++ later) :
    ∃ reader finished events,
      ResponseHead.read (.ofTransport transport) = .ok response.head reader ∧
      Response.read { Response.ofHead response.head url method reader with attached := true } =
        .ok response.content finished ∧
      finished.reader.transport.socket.history = transport.socket.history ++ events ∧
      SocketEvent.Punctual response.octets events := by
  have hstart : (Reader.ofTransport transport).Receives transport.socket.history response.octets
      more (response.octets ++ more) :=
    ⟨rfl, response.octets ++ more, ⟨⟨items, later, hitems, harrivals⟩,
      ⟨[], (List.append_nil _).symm, rfl, SocketEvent.punctual_nil _⟩⟩, rfl⟩
  have hlines := response.hasLines more
  have hhead := ResponseHead.decode_written response.written (response.body.octets ++ more) []
  rw [← List.append_assoc] at hhead
  obtain ⟨reader, hread, hreader⟩ := ResponseHead.read_prompt.receives hstart hhead
    (hlines.of_prefix (List.prefix_append _ _))
    (by simp only [List.length_append]; omega)
  obtain ⟨cursor, hcursor, hflatten, hfailure, hleft⟩ :=
    response.body.collect_of_receives hreader hlines
  rw [← response.body.ofHead_eq] at hcursor
  obtain ⟨finished, hread', hfinished⟩ :=
    Response.read_of_collect response.head url method reader hcursor hfailure
  obtain ⟨coming, hsocket, -⟩ := hleft.socket
  obtain ⟨events, hhistory, -, hpunctual⟩ := hsocket.close.history
  refine ⟨reader, finished, events, hread, ?_, ?_, hpunctual⟩
  · rw [hread', hflatten]
    rfl
  · rw [hfinished, ← hhistory]
    rfl

/-- A response with a body of two octets. -/
def ofTwoOctets : WrittenResponse "GET".toList where
  written :=
    { status :=
        { version := Utf8.encode "HTTP/1.1".toList
          code := "200".toList
          reason := some (Utf8.encode "OK".toList)
          ending := [13, 10]
          version_name := by decide
          version_line := by decide
          version_word := by decide
          code_over := by decide
          code_length := rfl
          reason_line := by decide
          ending_mem := by decide }
      fields := [Utf8.encode "Content-Length: 2".toList ++ [13, 10]]
      blankLine := [13, 10]
      fields_isLine :=
        List.forall_mem_singleton.mpr (Bytes.isLine_append (by decide) (by decide))
      fields_not_blank := by decide +kernel
      fields_length := by decide
      blankLine_mem := by decide }
  body := .counted "2".toList (Utf8.encode "ab".toList) (by unfold Bodiless; decide +kernel)
    (by decide +kernel) (by decide +kernel) (by decide) (by decide) (by decide) (by decide)
  lines_length := by decide +kernel

/-- On a connection that is kept open, data is not asked for a third time. -/
theorem read_punctual_kept_open :
    ∃ reader finished events,
      ResponseHead.read (.ofTransport (.ofArrivals false
          [.data (Utf8.encode "HTTP/1.1 200 OK\r\nContent-Length: 2\r\n\r".toList),
            .data (Utf8.encode "\nab".toList), .fault (Fault.named "TimeoutError".toList [])])) =
        .ok ⟨200, "OK".toList, "HTTP/1.1".toList,
          [⟨"Content-Length".toList, "2".toList⟩]⟩ reader ∧
      Response.read { Response.ofHead ⟨200, "OK".toList, "HTTP/1.1".toList,
          [⟨"Content-Length".toList, "2".toList⟩]⟩ none "GET".toList reader with
          attached := true } = .ok (Utf8.encode "ab".toList) finished ∧
      finished.reader.transport.socket.history = events ∧
      SocketEvent.Punctual
        (Utf8.encode "HTTP/1.1 200 OK\r\nContent-Length: 2\r\n\r\nab".toList) events := by
  have hhead : ofTwoOctets.head = ⟨200, "OK".toList, "HTTP/1.1".toList,
      [⟨"Content-Length".toList, "2".toList⟩]⟩ := by decide +kernel
  have hoctets : ofTwoOctets.octets =
      Utf8.encode "HTTP/1.1 200 OK\r\nContent-Length: 2\r\n\r\nab".toList := by decide +kernel
  have hitems : [Utf8.encode "HTTP/1.1 200 OK\r\nContent-Length: 2\r\n\r".toList,
      Utf8.encode "\nab".toList].flatten = ofTwoOctets.octets ++ [] := by decide +kernel
  have harrivals : (Transport.ofArrivals false
      [.data (Utf8.encode "HTTP/1.1 200 OK\r\nContent-Length: 2\r\n\r".toList),
        .data (Utf8.encode "\nab".toList),
        .fault (Fault.named "TimeoutError".toList [])]).socket.script.arrivals =
      [Utf8.encode "HTTP/1.1 200 OK\r\nContent-Length: 2\r\n\r".toList,
        Utf8.encode "\nab".toList].map .data ++
      [.fault (Fault.named "TimeoutError".toList [])] := rfl
  rw [← hhead, ← hoctets]
  exact ofTwoOctets.read_punctual none hitems harrivals

end WrittenResponse

end HttpFetch
