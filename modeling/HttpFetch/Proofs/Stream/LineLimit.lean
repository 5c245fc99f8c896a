import HttpFetch.Proofs.Stream.Conservation

/-!
# Lines and their limit

A call for a line takes a limit, and looks at it only while no line feed is in the buffer.  What has
no line feed is cut at the limit, and what the data ends with is given whole; but a line whose line
feed has arrived is given whatever its length, up to a piece of data more than the limit or as much
as was in the buffer before the call.  `Reader.GivesLine` lists these ways, and
`Reader.readLine_exceeds_iff` says exactly which lines exceed the limit.
-/

namespace HttpFetch

theorem Socket.length_take_le {size : Nat} {arrivals rest : List Arrival} {octets : Bytes}
    (h : take size arrivals = (.ok octets, rest)) : octets.length ≤ size := by
  fun_induction take size arrivals with
  | case1 =>
      cases h
      exact Nat.zero_le size
  | case2 => cases h
  | case3 rest' ih => exact ih h
  | case4 octets' rest' hne left =>
      cases h
      exact List.length_take_le size octets'

theorem Transport.length_read_le {size : Nat} {transport transport' : Transport} {octets : Bytes}
    (h : transport.read size = .ok octets transport') : octets.length ≤ size := by
  unfold read Socket.receive at h
  cases htake : Socket.take size
      (transport.socket.setTimeout transport.readTimeout).script.arrivals with
  | mk taken rest =>
      rw [htake] at h
      cases taken with
      | ok got =>
          cases h
          exact Socket.length_take_le htake
      | error cause =>
          dsimp only at h
          split at h
          next =>
            cases h
            exact Nat.zero_le size
          next => cases h

namespace Reader

/-! ## The ways of a line -/

/-- Filling brings at most one piece of data. -/
theorem buffer_of_fill {reader more : Reader} (h : fill reader = .ok true more) :
    more.buffer.length ≤ reader.buffer.length + readChunkSize := by
  unfold fill at h
  split at h
  next => cases h
  next =>
    split at h
    next => cases h
    next octets transport _ hread =>
      cases h
      have hlength := Transport.length_read_le hread
      simp only [List.length_append]
      omega
    next => cases h

/-- Filling that brings nothing has met the end of the data. -/
theorem ended_of_fill {reader all : Reader} (h : fill reader = .ok false all) :
    all.buffer = reader.buffer ∧ all.ended = true := by
  unfold fill at h
  split at h
  next hended =>
    cases h
    exact ⟨rfl, hended⟩
  next =>
    split at h
    next =>
      cases h
      exact ⟨rfl, rfl⟩
    next => cases h
    next => cases h

/-- What a call for a line gives under a limit, asked of one reader and leaving another: a line with
its line feed, less than a piece of data beyond the limit or in the buffer beforehand; as much as
the limit lets through of what has no line feed; or the rest of data that has ended. -/
inductive GivesLine (limit : Nat) (before after : Reader) : Bytes → Prop
  | whole {text : Bytes} (htext : (10 : UInt8) ∉ text)
      (hlength : text.length + 1 < limit + readChunkSize ∨ text ++ [10] <+: before.buffer) :
      GivesLine limit before after (text ++ [10])
  | clipped {line : Bytes} (hlength : line.length = limit)
      (hnone : (10 : UInt8) ∉ line ++ after.buffer) : GivesLine limit before after line
  | rest {line : Bytes} (hlength : line.length < limit) (hnone : (10 : UInt8) ∉ line)
      (hbuffer : after.buffer = []) (hended : after.ended = true) :
      GivesLine limit before after line

/-- A line feed in the buffer ends the line. -/
theorem exists_of_lineLength {octets : Bytes} {count : Nat} (h : lineLength? octets = some count) :
    ∃ text rest, octets = text ++ 10 :: rest ∧ (10 : UInt8) ∉ text ∧ count = text.length + 1 := by
  rw [Bytes.lineLength_eq] at h
  split at h
  next hmem =>
    obtain ⟨text, rest, rfl, htext⟩ := List.eq_append_cons_of_mem hmem
    obtain ⟨hfirst, -⟩ := Bytes.firstLine_of_line htext rest
    refine ⟨text, rest, rfl, htext, ?_⟩
    rw [hfirst, Option.some.injEq] at h
    simp [← h]
  next => cases h

theorem notMem_of_lineLength {octets : Bytes} (h : lineLength? octets = none) :
    (10 : UInt8) ∉ octets := by
  rw [Bytes.lineLength_eq] at h
  split at h
  next => cases h
  next hnone => exact hnone

theorem givesLine_of_readLine {limit : Int} (hlimit : 1 ≤ limit) {reader after : Reader}
    {line : Bytes} (h : readLine limit reader = .ok line after) :
    GivesLine limit.toNat reader after line := by
  have hlimited : ∀ count, limited limit count = min count limit.toNat := by
    intro count
    exact if_pos (by omega)
  fun_induction readLine limit reader with
  | case1 reader count hcount =>
      obtain ⟨text, rest, hbuffer, htext, rfl⟩ := exists_of_lineLength hcount
      rw [List.append_cons] at hbuffer
      have htaken : reader.buffer.take (text.length + 1) = text ++ [10] := by
        rw [hbuffer]
        exact List.take_left' (by simp)
      unfold takeBuffered at h
      rw [htaken] at h
      cases h
      apply GivesLine.whole htext
      rw [hbuffer]
      exact Or.inr (List.prefix_append _ rest)
  | case2 reader hnone hfull =>
      unfold takeBuffered at h
      cases h
      apply GivesLine.clipped
      · rw [List.length_take, hlimited]
        omega
      · rw [withBuffer, List.take_append_drop]
        exact notMem_of_lineLength hnone
  | case3 reader hnone hroom more hfill ih =>
      have hgives := ih h
      have hmore := buffer_of_fill hfill
      cases hgives with
      | whole htext hlength =>
          refine .whole htext (Or.inl ?_)
          rcases hlength with hless | hbuffered
          · exact hless
          · -- A line that the fill completed: before it the buffer was shorter than the limit.
            have hwhole := hbuffered.length_le
            rw [List.length_append, List.length_singleton] at hwhole
            omega
      | clipped hlength hnone => exact .clipped hlength hnone
      | rest hlength hnone hbuffer hended => exact .rest hlength hnone hbuffer hended
  | case4 reader hnone hroom all hfill =>
      obtain ⟨hbuffer, hended⟩ := ended_of_fill hfill
      have hall : limited limit all.buffer.length = all.buffer.length := by
        rw [hlimited, hbuffer]
        omega
      unfold takeBuffered at h
      rw [hall, List.take_length] at h
      cases h
      apply GivesLine.rest
      · rw [hbuffer]
        omega
      · rw [hbuffer]
        exact notMem_of_lineLength hnone
      · exact List.drop_length
      · exact hended
  | case5 => cases h

/-! ## The end of the data -/

/-- A reader over a transport that has been read since its start: if it takes the data to have
ended, the last answer was the end of the data. -/
def SawEnd (start : Transport) (reader : Reader) : Prop :=
  ∃ answers, start.Answers answers reader.transport ∧
    (reader.ended = true → answers.getLast? = some (.ok []))

theorem sawEnd_ofTransport (transport : Transport) : (ofTransport transport).SawEnd transport :=
  ⟨[], .nil, fun hended => Bool.noConfusion hended⟩

theorem sawEnd_invariant (start : Transport) :
    Invariant (SawEnd start) fun _ => True where
  fill := by
    intro reader hreader
    obtain ⟨answers, hanswers, hlast⟩ := hreader
    unfold fill
    by_cases hended : reader.ended = true
    · rw [if_pos hended]
      exact ⟨answers, hanswers, hlast⟩
    · rw [if_neg hended]
      split
      next transport hread =>
        exact ⟨_, .ok hanswers hread, fun _ => List.getLast?_concat⟩
      next octets transport _ hread =>
        exact ⟨_, .ok hanswers hread, fun hnow => absurd hnow hended⟩
      next failure transport hread =>
        exact ⟨⟨_, .error hanswers hread, fun hnow => absurd hnow hended⟩, trivial⟩
  withBuffer _ _ hreader := hreader
  own _ _ := trivial

/-! ## Lines beyond the limit -/

theorem take_of_line {text : Bytes} (htext : (10 : UInt8) ∉ text) (rest : Bytes) (limit : Nat) :
    (10 : UInt8) ∉ (text ++ 10 :: rest).take limit ↔ limit < text.length + 1 := by
  constructor
  · intro hnone
    by_contra hlong
    apply hnone
    rw [List.append_cons]
    apply (List.prefix_take_iff.mpr ⟨List.prefix_append _ rest, ?_⟩).subset
    · simp
    · simp only [List.length_append, List.length_singleton]
      omega
  · intro hshort hmem
    rw [List.take_append_of_le_length (by omega)] at hmem
    exact htext (List.mem_of_mem_take hmem)

/-- After any calls, a call for a line gives more than its limit exactly when the buffer that it
takes the line from has a line feed and has it beyond the limit.  What it then gives is a whole
line, which was in the buffer beforehand or is less than a piece of data beyond the limit.  When it
gives less than its limit without a line feed at the end, the last answer of the transport was the
end of the data, and nothing is left in the buffer. -/
theorem readLine_exceeds_iff (transport : Transport) (calls : List Call) {limit : Int}
    (hlimit : 1 ≤ limit) {line : Bytes} {after : Reader}
    (hread : readLine limit (afterCalls calls (ofTransport transport)) = .ok line after) :
    (limit < line.length ↔
      (10 : UInt8) ∈ line ++ after.buffer ∧
        (10 : UInt8) ∉ (line ++ after.buffer).take limit.toNat) ∧
    (limit < line.length →
      line.getLast? = some 10 ∧
        (line.length < limit + readChunkSize ∨
          line <+: (afterCalls calls (ofTransport transport)).buffer)) ∧
    (line.length < limit → line.getLast? ≠ some 10 →
      after.buffer = [] ∧
        ∃ earlier, transport.Answers (earlier ++ [.ok []]) after.transport) := by
  have hbefore : (afterCalls calls (ofTransport transport)).SawEnd transport :=
    (sawEnd_invariant transport).afterCalls calls (sawEnd_ofTransport transport)
  have hafter : after.SawEnd transport :=
    ((sawEnd_invariant transport).readLine limit).ok hbefore hread
  have hgives := givesLine_of_readLine hlimit hread
  cases hgives with
  | @whole text htext hlength =>
      have hseen : text ++ [10] ++ after.buffer = text ++ 10 :: after.buffer :=
        (List.append_cons ..).symm
      rw [hseen, take_of_line htext]
      simp only [List.length_append, List.length_singleton]
      refine ⟨?_, fun _ => ⟨List.getLast?_concat, ?_⟩, fun _ hlast => ?_⟩
      · simp only [List.mem_append, List.mem_cons, true_or, or_true, true_and]
        omega
      · rcases hlength with hless | hbuffered
        · exact Or.inl (by omega)
        · exact Or.inr hbuffered
      · exact absurd List.getLast?_concat hlast
  | clipped hlength hnone =>
      refine ⟨iff_of_false (by omega) fun h => hnone h.1, fun h => ?_, fun h => ?_⟩
      · omega
      · omega
  | rest hlength hnone hbuffer hended =>
      rw [hbuffer, List.append_nil]
      refine ⟨iff_of_false (by omega) fun h => hnone h.1, fun h => ?_, fun _ _ => ⟨rfl, ?_⟩⟩
      · omega
      · obtain ⟨answers, hanswers, hlast⟩ := hafter
        obtain ⟨earlier, hsplit⟩ := List.getLast?_eq_some_iff.mp (hlast hended)
        exact ⟨earlier, hsplit ▸ hanswers⟩

/-- A reader of two lines, of which the second has no line feed: the first call takes no more than
its line, and the second meets the end of the data. -/
theorem readLine_exceeds_iff_rest :
    let transport := Transport.ofArrivals false [.data (Utf8.encode "a\nbc".toList)]
    ∃ after, readLine 3 (afterCalls [.line 3] (ofTransport transport)) =
        .ok (Utf8.encode "bc".toList) after ∧
      after.buffer = [] ∧
      ∃ earlier, transport.Answers (earlier ++ [.ok []]) after.transport := by
  intro transport
  have hread := Step.eq_ok_of_value? (show Step.value?
    (readLine 3 (afterCalls [.line 3] (ofTransport transport))) =
      some (Utf8.encode "bc".toList) by decide +kernel)
  obtain ⟨-, -, hrest⟩ := readLine_exceeds_iff transport [.line 3] (by decide) hread
  exact ⟨_, hread, hrest (by decide) (by decide)⟩

/-- A line feed beyond the limit that arrives with the first piece of data. -/
theorem readLine_exceeds :
    ∃ after, readLine 2 (afterCalls []
        (ofTransport (.ofArrivals false [.data (Utf8.encode "abcdef\n".toList)]))) =
          .ok (Utf8.encode "abcdef\n".toList) after ∧
      ¬ ((Utf8.encode "abcdef\n".toList).length : Int) ≤ 2 := by
  have hread := Step.eq_ok_of_value? (show Step.value? (readLine 2 (afterCalls []
    (ofTransport (.ofArrivals false [.data (Utf8.encode "abcdef\n".toList)])))) =
      some (Utf8.encode "abcdef\n".toList) by decide +kernel)
  exact ⟨_, hread, by decide⟩

end Reader

end HttpFetch
